import Mathlib

/-!
# The TLS acceptor

`HttpServerLifecycle::cert_payload_to_acceptor` turns the certificate chain and private key the
backend sends (PEM text) into an OpenSSL acceptor builder: it starts from Mozilla's intermediate
profile, installs the first certificate of the chain, adds every later one as an extra chain
certificate, installs the RSA private key and sets the minimum protocol version.

The parsing and the checks are OpenSSL's, so the model takes them as an `OpenSsl` record: what
each library call answers.  Two of its facts shape the result.  `X509::stack_from_pem` returns
`Ok` with an empty chain for text that holds no certificate block, and
`SSL_CTX_use_PrivateKey` checks the key only against a certificate already installed, so the
builder's state decides the check (`usePrivateKey` sees the installed certificate, if any).
`certPayloadToAcceptor_ok` says what an `Ok` result holds for every chain: the chain and the key
parsed, the key passed the check against the chain's first certificate if there is one, and the
builder holds that certificate and the rest of the chain, in order.
-/

namespace Scalpel

namespace Http

/-- `openssl::error::ErrorStack`. -/
structure SslError where
  reason : String

/-- A parsed certificate, by its DER bytes. -/
structure X509 where
  der : List UInt8
deriving DecidableEq

/-- A parsed RSA private key, `openssl::rsa::Rsa<Private>`. -/
structure Rsa where
  der : List UInt8

/-- An `openssl::pkey::PKey<Private>`. -/
structure PKey where
  der : List UInt8

/-- `ssl::SslVersion`, the two minimum versions the code sets. -/
inductive SslVersion
  | tls1
  | tls1_2
deriving DecidableEq

/-- What the OpenSSL calls of `cert_payload_to_acceptor` answer. -/
structure OpenSsl where
  /-- `SslAcceptor::mozilla_intermediate(SslMethod::tls())`. -/
  mozillaIntermediate : Except SslError Unit
  /-- `X509::stack_from_pem`: every certificate block of the text, in order. -/
  stackFromPem : String → Except SslError (List X509)
  /-- The checks of `SSL_CTX_use_certificate` on a certificate. -/
  useCertificate : X509 → Except SslError Unit
  /-- `SSL_CTX_add_extra_chain_cert`. -/
  addExtraChainCert : X509 → Except SslError Unit
  /-- `Rsa::private_key_from_pem`. -/
  privateKeyFromPem : String → Except SslError Rsa
  /-- `PKey::from_rsa`. -/
  pkeyFromRsa : Rsa → Except SslError PKey
  /-- The checks of `SSL_CTX_use_PrivateKey` on a key, given the certificate installed. -/
  usePrivateKey : Option X509 → PKey → Except SslError Unit
  /-- `SSL_CTX_set_min_proto_version`. -/
  setMinProtoVersion : SslVersion → Except SslError Unit

/-- `ssl::SslAcceptorBuilder`, as far as `cert_payload_to_acceptor` sets it. -/
structure SslAcceptorBuilder where
  certificate : Option X509
  extraChainCerts : List X509
  privateKey : Option PKey
  minProtoVersion : Option SslVersion

/-- `backend::TLSPayload`: the PEM certificate chain and private key. -/
structure TLSPayload where
  certificate : String
  privateKey : String

namespace SslAcceptorBuilder

variable (ssl : OpenSsl)

/-- The builder `mozilla_intermediate` returns. -/
def mozillaIntermediate : Except SslError SslAcceptorBuilder :=
  ssl.mozillaIntermediate.map fun () => ⟨none, [], none, none⟩

/-- `set_certificate`. -/
def setCertificate (b : SslAcceptorBuilder) (x509 : X509) : Except SslError SslAcceptorBuilder :=
  (ssl.useCertificate x509).map fun () => { b with certificate := some x509 }

/-- `add_extra_chain_cert`. -/
def addExtraChainCert (b : SslAcceptorBuilder) (x509 : X509) :
    Except SslError SslAcceptorBuilder :=
  (ssl.addExtraChainCert x509).map fun () => { b with extraChainCerts := b.extraChainCerts ++ [x509] }

/-- `set_private_key`. -/
def setPrivateKey (b : SslAcceptorBuilder) (key : PKey) : Except SslError SslAcceptorBuilder :=
  (ssl.usePrivateKey b.certificate key).map fun () => { b with privateKey := some key }

/-- `set_min_proto_version`. -/
def setMinProtoVersion (b : SslAcceptorBuilder) (v : SslVersion) :
    Except SslError SslAcceptorBuilder :=
  (ssl.setMinProtoVersion v).map fun () => { b with minProtoVersion := some v }

/-- `if let Some(x509) = full_chain_iter.next() { builder.set_certificate(..)? }`: install the
first certificate of the chain, if there is one. -/
def setFirstCertificate (b : SslAcceptorBuilder) : List X509 → Except SslError SslAcceptorBuilder
  | x509 :: _ => setCertificate ssl b x509
  | [] => .ok b

/-- The `for next_chain in full_chain_iter` loop: every remaining certificate, in order. -/
def addExtraChainCerts (b : SslAcceptorBuilder) : List X509 → Except SslError SslAcceptorBuilder
  | [] => .ok b
  | x :: xs =>
    match addExtraChainCert ssl b x with
    | .ok b => addExtraChainCerts b xs
    | .error e => .error e

end SslAcceptorBuilder

open SslAcceptorBuilder in
/-- `HttpServerLifecycle::cert_payload_to_acceptor`. -/
def certPayloadToAcceptor (ssl : OpenSsl) (cert : TLSPayload) (secureTls : Bool) :
    Except SslError SslAcceptorBuilder := do
  let builder ← mozillaIntermediate ssl
  let fullChain ← ssl.stackFromPem cert.certificate
  let builder ← setFirstCertificate ssl builder fullChain
  let builder ← addExtraChainCerts ssl builder fullChain.tail
  let privKey ← ssl.privateKeyFromPem cert.privateKey
  let pkey ← ssl.pkeyFromRsa privKey
  let builder ← setPrivateKey ssl builder pkey
  setMinProtoVersion ssl builder (if secureTls then .tls1_2 else .tls1)

/-! ## What an accepted payload holds -/

section Except

variable {ε α β : Type}

/-- A bind in `Except` returns `Ok` exactly when both of its steps do. -/
lemma except_bind_eq_ok {x : Except ε α} {f : α → Except ε β} {b : β} :
    x >>= f = .ok b ↔ ∃ a, x = .ok a ∧ f a = .ok b := by
  cases x <;> simp [bind, Except.bind]

/-- A map in `Except` returns `Ok` exactly when its argument does. -/
lemma except_map_eq_ok {x : Except ε α} {f : α → β} {b : β} :
    x.map f = .ok b ↔ ∃ a, x = .ok a ∧ f a = b := by
  cases x <;> simp [Except.map]

end Except

namespace SslAcceptorBuilder

variable {ssl : OpenSsl}

/-- Installing the first certificate of a chain sets it, if there is one, and changes nothing
else. -/
lemma setFirstCertificate_ok {b b' : SslAcceptorBuilder} {xs : List X509}
    (h : setFirstCertificate ssl b xs = .ok b') :
    b'.certificate = xs.head?.or b.certificate ∧ b'.extraChainCerts = b.extraChainCerts := by
  cases xs with
  | nil => cases h; simp
  | cons x xs =>
    obtain ⟨-, -, rfl⟩ := except_map_eq_ok.mp (show setCertificate ssl b x = _ from h)
    simp

/-- Adding extra chain certificates appends them, in order, and changes nothing else. -/
lemma addExtraChainCerts_ok :
    ∀ {b b' : SslAcceptorBuilder} {xs : List X509}, addExtraChainCerts ssl b xs = .ok b' →
      b'.certificate = b.certificate ∧ b'.extraChainCerts = b.extraChainCerts ++ xs
  | b, b', [], h => by cases h; simp
  | b, b', x :: xs, h => by
    unfold addExtraChainCerts at h
    split at h
    · next b₁ h₁ =>
      obtain ⟨u, -, rfl⟩ := except_map_eq_ok.mp h₁
      obtain ⟨hc, he⟩ := addExtraChainCerts_ok h
      exact ⟨hc, by simp [he]⟩
    · cases h

end SslAcceptorBuilder

open SslAcceptorBuilder in
/-- An acceptor built from a payload holds the first certificate of its chain (none for an empty
chain) and the rest of the chain as extra certificates, in order, and a key that parsed and
passed OpenSSL's check against that first certificate. -/
theorem certPayloadToAcceptor_ok {ssl : OpenSsl} {cert : TLSPayload} {secureTls : Bool}
    {b : SslAcceptorBuilder} (h : certPayloadToAcceptor ssl cert secureTls = .ok b) :
    ∃ chain rsa key, ssl.stackFromPem cert.certificate = .ok chain ∧
      ssl.privateKeyFromPem cert.privateKey = .ok rsa ∧ ssl.pkeyFromRsa rsa = .ok key ∧
      ssl.usePrivateKey chain.head? key = .ok () ∧
      b.certificate = chain.head? ∧ b.extraChainCerts = chain.tail ∧ b.privateKey = some key := by
  simp only [certPayloadToAcceptor, except_bind_eq_ok] at h
  obtain ⟨b₀, hb₀, chain, hchain, b₁, hb₁, b₂, hb₂, rsa, hrsa, key, hkey, b₃, hb₃, hb⟩ := h
  obtain ⟨-, -, rfl⟩ := except_map_eq_ok.mp hb₀
  obtain ⟨hc₁, he₁⟩ := setFirstCertificate_ok hb₁
  obtain ⟨hc₂, he₂⟩ := addExtraChainCerts_ok hb₂
  obtain ⟨u, hu, rfl⟩ := except_map_eq_ok.mp hb₃
  obtain ⟨-, -, rfl⟩ := except_map_eq_ok.mp hb
  have hc : b₂.certificate = chain.head? := by simpa [hc₁] using hc₂
  refine ⟨chain, rsa, key, hchain, hrsa, hkey, hc ▸ hu, hc, by simp [he₂, he₁], rfl⟩

/-- The acceptor requires TLS 1.2 when `secure_tls` is set and TLS 1.0 otherwise. -/
lemma minProtoVersion_of_certPayloadToAcceptor {ssl : OpenSsl} {cert : TLSPayload}
    {secureTls : Bool} {b : SslAcceptorBuilder}
    (h : certPayloadToAcceptor ssl cert secureTls = .ok b) :
    b.minProtoVersion = some (if secureTls then .tls1_2 else .tls1) := by
  simp only [certPayloadToAcceptor, except_bind_eq_ok] at h
  obtain ⟨_, _, _, _, _, _, _, _, _, _, _, _, _, _, hb⟩ := h
  obtain ⟨-, -, rfl⟩ := except_map_eq_ok.mp hb
  rfl

/-- OpenSSL as it answers a certificate text with no certificate block, and a key it accepts. -/
def sslNoCertBlock : OpenSsl where
  mozillaIntermediate := .ok ()
  stackFromPem _ := .ok []
  useCertificate _ := .ok ()
  addExtraChainCert _ := .ok ()
  privateKeyFromPem _ := .ok ⟨[]⟩
  pkeyFromRsa rsa := .ok ⟨rsa.der⟩
  usePrivateKey _ _ := .ok ()
  setMinProtoVersion _ := .ok ()

/-- A payload whose certificate text holds no certificate is accepted, with no certificate set. -/
theorem certPayloadToAcceptor_empty_chain :
    sslNoCertBlock.stackFromPem "" = .ok [] ∧
      ∃ b, certPayloadToAcceptor sslNoCertBlock ⟨"", "key"⟩ true = .ok b ∧ b.certificate = none :=
  ⟨rfl, _, rfl, rfl⟩

/-- The bytes of a line of text, one per character (the texts here are ASCII). -/
def lineBytes (line : List Char) : List UInt8 := line.map fun c => c.toNat.toUInt8

/-- OpenSSL reading each non-empty line of a certificate text as one certificate block, the
certificate being the line's bytes, and accepting every certificate and key. -/
def sslLineCerts : OpenSsl :=
  { sslNoCertBlock with
    stackFromPem := fun text =>
      .ok (((text.toList.splitOn '\n').filter (· ≠ [])).map fun line => ⟨lineBytes line⟩) }

/-- The acceptor built from a text of three acceptable certificates holds the first and, as
extras, the other two. -/
theorem certPayloadToAcceptor_ok_three :
    certPayloadToAcceptor sslLineCerts ⟨"c1\nc2\nc3", "key"⟩ false =
        .ok ⟨some ⟨[99, 49]⟩, [⟨[99, 50]⟩, ⟨[99, 51]⟩], some ⟨[]⟩, some .tls1⟩ ∧
      ∃ chain rsa key, sslLineCerts.stackFromPem "c1\nc2\nc3" = .ok chain ∧
        sslLineCerts.privateKeyFromPem "key" = .ok rsa ∧ sslLineCerts.pkeyFromRsa rsa = .ok key ∧
        sslLineCerts.usePrivateKey chain.head? key = .ok () ∧
        some ⟨[99, 49]⟩ = chain.head? ∧ [⟨[99, 50]⟩, ⟨[99, 51]⟩] = chain.tail ∧ some ⟨[]⟩ = some key :=
  have h : certPayloadToAcceptor sslLineCerts ⟨"c1\nc2\nc3", "key"⟩ false =
      .ok ⟨some ⟨[99, 49]⟩, [⟨[99, 50]⟩, ⟨[99, 51]⟩], some ⟨[]⟩, some .tls1⟩ := rfl
  ⟨h, certPayloadToAcceptor_ok h⟩

end Http

end Scalpel
