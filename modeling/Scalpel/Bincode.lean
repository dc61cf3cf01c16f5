import Mathlib
import Scalpel.RustStd

/-!
# The bincode layout of the cache entries

Both cache modules store an entry as `bincode::serialize` of a `#[derive(Serialize)]` struct and
read it back with `bincode::deserialize`.  With bincode 1's default options every field is
written in declaration order with no framing: a `u64` or a `u128` as its little-endian bytes, a
`[u8; 16]` as its sixteen bytes, and a `String` or a byte buffer as its length (a `u64`)
followed by its bytes.  Reading follows the same layout, and `deserialize` ignores whatever
follows the value (`allow_trailing_bytes`).

A `Format` bundles an encoder and a decoder with the two laws that make a layout unambiguous:
the decoder reads back what the encoder wrote, whatever follows it, and it accepts an input only
when the input starts with the encoding of what it returns.  The primitive formats are proved
here once; the format of a struct is the product of its fields' formats (`Format.seq`), carried
to the struct by `Format.map`.
-/

namespace Scalpel

/-- The errors bincode's decoder raises on these layouts. -/
inductive BincodeError
  /-- `Io(UnexpectedEof)`: the input ended inside a value. -/
  | unexpectedEof
  /-- `InvalidUtf8Encoding`: the bytes of a `String` are not UTF-8. -/
  | invalidUtf8Encoding
deriving DecidableEq, Repr

/-- A bincode decoder: it reads a value from the front of the input and returns the rest. -/
abbrev Decoder (α : Type) := List UInt8 → Except BincodeError (α × List UInt8)

/-- An encoder and a decoder that agree: the decoder reads back exactly what the encoder wrote,
and accepts only an input that starts with the encoding of what it returns. -/
structure Format (α : Type) where
  encode : α → List UInt8
  decode : Decoder α
  decode_encode : ∀ x rest, decode (encode x ++ rest) = .ok (x, rest)
  encode_of_decode : ∀ {input x rest}, decode input = .ok (x, rest) → input = encode x ++ rest

/-! ## Reading bytes -/

/-- `read_exact` on bincode's slice reader: the next `n` bytes, or `UnexpectedEof`. -/
def readExact (n : Nat) : Decoder { bs : List UInt8 // bs.length = n } := fun input =>
  if h : n ≤ input.length then .ok (⟨input.take n, List.length_take_of_le h⟩, input.drop n)
  else .error .unexpectedEof

/-- `read_exact` takes exactly the next `n` bytes. -/
lemma readExact_append {n : Nat} (bs rest : List UInt8) (h : bs.length = n) :
    readExact n (bs ++ rest) = .ok (⟨bs, h⟩, rest) := by
  subst h
  simp [readExact]

/-- What `read_exact` returns is the front of its input. -/
lemma append_of_readExact {n : Nat} {input rest : List UInt8}
    {bs : { bs : List UInt8 // bs.length = n }} (h : readExact n input = .ok (bs, rest)) :
    input = bs.1 ++ rest := by
  unfold readExact at h
  split at h <;> cases h
  simp

/-- Reading one value after another. -/
def Decoder.seq {α β : Type} (d₁ : Decoder α) (d₂ : Decoder β) : Decoder (α × β) := fun input =>
  match d₁ input with
  | .ok (a, rest) =>
    match d₂ rest with
    | .ok (b, rest) => .ok ((a, b), rest)
    | .error e => .error e
  | .error e => .error e

/-- A decoder whose result is passed through `f`. -/
def Decoder.map {α β : Type} (d : Decoder α) (f : α → β) : Decoder β := fun input =>
  match d input with
  | .ok (a, rest) => .ok (f a, rest)
  | .error e => .error e

section Combinators

variable {α β : Type} {d : Decoder α} {input rest : List UInt8}

/-- A mapped decoder succeeds where its argument does. -/
lemma Decoder.map_of_ok {f : α → β} {a : α} (h : d input = .ok (a, rest)) :
    d.map f input = .ok (f a, rest) := by
  simp [Decoder.map, h]

/-- A mapped decoder succeeds only where its argument does. -/
lemma Decoder.exists_of_map_ok {f : α → β} {b : β} (h : d.map f input = .ok (b, rest)) :
    ∃ a, d input = .ok (a, rest) ∧ f a = b := by
  unfold Decoder.map at h
  split at h
  · next a rest' hd => cases h; exact ⟨a, hd, rfl⟩
  · cases h

/-- Two decoders in sequence succeed where each succeeds on what the first leaves. -/
lemma Decoder.seq_of_ok {d' : Decoder β} {a : α} {b : β} {mid : List UInt8}
    (h : d input = .ok (a, mid)) (h' : d' mid = .ok (b, rest)) :
    d.seq d' input = .ok ((a, b), rest) := by
  simp [Decoder.seq, h, h']

/-- Two decoders in sequence succeed only where each does. -/
lemma Decoder.exists_of_seq_ok {d' : Decoder β} {p : α × β} (h : d.seq d' input = .ok (p, rest)) :
    ∃ mid, d input = .ok (p.1, mid) ∧ d' mid = .ok (p.2, rest) := by
  unfold Decoder.seq at h
  split at h
  · next a mid hd =>
    split at h
    · next b rest' hd' => cases h; exact ⟨mid, hd, hd'⟩
    · cases h
  · cases h

end Combinators

/-! ## Primitive formats -/

/-- `2 ^ (8 * w)`, the bound of a `w`-byte integer, is `256 ^ w`. -/
lemma two_pow_eight_mul (w : Nat) : 2 ^ (8 * w) = 256 ^ w := by
  rw [Nat.pow_mul]

/-- The layout of a `w`-byte unsigned integer: its `w` little-endian bytes. -/
def Format.uint (w : Nat) : Format (BitVec (8 * w)) where
  encode x := leBytes w x.toNat
  decode := (readExact w).map fun bs => BitVec.ofNat (8 * w) (leNat bs.1)
  decode_encode x rest := by
    rw [Decoder.map_of_ok (readExact_append _ rest (length_leBytes w _))]
    have hx := x.isLt
    rw [two_pow_eight_mul] at hx
    congr
    apply BitVec.eq_of_toNat_eq
    rw [BitVec.toNat_ofNat, leNat_leBytes, Nat.mod_eq_of_lt hx, Nat.mod_eq_of_lt (by omega)]
  encode_of_decode h := by
    obtain ⟨bs, hr, rfl⟩ := Decoder.exists_of_map_ok h
    have hlt := leNat_lt bs.1
    rw [bs.2, ← two_pow_eight_mul] at hlt
    have hbs := leBytes_leNat bs.1
    rw [bs.2] at hbs
    show _ = leBytes w (BitVec.ofNat (8 * w) (leNat bs.1)).toNat ++ _
    rw [append_of_readExact hr, BitVec.toNat_ofNat, Nat.mod_eq_of_lt hlt, hbs]

/-- The `u64` layout: eight little-endian bytes. -/
def Format.u64 : Format (BitVec 64) := Format.uint 8

/-- The `u128` layout: sixteen little-endian bytes. -/
def Format.u128 : Format (BitVec 128) := Format.uint 16

/-- The `[u8; 16]` layout: the sixteen bytes, with no length. -/
def Format.array16 : Format Md5Bytes where
  encode a := a.toList
  decode := (readExact 16).map fun bs => ⟨bs.1, bs.2⟩
  decode_encode a rest := by rw [Decoder.map_of_ok (readExact_append _ rest a.length_eq)]
  encode_of_decode h := by
    obtain ⟨bs, hr, rfl⟩ := Decoder.exists_of_map_ok h
    exact append_of_readExact hr

/-- bincode's `read_vec`: a `u64` length, then that many bytes. -/
def readVec : Decoder Bytes := fun input =>
  match Format.u64.decode input with
  | .ok (len, rest) =>
    match readExact len.toNat rest with
    | .ok (bs, rest) => .ok (⟨bs.1, by rw [bs.2]; exact len.isLt⟩, rest)
    | .error e => .error e
  | .error e => .error e

/-- The layout of a byte buffer (`serialize_bytes`): its length `len as u64`, then its bytes. -/
def Format.vec : Format Bytes where
  encode v := Format.u64.encode (BitVec.ofNat 64 v.toList.length) ++ v.toList
  decode := readVec
  decode_encode v rest := by
    have hlen : (BitVec.ofNat 64 v.toList.length).toNat = v.toList.length := by
      rw [BitVec.toNat_ofNat, Nat.mod_eq_of_lt v.length_lt]
    simp only [readVec, List.append_assoc, Format.decode_encode]
    rw [readExact_append v.toList rest hlen.symm]
  encode_of_decode {input v rest} h := by
    unfold readVec at h
    split at h
    · next len mid hlen =>
      split at h
      · next bs rest' hbs =>
        cases h
        have hv : BitVec.ofNat 64 bs.1.length = len := by
          apply BitVec.eq_of_toNat_eq
          rw [BitVec.toNat_ofNat, bs.2, Nat.mod_eq_of_lt len.isLt]
        dsimp only
        rw [Format.encode_of_decode _ hlen, append_of_readExact hbs, hv, List.append_assoc]
      · cases h
    · cases h

/-- bincode's `deserialize_string`: `read_vec`, then `String::from_utf8`. -/
def readString : Decoder RustString := fun input =>
  match Format.vec.decode input with
  | .ok (v, rest) =>
    match fromUtf8 v with
    | some s => .ok (s, rest)
    | none => .error .invalidUtf8Encoding
  | .error e => .error e

/-- The layout of a `String` (`serialize_str`): the layout of its UTF-8 bytes. -/
def Format.string : Format RustString where
  encode s := Format.vec.encode s.bytes
  decode := readString
  decode_encode s rest := by simp only [readString, Format.decode_encode, fromUtf8_bytes]
  encode_of_decode {input s rest} h := by
    unfold readString at h
    split at h
    · next v mid hv =>
      split at h
      · next s' hs =>
        cases h
        dsimp only
        rw [Format.encode_of_decode _ hv, bytes_of_fromUtf8 hs]
      · cases h
    · cases h

/-! ## Structs -/

section Structs

variable {α β : Type}

/-- Two values one after the other: the layout of consecutive struct fields. -/
def Format.seq (f : Format α) (g : Format β) : Format (α × β) where
  encode p := f.encode p.1 ++ g.encode p.2
  decode := f.decode.seq g.decode
  decode_encode p rest := by
    rw [List.append_assoc]
    exact Decoder.seq_of_ok (f.decode_encode _ _) (g.decode_encode _ _)
  encode_of_decode h := by
    obtain ⟨mid, h₁, h₂⟩ := Decoder.exists_of_seq_ok h
    rw [f.encode_of_decode h₁, g.encode_of_decode h₂, List.append_assoc]

/-- A format carried along an equivalence: the layout of a struct as the layout of the tuple of
its fields. -/
def Format.map (f : Format α) (e : α ≃ β) : Format β where
  encode b := f.encode (e.symm b)
  decode := f.decode.map e
  decode_encode b rest := by rw [Decoder.map_of_ok (f.decode_encode _ _), e.apply_symm_apply]
  encode_of_decode h := by
    obtain ⟨a, ha, rfl⟩ := Decoder.exists_of_map_ok h
    dsimp only
    rw [f.encode_of_decode ha, e.symm_apply_apply]

/-- `bincode::serialize`: the value's layout, written into a fresh `Vec`; with no size limit this
cannot fail. -/
def serialize (f : Format α) (a : α) : Except BincodeError (List UInt8) := .ok (f.encode a)

/-- `bincode::deserialize` with bincode 1's default options: the value read from the front of the
input, whatever follows it (`allow_trailing_bytes`). -/
def deserialize (f : Format α) (bs : List UInt8) : Except BincodeError α :=
  match f.decode bs with
  | .ok (a, _) => .ok a
  | .error e => .error e

/-- Deserializing what was serialized gives the value back. -/
lemma deserialize_encode (f : Format α) (a : α) : deserialize f (f.encode a) = .ok a := by
  have h := f.decode_encode a []
  rw [List.append_nil] at h
  simp [deserialize, h]

/-- What `deserialize` accepts starts with the encoding of the value it returns. -/
lemma encode_prefix_of_deserialize {f : Format α} {bs : List UInt8} {a : α}
    (h : deserialize f bs = .ok a) : f.encode a <+: bs := by
  unfold deserialize at h
  split at h
  · next a' rest hd => cases h; exact ⟨rest, (f.encode_of_decode hd).symm⟩
  · cases h

/-- `deserialize` rejects every strict prefix of an encoding: a decoder accepts an input only
when it starts with the encoding of what it returns, and the whole encoding decodes to its own
value with nothing left over. -/
lemma deserialize_ne_ok_of_append (f : Format α) {x : α} {p s : List UInt8}
    (hp : p ++ s = f.encode x) (hs : s ≠ []) (y : α) : deserialize f p ≠ .ok y := by
  intro h
  unfold deserialize at h
  split at h
  · next y' rest hd =>
    have hxy := f.decode_encode x []
    rw [List.append_nil, ← hp, f.encode_of_decode hd, List.append_assoc, f.decode_encode] at hxy
    exact hs (List.append_eq_nil.mp (Prod.mk.inj (Except.ok.inj hxy)).2).2
  · cases h

end Structs

end Scalpel
