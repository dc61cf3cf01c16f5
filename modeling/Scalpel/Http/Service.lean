import Mathlib

/-!
# The request handler

`md_service` answers both image routes of the server.  It refuses an archive type other than
`data` and `data-saver` with `NotFound`; when tokens are checked (`skip_tokens` is off and the
backend asks for verification) it refuses a request with no token as `Unauthorized` and one whose
token fails verification with the verifier's error; every other request is counted in
`request_counter` and answered by `handler::response_from_cache` for the chapter hash, the image
and whether the archive is `data-saver`.

The token verifier and the cache handler live in files the model does not have, so both are
parameters: `verifyUrlToken` is what `TokenVerifier::verify_url_token` answers, and
`responseFromCache` is whatever the handler does to the global state and answers.  The one
theorem, `mdService_spec`, says which requests reach the handler and what the others get back,
for every verifier and every handler.
-/

namespace Scalpel

namespace Http

/-- `MdPathArgs`: the segments both routes bind; the untokenized route binds no token. -/
structure MdPathArgs where
  token : Option String
  archiveType : String
  chapHash : String
  image : String

/-- The part of an `HttpRequest` that `md_service` reads: the peer address of its connection. -/
structure HttpRequest where
  realipRemoteAddr : Option String

/-- An HTTP response: its status and body. -/
structure HttpResponse where
  status : Nat
  body : String

/-- The parts of `GlobalState` that `md_service` reads, with `V` the verifier's state and `C`
whatever else the cache handler may change. -/
structure GlobalState (V C : Type) where
  /-- `config.skip_tokens`. -/
  skipTokens : Bool
  /-- `backend.get_verify_tokens()`. -/
  verifyTokens : Bool
  /-- The `TokenVerifier` behind `gs.verifier`. -/
  verifier : V
  /-- `request_counter`, whose `fetch_add` wraps. -/
  requestCounter : BitVec 64
  cache : C

/-- The errors `md_service` returns: `ErrorUnauthorized`, or a verifier error of type `E`. -/
inductive WebError (E : Type)
  | unauthorized (message : String)
  | token (e : E)

/-- The body of the `NotFound` for an invalid archive type. -/
def invalidArchiveBody : String :=
  "invalid archive type. must be one of [\"data\", \"data-saver\"]"

section Service

variable {V E C : Type} (verifyUrlToken : V → String → String → Except E Unit)
  (responseFromCache : String → HttpRequest → GlobalState V C → String × String × Bool →
    HttpResponse × GlobalState V C)

/-- The end of `md_service` for an admitted request: count it, then answer from the cache. -/
def serveFromCache (peerAddr : String) (req : HttpRequest) (path : MdPathArgs) (saver : Bool)
    (gs : GlobalState V C) : Except (WebError E) HttpResponse × GlobalState V C :=
  let gs := { gs with requestCounter := gs.requestCounter + 1 }
  let r := responseFromCache peerAddr req gs (path.chapHash, path.image, saver)
  (.ok r.1, r.2)

/-- `md_service`. -/
def mdService (req : HttpRequest) (path : MdPathArgs) (gs : GlobalState V C) :
    Except (WebError E) HttpResponse × GlobalState V C :=
  let peerAddr := req.realipRemoteAddr.getD "-"
  if path.archiveType ≠ "data" ∧ path.archiveType ≠ "data-saver" then
    (.ok ⟨404, invalidArchiveBody⟩, gs)
  else
    let saver := path.archiveType == "data-saver"
    if !gs.skipTokens && gs.verifyTokens then
      match path.token.map fun token => verifyUrlToken gs.verifier token path.chapHash with
      | some (.ok ()) => serveFromCache responseFromCache peerAddr req path saver gs
      | some (.error e) => (.error (.token e), gs)
      | none => (.error (.unauthorized "no token provided"), gs)
    else serveFromCache responseFromCache peerAddr req path saver gs

/-- The requests `md_service` hands to the cache: a valid archive type, and a token that
verifies unless tokens are not checked. -/
def Admits (gs : GlobalState V C) (path : MdPathArgs) : Prop :=
  (path.archiveType = "data" ∨ path.archiveType = "data-saver") ∧
    (gs.skipTokens = true ∨ gs.verifyTokens = false ∨
      ∃ token, path.token = some token ∧ verifyUrlToken gs.verifier token path.chapHash = .ok ())

/-- The answers `md_service` gives without the cache: `NotFound` for the archive type, `Unauthorized`
for a missing token, or the verifier's error on the request's token. -/
def IsRefusal (gs : GlobalState V C) (path : MdPathArgs) (r : Except (WebError E) HttpResponse) :
    Prop :=
  r = .ok ⟨404, invalidArchiveBody⟩ ∨ r = .error (.unauthorized "no token provided") ∨
    ∃ token e, path.token = some token ∧ verifyUrlToken gs.verifier token path.chapHash = .error e ∧
      r = .error (.token e)

/-- What `md_service` does with a request: the case split on the archive type, the token
settings and the verifier's answer. -/
lemma mdService_cases (req : HttpRequest) (path : MdPathArgs) (gs : GlobalState V C) :
    (Admits verifyUrlToken gs path →
      mdService verifyUrlToken responseFromCache req path gs =
        (.ok (responseFromCache (req.realipRemoteAddr.getD "-") req
            { gs with requestCounter := gs.requestCounter + 1 }
            (path.chapHash, path.image, path.archiveType == "data-saver")).1,
          (responseFromCache (req.realipRemoteAddr.getD "-") req
            { gs with requestCounter := gs.requestCounter + 1 }
            (path.chapHash, path.image, path.archiveType == "data-saver")).2)) ∧
    (¬ Admits verifyUrlToken gs path →
      ∃ r, mdService verifyUrlToken responseFromCache req path gs = (r, gs) ∧
        IsRefusal verifyUrlToken gs path r) := by
  unfold mdService
  by_cases harch : path.archiveType = "data" ∨ path.archiveType = "data-saver"
  case neg =>
    -- an archive type other than `data` and `data-saver`: `NotFound`
    rw [if_pos (by tauto)]
    exact ⟨fun h => absurd h.1 harch, fun _ => ⟨_, rfl, .inl rfl⟩⟩
  rw [if_neg (by tauto)]
  cases hcheck : (!gs.skipTokens && gs.verifyTokens) with
  | false =>
    -- tokens are not checked
    have hadm : Admits verifyUrlToken gs path := ⟨harch, by cases hs : gs.skipTokens <;> simp_all⟩
    exact ⟨fun _ => rfl, absurd hadm⟩
  | true =>
    simp only [Bool.and_eq_true, Bool.not_eq_true'] at hcheck
    cases htok : path.token with
    | none =>
      refine ⟨fun h => ?_, fun _ => ⟨_, rfl, .inr (.inl rfl)⟩⟩
      rcases h.2 with h | h | ⟨t, ht, _⟩ <;> simp_all
    | some token =>
      simp only [if_true, Option.map_some']
      cases hv : verifyUrlToken gs.verifier token path.chapHash with
      | ok u => exact ⟨fun _ => rfl, absurd ⟨harch, .inr (.inr ⟨token, htok, hv⟩)⟩⟩
      | error e =>
        refine ⟨fun h => ?_, fun _ => ⟨_, rfl, .inr (.inr ⟨token, e, htok, hv, rfl⟩)⟩⟩
        rcases h.2 with h | h | ⟨t, ht, ht'⟩ <;> simp_all

/-- An admitted request is counted once and answered by the cache handler for its chapter hash,
image and archive; any other request is refused and leaves the state as it was. -/
theorem mdService_spec (req : HttpRequest) (path : MdPathArgs) (gs : GlobalState V C) :
    (Admits verifyUrlToken gs path →
      mdService verifyUrlToken responseFromCache req path gs =
        (.ok (responseFromCache (req.realipRemoteAddr.getD "-") req
            { gs with requestCounter := gs.requestCounter + 1 }
            (path.chapHash, path.image, path.archiveType == "data-saver")).1,
          (responseFromCache (req.realipRemoteAddr.getD "-") req
            { gs with requestCounter := gs.requestCounter + 1 }
            (path.chapHash, path.image, path.archiveType == "data-saver")).2)) ∧
    (¬ Admits verifyUrlToken gs path →
      ∃ r, mdService verifyUrlToken responseFromCache req path gs = (r, gs) ∧
        IsRefusal verifyUrlToken gs path r) :=
  mdService_cases verifyUrlToken responseFromCache req path gs

end Service

end Http

end Scalpel
