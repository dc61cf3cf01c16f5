import Scalpel.Cache.Rocks

/-!
# Saving and loading images

`save_to_db` writes the bincode form of `{put_time, checksum, bytes}` into the images family
under `get_cache_key(chap_hash, image, saver)`, and `load_from_db` reads the value under that key
back and decodes it.  Over any sequence of saves from an empty images family, the value under
each key is the encoding of the entry of the latest save to that key that returned `Ok`
(`images_saveAll`, by induction over the sequence from the step lemma `saveToDb_eq`).  A load
then gives that save's payload and put time back, since decoding reads back what encoding wrote
(`loadFromDb_saveAll`); it fails only when the read itself fails.

The key is the MD5 digest of `[saver as u8]`, then the chapter hash, then the image name, with
nothing between them: two identities whose chapter hashes have the same length never feed the
same bytes to MD5 (`cacheKeyContext_injective`), but the bytes do not say where the chapter hash
ends (`cacheKeyContext_boundary_collision`).
-/

namespace Scalpel

namespace Rocks

variable (md5 : List UInt8 → Md5Bytes)

/-! ## One save -/

/-- `save_to_db` is a `put_cf` of the serialized entry under the cache key, and it fails exactly
when the put does. -/
lemma saveToDb_eq (db : Db) (chapHash image : RustString) (saver : Bool) (data : Bytes)
    (now : SystemTime) :
    saveToDb md5 db chapHash image saver data now =
      match db.faults 0 with
      | some e => (.error (.rocks e), db.next)
      | none => (.ok (), db.next.setCf .images (db.images.insert (getCacheKey md5 chapHash image saver)
          (ImageEntry.format.encode (ImageEntry.fromBytes md5 data now)))) := by
  cases h : db.faults 0 <;> simp [saveToDb, serialize, Db.putCf, Db.request, Db.cf, h]

/-- One call of `save_to_db`: its arguments, and the time `SystemTime::now()` reads in it. -/
structure SaveCall where
  chapHash : RustString
  image : RustString
  saver : Bool
  data : Bytes
  now : SystemTime

/-- The key a call writes under. -/
def SaveCall.key (c : SaveCall) : Md5Bytes := getCacheKey md5 c.chapHash c.image c.saver

/-- The value a call writes: the bincode form of its entry. -/
def SaveCall.value (c : SaveCall) : List UInt8 :=
  ImageEntry.format.encode (ImageEntry.fromBytes md5 c.data c.now)

/-- The call, made on a database. -/
def SaveCall.run (c : SaveCall) (db : Db) : Except CacheError Unit × Db :=
  saveToDb md5 db c.chapHash c.image c.saver c.data c.now

/-- The calls made in order: each with whether it returned `Ok`, and the database after them. -/
def saveAll : Db → List SaveCall → List (SaveCall × Bool) × Db
  | db, [] => ([], db)
  | db, c :: cs =>
    let rest := saveAll (c.run md5 db).2 cs
    ((c, (c.run md5 db).1.toBool) :: rest.1, rest.2)

/-- The latest call of a log that returned `Ok` and wrote under `key`. -/
def latestSave (log : List (SaveCall × Bool)) (key : Md5Bytes) : Option SaveCall :=
  (log.reverse.find? fun p => p.2 && decide (p.1.key md5 = key)).map Prod.fst

/-- The images family holds, under every key, the value of the latest successful call of the log
that wrote under it. -/
def StoresLatest (log : List (SaveCall × Bool)) (db : Db) : Prop :=
  ∀ key, db.images.find? key = (latestSave md5 log key).map (SaveCall.value md5)

/-- A call that returns `Err` leaves the images family as it was. -/
lemma images_of_run_error {c : SaveCall} {db : Db} (h : (c.run md5 db).1.toBool = false) :
    (c.run md5 db).2.images = db.images := by
  unfold SaveCall.run at *
  rw [saveToDb_eq] at *
  split at h
  · rfl
  · cases h

/-- Each call keeps the images family holding the latest successful writes. -/
lemma storesLatest_run {log : List (SaveCall × Bool)} {db : Db} (h : StoresLatest md5 log db)
    (c : SaveCall) :
    StoresLatest md5 (log ++ [(c, (c.run md5 db).1.toBool)]) (c.run md5 db).2 := by
  intro key
  unfold SaveCall.run
  simp only [latestSave, List.reverse_append, List.reverse_cons, List.reverse_nil,
    List.nil_append, List.singleton_append, List.find?_cons]
  rw [saveToDb_eq]
  cases hf : db.faults 0 with
  | some e => simpa [latestSave] using h key
  | none =>
    by_cases hk : c.key md5 = key
    · subst hk; simp [Db.setCf, SaveCall.key, SaveCall.value, Except.toBool]
    · simp only [Db.setCf, Store.find?_insert, Except.toBool, Bool.true_and]
      rw [if_neg (Ne.symm (by simpa [SaveCall.key] using hk)), decide_eq_false hk]
      simpa [latestSave] using h key

/-! ## A sequence of saves -/

/-- After any sequence of calls, the images family holds under each key the value of the latest
successful call to it. -/
lemma images_saveAll :
    ∀ (log : List (SaveCall × Bool)) (db : Db) (calls : List SaveCall), StoresLatest md5 log db →
      StoresLatest md5 (log ++ (saveAll md5 db calls).1) (saveAll md5 db calls).2
  | log, db, [], h => by simpa [saveAll] using h
  | log, db, c :: cs, h => by
    have := images_saveAll (log ++ [(c, (c.run md5 db).1.toBool)]) _ cs (storesLatest_run md5 h c)
    simpa [saveAll] using this

/-- Every call in the log of a sequence is one of its calls. -/
lemma fst_mem_of_saveAll :
    ∀ (db : Db) (calls : List SaveCall) {p : SaveCall × Bool}, p ∈ (saveAll md5 db calls).1 →
      p.1 ∈ calls
  | _, [], _, h => by simp [saveAll] at h
  | db, c :: cs, p, h => by
    simp only [saveAll, List.mem_cons] at h
    rcases h with rfl | h
    · exact List.mem_cons_self _ _
    · exact List.mem_cons_of_mem _ (fst_mem_of_saveAll _ cs h)

/-- The latest save of a log is one of its successful calls. -/
lemma mem_of_latestSave {log : List (SaveCall × Bool)} {key : Md5Bytes} {c : SaveCall}
    (h : latestSave md5 log key = some c) : ∃ ok, (c, ok) ∈ log := by
  obtain ⟨p, hp, rfl⟩ := Option.map_eq_some'.mp h
  exact ⟨p.2, List.mem_reverse.mp (List.mem_of_find?_eq_some hp)⟩

/-- `load_from_db` reads the images family and decodes what it finds, failing when the read
does. -/
lemma loadFromDb_eq (db : Db) (chapHash image : RustString) (saver : Bool) :
    loadFromDb md5 db chapHash image saver =
      match db.faults 0 with
      | some e => (.error (.rocks e), db.next)
      | none =>
        match db.images.find? (getCacheKey md5 chapHash image saver) with
        | none => (.ok none, db.next)
        | some bytes =>
          match deserialize ImageEntry.format bytes with
          | .error e => (.error (.bincode e), db.next)
          | .ok entry => (.ok (some (entry.bytes, saveDate entry.putTime)), db.next) := by
  cases h : db.faults 0 with
  | some e => simp [loadFromDb, Db.getCf, Db.request, h]
  | none =>
    simp only [loadFromDb, Db.getCf, Db.request, Db.cf, getImageCf_eq, Db.next_images, h]
    cases db.images.find? (getCacheKey md5 chapHash image saver) <;> rfl

/-- The put time of a call below `2 ^ 64` milliseconds survives `put_time as u64`. -/
lemma saveDate_putTime {now : SystemTime} (h : putTimeOf now < 2 ^ 64) :
    saveDate (BitVec.ofNat 128 (putTimeOf now)) = unixEpoch.add (Duration.fromMillis (putTimeOf now)) := by
  have h128 : putTimeOf now % 2 ^ 128 = putTimeOf now := Nat.mod_eq_of_lt (by omega)
  unfold saveDate
  rw [BitVec.toNat_ofNat, h128, Nat.mod_eq_of_lt h]

/-- Starting from an empty images family and after any sequence of saves whose put times are
below `2 ^ 64` milliseconds, `load_from_db` returns the payload and put time of the latest save
to the same key that returned `Ok`, `None` when there is none, and `Err` only when its read
fails; a save that returns `Err` leaves the images family unchanged. -/
theorem loadFromDb_saveAll {db : Db} (hdb : db.images = Store.empty) {calls : List SaveCall}
    (htime : ∀ c ∈ calls, putTimeOf c.now < 2 ^ 64) (chapHash image : RustString) (saver : Bool) :
    (loadFromDb md5 (saveAll md5 db calls).2 chapHash image saver).1 =
      (match (saveAll md5 db calls).2.faults 0 with
      | some e => .error (.rocks e)
      | none => .ok ((latestSave md5 (saveAll md5 db calls).1
          (getCacheKey md5 chapHash image saver)).map
            fun c => (c.data, unixEpoch.add (Duration.fromMillis (putTimeOf c.now))))) ∧
    ∀ (c : SaveCall) (db₁ : Db), (c.run md5 db₁).1.toBool = false →
      (c.run md5 db₁).2.images = db₁.images := by
  refine ⟨?_, fun c db₁ h => images_of_run_error md5 h⟩
  have hstore := images_saveAll md5 [] db calls fun key => by simp [hdb, latestSave]
  rw [List.nil_append] at hstore
  rw [loadFromDb_eq]
  cases (saveAll md5 db calls).2.faults 0 with
  | some e => rfl
  | none =>
    dsimp only
    rw [hstore]
    cases hl : latestSave md5 (saveAll md5 db calls).1 (getCacheKey md5 chapHash image saver) with
    | none => rfl
    | some c =>
      obtain ⟨ok, hc⟩ := mem_of_latestSave md5 hl
      have ht := htime c (fst_mem_of_saveAll md5 db calls hc)
      simp [SaveCall.value, deserialize_encode, ImageEntry.fromBytes, saveDate_putTime ht]

/-! ## Evaluations -/

/-- The one-byte string `"a"`. -/
def strA : RustString := ⟨⟨[97], by decide⟩, by decide⟩

/-- The one-byte string `"b"`. -/
def strB : RustString := ⟨⟨[98], by decide⟩, by decide⟩

/-- A digest that maps every input to sixteen zero bytes. -/
def zeroDigest (_ : List UInt8) : Md5Bytes := ⟨List.replicate 16 0, rfl⟩

/-- A database with empty families in which no request fails. -/
def emptyDb : Db := ⟨Store.empty, Store.empty, [], fun _ => none⟩

/-- A save of the bytes `[1, 2, 3]` under `("a", "b", false)` at 7 ms after the epoch. -/
def callAB : SaveCall := ⟨strA, strB, false, ⟨[1, 2, 3], by decide⟩, ⟨7000000⟩⟩

/-- After the one save `callAB` into an empty family, a load of its identity returns its bytes
and its put time. -/
theorem loadFromDb_saveAll_callAB :
    emptyDb.images = Store.empty ∧ (∀ c ∈ [callAB], putTimeOf c.now < 2 ^ 64) ∧
      (loadFromDb zeroDigest (saveAll zeroDigest emptyDb [callAB]).2 strA strB false).1 =
        .ok (some (callAB.data, unixEpoch.add (Duration.fromMillis 7))) :=
  ⟨rfl, by decide, by
    rw [(loadFromDb_saveAll zeroDigest (rfl : emptyDb.images = Store.empty)
      (by decide : ∀ c ∈ [callAB], putTimeOf c.now < 2 ^ 64) strA strB false).1]
    rfl⟩

/-- The database `emptyDb` in which every request after the first fails. -/
def dbFailingAfterOne : Db := ⟨Store.empty, Store.empty, [], fun n => if n = 0 then none else some ⟨"io"⟩⟩

/-- A save that returns `Ok`, then a load of the same identity that returns `Err`: its read
fails. -/
theorem loadFromDb_err_after_saved_call :
    (saveAll zeroDigest dbFailingAfterOne [callAB]).1 = [(callAB, true)] ∧
      ∃ e, (loadFromDb zeroDigest (saveAll zeroDigest dbFailingAfterOne [callAB]).2 strA strB
        false).1 = .error (.rocks e) :=
  ⟨rfl, _, rfl⟩

/-! ## The cache key -/

/-- The two-byte string `"ab"`. -/
def strAB : RustString := ⟨⟨[97, 98], by decide⟩, by decide⟩

/-- The two-byte string `"bc"`. -/
def strBC : RustString := ⟨⟨[98, 99], by decide⟩, by decide⟩

/-- The one-byte string `"c"`. -/
def strC : RustString := ⟨⟨[99], by decide⟩, by decide⟩

/-- Identities whose chapter hashes have the same length feed different bytes to MD5. -/
theorem cacheKeyContext_injective {c i c' i' : RustString} {s s' : Bool}
    (h : (cacheKeyContext c i s).consumed = (cacheKeyContext c' i' s').consumed)
    (hlen : c.bytes.toList.length = c'.bytes.toList.length) : c = c' ∧ i = i' ∧ s = s' := by
  simp only [cacheKeyContext, Md5Context.consume, Md5Context.new, List.nil_append,
    List.singleton_append, List.cons_append, List.cons.injEq] at h
  obtain ⟨hs, hci⟩ := h
  obtain ⟨hc, hi⟩ := List.append_inj hci hlen
  refine ⟨RustString.ext (Bytes.ext hc), RustString.ext (Bytes.ext hi), ?_⟩
  cases s <;> cases s' <;> simp_all

/-- The bytes of `("ab", "c", false)`, with the length of its chapter hash, determine it. -/
theorem cacheKeyContext_injective_strAB :
    (cacheKeyContext strAB strC false).consumed = (cacheKeyContext strAB strC false).consumed ∧
      strAB.bytes.toList.length = strAB.bytes.toList.length ∧
      (strAB = strAB ∧ strC = strC ∧ false = false) :=
  ⟨rfl, rfl, cacheKeyContext_injective rfl rfl⟩

/-- `("ab", "c", false)` and `("a", "bc", false)` feed the same bytes to MD5, so they share
their key whatever the digest. -/
theorem cacheKeyContext_boundary_collision (md5 : List UInt8 → Md5Bytes) :
    (cacheKeyContext strAB strC false).consumed = (cacheKeyContext strA strBC false).consumed ∧
      getCacheKey md5 strAB strC false = getCacheKey md5 strA strBC false :=
  ⟨rfl, rfl⟩

end Rocks

end Scalpel
