import Scalpel.Cache.SaveLoad
import Scalpel.Cache.Shrink

/-!
# The cache over every run of its calls

The server uses the RocksDB cache only through the four methods of `ImageCache`: `load`,
`save`, `report` and `shrink`.  `Reach md5 build log db` says that `db` is reached from a
database whose images family is empty by some sequence of these calls made by a program of the
given build, in any order and under any pattern of I/O failures, and that `log` lists the saves
among them, each with whether it returned `Ok`.

Only `save` writes the images family: a load and a report read it, and `shrink` deletes in the
default column family.  So in every reachable state the images family holds, under each key,
the value of the latest successful save to that key (`storesLatest_of_reach`).  Three facts
follow.  A load answers what a map of the latest successful saves answers, or fails with the
read itself (`loadFromDb_of_reach`).  Every stored value is the exact bincode form of an entry
whose checksum is the MD5 digest of its bytes (`stored_entry_of_reach`).  And every stored value
is at least 40 bytes long, the fixed part of the layout, so in a debug build the loop of
`shrink`, which subtracts the length of the first value on each turn, always ends: it returns,
or stops in the overflow check of that subtraction (`shrink_ne_none_of_reach`).  A release build
wraps the subtraction instead, and then `shrink` can turn forever: from a database holding one
saved empty image, whose value is 40 bytes long, and live files of 1306 bytes, the size stays
`2` modulo `8` and never reaches `0` (`shrink_release_eq_none`).
-/

namespace Scalpel

namespace Rocks

/-- Every stored entry takes 40 bytes more than its image: 16 for `put_time`, 16 for the
checksum and 8 for the length of `bytes`. -/
lemma length_encode (e : ImageEntry) :
    (ImageEntry.format.encode e).length = 40 + e.bytes.toList.length := by
  simp [ImageEntry.format, ImageEntry.fields, Format.map, Format.seq, Format.u128, Format.uint,
    Format.array16, Format.vec, Format.u64, e.checksum.length_eq]
  omega

variable (md5 : List UInt8 → Md5Bytes)

/-- `ImageCache::save` is the call `SaveCall.run` made, with whether it returned `Ok`. -/
lemma save_eq_run (c : SaveCall) (db : Db) :
    save md5 db c.chapHash c.image c.saver c.data c.now =
      ((c.run md5 db).1.toBool, (c.run md5 db).2) := by
  unfold save SaveCall.run
  split <;> next h => rw [h]; rfl

/-- `load_from_db` consumes one answer of the environment and writes nothing. -/
lemma loadFromDb_snd (db : Db) (chapHash image : RustString) (saver : Bool) :
    (loadFromDb md5 db chapHash image saver).2 = db.next := by
  rw [loadFromDb_eq]
  split
  · rfl
  · split
    · rfl
    · split <;> rfl

/-- `ImageCache::load` consumes one answer of the environment and writes nothing. -/
lemma load_snd (db : Db) (chapHash image : RustString) (saver : Bool) :
    (load md5 db chapHash image saver).2 = db.next := by
  unfold load
  split <;> next h => rw [← loadFromDb_snd md5 db chapHash image saver, h]

/-- A report that returns consumes one answer of the environment and writes nothing. -/
lemma report_snd {build : Build} {db db' : Db} {r : BitVec 64}
    (h : report build db = some (r, db')) : db' = db.next := by
  have hl : db.liveFileSizes.2 = db.next := by
    unfold Db.liveFileSizes Db.request
    split <;> rfl
  unfold report sizeOnDisk at h
  rw [← hl]
  generalize db.liveFileSizes = p at h
  obtain ⟨_ | sizes, db₁⟩ := p
  · exact (congrArg Prod.snd (Option.some.inj h)).symm
  · rw [Option.map_map] at h
    obtain ⟨sz, -, hsz⟩ := Option.map_eq_some'.mp h
    exact (congrArg Prod.snd hsz).symm

/-- `shrink` never changes the images family. -/
lemma shrink_images {build : Build} {fuel : Nat} {min : BitVec 64} {db db' : Db}
    {o : ShrinkOutcome} (h : shrink build fuel min db = some (o, db')) : db'.images = db.images := by
  unfold shrink at h
  split at h
  · next sz db₁ hr => rw [shrinkFrom_images h, report_snd hr]; rfl
  · cases h; rfl

/-! ## Reachable states -/

/-- The states a database reaches from an empty images family through the calls of
`ImageCache` made by a program of the given build, with the log of the saves made and whether
each returned `Ok`.  A call that panics leaves the database as the panic found it. -/
inductive Reach (build : Build) : List (SaveCall × Bool) → Db → Prop
  | empty {db : Db} : db.images = Store.empty → Reach build [] db
  | load {log : List (SaveCall × Bool)} {db : Db} (chapHash image : RustString) (saver : Bool) :
      Reach build log db → Reach build log (load md5 db chapHash image saver).2
  | save {log : List (SaveCall × Bool)} {db : Db} (c : SaveCall) :
      Reach build log db →
        Reach build (log ++ [(c, (save md5 db c.chapHash c.image c.saver c.data c.now).1)])
          (save md5 db c.chapHash c.image c.saver c.data c.now).2
  | report {log : List (SaveCall × Bool)} {db db' : Db} {r : BitVec 64} :
      Reach build log db → report build db = some (r, db') → Reach build log db'
  | reportPanic {log : List (SaveCall × Bool)} {db : Db} :
      Reach build log db → report build db = none → Reach build log db.next
  | shrink {log : List (SaveCall × Bool)} {db db' : Db} {fuel : Nat} {min : BitVec 64}
      {o : ShrinkOutcome} :
      Reach build log db → shrink build fuel min db = some (o, db') → Reach build log db'

variable {md5} {build : Build}

/-- What a database stores in its images family is all `StoresLatest` depends on. -/
lemma StoresLatest.of_images_eq {log : List (SaveCall × Bool)} {db db' : Db}
    (h : StoresLatest md5 log db) (himg : db'.images = db.images) : StoresLatest md5 log db' :=
  fun key => himg ▸ h key

/-- In every reachable state the images family holds, under each key, the value of the latest
save to that key that returned `Ok`. -/
lemma storesLatest_of_reach {log : List (SaveCall × Bool)} {db : Db} (h : Reach md5 build log db) :
    StoresLatest md5 log db := by
  induction h with
  | empty hdb => intro key; simp [hdb, latestSave]
  | load c i s _ ih => exact ih.of_images_eq (by rw [load_snd]; rfl)
  | save c _ ih => rw [save_eq_run]; exact storesLatest_run md5 ih c
  | report _ hr ih => exact ih.of_images_eq (by rw [report_snd hr]; rfl)
  | reportPanic _ _ ih => exact ih.of_images_eq rfl
  | shrink _ hs ih => exact ih.of_images_eq (shrink_images hs)

/-- The state `callAB` leaves in an empty database, reached in a debug build. -/
lemma reach_callAB :
    Reach zeroDigest .debug [(callAB, true)]
      (save zeroDigest emptyDb strA strB false callAB.data callAB.now).2 :=
  @Reach.save zeroDigest .debug [] emptyDb callAB (Reach.empty rfl)

/-! ## What every reachable state holds -/

/-- In every state reached through the cache's calls, in any order and under any pattern of
failures, `load_from_db` fails only when its read fails, and otherwise returns the bytes and
the put time of the latest save to the same key that returned `Ok`, or `None` when there is
none. -/
theorem loadFromDb_of_reach {log : List (SaveCall × Bool)} {db : Db} (h : Reach md5 build log db)
    (chapHash image : RustString) (saver : Bool) :
    (loadFromDb md5 db chapHash image saver).1 =
      match db.faults 0 with
      | some e => .error (.rocks e)
      | none => .ok ((latestSave md5 log (getCacheKey md5 chapHash image saver)).map
          fun c => (c.data, saveDate (BitVec.ofNat 128 (putTimeOf c.now)))) := by
  rw [loadFromDb_eq]
  cases db.faults 0 with
  | some e => rfl
  | none =>
    dsimp only
    rw [storesLatest_of_reach h]
    cases latestSave md5 log (getCacheKey md5 chapHash image saver) with
    | none => rfl
    | some c => simp [SaveCall.value, deserialize_encode, ImageEntry.fromBytes]

/-- After a save into an empty family, a load of the same identity answers with its bytes. -/
theorem loadFromDb_of_reach_callAB :
    (loadFromDb zeroDigest (save zeroDigest emptyDb strA strB false callAB.data callAB.now).2
        strA strB false).1 =
      .ok (some (callAB.data, saveDate (BitVec.ofNat 128 (putTimeOf callAB.now)))) :=
  (loadFromDb_of_reach reach_callAB strA strB false).trans rfl

/-- In every reachable state, each value of the images family is the exact bincode form of an
entry whose checksum is the MD5 digest of its bytes, and it deserializes to that entry. -/
theorem stored_entry_of_reach {log : List (SaveCall × Bool)} {db : Db} (h : Reach md5 build log db)
    {key : Md5Bytes} {value : List UInt8} (hv : db.images.find? key = some value) :
    ∃ e : ImageEntry, value = ImageEntry.format.encode e ∧ e.checksum = md5 e.bytes.toList ∧
      deserialize ImageEntry.format value = .ok e := by
  rw [storesLatest_of_reach h key] at hv
  obtain ⟨c, -, rfl⟩ := Option.map_eq_some'.mp hv
  exact ⟨ImageEntry.fromBytes md5 c.data c.now, rfl, rfl, deserialize_encode _ _⟩

/-- The value `callAB` stores is the encoding of an entry with the checksum of its bytes. -/
theorem stored_entry_of_reach_callAB :
    ∃ e : ImageEntry,
      (save zeroDigest emptyDb strA strB false callAB.data callAB.now).2.images.find?
          (callAB.key zeroDigest) = some (ImageEntry.format.encode e) ∧
        e.checksum = zeroDigest e.bytes.toList :=
  have hv : (save zeroDigest emptyDb strA strB false callAB.data callAB.now).2.images.find?
      (callAB.key zeroDigest) = some (callAB.value zeroDigest) := rfl
  match stored_entry_of_reach reach_callAB hv with
  | ⟨e, he, hc, _⟩ => ⟨e, he ▸ hv, hc⟩

/-- In every reachable state, every value of the images family is the encoding of some save's
entry, at least 40 bytes long. -/
lemma length_of_reach {log : List (SaveCall × Bool)} {db : Db} (h : Reach md5 build log db)
    {key : Md5Bytes} {value : List UInt8} (hv : db.images.find? key = some value) :
    ∃ c ok, (c, ok) ∈ log ∧ value.length = 40 + c.data.toList.length := by
  rw [storesLatest_of_reach h key] at hv
  obtain ⟨c, hc, rfl⟩ := Option.map_eq_some'.mp hv
  obtain ⟨ok, hmem⟩ := mem_of_latestSave md5 hc
  exact ⟨c, ok, hmem, length_encode _⟩

/-- In a debug build, in every reachable state whose saved images are shorter than
`2 ^ 64 - 40` bytes, `shrink` ends within `2 ^ 64` turns, whatever the environment answers: every
turn of its loop pops at least 40 bytes off the size, or stops in the overflow check of
`sz -= removed_bytes as u64`, and that panic is then how the call ends. -/
theorem shrink_ne_none_of_reach {log : List (SaveCall × Bool)} {db : Db}
    (h : Reach md5 .debug log db) (hdata : ∀ p ∈ log, p.1.data.toList.length + 40 < 2 ^ 64)
    (min : BitVec 64) : shrink .debug (2 ^ 64) min db ≠ none := by
  have hval : ∀ p ∈ db.images.first?, 0 < p.2.length ∧ p.2.length < 2 ^ 64 := by
    intro p hp
    obtain ⟨c, ok, hmem, hlen⟩ := length_of_reach h (Store.find?_of_first hp)
    have := hdata _ hmem
    dsimp only at this
    omega
  unfold shrink
  split
  · next sz db₁ hr =>
    unfold shrinkFrom
    exact fun hn => shrinkLoop_ne_none hval (by rw [report_snd hr]; rfl) sz.isLt
      (Option.map_eq_none'.mp hn)
  · simp

/-- A shrink of the database `callAB` left ends. -/
theorem shrink_ne_none_of_reach_callAB :
    shrink .debug (2 ^ 64) 0 (save zeroDigest emptyDb strA strB false callAB.data callAB.now).2 ≠
      none :=
  shrink_ne_none_of_reach reach_callAB (fun p hp => by rw [List.mem_singleton.mp hp]; decide) 0

/-! ## A release build -/

/-- In a release build, from a database whose images family starts with a value of `len` bytes
and where no request fails, `shrink(min)` never ends, however much fuel it has, when every
difference between the live files' total size and a multiple of `len`, taken modulo `2 ^ 64`,
stays above `min`: each turn pops the same entry again and subtracts `len` with wrapping. -/
theorem shrink_release_eq_none {db : Db} {key : Md5Bytes} {value : List UInt8}
    (hfirst : db.images.first? = some (key, value)) (hok : ∀ n, db.faults n = none)
    (min : BitVec 64)
    (habove : ∀ k : Nat,
      min < BitVec.ofNat 64 db.liveFiles.sum - BitVec.ofNat 64 (k * value.length))
    (fuel : Nat) : shrink .release fuel min db = none := by
  rw [shrink, report_release, hok 0]
  exact Option.map_eq_none'.mpr
    (shrinkLoop_release_eq_none fuel (by rw [Db.next_images]; exact hfirst) (fun n => hok (n + 1))
      habove)

/-- A database with an empty images family whose live files hold 1306 bytes. -/
def liveFilesDb : Db := ⟨Store.empty, Store.empty, [1306], fun _ => none⟩

/-- The save of an empty image. -/
def emptyImageCall : SaveCall := ⟨strA, strB, false, ⟨[], by decide⟩, ⟨0⟩⟩

/-- `1306` is `2` modulo `8` and every multiple of `40` is `0`, so no wrapped difference of the
two is `0`. -/
lemma zero_lt_sub_mul_forty (k : Nat) :
    (0 : BitVec 64) < BitVec.ofNat 64 1306 - BitVec.ofNat 64 (k * 40) := by
  rw [BitVec.lt_def, BitVec.toNat_sub]
  simp only [BitVec.ofNat_eq_ofNat, BitVec.toNat_ofNat]
  omega

/-- After one empty image is saved into `liveFilesDb`, a reachable state, `shrink(0)` in a release
build never ends: the entry's value is 40 bytes long and the size stays `2` modulo `8`. -/
theorem shrink_release_eq_none_emptyImage :
    Reach zeroDigest .release [(emptyImageCall, true)]
        (save zeroDigest liveFilesDb strA strB false emptyImageCall.data emptyImageCall.now).2 ∧
      ∀ fuel, shrink .release fuel 0
        (save zeroDigest liveFilesDb strA strB false emptyImageCall.data emptyImageCall.now).2 =
          none :=
  ⟨@Reach.save zeroDigest .release [] liveFilesDb emptyImageCall (Reach.empty rfl), fun fuel =>
    @shrink_release_eq_none
      (save zeroDigest liveFilesDb strA strB false emptyImageCall.data emptyImageCall.now).2 _ _
      rfl (fun _ => rfl) 0 zero_lt_sub_mul_forty fuel⟩

end Rocks

end Scalpel
