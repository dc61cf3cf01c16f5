import Mathlib
import Scalpel.Cache.Entry
import Scalpel.Cache.Store

/-!
# The RocksDB cache

`cache/rocks.rs` keeps images in a RocksDB database opened with two column families, "images"
and the default one.  A `Db` holds both, keyed by the 16-byte MD5 keys in RocksDB's bytewise
order, together with what the engine reports about its live files and the answer the
environment gives to each request that can fail: `Db.request` consults the next answer and
either fails with it or carries the request out.  So a theorem about every `Db` holds under
every pattern of I/O failures.

On top of the engine the file transcribes the `RocksCache` functions: `getCacheKey`,
`saveToDb`, `loadFromDb`, `sizeOnDisk`, `pop`, and the `ImageCache` methods `load`, `save`,
`report` and `shrink`.  What `u64` arithmetic does on overflow depends on the build
(`Build`): a debug build checks every `+` and `-` and panics, which `shrink` reports as the
outcome `overflow` and `report` as `none`; a release build, with Cargo's default
`overflow-checks = false`, wraps.  `size_on_disk`, `report` and `shrink` take the build as
their first argument.  The `while` loop of `shrink` runs on fuel, one unit per turn, and `none`
means the fuel ran out before the loop ended.
-/

namespace Scalpel

/-- RocksDB's bytewise comparator on the 16-byte keys: lexicographic order of the bytes. -/
instance : LinearOrder Md5Bytes :=
  LinearOrder.lift' (fun k => k.toList.map UInt8.toNat) fun _ _ h =>
    Md5Bytes.ext (List.map_injective_iff.mpr (fun _ _ hxy => UInt8.toNat.inj hxy) h)

/-- `md5::Context`: the bytes consumed so far. -/
structure Md5Context where
  consumed : List UInt8

/-- `md5::Context::new`. -/
def Md5Context.new : Md5Context := ⟨[]⟩

/-- `md5::Context::consume`. -/
def Md5Context.consume (ctx : Md5Context) (data : List UInt8) : Md5Context :=
  ⟨ctx.consumed ++ data⟩

/-- `md5::Context::compute`, with `md5` the digest of the md5 crate. -/
def Md5Context.compute (md5 : List UInt8 → Md5Bytes) (ctx : Md5Context) : Md5Bytes :=
  md5 ctx.consumed

/-! ## The engine -/

/-- `rocksdb::Error`. -/
structure RocksError where
  message : String

/-- The column families of the database `RocksCache::new` opens. -/
inductive ColumnFamily
  | images
  | default
deriving DecidableEq

/-- `RocksCache::IMAGE_CF_NAME`. -/
def imageCfName : String := "images"

/-- `rocksdb::DEFAULT_COLUMN_FAMILY_NAME`. -/
def defaultColumnFamilyName : String := "default"

/-- A column family of the cache: 16-byte keys, byte-string values. -/
abbrev ImageStore := Store Md5Bytes (List UInt8)

/-- The database: its two column families, the sizes of its live SST files, and the answer the
environment gives to each request that can fail, in order (`some e` makes it fail with `e`). -/
structure Db where
  images : ImageStore
  default : ImageStore
  liveFiles : List Nat
  faults : Nat → Option RocksError

namespace Db

/-- `DB::cf_handle`: both families exist, as `new` opens the database with `create_missing_column_families`. -/
def cfHandle (name : String) : Option ColumnFamily :=
  if name = imageCfName then some .images
  else if name = defaultColumnFamilyName then some .default
  else none

/-- The contents of a column family. -/
def cf (db : Db) : ColumnFamily → ImageStore
  | .images => db.images
  | .default => db.default

/-- The database with the contents of a column family replaced. -/
def setCf (db : Db) : ColumnFamily → ImageStore → Db
  | .images, s => { db with images := s }
  | .default, s => { db with default := s }

/-- The database once the environment has given one more answer. -/
def next (db : Db) : Db := { db with faults := fun n => db.faults (n + 1) }

@[simp] lemma next_images (db : Db) : db.next.images = db.images := rfl
@[simp] lemma next_default (db : Db) : db.next.default = db.default := rfl
@[simp] lemma next_liveFiles (db : Db) : db.next.liveFiles = db.liveFiles := rfl
@[simp] lemma setCf_default_images (db : Db) (s : ImageStore) :
    (db.setCf .default s).images = db.images := rfl

/-- A request that can fail: the environment's next answer decides whether it fails, and when it
does not, `act` runs on the database. -/
def request {α : Type} (db : Db) (act : Db → α × Db) : Except RocksError α × Db :=
  match db.faults 0 with
  | some e => (.error e, db.next)
  | none => ((.ok (act db.next).1), (act db.next).2)

/-- `put_cf`. -/
def putCf (db : Db) (cf : ColumnFamily) (key : Md5Bytes) (value : List UInt8) :
    Except RocksError Unit × Db :=
  db.request fun db => ((), db.setCf cf ((db.cf cf).insert key value))

/-- `get_cf`. -/
def getCf (db : Db) (cf : ColumnFamily) (key : Md5Bytes) :
    Except RocksError (Option (List UInt8)) × Db :=
  db.request fun db => ((db.cf cf).find? key, db)

/-- `DB::delete`: a delete in the default column family. -/
def delete (db : Db) (key : Md5Bytes) : Except RocksError Unit × Db :=
  db.request fun db => ((), db.setCf .default (db.default.erase key))

/-- `iterator_cf(cf, IteratorMode::Start).next()`.  A read error of the iterator, which `next`
reports as the end of the iteration, is not modelled: the first entry is always found. -/
def iteratorCfFirst (db : Db) (cf : ColumnFamily) : Option (Md5Bytes × List UInt8) :=
  (db.cf cf).first?

/-- `DB::flush`. -/
def flush (db : Db) : Except RocksError Unit × Db :=
  db.request fun db => ((), db)

/-- `DB::live_files`, as the sizes of the files. -/
def liveFileSizes (db : Db) : Except RocksError (List Nat) × Db :=
  db.request fun db => (db.liveFiles, db)

end Db

/-! ## `u64` arithmetic -/

/-- `a + b` on `u64` with a debug build's overflow check: `none` where it panics. -/
def checkedAdd (a b : BitVec 64) : Option (BitVec 64) :=
  if a.toNat + b.toNat < 2 ^ 64 then some (a + b) else none

/-- `a - b` on `u64` with a debug build's overflow check: `none` where it panics. -/
def checkedSub (a b : BitVec 64) : Option (BitVec 64) :=
  if b ≤ a then some (a - b) else none

/-- A subtraction that does not panic does not grow. -/
lemma le_of_checkedSub {a b c : BitVec 64} (h : checkedSub a b = some c) : c ≤ a := by
  unfold checkedSub at h
  split_ifs at h with hle
  cases h
  bv_omega

/-- How a build runs `u64` arithmetic: a debug build checks every `+` and `-` and panics on
overflow; a release build, with Cargo's default `overflow-checks = false`, wraps. -/
inductive Build
  | debug
  | release
deriving DecidableEq

/-- `a + b` on `u64` in a build: `none` where a debug build panics. -/
def Build.add : Build → BitVec 64 → BitVec 64 → Option (BitVec 64)
  | .debug, a, b => checkedAdd a b
  | .release, a, b => some (a + b)

/-- `a - b` on `u64` in a build: `none` where a debug build panics. -/
def Build.sub : Build → BitVec 64 → BitVec 64 → Option (BitVec 64)
  | .debug, a, b => checkedSub a b
  | .release, a, b => some (a - b)

@[simp] lemma Build.add_debug (a b : BitVec 64) : Build.debug.add a b = checkedAdd a b := rfl
@[simp] lemma Build.add_release (a b : BitVec 64) : Build.release.add a b = some (a + b) := rfl
@[simp] lemma Build.sub_debug (a b : BitVec 64) : Build.debug.sub a b = checkedSub a b := rfl
@[simp] lemma Build.sub_release (a b : BitVec 64) : Build.release.sub a b = some (a - b) := rfl

/-- A difference of `u64` values below the first, read back as a number. -/
@[simp] lemma toNat_ofNat_sub (a : BitVec 64) (n : Nat) :
    (BitVec.ofNat 64 (a.toNat - n)).toNat = a.toNat - n := by
  rw [BitVec.toNat_ofNat, Nat.mod_eq_of_lt (Nat.lt_of_le_of_lt (Nat.sub_le _ _) a.isLt)]

/-- Subtracting a length below `2 ^ 64`: the exact difference, or a panic below zero. -/
lemma checkedSub_ofNat (a : BitVec 64) {n : Nat} (hn : n < 2 ^ 64) :
    checkedSub a (BitVec.ofNat 64 n) =
      if n ≤ a.toNat then some (BitVec.ofNat 64 (a.toNat - n)) else none := by
  have hle : BitVec.ofNat 64 n ≤ a ↔ n ≤ a.toNat := by
    rw [BitVec.le_def, BitVec.toNat_ofNat, Nat.mod_eq_of_lt hn]
  unfold checkedSub
  by_cases h : n ≤ a.toNat
  · rw [if_pos (hle.mpr h), if_pos h, Option.some.injEq]
    apply BitVec.eq_of_toNat_eq
    rw [BitVec.toNat_sub_of_le (hle.mpr h), toNat_ofNat_sub, BitVec.toNat_ofNat, Nat.mod_eq_of_lt hn]
  · rw [if_neg (mt hle.mp h), if_neg h]

/-! ## `RocksCache` -/

/-- `CacheError`. -/
inductive CacheError
  | rocks (e : RocksError)
  | bincode (e : BincodeError)

namespace Rocks

/-- `rocks::ImageEntry`: the put time in milliseconds since the epoch, the checksum of the
image, and its bytes. -/
structure ImageEntry where
  putTime : BitVec 128
  checksum : Md5Bytes
  bytes : Bytes

/-- An entry as the tuple of its fields, in declaration order. -/
def ImageEntry.fields : (BitVec 128 × Md5Bytes) × Bytes ≃ ImageEntry where
  toFun p := ⟨p.1.1, p.1.2, p.2⟩
  invFun e := ((e.putTime, e.checksum), e.bytes)
  left_inv _ := rfl
  right_inv _ := rfl

/-- The derived bincode layout: `put_time`, `checksum`, `bytes`. -/
def ImageEntry.format : Format ImageEntry :=
  ((Format.u128.seq Format.array16).seq Format.vec).map ImageEntry.fields

/-- `RocksCache::get_image_cf`: the "images" column family, else the default one. -/
def getImageCf : ColumnFamily :=
  match (Db.cfHandle imageCfName).orElse fun _ => Db.cfHandle defaultColumnFamilyName with
  | some cf => cf
  | none => .default

@[simp] lemma getImageCf_eq : getImageCf = .images := rfl

section Md5

variable (md5 : List UInt8 → Md5Bytes)

/-- `make_checksum`. -/
def makeChecksum (bytes : List UInt8) : Md5Bytes := md5 bytes

/-- The milliseconds since the epoch of `now`, `0` before it:
`now.duration_since(UNIX_EPOCH).map(|x| x.as_millis()).unwrap_or_default()`. -/
def putTimeOf (now : SystemTime) : Nat :=
  ((now.durationSince unixEpoch).map Duration.asMillis).getD 0

/-- `From<&[u8]> for ImageEntry`, with `now` the time `SystemTime::now()` reads. -/
def ImageEntry.fromBytes (bytes : Bytes) (now : SystemTime) : ImageEntry where
  putTime := BitVec.ofNat 128 (putTimeOf now)
  checksum := makeChecksum md5 bytes.toList
  bytes := bytes

/-- The MD5 context `get_cache_key` computes: `[saver as u8]`, the chapter hash, the image. -/
def cacheKeyContext (chapHash image : RustString) (saver : Bool) : Md5Context :=
  let ctx := Md5Context.new
  let ctx := ctx.consume [if saver then 1 else 0]
  let ctx := ctx.consume chapHash.bytes.toList
  ctx.consume image.bytes.toList

/-- `RocksCache::get_cache_key`. -/
def getCacheKey (chapHash image : RustString) (saver : Bool) : Md5Bytes :=
  (cacheKeyContext chapHash image saver).compute md5

/-- `RocksCache::save_to_db`, with `now` the time `SystemTime::now()` reads. -/
def saveToDb (db : Db) (chapHash image : RustString) (saver : Bool) (data : Bytes)
    (now : SystemTime) : Except CacheError Unit × Db :=
  let imageCf := getImageCf
  let key := getCacheKey md5 chapHash image saver
  match serialize ImageEntry.format (ImageEntry.fromBytes md5 data now) with
  | .error e => (.error (.bincode e), db)
  | .ok entry =>
    match db.putCf imageCf key entry with
    | (.ok (), db) => (.ok (), db)
    | (.error e, db) => (.error (.rocks e), db)

/-- `UNIX_EPOCH + Duration::from_millis(put_time as u64)`. -/
def saveDate (putTime : BitVec 128) : SystemTime :=
  unixEpoch.add (Duration.fromMillis (putTime.toNat % 2 ^ 64))

/-- `RocksCache::load_from_db`. -/
def loadFromDb (db : Db) (chapHash image : RustString) (saver : Bool) :
    Except CacheError (Option (Bytes × SystemTime)) × Db :=
  let imageCf := getImageCf
  let key := getCacheKey md5 chapHash image saver
  match db.getCf imageCf key with
  | (.error e, db) => (.error (.rocks e), db)
  | (.ok none, db) => (.ok none, db)
  | (.ok (some serializedBytes), db) =>
    match deserialize ImageEntry.format serializedBytes with
    | .error e => (.error (.bincode e), db)
    | .ok entry => (.ok (some (entry.bytes, saveDate entry.putTime)), db)

/-- `ImageCache::load`: an error becomes `None`. -/
def load (db : Db) (chapHash image : RustString) (saver : Bool) :
    Option (Bytes × SystemTime) × Db :=
  match loadFromDb md5 db chapHash image saver with
  | (.ok r, db) => (r, db)
  | (.error _, db) => (none, db)

/-- `ImageCache::save`: whether `save_to_db` succeeded. -/
def save (db : Db) (chapHash image : RustString) (saver : Bool) (data : Bytes)
    (now : SystemTime) : Bool × Db :=
  match saveToDb md5 db chapHash image saver data now with
  | (.ok (), db) => (true, db)
  | (.error _, db) => (false, db)

end Md5

/-- `RocksCache::size_on_disk` in a build: the `u64` sum of the live files' sizes; `none` where a
debug build's overflow check panics. -/
def sizeOnDisk (build : Build) (db : Db) : Option (Except CacheError (BitVec 64) × Db) :=
  match db.liveFileSizes with
  | (.error e, db) => some (.error (.rocks e), db)
  | (.ok sizes, db) =>
    (sizes.foldlM (fun acc size => build.add acc (BitVec.ofNat 64 size)) 0).map
      fun sz => (.ok sz, db)

/-- `RocksCache::pop`: the length of the first value of the images family, after deleting
its key with `DB::delete`. -/
def pop (db : Db) : Except CacheError (Option Nat) × Db :=
  let imageCf := getImageCf
  match db.iteratorCfFirst imageCf with
  | some (key, value) =>
    match db.delete key with
    | (.ok (), db) => (.ok (some value.length), db)
    | (.error e, db) => (.error (.rocks e), db)
  | none => (.ok none, db)

/-- `ImageCache::report` in a build: the size on disk, `0` on an error; `none` where it panics. -/
def report (build : Build) (db : Db) : Option (BitVec 64 × Db) :=
  (sizeOnDisk build db).map fun
    | (.ok sz, db) => (sz, db)
    | (.error _, db) => (0, db)

/-- How the `while sz > min` loop of `shrink` ends: at the flush with the size `sz`, at the
`return Err(())` after a failed `pop`, or, in a debug build, in the overflow panic of
`sz -= removed_bytes as u64`. -/
inductive LoopExit
  | flush (sz : BitVec 64)
  | popFailed
  | overflow

/-- The loop of `shrink` in a build from the size `sz`, for at most `fuel` turns. -/
def shrinkLoop (build : Build) (min : BitVec 64) : Nat → BitVec 64 → Db → Option (LoopExit × Db)
  | 0, _, _ => none
  | fuel + 1, sz, db =>
    if min < sz then
      match pop db with
      | (.ok (some removedBytes), db) =>
        match build.sub sz (BitVec.ofNat 64 removedBytes) with
        | some sz => shrinkLoop build min fuel sz db
        | none => some (.overflow, db)
      | (.error _, db) => some (.popFailed, db)
      | (.ok none, db) => some (.flush sz, db)
    else some (.flush sz, db)

/-- How a call of `shrink` ends: `Ok(sz)`, `Err(())`, or a panic of a debug build's `u64` overflow
check. -/
inductive ShrinkOutcome
  | ok (sz : BitVec 64)
  | err
  | overflow
deriving DecidableEq

/-- `shrink` in a build once `report` has returned `sz`: the loop, then the flush. -/
def shrinkFrom (build : Build) (fuel : Nat) (min sz : BitVec 64) (db : Db) :
    Option (ShrinkOutcome × Db) :=
  (shrinkLoop build min fuel sz db).map fun
    | (.flush sz, db) =>
      match db.flush with
      | (.ok (), db) => (.ok sz, db)
      | (.error _, db) => (.err, db)
    | (.popFailed, db) => (.err, db)
    | (.overflow, db) => (.overflow, db)

/-- `ImageCache::shrink` in a build, with at most `fuel` turns of its loop. -/
def shrink (build : Build) (fuel : Nat) (min : BitVec 64) (db : Db) : Option (ShrinkOutcome × Db) :=
  match report build db with
  | some (sz, db) => shrinkFrom build fuel min sz db
  | none => some (.overflow, db)

end Rocks

end Scalpel
