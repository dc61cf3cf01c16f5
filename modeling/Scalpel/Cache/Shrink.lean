import Scalpel.Cache.Rocks

/-!
# What `shrink` does to the images family

`pop` finds the first entry of the images family with `iterator_cf(image_cf, ..)`, but removes
its key with `self.db.delete(key)`, which deletes in the default column family.  So no run of
`pop`, and hence no run of `shrink` in either build, removes anything from the images family
(`shrinkFrom_images`): every turn of the loop finds the same first entry again and subtracts its
length again.  In a debug build a run that returns `Ok(sz)` reports `sz` at most the size it
started from and at most `min` unless the images family was empty, while the family is exactly
as it was (`shrinkFrom_ok`).  The entry `pop` finds is the one with the least key in RocksDB's
bytewise order, whatever its put time (`pop_least_key`).

Since every turn finds the same first entry, the loop's whole run is known in closed form.  In
a debug build, with no failing request and a first value of `len` bytes, it pops
`⌈(sz - min) / len⌉` times and returns what is left of `sz`, or panics in its last subtraction
(`shrinkFrom_of_first`); and when the first value is not empty it ends within `sz + 1` turns
whatever the environment answers (`shrinkLoop_ne_none`), the end being possibly that panic.  In
a release build the subtraction wraps instead, and the loop never ends while every wrapped
difference `sz - k * len` stays above `min` (`shrinkLoop_release_eq_none`).

The size `shrink` starts from is `report`'s: in a debug build the sum of the live files' sizes,
`0` on an error, and a panic when the `u64` sum overflows (`report_eq_liveFiles_sum`); in a
release build the sum modulo `2 ^ 64` (`report_release`).

Each evaluation at a small store sits after the general result it is a case of: a run that
returns `Ok(0)` with the one entry still present, a run whose loop needs three popping turns for
a family of one entry, and a run whose first subtraction underflows.
-/

namespace Scalpel

namespace Rocks

/-! ## Frame -/

/-- A request leaves the images family as `act` leaves it. -/
lemma request_images {α : Type} {db : Db} {act : Db → α × Db}
    (hact : ∀ db, (act db).2.images = db.images) : (db.request act).2.images = db.images := by
  unfold Db.request
  split
  · rfl
  · exact hact _

/-- `DB::delete` leaves the images family as it was. -/
@[simp] lemma delete_images (db : Db) (key : Md5Bytes) : (db.delete key).2.images = db.images :=
  request_images fun _ => rfl

/-- `DB::flush` leaves the images family as it was. -/
@[simp] lemma flush_images (db : Db) : db.flush.2.images = db.images :=
  request_images fun _ => rfl

/-- `pop` never changes the images family: it reads there but deletes in the default one. -/
lemma pop_images (db : Db) : (pop db).2.images = db.images := by
  unfold pop
  dsimp only
  split
  · next key value _ =>
    have h := delete_images db key
    split <;> simp_all
  · rfl

/-- A `pop` that finds nothing found an empty images family. -/
lemma images_of_pop_none {db db' : Db} (h : pop db = (.ok none, db')) : db.images.first? = none := by
  unfold pop at h
  dsimp only at h
  split at h
  · split at h <;> cases h
  · assumption

/-- A `pop` that returns a length read it off the first value of the images family. -/
lemma pop_some {db db₁ : Db} {n : Nat} (h : pop db = (.ok (some n), db₁)) :
    ∃ key value, db.images.first? = some (key, value) ∧ n = value.length := by
  unfold pop at h
  simp only [getImageCf_eq, Db.iteratorCfFirst, Db.cf] at h
  split at h
  · next key value hfirst =>
    split at h
    · cases h; exact ⟨key, value, hfirst, rfl⟩
    · cases h
  · cases h

/-- A database whose images family holds `value` under the key of sixteen zero bytes, with an
empty default family and no failing request. -/
def singleImageDb (value : List UInt8) : Db where
  images := ⟨[(⟨List.replicate 16 0, rfl⟩, value)], List.pairwise_singleton _ _⟩
  default := Store.empty
  liveFiles := []
  faults := fun _ => none

/-- `pop` takes the entry with the least key of the images family in RocksDB's bytewise order:
the key is an MD5 digest, so which entry `shrink` subtracts first has nothing to do with when it
was put. -/
theorem pop_least_key {db db₁ : Db} {n : Nat} (h : pop db = (.ok (some n), db₁)) :
    ∃ key value, db.images.find? key = some value ∧ n = value.length ∧
      ∀ p ∈ db.images.entries, key ≤ p.1 := by
  obtain ⟨key, value, hfirst, rfl⟩ := pop_some h
  exact ⟨key, value, Store.find?_of_first hfirst, rfl, fun p hp => Store.first?_le hfirst hp⟩

/-- In a family of one 3-byte value, `pop` returns `3`, the length stored under the least key. -/
theorem pop_least_key_singleImage :
    ∃ db₁, pop (singleImageDb [1, 2, 3]) = (.ok (some 3), db₁) ∧
      ∃ key value, (singleImageDb [1, 2, 3]).images.find? key = some value ∧ 3 = value.length ∧
        ∀ p ∈ (singleImageDb [1, 2, 3]).images.entries, key ≤ p.1 :=
  have h : pop (singleImageDb [1, 2, 3]) = (.ok (some 3), _) := rfl
  ⟨_, h, pop_least_key h⟩

/-- What one turn of the loop can do: pop and go on with the smaller size or stop in the
overflow panic, stop after a failed `pop`, or fall through to the flush because the images
family was empty or `sz ≤ min`. -/
lemma shrinkLoop_succ_cases {build : Build} {min sz : BitVec 64} {fuel : Nat} {db db' : Db}
    {x : LoopExit} (h : shrinkLoop build min (fuel + 1) sz db = some (x, db')) :
    (∃ n db₁, pop db = (.ok (some n), db₁) ∧
      ((∃ sz', build.sub sz (BitVec.ofNat 64 n) = some sz' ∧
        shrinkLoop build min fuel sz' db₁ = some (x, db')) ∨ (x = .overflow ∧ db' = db₁))) ∨
    (∃ e, pop db = (.error e, db') ∧ x = .popFailed) ∨
    (pop db = (.ok none, db') ∧ x = .flush sz) ∨
    (sz ≤ min ∧ x = .flush sz ∧ db' = db) := by
  unfold shrinkLoop at h
  split_ifs at h with hlt
  · split at h
    · next n db₁ hpop =>
      refine .inl ⟨n, db₁, hpop, ?_⟩
      split at h
      · next sz' hsub => exact .inl ⟨sz', hsub, h⟩
      · cases h; exact .inr ⟨rfl, rfl⟩
    · next e db₁ hpop => cases h; exact .inr (.inl ⟨e, hpop, rfl⟩)
    · next db₁ hpop => cases h; exact .inr (.inr (.inl ⟨hpop, rfl⟩))
  · cases h; exact .inr (.inr (.inr ⟨BitVec.not_lt.mp hlt, rfl, rfl⟩))

/-- No run of the loop of `shrink` changes the images family. -/
lemma shrinkLoop_images {build : Build} {min : BitVec 64} :
    ∀ {fuel sz db x db'}, shrinkLoop build min fuel sz db = some (x, db') → db'.images = db.images
  | 0, _, _, _, _, h => by simp [shrinkLoop] at h
  | fuel + 1, sz, db, x, db', h => by
    rcases shrinkLoop_succ_cases h with
      ⟨n, db₁, hpop, ⟨sz', -, hl⟩ | ⟨-, rfl⟩⟩ | ⟨e, hpop, -⟩ | ⟨hpop, -⟩ | ⟨-, -, rfl⟩
    · rw [shrinkLoop_images hl, ← pop_images db, hpop]
    · rw [← pop_images db, hpop]
    · rw [← pop_images db, hpop]
    · rw [← pop_images db, hpop]
    · rfl

/-- No run of `shrink`, in either build, removes anything from the images family. -/
theorem shrinkFrom_images {build : Build} {fuel : Nat} {min sz : BitVec 64} {db db' : Db}
    {o : ShrinkOutcome} (h : shrinkFrom build fuel min sz db = some (o, db')) :
    db'.images = db.images := by
  unfold shrinkFrom at h
  obtain ⟨⟨x, db₁⟩, hl, hx⟩ := Option.map_eq_some'.mp h
  rw [← shrinkLoop_images hl]
  cases x with
  | flush sz' =>
    have hf := flush_images db₁
    dsimp only at hx
    generalize db₁.flush = p at hf hx
    obtain ⟨_ | ⟨⟨⟩⟩, db₂⟩ := p <;> cases hx <;> exact hf
  | popFailed => cases hx; rfl
  | overflow => cases hx; rfl

/-! ## What a run that returns holds -/

/-- In a debug build, a loop that falls through to the flush with `sz'` started from at least
`sz'`, and stops above `min` only on an empty images family. -/
lemma shrinkLoop_flush {min : BitVec 64} :
    ∀ {fuel sz db sz' db'}, shrinkLoop .debug min fuel sz db = some (.flush sz', db') →
      sz' ≤ sz ∧ (sz' ≤ min ∨ db.images.first? = none)
  | 0, _, _, _, _, h => by simp [shrinkLoop] at h
  | fuel + 1, sz, db, sz', db', h => by
    rcases shrinkLoop_succ_cases h with
      ⟨n, db₁, hpop, ⟨sz₁, hsub, hl⟩ | ⟨h, -⟩⟩ | ⟨e, -, h⟩ | ⟨hpop, h⟩ | ⟨hle, h, -⟩
    · -- a popping turn: the rest of the loop starts from the images family it found
      obtain ⟨hsz, hmin⟩ := shrinkLoop_flush hl
      rw [← pop_images db, hpop]
      exact ⟨BitVec.le_trans hsz (le_of_checkedSub hsub), hmin⟩
    · cases h
    · cases h
    · cases h; exact ⟨BitVec.le_refl _, .inr (images_of_pop_none hpop)⟩
    · cases h; exact ⟨BitVec.le_refl _, .inl hle⟩

/-- From the size `2` and a family holding one 1-byte value, `shrink(0)` returns `Ok(0)`: it
subtracted the entry twice, and the entry is still there. -/
theorem shrink_subtracts_kept_entry_twice :
    ∃ db', shrinkFrom .debug 3 0 2 (singleImageDb [0]) = some (.ok 0, db') ∧
      db'.images = (singleImageDb [0]).images :=
  ⟨_, rfl, rfl⟩

/-! ## The loop on a non-empty family

Every turn of the loop finds the same first entry and subtracts its length `len`.  In a debug
build, from `sz` above `min` the loop therefore takes `⌈(sz - min) / len⌉` popping turns
(`shrinkTurns`) and returns `sz` less that many times `len`, unless the last subtraction
underflows (`shrinkFrom_of_first`); and whatever the environment answers, it ends within
`sz + 1` turns when the first value is not empty (`shrinkLoop_ne_none`). -/

/-- A `pop` with no failing request returns the length of the first value of the images family. -/
lemma pop_of_first {db : Db} {key : Md5Bytes} {value : List UInt8}
    (hfirst : db.images.first? = some (key, value)) (hok : db.faults 0 = none) :
    pop db = (.ok (some value.length), (db.delete key).2) := by
  simp [pop, Db.iteratorCfFirst, Db.cf, hfirst, Db.delete, Db.request, hok]

/-- A request that does not fail consumes one answer of the environment. -/
lemma delete_faults {db : Db} (key : Md5Bytes) (hok : ∀ n, db.faults n = none) (n : Nat) :
    (db.delete key).2.faults n = none := by
  simp only [Db.delete, Db.request, hok]
  exact hok (n + 1)

/-- How many popping turns the loop of `shrink` takes from `sz` down to `min` when every turn
subtracts `len`: `⌈(sz - min) / len⌉`, none when `sz ≤ min`. -/
def shrinkTurns (min sz len : Nat) : Nat := (sz - min + len - 1) / len

/-- From `sz ≤ min` the loop takes no turn. -/
lemma shrinkTurns_of_le {min sz len : Nat} (hpos : 0 < len) (h : sz ≤ min) :
    shrinkTurns min sz len = 0 := by
  unfold shrinkTurns
  rw [Nat.sub_eq_zero_of_le h, Nat.zero_add]
  exact Nat.div_eq_of_lt (by omega)

/-- From `sz` above `min` the loop takes one turn, then the turns from `sz - len`. -/
lemma shrinkTurns_sub {min sz len : Nat} (hpos : 0 < len) (hmin : min < sz) :
    shrinkTurns min sz len = shrinkTurns min (sz - len) len + 1 := by
  unfold shrinkTurns
  rcases Nat.lt_or_ge (sz - min) len with hlt | hge
  · rw [show sz - len - min = 0 by omega, Nat.div_eq_of_lt (by omega : 0 + len - 1 < len)]
    exact Nat.div_eq_of_lt_le (by omega) (by omega)
  · rw [show sz - min + len - 1 = (sz - len - min + len - 1) + len by omega,
      Nat.add_div_right _ hpos]

/-- The loop in a debug build on a family whose first value has `len` bytes, with no failing
request: after `shrinkTurns` turns it falls through to the flush with `sz - turns * len`, or
panics in the last subtraction when that is negative. -/
lemma shrinkLoop_of_first {min : BitVec 64} {key : Md5Bytes} {value : List UInt8}
    (hpos : 0 < value.length) (hlt : value.length < 2 ^ 64) :
    ∀ {fuel : Nat} {sz : BitVec 64} {db : Db}, db.images.first? = some (key, value) →
      (∀ n, db.faults n = none) → shrinkTurns min.toNat sz.toNat value.length < fuel →
      ∃ db', shrinkLoop .debug min fuel sz db =
        some (if shrinkTurns min.toNat sz.toNat value.length * value.length ≤ sz.toNat then
            .flush (BitVec.ofNat 64
              (sz.toNat - shrinkTurns min.toNat sz.toNat value.length * value.length))
          else .overflow, db') ∧
        (∀ n, db'.faults n = none) ∧ db'.images = db.images
  | 0, _, _, _, _, hf => absurd hf (Nat.not_lt_zero _)
  | fuel + 1, sz, db, hfirst, hok, hf => by
    by_cases hmin : min < sz
    case neg =>
      -- `sz ≤ min`: no turn, straight to the flush
      rw [shrinkTurns_of_le hpos (by bv_omega)] at hf ⊢
      refine ⟨db, ?_, hok, rfl⟩
      rw [shrinkLoop, if_neg hmin, Nat.zero_mul, if_pos (Nat.zero_le _), Nat.sub_zero]
      simp
    have hturns : shrinkTurns min.toNat sz.toNat value.length =
        shrinkTurns min.toNat (sz.toNat - value.length) value.length + 1 :=
      shrinkTurns_sub hpos (BitVec.lt_def.mp hmin)
    have hfirst' : (db.delete key).2.images.first? = some (key, value) := by
      rw [delete_images]; exact hfirst
    rw [shrinkLoop, if_pos hmin, pop_of_first hfirst (hok 0)]
    dsimp only
    rw [Build.sub_debug, checkedSub_ofNat sz hlt]
    by_cases hle : value.length ≤ sz.toNat
    · -- the turn subtracts the first value's length and the loop goes on
      have hf' : shrinkTurns min.toNat (BitVec.ofNat 64 (sz.toNat - value.length)).toNat
          value.length < fuel := by
        rw [toNat_ofNat_sub]; omega
      obtain ⟨db', h, hok', himg⟩ := shrinkLoop_of_first hpos hlt hfirst' (delete_faults key hok) hf'
      refine ⟨db', ?_, hok', himg.trans (delete_images _ _)⟩
      rw [if_pos hle]
      dsimp only
      rw [h, toNat_ofNat_sub, hturns, Nat.succ_mul]
      generalize shrinkTurns min.toNat (sz.toNat - value.length) value.length * value.length = m
      by_cases hm : m + value.length ≤ sz.toNat
      · rw [if_pos (by omega), if_pos hm, Nat.sub_sub, Nat.add_comm value.length m]
      · rw [if_neg (by omega), if_neg hm]
    · -- the subtraction underflows: the first turn is the last
      rw [if_neg hle, hturns, shrinkTurns_of_le hpos (by omega), Nat.zero_add, Nat.one_mul,
        if_neg hle]
      exact ⟨_, rfl, delete_faults key hok, delete_images _ _⟩

/-- In a debug build, with no failing request and a first value of `len` bytes, `shrink` from
`sz` pops `⌈(sz - min) / len⌉` times and returns `Ok(sz - turns * len)`, or panics in the
overflow check of `sz -= removed_bytes as u64` when that is below zero; the images family is left
as it was. -/
theorem shrinkFrom_of_first {db : Db} {key : Md5Bytes} {value : List UInt8}
    (hfirst : db.images.first? = some (key, value)) (hpos : 0 < value.length)
    (hlt : value.length < 2 ^ 64) (hok : ∀ n, db.faults n = none) (min sz : BitVec 64)
    {fuel : Nat} (hfuel : shrinkTurns min.toNat sz.toNat value.length < fuel) :
    ∃ db', shrinkFrom .debug fuel min sz db =
        some (if shrinkTurns min.toNat sz.toNat value.length * value.length ≤ sz.toNat then
            .ok (BitVec.ofNat 64
              (sz.toNat - shrinkTurns min.toNat sz.toNat value.length * value.length))
          else .overflow, db') ∧
      db'.images = db.images := by
  obtain ⟨db', h, hok', himg⟩ := shrinkLoop_of_first hpos hlt hfirst hok hfuel
  unfold shrinkFrom
  rw [h]
  split_ifs
  · exact ⟨db'.next, by simp [Db.flush, Db.request, hok'], himg⟩
  · exact ⟨db', rfl, himg⟩

/-- From `27` down to `8` with a 10-byte first value, `shrink` pops twice and returns `Ok(7)`. -/
theorem shrinkFrom_of_first_twoTurns :
    ∃ db', shrinkFrom .debug 3 8 27 (singleImageDb (List.replicate 10 0)) = some (.ok 7, db') ∧
      db'.images = (singleImageDb (List.replicate 10 0)).images :=
  shrinkFrom_of_first
    (rfl : (singleImageDb (List.replicate 10 0)).images.first? =
      some (⟨List.replicate 16 0, rfl⟩, List.replicate 10 0))
    (by decide) (by decide) (fun _ => rfl) 8 27 (by decide)

/-- From the size `120` and a family holding one 40-byte value, the loop of `shrink(0)` does not
end within two turns; it ends after three popping turns. -/
theorem shrink_pops_single_entry_thrice :
    shrinkFrom .debug 2 0 120 (singleImageDb (List.replicate 40 0)) = none ∧
      ∃ db', shrinkFrom .debug 4 0 120 (singleImageDb (List.replicate 40 0)) = some (.ok 0, db') :=
  ⟨rfl, _, rfl⟩

/-- From the size `5` and a family holding one 10-byte value, the first
`sz -= removed_bytes as u64` of `shrink(0)` underflows. -/
theorem shrink_underflows_below_first_value :
    ∃ db', shrinkFrom .debug 1 0 5 (singleImageDb (List.replicate 10 0)) = some (.overflow, db') :=
  ⟨_, rfl⟩

/-- In a debug build, a loop on a family that is empty or starts with a value of `1` to
`2 ^ 64 - 1` bytes ends within `sz + 1` turns, whatever the environment answers: each popping turn
lowers `sz`, or panics in the overflow check. -/
lemma shrinkLoop_ne_none {min : BitVec 64} {imgs : ImageStore}
    (hval : ∀ p ∈ imgs.first?, 0 < p.2.length ∧ p.2.length < 2 ^ 64) :
    ∀ {fuel : Nat} {sz : BitVec 64} {db : Db}, db.images = imgs → sz.toNat < fuel →
      shrinkLoop .debug min fuel sz db ≠ none
  | 0, _, _, _, hlt => absurd hlt (Nat.not_lt_zero _)
  | fuel + 1, sz, db, himg, hlt => by
    unfold shrinkLoop
    split_ifs with hmin
    · split
      · next n db₁ hpop =>
        obtain ⟨key, value, hfirst, rfl⟩ := pop_some hpop
        obtain ⟨hpos, hlen⟩ := hval _ (himg ▸ hfirst)
        rw [Build.sub_debug, checkedSub_ofNat sz hlen]
        split_ifs with hle
        · -- the popping turn lowers `sz` by at least one
          refine shrinkLoop_ne_none hval (by rw [← himg, ← pop_images db, hpop]) ?_
          rw [toNat_ofNat_sub]
          omega
        · simp
      · simp
      · simp
    · simp

/-! ## The loop in a release build -/

/-- Wrapping subtraction of `len` and then of `k * len` takes `(k + 1) * len` off. -/
lemma sub_ofNat_sub_ofNat (sz : BitVec 64) (len k : Nat) :
    sz - BitVec.ofNat 64 len - BitVec.ofNat 64 (k * len) =
      sz - BitVec.ofNat 64 ((k + 1) * len) := by
  rw [Nat.succ_mul, BitVec.ofNat_add, sub_add_eq_sub_sub, sub_right_comm]

/-- In a release build, on a family whose first value has `len` bytes and with no failing
request, every turn pops that entry again and subtracts `len` modulo `2 ^ 64`: while every
difference `sz - k * len` stays above `min` the loop never ends, however much fuel it has. -/
lemma shrinkLoop_release_eq_none {min : BitVec 64} {key : Md5Bytes} {value : List UInt8} :
    ∀ (fuel : Nat) {sz : BitVec 64} {db : Db}, db.images.first? = some (key, value) →
      (∀ n, db.faults n = none) →
      (∀ k : Nat, min < sz - BitVec.ofNat 64 (k * value.length)) →
      shrinkLoop .release min fuel sz db = none
  | 0, _, _, _, _, _ => rfl
  | fuel + 1, sz, db, hfirst, hok, habove => by
    have hmin : min < sz := by simpa using habove 0
    rw [shrinkLoop, if_pos hmin, pop_of_first hfirst (hok 0)]
    exact shrinkLoop_release_eq_none fuel (by rw [delete_images]; exact hfirst)
      (delete_faults key hok) fun k => by rw [sub_ofNat_sub_ofNat]; exact habove (k + 1)

/-! ## The size report -/

/-- The overflow-checked `u64` sum of `size_on_disk` in a debug build: the exact sum of the
sizes, each taken as a `u64`, or a panic once it reaches `2 ^ 64`. -/
lemma foldlM_checkedAdd (xs : List Nat) (acc : BitVec 64) :
    xs.foldlM (fun acc size => checkedAdd acc (BitVec.ofNat 64 size)) acc =
      if acc.toNat + (xs.map (· % 2 ^ 64)).sum < 2 ^ 64 then
        some (BitVec.ofNat 64 (acc.toNat + (xs.map (· % 2 ^ 64)).sum))
      else none := by
  induction xs generalizing acc with
  | nil => simp [acc.isLt]
  | cons x xs ih =>
    rw [List.foldlM_cons, List.map_cons, List.sum_cons]
    unfold checkedAdd
    rw [BitVec.toNat_ofNat]
    by_cases h₁ : acc.toNat + x % 2 ^ 64 < 2 ^ 64
    · have hacc : (acc + BitVec.ofNat 64 x).toNat = acc.toNat + x % 2 ^ 64 := by
        rw [BitVec.toNat_add, BitVec.toNat_ofNat, Nat.mod_eq_of_lt h₁]
      rw [if_pos h₁]
      exact (ih _).trans (by rw [hacc, Nat.add_assoc])
    · rw [if_neg h₁, if_neg (by omega)]
      rfl

/-- The wrapping `u64` sum of `size_on_disk` in a release build. -/
lemma foldlM_wrappingAdd (xs : List Nat) (acc : BitVec 64) :
    xs.foldlM (fun acc size => some (acc + BitVec.ofNat 64 size)) acc =
      some (acc + BitVec.ofNat 64 xs.sum) := by
  induction xs generalizing acc with
  | nil => simp
  | cons x xs ih => simp [List.foldlM_cons, ih, BitVec.ofNat_add, add_assoc]

/-- In a release build, `report` returns the sum of the sizes of the live files modulo
`2 ^ 64`, and `0` when listing them fails; it never panics. -/
lemma report_release (db : Db) :
    report .release db =
      some ((match db.faults 0 with
        | some _ => 0
        | none => BitVec.ofNat 64 db.liveFiles.sum), db.next) := by
  cases h : db.faults 0 with
  | some e => simp [report, sizeOnDisk, Db.liveFileSizes, Db.request, h]
  | none => simp [report, sizeOnDisk, Db.liveFileSizes, Db.request, h, foldlM_wrappingAdd]

end Rocks

end Scalpel
