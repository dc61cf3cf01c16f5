import Mathlib
import Scalpel.RustStd

/-!
# Column families

RocksDB keeps each column family as a map from keys to values, ordered by its comparator, and
its iterators walk the keys in ascending order.  A `Store` is such a map: its entries in strictly
ascending key order, the order being a field of the structure so that every operation has to
keep it.  `put_cf` is `Store.insert` (a write replaces any earlier value of the key), `get_cf`
is `Store.find?`, a delete is `Store.erase`, and the first item of an iterator opened at
`IteratorMode::Start` is `Store.first?`, the entry with the least key.
-/

namespace Scalpel

/-- A column family: its entries in strictly ascending key order. -/
structure Store (κ ν : Type) [LinearOrder κ] where
  entries : List (κ × ν)
  sorted : entries.Pairwise fun a b => a.1 < b.1

namespace Store

variable {κ ν : Type} [LinearOrder κ]

/-- The column family with no entries. -/
def empty : Store κ ν := ⟨[], .nil⟩

/-- The value stored under `k`: a point lookup. -/
def find? (s : Store κ ν) (k : κ) : Option ν :=
  (s.entries.find? fun e => e.1 = k).map Prod.snd

/-- The first entry an iterator from the start yields: the one with the least key. -/
def first? (s : Store κ ν) : Option (κ × ν) := s.entries.head?

/-- Writing `v` under `k` into an ascending list of entries. -/
def insertEntry (k : κ) (v : ν) : List (κ × ν) → List (κ × ν)
  | [] => [(k, v)]
  | e :: es =>
    if k < e.1 then (k, v) :: e :: es
    else if k = e.1 then (k, v) :: es
    else e :: insertEntry k v es

/-- A write adds only its own entry. -/
lemma mem_insertEntry {k : κ} {v : ν} {es : List (κ × ν)} {p : κ × ν}
    (h : p ∈ insertEntry k v es) : p = (k, v) ∨ p ∈ es := by
  induction es with
  | nil => simpa [insertEntry] using h
  | cons e es ih =>
    unfold insertEntry at h
    split_ifs at h with h₁ h₂
    · simpa using h
    · rcases List.mem_cons.mp h with rfl | h
      · exact .inl rfl
      · exact .inr (List.mem_cons_of_mem _ h)
    · rcases List.mem_cons.mp h with rfl | h
      · exact .inr (List.mem_cons_self _ _)
      · exact (ih h).imp_right (List.mem_cons_of_mem _)

/-- A write keeps the entries in ascending key order. -/
lemma insertEntry_sorted (k : κ) (v : ν) {es : List (κ × ν)}
    (h : es.Pairwise fun a b => a.1 < b.1) : (insertEntry k v es).Pairwise fun a b => a.1 < b.1 := by
  induction es with
  | nil => simp [insertEntry]
  | cons e es ih =>
    rw [List.pairwise_cons] at h
    unfold insertEntry
    split_ifs with h₁ h₂
    · refine List.Pairwise.cons (fun p hp => ?_) (List.Pairwise.cons h.1 h.2)
      rcases List.mem_cons.mp hp with rfl | hp
      · exact h₁
      · exact lt_trans h₁ (h.1 p hp)
    · exact List.Pairwise.cons (fun p hp => h₂ ▸ h.1 p hp) h.2
    · refine List.Pairwise.cons (fun p hp => ?_) (ih h.2)
      rcases mem_insertEntry hp with rfl | hp
      · exact lt_of_le_of_ne (not_lt.mp h₁) (Ne.symm h₂)
      · exact h.1 p hp

/-- `put_cf`: write `v` under `k`, replacing any earlier value. -/
def insert (s : Store κ ν) (k : κ) (v : ν) : Store κ ν :=
  ⟨insertEntry k v s.entries, insertEntry_sorted k v s.sorted⟩

/-- `delete`: remove the entry of `k`, if there is one. -/
def erase (s : Store κ ν) (k : κ) : Store κ ν :=
  ⟨s.entries.filter fun e => e.1 ≠ k, s.sorted.filter _⟩

@[simp] lemma find?_empty (k : κ) : (empty : Store κ ν).find? k = none := rfl

/-- A lookup in a list after a write to it. -/
lemma find?_insertEntry (k k' : κ) (v : ν) (es : List (κ × ν)) :
    ((insertEntry k v es).find? fun e => e.1 = k').map Prod.snd =
      if k' = k then some v else (es.find? fun e => e.1 = k').map Prod.snd := by
  induction es with
  | nil => by_cases h : k' = k <;> simp [insertEntry, h, eq_comm]
  | cons e es ih =>
    by_cases hk : k' = k
    · subst hk
      rw [if_pos rfl] at ih ⊢
      unfold insertEntry
      split_ifs with h₁ h₂
      · simp
      · simp
      · simp [List.find?_cons, Ne.symm h₂, ih]
    · rw [if_neg hk] at ih ⊢
      unfold insertEntry
      split_ifs with h₁ h₂
      · simp [List.find?_cons, Ne.symm hk]
      · simp [List.find?_cons, ← h₂, Ne.symm hk]
      · by_cases he : e.1 = k' <;> simp [List.find?_cons, he, ih]

/-- A lookup after a write sees the value written under that key, and only under it. -/
@[simp] lemma find?_insert (s : Store κ ν) (k k' : κ) (v : ν) :
    (s.insert k v).find? k' = if k' = k then some v else s.find? k' :=
  find?_insertEntry k k' v s.entries

/-- The first entry is found under its own key. -/
lemma find?_of_first {s : Store κ ν} {p : κ × ν} (h : s.first? = some p) :
    s.find? p.1 = some p.2 := by
  obtain ⟨_ | ⟨e, es⟩, hs⟩ := s
  · cases h
  · simp only [first?, List.head?_cons, Option.some.injEq] at h
    subst h
    simp [find?]

/-- The first entry of a column family has the least key in it. -/
lemma first?_le {s : Store κ ν} {e : κ × ν} (h : s.first? = some e) {p : κ × ν}
    (hp : p ∈ s.entries) : e.1 ≤ p.1 := by
  obtain ⟨_ | ⟨e', es⟩, hs⟩ := s
  · cases h
  · simp only [first?, List.head?_cons, Option.some.injEq] at h
    subst h
    rcases List.mem_cons.mp hp with rfl | hp
    · exact le_rfl
    · exact le_of_lt ((List.pairwise_cons.mp hs).1 p hp)

end Store

end Scalpel
