import Mathlib

/-!
# The Rust values the cache handles

The cache code reads and writes byte buffers, UTF-8 strings, fixed-width integers in
little-endian form, MD5 digests and timestamps.  This file fixes how each is represented.

* `Bytes` is a byte buffer (`Vec<u8>`, `&[u8]`, `bytes::Bytes`).  Its length is a `usize`, so
  the structure carries `length < 2 ^ 64`, which is what makes `len as u64` exact.
* `RustString` is a `String`: a byte buffer holding well-formed UTF-8 (Unicode, Table 3-7), and
  `fromUtf8` is `String::from_utf8`, which checks exactly that.
* `leBytes w n` and `leNat` are the `w`-byte little-endian encoding of a natural number and its
  inverse, with the round-trip law in each direction.
* `Duration` and `SystemTime` count nanoseconds; `as_millis`, `from_millis`, `duration_since`
  and `UNIX_EPOCH + d` compute as `std::time` computes them.
-/

namespace Scalpel

/-! ## Byte buffers -/

/-- A Rust byte buffer (`Vec<u8>`, `&[u8]` or `bytes::Bytes`); its length is a `usize`. -/
@[ext] structure Bytes where
  toList : List UInt8
  length_lt : toList.length < 2 ^ 64
deriving DecidableEq

/-- `[u8; 16]`, the `Md5Bytes` of both cache modules: an MD5 digest. -/
@[ext] structure Md5Bytes where
  toList : List UInt8
  length_eq : toList.length = 16
deriving DecidableEq

/-- A byte read back as a natural number is below `256`. -/
lemma uint8_toNat_lt (b : UInt8) : b.toNat < 256 := b.toBitVec.isLt

/-- `UInt8.ofNat` keeps the low byte. -/
@[simp] lemma uint8_toNat_ofNat (n : Nat) : (UInt8.ofNat n).toNat = n % 256 :=
  BitVec.toNat_ofNat n 8

/-! ## Little-endian integers -/

/-- The `w` little-endian bytes of `n`, bits above `8 * w` dropped: how bincode writes a `u64`
(`w = 8`) or a `u128` (`w = 16`). -/
def leBytes : Nat → Nat → List UInt8
  | 0, _ => []
  | w + 1, n => UInt8.ofNat n :: leBytes w (n / 256)

/-- The natural number with the given little-endian bytes. -/
def leNat : List UInt8 → Nat
  | [] => 0
  | b :: bs => b.toNat + 256 * leNat bs

/-- The encoding has exactly `w` bytes. -/
@[simp] lemma length_leBytes (w n : Nat) : (leBytes w n).length = w := by
  induction w generalizing n with
  | zero => rfl
  | succ w ih => simp [leBytes, ih]

/-- Decoding the encoding keeps the value modulo `256 ^ w`. -/
lemma leNat_leBytes (w n : Nat) : leNat (leBytes w n) = n % 256 ^ w := by
  induction w generalizing n with
  | zero => simp [leBytes, leNat, Nat.mod_one]
  | succ w ih =>
    simp only [leBytes, leNat, uint8_toNat_ofNat, ih, Nat.pow_succ']
    exact (Nat.mod_mul ..).symm

/-- A little-endian value fits in its bytes. -/
lemma leNat_lt (bs : List UInt8) : leNat bs < 256 ^ bs.length := by
  induction bs with
  | nil => simp [leNat]
  | cons b bs ih =>
    have hb := uint8_toNat_lt b
    simp only [leNat, List.length_cons, Nat.pow_succ']
    omega

/-- Encoding a decoded list of bytes, at its own width, gives the list back. -/
lemma leBytes_leNat (bs : List UInt8) : leBytes bs.length (leNat bs) = bs := by
  induction bs with
  | nil => rfl
  | cons b bs ih =>
    have hb := uint8_toNat_lt b
    have hdiv : (b.toNat + 256 * leNat bs) / 256 = leNat bs := by omega
    simp only [List.length_cons, leBytes, leNat, hdiv, ih, List.cons.injEq, and_true]
    exact UInt8.toNat.inj (by simp; omega)

/-! ## UTF-8 strings -/

/-- What UTF-8 validation still expects after a byte: `owed` continuation bytes, the next of
them between `lo` and `hi`. -/
structure Utf8Need where
  owed : Nat
  lo : Nat
  hi : Nat

/-- The continuation a first byte asks for (Unicode, Table 3-7), or `none` for a byte that
cannot start a character. -/
def utf8Lead (a : Nat) : Option Utf8Need :=
  if a ≤ 0x7F then some ⟨0, 0x80, 0xBF⟩
  else if 0xC2 ≤ a ∧ a ≤ 0xDF then some ⟨1, 0x80, 0xBF⟩
  else if a = 0xE0 then some ⟨2, 0xA0, 0xBF⟩
  else if 0xE1 ≤ a ∧ a ≤ 0xEC ∨ 0xEE ≤ a ∧ a ≤ 0xEF then some ⟨2, 0x80, 0xBF⟩
  else if a = 0xED then some ⟨2, 0x80, 0x9F⟩
  else if a = 0xF0 then some ⟨3, 0x90, 0xBF⟩
  else if 0xF1 ≤ a ∧ a ≤ 0xF3 then some ⟨3, 0x80, 0xBF⟩
  else if a = 0xF4 then some ⟨3, 0x80, 0x8F⟩
  else none

/-- UTF-8 validation from a given expectation, one byte at a time. -/
def utf8Check : Utf8Need → List UInt8 → Bool
  | ⟨0, _, _⟩, [] => true
  | ⟨0, _, _⟩, a :: rest =>
    match utf8Lead a.toNat with
    | some need => utf8Check need rest
    | none => false
  | ⟨_ + 1, _, _⟩, [] => false
  | ⟨k + 1, lo, hi⟩, b :: rest => lo ≤ b.toNat && b.toNat ≤ hi && utf8Check ⟨k, 0x80, 0xBF⟩ rest

/-- The bytes are well-formed UTF-8: what `String::from_utf8` checks. -/
def utf8Valid (bs : List UInt8) : Bool := utf8Check ⟨0, 0x80, 0xBF⟩ bs

/-- A Rust `String`: a byte buffer holding well-formed UTF-8. -/
@[ext] structure RustString where
  bytes : Bytes
  utf8 : utf8Valid bytes.toList = true
deriving DecidableEq

/-- `String::from_utf8`: the buffer as a `String` when it is well-formed UTF-8. -/
def fromUtf8 (v : Bytes) : Option RustString :=
  if h : utf8Valid v.toList = true then some ⟨v, h⟩ else none

/-- `String::from_utf8` accepts the bytes of every string, and gives that string back. -/
@[simp] lemma fromUtf8_bytes (s : RustString) : fromUtf8 s.bytes = some s := by
  simp [fromUtf8, s.utf8]

/-- A string that `String::from_utf8` returns holds exactly the bytes it was given. -/
lemma bytes_of_fromUtf8 {v : Bytes} {s : RustString} (h : fromUtf8 v = some s) : s.bytes = v := by
  unfold fromUtf8 at h
  split at h <;> cases h
  rfl

/-! ## Time -/

/-- `std::time::Duration`, in nanoseconds. -/
structure Duration where
  nanos : Nat

/-- `Duration::as_millis`: whole milliseconds, as a `u128`. -/
def Duration.asMillis (d : Duration) : Nat := d.nanos / 1000000

/-- `Duration::from_millis`. -/
def Duration.fromMillis (ms : Nat) : Duration := ⟨ms * 1000000⟩

/-- `std::time::SystemTime`, in nanoseconds since `UNIX_EPOCH` (negative before it). -/
structure SystemTime where
  sinceEpoch : Int
deriving DecidableEq

/-- `std::time::UNIX_EPOCH`. -/
def unixEpoch : SystemTime := ⟨0⟩

/-- `SystemTime::duration_since`: `Err` when `earlier` is later than `t`. -/
def SystemTime.durationSince (t earlier : SystemTime) : Option Duration :=
  if earlier.sinceEpoch ≤ t.sinceEpoch then some ⟨(t.sinceEpoch - earlier.sinceEpoch).toNat⟩
  else none

/-- `t + d` for a `SystemTime` and a `Duration`. -/
def SystemTime.add (t : SystemTime) (d : Duration) : SystemTime := ⟨t.sinceEpoch + d.nanos⟩

end Scalpel
