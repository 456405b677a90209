import Mathlib.Data.Nat.Bitwise
import Mathlib.Tactic.Common

/-!
# Bit fields of byte arrays

A *bit field* of a byte array is an inclusive range `lo..=hi` of its bits, bit `k` of the array
being bit `k % 8` of byte `k / 8`, least significant bit first. Reading the field gives the
number with these bits; writing a value copies its low bits into the range, drops the higher
ones and leaves every other bit of the array as it was. This is the layout of the bit-field
members of a C structure.

## Main definitions

* `BitField.testBit`, `BitField.byteOfBits`: a byte as its eight bits.
* `BitField.bit`: a bit of a byte array.
* `BitField.getField`, `BitField.setField`: reading and writing a bit field.
* `BitField.lowBits`: the low bits of a byte.

## Main results

* `BitField.bit_setField`: the bits of an array after a write.
* `BitField.getField_setField_self`: a field reads back the low bits of the value written.
* `BitField.getField_setField_of_disjoint`: a disjoint field is not affected.
-/

namespace BitField

/-! ### Bytes as bits -/

/-- Bit `i` of a byte. -/
def testBit (b : UInt8) (i : ℕ) : Bool := b.toNat.testBit i

/-- The byte with the bits `f 0, …, f 7`. -/
def byteOfBits (f : ℕ → Bool) : UInt8 := .ofNat (Nat.ofBits fun i : Fin 8 => f i)

theorem testBit_byteOfBits (f : ℕ → Bool) {i : ℕ} (hi : i < 8) :
    testBit (byteOfBits f) i = f i := by
  have hlt : Nat.ofBits (fun i : Fin 8 => f i) < 2 ^ 8 := Nat.ofBits_lt_two_pow _
  rw [testBit, byteOfBits, UInt8.toNat_ofNat', Nat.mod_eq_of_lt hlt,
    Nat.testBit_ofBits_lt _ _ hi]

theorem testBit_of_le (b : UInt8) {i : ℕ} (hi : 8 ≤ i) : testBit b i = false :=
  Nat.testBit_eq_false_of_lt
    (Nat.lt_of_lt_of_le b.toNat_lt (Nat.pow_le_pow_right (by decide) hi))

/-- Two bytes with the same eight bits are equal. -/
theorem byte_ext {a b : UInt8} (h : ∀ i < 8, testBit a i = testBit b i) : a = b := by
  refine UInt8.toNat_inj.mp (Nat.eq_of_testBit_eq fun i => ?_)
  rcases Nat.lt_or_ge i 8 with hi | hi
  · exact h i hi
  · exact (testBit_of_le a hi).trans (testBit_of_le b hi).symm

theorem testBit_or (a b : UInt8) (i : ℕ) : testBit (a ||| b) i = (testBit a i || testBit b i) := by
  rw [testBit, UInt8.toNat_or, Nat.testBit_or, testBit, testBit]

theorem testBit_and (a b : UInt8) (i : ℕ) : testBit (a &&& b) i = (testBit a i && testBit b i) := by
  rw [testBit, UInt8.toNat_and, Nat.testBit_and, testBit, testBit]

theorem testBit_not (a : UInt8) {i : ℕ} (hi : i < 8) : testBit (~~~a) i = !testBit a i := by
  rw [testBit, UInt8.toNat_not, testBit]
  simpa [hi] using Nat.testBit_two_pow_sub_succ a.toNat_lt i

/-- The byte of a flag has the flag as its bit 0. -/
theorem testBit_toUInt8 (b : Bool) (i : ℕ) : testBit b.toUInt8 i = (decide (i = 0) && b) := by
  have hnat : b.toUInt8.toNat = b.toNat := by cases b <;> rfl
  rw [testBit, hnat, Nat.testBit_bool_toNat]

theorem toUInt8_beq_zero (b : Bool) : (b.toUInt8 == 0) = !b := by cases b <;> rfl

/-- The byte of the low `w` bits of `b`. -/
def lowBits (w : ℕ) (b : UInt8) : UInt8 := .ofNat (b.toNat % 2 ^ w)

theorem toNat_lowBits (w : ℕ) (b : UInt8) : (lowBits w b).toNat = b.toNat % 2 ^ w := by
  rw [lowBits, UInt8.toNat_ofNat', Nat.mod_eq_of_lt]
  exact Nat.lt_of_le_of_lt (Nat.mod_le _ _) b.toNat_lt

theorem testBit_lowBits (w : ℕ) (b : UInt8) (i : ℕ) :
    testBit (lowBits w b) i = (decide (i < w) && testBit b i) := by
  rw [testBit, toNat_lowBits, Nat.testBit_mod_two_pow, testBit]

theorem lowBits_eq_self {w : ℕ} {b : UInt8} (hb : b.toNat < 2 ^ w) : lowBits w b = b :=
  UInt8.toNat_inj.mp (by rw [toNat_lowBits, Nat.mod_eq_of_lt hb])

/-- A flag fits in one bit. -/
@[simp] theorem lowBits_one_toUInt8 (b : Bool) : lowBits 1 b.toUInt8 = b.toUInt8 := by
  cases b <;> rfl

@[simp] theorem lowBits_lowBits (w : ℕ) (b : UInt8) : lowBits w (lowBits w b) = lowBits w b :=
  lowBits_eq_self (by rw [toNat_lowBits]; exact Nat.mod_lt _ (Nat.two_pow_pos w))

/-! ### Bits of a byte array -/

variable {n : ℕ}

/-- Bit `k` of a byte array: bit `k % 8` of byte `k / 8`. Bits past the end are `0`. -/
def bit (a : Vector UInt8 n) (k : ℕ) : Bool :=
  if h : k / 8 < n then testBit a[k / 8] (k % 8) else false

theorem bit_of_le (a : Vector UInt8 n) {k : ℕ} (hk : 8 * n ≤ k) : bit a k = false :=
  dif_neg (by omega)

theorem testBit_getElem (a : Vector UInt8 n) {j i : ℕ} (hj : j < n) (hi : i < 8) :
    testBit a[j] i = bit a (8 * j + i) := by
  have hdiv : (8 * j + i) / 8 = j := by omega
  have hmod : (8 * j + i) % 8 = i := by omega
  simp only [bit, hdiv, hmod, hj, ↓reduceDIte]

theorem bit_eq_testBit_getElem_zero (a : Vector UInt8 1) {k : ℕ} (hk : k < 8) :
    bit a k = testBit a[0] k := by
  rw [testBit_getElem a (by decide) hk, Nat.mul_zero, Nat.zero_add]

/-- Two byte arrays with the same bits are equal. -/
theorem bit_ext {a b : Vector UInt8 n} (h : ∀ k < 8 * n, bit a k = bit b k) : a = b := by
  refine Vector.ext fun j hj => byte_ext fun i hi => ?_
  rw [testBit_getElem a hj hi, testBit_getElem b hj hi]
  exact h _ (by omega)

/-! ### Reading and writing a field -/

/-- The value of the field `lo..=hi`: its bit `i` is bit `lo + i` of the array. -/
def getField (a : Vector UInt8 n) (lo hi : ℕ) : UInt8 :=
  byteOfBits fun i => decide (lo + i ≤ hi) && bit a (lo + i)

/-- Write `v` to the field `lo..=hi`: bit `lo + i` of the array becomes bit `i` of `v`. -/
def setField (a : Vector UInt8 n) (lo hi : ℕ) (v : UInt8) : Vector UInt8 n :=
  Vector.ofFn fun j : Fin n => byteOfBits fun i =>
    if lo ≤ 8 * j + i ∧ 8 * j + i ≤ hi then testBit v (8 * j + i - lo) else testBit a[j] i

theorem testBit_getField (a : Vector UInt8 n) (lo hi : ℕ) {i : ℕ} (hi8 : i < 8) :
    testBit (getField a lo hi) i = (decide (lo + i ≤ hi) && bit a (lo + i)) :=
  testBit_byteOfBits _ hi8

/-- A one-bit field is its bit. -/
theorem getField_self (a : Vector UInt8 n) (k : ℕ) : getField a k k = (bit a k).toUInt8 := by
  refine byte_ext fun i hi => ?_
  rw [testBit_getField _ _ _ hi, testBit_toUInt8]
  rcases Nat.eq_zero_or_pos i with rfl | hpos
  · simp only [Nat.add_zero, Nat.le_refl]
  · simp only [show ¬ k + i ≤ k by omega, show i ≠ 0 by omega, decide_false, Bool.false_and]

/-- A field that starts with the array is the low bits of its first byte. -/
theorem getField_zero (a : Vector UInt8 n) (hn : 0 < n) (hi : ℕ) :
    getField a 0 hi = lowBits (hi + 1) a[0] := by
  refine byte_ext fun i hi8 => ?_
  rw [testBit_getField _ _ _ hi8, testBit_lowBits, testBit_getElem a hn hi8, Nat.mul_zero]
  simp only [Nat.zero_add, Nat.lt_succ_iff]

/-- A bit of the array after a write is the bit of the value inside the field, and the old bit
outside of it. -/
theorem bit_setField (a : Vector UInt8 n) (lo hi : ℕ) (v : UInt8) {k : ℕ} (hk : k < 8 * n) :
    bit (setField a lo hi v) k = if lo ≤ k ∧ k ≤ hi then testBit v (k - lo) else bit a k := by
  have hj : k / 8 < n := by omega
  have hi8 : k % 8 < 8 := Nat.mod_lt _ (by decide)
  have hjk : 8 * (k / 8) + k % 8 = k := Nat.div_add_mod k 8
  rw [bit, dif_pos hj, setField, Vector.getElem_ofFn, testBit_byteOfBits _ hi8]
  simp only [hjk, Fin.getElem_fin]
  rw [testBit_getElem a hj hi8, hjk]

/-- A field reads back what was written, cut to the width of the field. -/
theorem getField_setField_self (a : Vector UInt8 n) {lo hi : ℕ} (v : UInt8) (hlo : lo ≤ hi)
    (hhi : hi < 8 * n) (hw : hi < lo + 8) :
    getField (setField a lo hi v) lo hi = lowBits (hi + 1 - lo) v := by
  refine byte_ext fun i hi8 => ?_
  rw [testBit_getField _ _ _ hi8, testBit_lowBits]
  by_cases h : lo + i ≤ hi
  · rw [bit_setField a lo hi v (by omega), if_pos ⟨by omega, h⟩]
    simp only [h, show i < hi + 1 - lo by omega, decide_true, Nat.add_sub_cancel_left]
  · simp only [h, show ¬ i < hi + 1 - lo by omega, decide_false, Bool.false_and]

/-- A disjoint field is not affected by a write. -/
theorem getField_setField_of_disjoint (a : Vector UInt8 n) {lo hi lo' hi' : ℕ} (v : UInt8)
    (h : hi' < lo ∨ hi < lo') :
    getField (setField a lo hi v) lo' hi' = getField a lo' hi' := by
  refine byte_ext fun i hi8 => ?_
  rw [testBit_getField _ _ _ hi8, testBit_getField _ _ _ hi8]
  by_cases hle : lo' + i ≤ hi'
  · rcases Nat.lt_or_ge (lo' + i) (8 * n) with hk | hk
    · rw [bit_setField a lo hi v hk, if_neg (by omega)]
    · rw [bit_of_le _ hk, bit_of_le _ hk]
  · simp only [hle, decide_false, Bool.false_and]

/-- Every field of the zero array is zero. -/
theorem getField_replicate_zero (lo hi : ℕ) : getField (Vector.replicate n 0) lo hi = 0 := by
  refine byte_ext fun i hi8 => ?_
  have hbit : bit (Vector.replicate n (0 : UInt8)) (lo + i) = false := by
    rw [bit]
    split
    · rw [Vector.getElem_replicate, testBit, UInt8.toNat_zero, Nat.zero_testBit]
    · rfl
  rw [testBit_getField _ _ _ hi8, hbit, Bool.and_false, testBit, UInt8.toNat_zero,
    Nat.zero_testBit]

end BitField
