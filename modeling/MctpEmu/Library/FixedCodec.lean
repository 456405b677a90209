import Mathlib.Logic.Equiv.Defs
import Mathlib.Tactic.Common

/-!
# Codecs with a fixed layout

A *fixed codec* of a type writes every value with the same number of bytes and reads a value from
the front of a byte string, leaving the rest. A record is written as the tuple of its fields, in
order and with nothing between them, so the codec of a record is the codec of a product carried
along an equivalence. An enumeration is written as one byte, and reading may send several bytes
to one value; the *layout* of a codec lists, byte by byte, what reading and writing again makes of
the byte.

## Main definitions

* `FixedCodec`: the codec of a type, with its size in memory and its laws.
* `FixedCodec.deserialize`: reading a value from the front of a byte string.
* `FixedCodec.byte`, `FixedCodec.array`, `FixedCodec.prod`, `FixedCodec.ofEquiv`,
  `FixedCodec.byteEnum`: bytes, byte arrays, products, records and enumerations.

## Main results

* `FixedCodec.deserialize_encode`: reading back a written value.
* `FixedCodec.exists_deserialize`, `FixedCodec.deserialize_take`: what is read depends
  on the first `size` bytes only, and writing it again gives these bytes up to the layout.
-/

/-- A codec with a fixed layout. -/
class FixedCodec (α : Type) where
  /-- The size of the packed in-memory representation, in bytes. -/
  size : ℕ
  /-- What reading and writing again makes of each byte. -/
  layout : List (UInt8 → UInt8)
  encode : α → List UInt8
  /-- Read a value from the front, or run out of bytes. -/
  decode : List UInt8 → Option (α × List UInt8)
  length_layout : layout.length = size
  decode_encode : ∀ a rest, decode (encode a ++ rest) = some (a, rest)
  decode_append : ∀ bs, bs.length = size → ∃ a,
    (∀ rest, decode (bs ++ rest) = some (a, rest)) ∧ encode a = List.zipWith (· ·) layout bs
  decode_of_lt : ∀ bs, bs.length < size → decode bs = none

namespace FixedCodec

/-- A layout that keeps every byte. -/
theorem zipWith_replicate_id (bs : List UInt8) :
    List.zipWith (· ·) (List.replicate bs.length id) bs = bs := by
  induction bs with
  | nil => rfl
  | cons b bs ih =>
    rw [List.length_cons, List.replicate_succ, List.zipWith_cons_cons, ih, id]

section General

variable {α : Type} [FixedCodec α]

/-- Read a value from the front of a byte string, ignoring trailing bytes. -/
def deserialize (bs : List UInt8) : Option α := (decode bs).map Prod.fst

/-- Enough bytes hold a value in their first `size` bytes and leave the others. -/
theorem exists_decode {bs : List UInt8} (h : size α ≤ bs.length) :
    ∃ a : α, decode bs = some (a, bs.drop (size α)) ∧
      decode (bs.take (size α)) = some (a, []) ∧
      encode a = List.zipWith (· ·) (layout α) (bs.take (size α)) := by
  obtain ⟨a, ha, he⟩ := decode_append (α := α) (bs.take (size α))
    (by rw [List.length_take]; omega)
  refine ⟨a, ?_, ?_, he⟩
  · simpa only [List.take_append_drop] using ha (bs.drop (size α))
  · simpa only [List.append_nil] using ha []

/-- Every value is written with the same number of bytes. -/
@[simp] theorem length_encode (a : α) : (encode a).length = size α := by
  have hread : decode (encode a) = some (a, []) := by
    simpa only [List.append_nil] using decode_encode a []
  have hle : size α ≤ (encode a).length := by
    by_contra hlt
    rw [decode_of_lt _ (Nat.lt_of_not_le hlt)] at hread
    cases hread
  obtain ⟨a', ha', -⟩ := exists_decode (α := α) hle
  have hdrop : (encode a).drop (size α) = [] :=
    (Prod.ext_iff.mp (Option.some.inj (ha'.symm.trans hread))).2
  exact Nat.le_antisymm (List.drop_eq_nil_iff.mp hdrop) hle

/-- A written value is read back, whatever follows it. -/
theorem deserialize_encode (a : α) (rest : List UInt8) :
    deserialize (encode a ++ rest) = some a := by
  rw [deserialize, decode_encode, Option.map_some]

/-- What is read depends on the first `size` bytes only. -/
theorem deserialize_take {bs : List UInt8} (h : size α ≤ bs.length) :
    deserialize (α := α) (bs.take (size α)) = deserialize bs := by
  obtain ⟨a, ha, ht, -⟩ := exists_decode (α := α) h
  rw [deserialize, deserialize, ha, ht, Option.map_some, Option.map_some]

/-- What is read from enough bytes is written again as the first `size` of them, up to the
layout. -/
theorem exists_deserialize {bs : List UInt8} (h : size α ≤ bs.length) :
    ∃ a : α, deserialize bs = some a ∧
      encode a = List.zipWith (· ·) (layout α) (bs.take (size α)) := by
  obtain ⟨a, ha, -, he⟩ := exists_decode (α := α) h
  exact ⟨a, by rw [deserialize, ha, Option.map_some], he⟩

end General

/-! ### Bytes, arrays, products, records and enumerations -/

/-- A byte is written as itself. -/
instance byte : FixedCodec UInt8 where
  size := 1
  layout := [id]
  encode b := [b]
  decode
    | [] => none
    | b :: rest => some (b, rest)
  length_layout := rfl
  decode_encode _ _ := rfl
  decode_append bs h := by
    obtain ⟨b, rfl⟩ := List.length_eq_one_iff.mp h
    exact ⟨b, fun _ => rfl, rfl⟩
  decode_of_lt bs h := by
    obtain rfl : bs = [] := List.length_eq_zero_iff.mp (Nat.lt_one_iff.mp h)
    rfl

/-- An array is written as its bytes, with no length in front. -/
instance array (n : ℕ) : FixedCodec (Vector UInt8 n) where
  size := n
  layout := List.replicate n id
  encode v := v.toList
  decode bs :=
    if h : n ≤ bs.length then
      some (⟨(bs.take n).toArray, by rw [List.size_toArray, List.length_take, Nat.min_eq_left h]⟩,
        bs.drop n)
    else none
  length_layout := List.length_replicate
  decode_encode v rest := by
    have hn : n ≤ (v.toList ++ rest).length := by
      rw [List.length_append, Vector.length_toList]; omega
    have htake : (v.toList ++ rest).take n = v.toList := List.take_left' Vector.length_toList
    rw [dif_pos hn]
    simp only [htake, List.drop_left' Vector.length_toList]
    rfl
  decode_append bs h := by
    subst h
    refine ⟨⟨bs.toArray, List.size_toArray⟩, fun rest => ?_, ?_⟩
    · rw [dif_pos (by rw [List.length_append]; omega)]
      simp only [List.take_left, List.drop_left]
    · rw [zipWith_replicate_id]
      rfl
  decode_of_lt bs h := dif_neg (by omega)

theorem encode_array_two : (v : Vector UInt8 2) → encode v = [v[0], v[1]]
  | ⟨⟨[_, _]⟩, _⟩ => rfl

/-- A pair is written as its components, in order. -/
instance prod (α β : Type) [FixedCodec α] [FixedCodec β] : FixedCodec (α × β) where
  size := size α + size β
  layout := layout α ++ layout β
  encode p := encode p.1 ++ encode p.2
  decode bs := do
    let (a, bs) ← decode bs
    let (b, bs) ← decode bs
    return ((a, b), bs)
  length_layout := by rw [List.length_append, length_layout, length_layout]
  decode_encode p rest := by
    rw [List.append_assoc]
    simp only [decode_encode, Option.bind_eq_bind, Option.bind_some, Option.pure_def]
  decode_append bs h := by
    have hlen : (bs.take (size α)).length = size α := by rw [List.length_take]; omega
    obtain ⟨a, ha, hea⟩ := decode_append (α := α) (bs.take (size α)) hlen
    obtain ⟨b, hb, heb⟩ := decode_append (α := β) (bs.drop (size α))
      (by rw [List.length_drop]; omega)
    refine ⟨(a, b), fun rest => ?_, ?_⟩
    · rw [← List.take_append_drop (size α) bs, List.append_assoc, ha]
      simp only [Option.bind_eq_bind, Option.bind_some, hb, Option.pure_def]
    · rw [hea, heb, ← List.zipWith_append (by rw [length_layout, hlen]), List.take_append_drop]
  decode_of_lt bs h := by
    rcases Nat.lt_or_ge bs.length (size α) with hlt | hle
    · simp only [decode_of_lt bs hlt, Option.bind_eq_bind, Option.bind_none]
    · obtain ⟨a, ha, -⟩ := exists_decode (α := α) hle
      have hshort : (bs.drop (size α)).length < size β := by rw [List.length_drop]; omega
      simp only [ha, Option.bind_eq_bind, Option.bind_some, decode_of_lt _ hshort,
        Option.bind_none]

/-- A record is written as the tuple of its fields. -/
abbrev ofEquiv {α β : Type} [FixedCodec β] (e : α ≃ β) : FixedCodec α where
  size := size β
  layout := layout β
  encode a := encode (e a)
  decode bs := (decode bs).map (Prod.map e.symm id)
  length_layout := length_layout
  decode_encode a rest := by
    rw [decode_encode, Option.map_some, Prod.map, e.symm_apply_apply, id]
  decode_append bs h := by
    obtain ⟨b, hb, he⟩ := decode_append (α := β) bs h
    refine ⟨e.symm b, fun rest => ?_, ?_⟩
    · rw [hb, Option.map_some, Prod.map, id]
    · rw [e.apply_symm_apply, he]
  decode_of_lt bs h := by rw [decode_of_lt bs h, Option.map_none]

/-- An enumeration is written as the byte of its value; every byte is read as some value. -/
abbrev byteEnum {α : Type} (toByte : α → UInt8) (ofByte : UInt8 → α)
    (h : ∀ a, ofByte (toByte a) = a) : FixedCodec α where
  size := 1
  layout := [fun b => toByte (ofByte b)]
  encode a := [toByte a]
  decode
    | [] => none
    | b :: rest => some (ofByte b, rest)
  length_layout := rfl
  decode_encode a rest := by simp only [List.cons_append, List.nil_append, h]
  decode_append bs hbs := by
    obtain ⟨b, rfl⟩ := List.length_eq_one_iff.mp hbs
    exact ⟨ofByte b, fun _ => rfl, rfl⟩
  decode_of_lt bs hbs := by
    obtain rfl : bs = [] := List.length_eq_zero_iff.mp (Nat.lt_one_iff.mp hbs)
    rfl

end FixedCodec
