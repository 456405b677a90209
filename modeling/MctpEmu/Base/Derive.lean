import MctpEmu.Library.FixedCodec

/-!
# Errors, panics and the derived conversions

The crates report failures through `Result` and abort a task by panicking. A fallible function
that cannot panic returns `Except`; one that can returns an `Outcome`.

The derive macros `FromBinary` and `FromControlPayload` of `mctp-emu-derive` give every wire
structure its conversions to and from bytes: a length check against the in-memory size, then a
`bincode` read in the fixed layout of the structure. `FixedCodec` is that layout: fields in order,
one byte for a `u8`, no length in front of an array, trailing bytes allowed.

## Main definitions

* `Outcome`, `MctpBaseLibError`, `AnyhowError`.
* `FromBinary.intoBytes`, `FromBinary.tryFrom`, `FromControlPayload.intoBytes`,
  `FromControlPayload.tryFrom`.

## Main results

* `trySized_eq_error_iff`, `exists_trySized`: the length check decides.
-/

namespace MctpEmu

/-- The byte strings of the `bytes` crate. -/
abbrev Bytes := List UInt8

/-- What a call that may panic ends with. -/
inductive Outcome (ε α : Type)
  | ok (value : α)
  | err (error : ε)
  | panic (message : String)
deriving DecidableEq, Repr

inductive MctpBaseLibError
  | invalidPayloadSize (expected found : String)
  | unknownValue (value : String)
  | other (context : String)
deriving DecidableEq, Repr

/-- The chain of contexts of an `anyhow::Error`. -/
inductive AnyhowError
  | base (error : MctpBaseLibError)
  | msg (message : String)
  | context (message : String) (source : AnyhowError)
deriving DecidableEq, Repr

/-- `Context::context` on a result of the base library. -/
def withContext {α : Type} (message : String) (r : Except MctpBaseLibError α) :
    Except AnyhowError α :=
  r.mapError fun e => .context message (.base e)

@[simp] theorem withContext_ok {α : Type} (message : String) (a : α) :
    withContext message (.ok a) = .ok a := rfl

open FixedCodec

section

variable {α : Type} [FixedCodec α]

variable (α) in
/-- The length check and the `bincode` read that all derived `TryFrom` conversions share. -/
def trySized (bytes : Bytes) : Except MctpBaseLibError α :=
  if bytes.length < size α then
    .error (.invalidPayloadSize (toString (size α)) (toString bytes.length))
  else
    match deserialize bytes with
    | some a => .ok a
    | none => .error (.other "Failed deserializing message")

/-- `impl From<T> for Bytes`, and for `Vec<u8>`, of `#[derive(FromBinary)]`. -/
def FromBinary.intoBytes (t : α) : Bytes := encode t

variable (α) in
/-- `impl TryFrom<Bytes> for T`, and from `Vec<u8>`, of `#[derive(FromBinary)]`. -/
def FromBinary.tryFrom (bytes : Bytes) : Except MctpBaseLibError α := trySized α bytes

/-- `impl From<T> for Bytes`, and for `Vec<u8>`, of `#[derive(FromControlPayload)]`. -/
def FromControlPayload.intoBytes (t : α) : Bytes := encode t

variable (α) in
/-- `impl TryFrom<Bytes> for T` of `#[derive(FromControlPayload)]`. -/
def FromControlPayload.tryFrom (bytes : Bytes) : Except MctpBaseLibError α := trySized α bytes

/-- Enough bytes are decoded, and encoded again up to the layout: the `bincode` error branch is
not taken. -/
theorem exists_trySized {bytes : Bytes} (h : size α ≤ bytes.length) :
    ∃ a : α, trySized α bytes = .ok a ∧ deserialize bytes = some a ∧
      encode a = List.zipWith (· ·) (layout α) (bytes.take (size α)) := by
  obtain ⟨a, ha, he⟩ := exists_deserialize (α := α) h
  refine ⟨a, ?_, ha, he⟩
  rw [trySized, if_neg (Nat.not_lt.mpr h), ha]

theorem trySized_of_lt {bytes : Bytes} (h : bytes.length < size α) :
    trySized α bytes =
      .error (.invalidPayloadSize (toString (size α)) (toString bytes.length)) :=
  if_pos h

/-- A conversion fails exactly on byte strings shorter than the structure. -/
theorem trySized_eq_error_iff (bytes : Bytes) :
    (∃ e, trySized α bytes = .error e) ↔ bytes.length < size α := by
  refine ⟨fun ⟨e, he⟩ => ?_, fun h => ⟨_, trySized_of_lt h⟩⟩
  by_contra hle
  obtain ⟨a, ha, -⟩ := exists_trySized (α := α) (Nat.le_of_not_lt hle)
  rw [ha] at he
  cases he

/-- The bytes of a value are decoded to it, whatever follows them. -/
theorem trySized_encode_append (a : α) (rest : Bytes) : trySized α (encode a ++ rest) = .ok a := by
  have hlen : ¬ (encode a ++ rest).length < size α := by
    rw [List.length_append, length_encode]; omega
  rw [trySized, if_neg hlen, deserialize_encode]

theorem trySized_encode (a : α) : trySized α (encode a) = .ok a := by
  simpa only [List.append_nil] using trySized_encode_append a []

/-- The result depends on the first `size` bytes only. -/
theorem trySized_take {bytes : Bytes} (h : size α ≤ bytes.length) :
    trySized α (bytes.take (size α)) = trySized α bytes := by
  have htake : ¬ (bytes.take (size α)).length < size α := by rw [List.length_take]; omega
  rw [trySized, trySized, if_neg htake, if_neg (Nat.not_lt.mpr h), deserialize_take h]

end

end MctpEmu
