import MctpEmu.Endpoint.TransportTask

/-!
# The packet error code in the responder

The transport task of an endpoint cuts the SMBus header off a datagram, and leaves the packet error
code where it is. The responder gets it as the last byte of its packet. That changes nothing for a
packet that is long enough, and makes another packet of one that is a byte too short.

## Main definitions

* `SameAnswer`: the same reply, or a refusal or a panic in both, and the same state.
* `TakesPacketErrorCode`: the packet error code becomes a field of the request.

## Main results

* `MctpEndpointContext.handleRequest_concat_iff`: when the packet error code changes nothing.
-/

namespace MctpEmu

/-- The same reply, or a refusal or a panic in both, and the same state. The text of a refusal names
the length of the packet, and is left out. -/
structure SameAnswer (o o' : Outcome AnyhowError Bytes × MctpEndpointContext) : Prop where
  reply : ∀ r, o.1 = .ok r ↔ o'.1 = .ok r
  panic : (∃ message, o.1 = .panic message) ↔ ∃ message, o'.1 = .panic message
  state : o.2 = o'.2

theorem SameAnswer.refl (o : Outcome AnyhowError Bytes × MctpEndpointContext) : SameAnswer o o :=
  ⟨fun _ => .rfl, .rfl, rfl⟩

/-- Refusals in the same state. -/
theorem SameAnswer.of_err {o o' : Outcome AnyhowError Bytes × MctpEndpointContext}
    {ctx : MctpEndpointContext} {e e' : AnyhowError} (h : o = (.err e, ctx))
    (h' : o' = (.err e', ctx)) : SameAnswer o o' := by
  subst h h'
  constructor
  · simp
  · simp
  · rfl

/-- A packet that becomes a whole request with the byte after it: a header without its command,
which must not be one that needs more, Set Endpoint ID without its EID, or Get Routing Table Entries
without its entry handle. -/
def TakesPacketErrorCode (packet : Bytes) (pec : UInt8) : Prop :=
  packet.length = 6 ∧ pec ≠ CommandCode.setEndpointID.toU8 ∧
      pec ≠ CommandCode.getRoutingTableEntries.toU8 ∨
    packet[6]? = some CommandCode.setEndpointID.toU8 ∧ packet.length = 8 ∨
    packet[6]? = some CommandCode.getRoutingTableEntries.toU8 ∧ packet.length = 7

instance (packet : Bytes) (pec : UInt8) : Decidable (TakesPacketErrorCode packet pec) :=
  inferInstanceAs (Decidable (_ ∧ _ ∧ _ ∨ _ ∧ _ ∨ _ ∧ _))

namespace MctpEndpointContext

section

variable (ctx : MctpEndpointContext) (packet : Bytes) (pec : UInt8)

/-- The packet error code makes a whole request exactly of a packet that is refused without it. -/
theorem takesPacketErrorCode_iff :
    TakesPacketErrorCode packet pec ↔ IsRefused packet ∧ ¬ IsRefused (packet ++ [pec]) := by
  have hlength : (packet ++ [pec]).length = packet.length + 1 := List.length_append
  have hne : ¬ CommandCode.setEndpointID.toU8 = CommandCode.getRoutingTableEntries.toU8 := by
    decide
  rw [TakesPacketErrorCode, IsRefused, IsRefused, hlength]
  rcases lt_trichotomy packet.length 6 with hlt | heq | hgt
  · -- Even with the byte there is no whole header.
    have hnone : packet[6]? = none := List.getElem?_eq_none (by omega)
    rw [hnone]
    simp
    omega
  · have hnone : packet[6]? = none := List.getElem?_eq_none (by omega)
    have hpec : (packet ++ [pec])[6]? = some pec := by
      rw [← heq, List.getElem?_concat_length]
    rw [hnone, hpec]
    simp [heq]
  · have hsame : (packet ++ [pec])[6]? = packet[6]? := List.getElem?_append_left hgt
    rw [hsame]
    by_cases hset : packet[6]? = some CommandCode.setEndpointID.toU8
    · simp only [hset, Option.some.injEq, hne, true_and, false_and, or_false]
      omega
    · simp only [hset, false_and, false_or]
      by_cases hget : packet[6]? = some CommandCode.getRoutingTableEntries.toU8
      · simp only [hget, true_and]
        omega
      · simp only [hget, false_and, or_false]
        omega

/-- Behind a request that is not refused, a byte is not looked at. -/
theorem handleRequest_concat (h : ¬ IsRefused packet) :
    ctx.handleRequest (packet ++ [pec]) = ctx.handleRequest packet := by
  cases arm packet with
  | short hlt => exact absurd (.inl hlt) h
  | setEndpointID => simp only [List.cons_append, handleRequest_setEndpointID]
  | setEndpointIDShort b₀ b₁ b₂ b₃ b₄ b₅ hlt =>
    exact absurd ((isRefused_cons _ _ _ _ _ _ _ _).mpr (.inl ⟨rfl, hlt⟩)) h
  | getEndpointID => simp only [List.cons_append, handleRequest_getEndpointID]
  | discoveryNotify => simp only [List.cons_append, handleRequest_discoveryNotify]
  | getRoutingTableEntries => simp only [List.cons_append, handleRequest_getRoutingTableEntries]
  | getRoutingTableEntriesShort b₀ b₁ b₂ b₃ b₄ b₅ hlt =>
    exact absurd ((isRefused_cons _ _ _ _ _ _ _ _).mpr (.inr ⟨rfl, hlt⟩)) h
  | unsupported b₀ b₁ b₂ b₃ b₄ b₅ rest hle hother =>
    simp only [List.cons_append, handleRequest_unsupported ctx _ _ _ _ _ _ _ hle hother]
  | unknown b₀ b₁ b₂ b₃ b₄ b₅ rest hgt =>
    simp only [List.cons_append, handleRequest_unknown ctx _ _ _ _ _ _ _ hgt]

end

/-- The packet error code that is left in a packet changes neither the answer nor the state, except
when it completes a packet that is a byte too short for its command: then it is taken for the
command, the EID or the entry handle. -/
theorem handleRequest_concat_iff (ctx : MctpEndpointContext) (packet : Bytes) (pec : UInt8) :
    SameAnswer (ctx.handleRequest (packet ++ [pec])) (ctx.handleRequest packet) ↔
      ¬ TakesPacketErrorCode packet pec := by
  rw [takesPacketErrorCode_iff]
  by_cases hrefused : IsRefused packet
  swap
  · rw [handleRequest_concat ctx packet pec hrefused]
    exact iff_of_true (.refl _) fun htakes => hrefused htakes.1
  have herr := (ctx.handleRequest_err_iff packet).mpr hrefused
  have hstate := ctx.handleRequest_snd_of_isRefused packet hrefused
  by_cases hboth : IsRefused (packet ++ [pec])
  · have herr' := (ctx.handleRequest_err_iff (packet ++ [pec])).mpr hboth
    have hstate' := ctx.handleRequest_snd_of_isRefused (packet ++ [pec]) hboth
    obtain ⟨e, he⟩ := herr
    obtain ⟨e', he'⟩ := herr'
    exact iff_of_true (.of_err (Prod.ext he' hstate') (Prod.ext he hstate))
      fun htakes => htakes.2 hboth
  · refine iff_of_false (fun hsame => ?_) (not_not.mpr ⟨hrefused, hboth⟩)
    obtain ⟨e, he⟩ := herr
    have hnot := mt (ctx.handleRequest_err_iff (packet ++ [pec])).mp hboth
    cases hanswer : (ctx.handleRequest (packet ++ [pec])).1 with
    | ok r => cases he.symm.trans ((hsame.reply r).mp hanswer)
    | err e' => exact hnot ⟨e', hanswer⟩
    | panic message =>
      obtain ⟨message', hpanic⟩ := hsame.panic.mp ⟨message, hanswer⟩
      cases he.symm.trans hpanic

end MctpEndpointContext

end MctpEmu
