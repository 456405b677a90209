import MctpEmu.Endpoint.HandleRequest

/-!
# Runs of a responder

An endpoint handles one packet after another. The bytes of a packet decide whether it is answered,
refused or reaches the `todo!()`, and what it does to the state; the state after a run is read off
the packets.

## Main definitions

* `MctpEndpointContext.respond`: the state after a sequence of packets.
* `MctpEndpointContext.IsRefused`: a packet too short for the structures it is parsed with.
* `MctpEndpointContext.requestedEid`: the EID that a whole Set Endpoint ID packet asks for.

## Main results

* `MctpEndpointContext.handleRequest_err_iff`, `MctpEndpointContext.handleRequest_panic_iff`,
  `MctpEndpointContext.handleRequest_ok_iff`, `MctpEndpointContext.handleRequest_snd`: the outcome
  and the state after one packet.
* `MctpEndpointContext.respond_eq`: the state after a run.
* `MctpEndpointContext.respond_run`: the outcomes and the state of a run of defined commands.
* `MctpEndpointContext.answersUnsupported_iff`: unsupported commands are answered as such exactly
  when their command byte is defined.
-/

namespace MctpEmu

namespace MctpEndpointContext

/-- The state after a sequence of packets. -/
def respond (ctx : MctpEndpointContext) (packets : List Bytes) : MctpEndpointContext :=
  packets.foldl (fun ctx b => (ctx.handleRequest b).2) ctx

/-- A packet too short for the structures that it is parsed with. -/
def IsRefused (b : Bytes) : Prop :=
  b.length < 7 ∨ b[6]? = some CommandCode.setEndpointID.toU8 ∧ b.length < 9 ∨
    b[6]? = some CommandCode.getRoutingTableEntries.toU8 ∧ b.length < 8

instance : DecidablePred IsRefused := fun b => by
  unfold IsRefused
  infer_instance

/-- The EID that a whole Set Endpoint ID packet asks for. -/
def requestedEid (b : Bytes) : Option UInt8 :=
  if b[6]? = some CommandCode.setEndpointID.toU8 then b[8]? else none

/-- A packet with the command Discovery Notify. -/
def notifiesDiscovery (b : Bytes) : Bool := b[6]? = some CommandCode.discoveryNotify.toU8

/-! ### One packet -/

theorem isRefused_cons (b₀ b₁ b₂ b₃ b₄ b₅ b₆ : UInt8) (tail : Bytes) :
    IsRefused (b₀ :: b₁ :: b₂ :: b₃ :: b₄ :: b₅ :: b₆ :: tail) ↔
      b₆ = 0x01 ∧ tail.length < 2 ∨ b₆ = 0x0A ∧ tail.length < 1 := by
  have hget : (b₀ :: b₁ :: b₂ :: b₃ :: b₄ :: b₅ :: b₆ :: tail)[6]? = some b₆ := rfl
  have hlen : (b₀ :: b₁ :: b₂ :: b₃ :: b₄ :: b₅ :: b₆ :: tail).length = tail.length + 7 := rfl
  rw [IsRefused, hget, hlen, Option.some_inj, Option.some_inj]
  constructor
  · rintro (h | ⟨h, hlt⟩ | ⟨h, hlt⟩)
    · omega
    · exact .inl ⟨h, by omega⟩
    · exact .inr ⟨h, by omega⟩
  · rintro (⟨h, hlt⟩ | ⟨h, hlt⟩)
    · exact .inr (.inl ⟨h, by omega⟩)
    · exact .inr (.inr ⟨h, by omega⟩)

/-- A command byte without an arm of its own. -/
theorem ne_of_not_mem_implementedCommands {c : UInt8} (h : c ∉ implementedCommands) :
    c ≠ 0x01 ∧ c ≠ 0x02 ∧ c ≠ 0x0D ∧ c ≠ 0x0A := by
  refine ⟨?_, ?_, ?_, ?_⟩ <;> rintro rfl <;> exact h (by decide)

section Packet

variable (ctx : MctpEndpointContext) (b : Bytes)

/-- A packet is refused exactly when it is too short. -/
theorem handleRequest_err_iff :
    (∃ e, (ctx.handleRequest b).1 = .err e) ↔ IsRefused b := by
  cases arm b with
  | short h =>
    rw [handleRequest_of_lt ctx h]
    exact ⟨fun _ => .inl h, fun _ => ⟨_, rfl⟩⟩
  | setEndpointID b₀ b₁ b₂ b₃ b₄ b₅ b₇ b₈ rest =>
    rw [handleRequest_setEndpointID, isRefused_cons]
    simp
  | setEndpointIDShort b₀ b₁ b₂ b₃ b₄ b₅ h =>
    rw [handleRequest_setEndpointID_of_lt ctx _ _ _ _ _ _ h, isRefused_cons]
    exact ⟨fun _ => .inl ⟨rfl, h⟩, fun _ => ⟨_, rfl⟩⟩
  | getEndpointID b₀ b₁ b₂ b₃ b₄ b₅ rest =>
    rw [handleRequest_getEndpointID, isRefused_cons]
    simp
  | discoveryNotify b₀ b₁ b₂ b₃ b₄ b₅ rest =>
    rw [handleRequest_discoveryNotify, isRefused_cons]
    simp
  | getRoutingTableEntries b₀ b₁ b₂ b₃ b₄ b₅ b₇ rest =>
    rw [handleRequest_getRoutingTableEntries, isRefused_cons]
    simp
  | getRoutingTableEntriesShort b₀ b₁ b₂ b₃ b₄ b₅ h =>
    rw [handleRequest_getRoutingTableEntries_of_lt ctx _ _ _ _ _ _ h, isRefused_cons]
    exact ⟨fun _ => .inr ⟨rfl, h⟩, fun _ => ⟨_, rfl⟩⟩
  | unsupported b₀ b₁ b₂ b₃ b₄ b₅ rest hle hother =>
    obtain ⟨h₁, -, -, h₄⟩ := ne_of_not_mem_implementedCommands hother
    rw [handleRequest_unsupported ctx _ _ _ _ _ _ rest hle hother, isRefused_cons]
    simp [h₁, h₄]
  | @unknown b₀ b₁ b₂ b₃ b₄ b₅ b₆ rest hgt =>
    have hne : b₆ ≠ 0x01 ∧ b₆ ≠ 0x0A := by
      constructor <;> rintro rfl <;> exact hgt (by decide)
    rw [handleRequest_unknown ctx _ _ _ _ _ _ rest hgt, isRefused_cons]
    simp [hne]

/-- The `todo!()` is reached exactly with a command byte outside of the defined range. -/
theorem handleRequest_panic_iff :
    (∃ message, (ctx.handleRequest b).1 = .panic message) ↔ ∃ c, b[6]? = some c ∧ ¬ c ≤ 0x14 := by
  cases arm b with
  | short h =>
    rw [handleRequest_of_lt ctx h, List.getElem?_eq_none (Nat.le_of_lt_succ h)]
    simp
  | setEndpointID =>
    rw [handleRequest_setEndpointID]
    simp
  | setEndpointIDShort b₀ b₁ b₂ b₃ b₄ b₅ h =>
    rw [handleRequest_setEndpointID_of_lt ctx _ _ _ _ _ _ h]
    simp
  | getEndpointID =>
    rw [handleRequest_getEndpointID]
    simp
  | discoveryNotify =>
    rw [handleRequest_discoveryNotify]
    simp
  | getRoutingTableEntries =>
    rw [handleRequest_getRoutingTableEntries]
    simp
  | getRoutingTableEntriesShort b₀ b₁ b₂ b₃ b₄ b₅ h =>
    rw [handleRequest_getRoutingTableEntries_of_lt ctx _ _ _ _ _ _ h]
    simp
  | unsupported b₀ b₁ b₂ b₃ b₄ b₅ rest hle hother =>
    rw [handleRequest_unsupported ctx _ _ _ _ _ _ rest hle hother]
    simpa using hle
  | unknown b₀ b₁ b₂ b₃ b₄ b₅ rest hgt =>
    rw [handleRequest_unknown ctx _ _ _ _ _ _ rest hgt]
    simpa using hgt

/-- Every packet that is neither refused nor undefined is answered. -/
theorem handleRequest_ok_iff :
    (∃ r, (ctx.handleRequest b).1 = .ok r) ↔
      ¬ IsRefused b ∧ ∀ c, b[6]? = some c → c ≤ 0x14 := by
  have herr := ctx.handleRequest_err_iff b
  have hpanic := ctx.handleRequest_panic_iff b
  have hdefined : (¬ ∃ c, b[6]? = some c ∧ ¬ c ≤ 0x14) ↔ ∀ c, b[6]? = some c → c ≤ 0x14 := by
    simp only [not_exists, not_and, not_not]
  rw [← hdefined, ← herr, ← hpanic]
  cases (ctx.handleRequest b).1 with
  | ok r => simp
  | err e => simp
  | panic message => simp

/-- A whole Set Endpoint ID packet assigns its EID, Discovery Notify raises the flag, and no other
packet changes the state. -/
theorem handleRequest_snd :
    (ctx.handleRequest b).2 = { ctx with
      assignedEid := (requestedEid b).getD ctx.assignedEid
      performDiscovery := ctx.performDiscovery || notifiesDiscovery b } := by
  cases arm b with
  | short h =>
    rw [handleRequest_of_lt ctx h, requestedEid, notifiesDiscovery,
      List.getElem?_eq_none (Nat.le_of_lt_succ h)]
    simp
  | setEndpointID =>
    rw [handleRequest_setEndpointID]
    simp [requestedEid, notifiesDiscovery, CommandCode.toU8]
  | setEndpointIDShort b₀ b₁ b₂ b₃ b₄ b₅ h =>
    rw [handleRequest_setEndpointID_of_lt ctx _ _ _ _ _ _ h]
    simp [requestedEid, notifiesDiscovery, CommandCode.toU8, Nat.le_of_lt_succ h]
  | getEndpointID =>
    rw [handleRequest_getEndpointID]
    simp [requestedEid, notifiesDiscovery, CommandCode.toU8]
  | discoveryNotify =>
    rw [handleRequest_discoveryNotify]
    simp [requestedEid, notifiesDiscovery, CommandCode.toU8]
  | getRoutingTableEntries =>
    rw [handleRequest_getRoutingTableEntries]
    simp [requestedEid, notifiesDiscovery, CommandCode.toU8]
  | getRoutingTableEntriesShort b₀ b₁ b₂ b₃ b₄ b₅ h =>
    rw [handleRequest_getRoutingTableEntries_of_lt ctx _ _ _ _ _ _ h]
    simp [requestedEid, notifiesDiscovery, CommandCode.toU8]
  | unsupported b₀ b₁ b₂ b₃ b₄ b₅ rest hle hother =>
    obtain ⟨h₁, -, h₃, -⟩ := ne_of_not_mem_implementedCommands hother
    rw [handleRequest_unsupported ctx _ _ _ _ _ _ rest hle hother]
    simp [requestedEid, notifiesDiscovery, CommandCode.toU8, h₁, h₃]
  | @unknown b₀ b₁ b₂ b₃ b₄ b₅ b₆ rest hgt =>
    have hne : b₆ ≠ 0x01 ∧ b₆ ≠ 0x0D := by
      constructor <;> rintro rfl <;> exact hgt (by decide)
    rw [handleRequest_unknown ctx _ _ _ _ _ _ rest hgt]
    simp [requestedEid, notifiesDiscovery, CommandCode.toU8, hne]

/-- A refused packet changes nothing. -/
theorem handleRequest_snd_of_isRefused (h : IsRefused b) : (ctx.handleRequest b).2 = ctx := by
  have hstate : requestedEid b = none ∧ notifiesDiscovery b = false := by
    rcases h with h | ⟨hcmd, h⟩ | ⟨hcmd, -⟩
    · have hnone : b[6]? = none := List.getElem?_eq_none (Nat.le_of_lt_succ h)
      simp [requestedEid, notifiesDiscovery, hnone]
    · have hnone : b[8]? = none := List.getElem?_eq_none (Nat.le_of_lt_succ h)
      simp [requestedEid, notifiesDiscovery, hcmd, hnone, CommandCode.toU8]
    · simp [requestedEid, notifiesDiscovery, hcmd, CommandCode.toU8]
  rw [handleRequest_snd, hstate.1, hstate.2, Option.getD_none, Bool.or_false]

end Packet

/-! ### Runs -/

theorem respond_cons (ctx : MctpEndpointContext) (b : Bytes) (packets : List Bytes) :
    ctx.respond (b :: packets) = (ctx.handleRequest b).2.respond packets := rfl

/-- The last whole Set Endpoint ID packet decides the EID, and any Discovery Notify the flag. -/
theorem respond_eq (ctx : MctpEndpointContext) (packets : List Bytes) :
    ctx.respond packets = { ctx with
      assignedEid := (packets.filterMap requestedEid).getLastD ctx.assignedEid
      performDiscovery := ctx.performDiscovery || packets.any notifiesDiscovery } := by
  induction packets generalizing ctx with
  | nil => simp [respond]
  | cons b packets ih =>
    rw [respond_cons, ih, handleRequest_snd, List.any_cons, Bool.or_assoc]
    cases heid : requestedEid b with
    | none => rw [List.filterMap_cons_none heid, Option.getD_none]
    | some eid => rw [List.filterMap_cons_some heid, List.getLastD_cons, Option.getD_some]

/-- A packet is refused exactly when it is too short, then changes nothing, and is answered
otherwise; the last whole Set Endpoint ID packet decides the EID, and any Discovery Notify the
flag. -/
theorem respond_run (ctx : MctpEndpointContext) (packets : List Bytes)
    (hdefined : ∀ b ∈ packets, ∀ c, b[6]? = some c → c ≤ 0x14) :
    (∀ before b after, packets = before ++ b :: after →
      ((∃ e, ((ctx.respond before).handleRequest b).1 = .err e) ↔ IsRefused b) ∧
      (∀ e, ((ctx.respond before).handleRequest b).1 = .err e →
        ((ctx.respond before).handleRequest b).2 = ctx.respond before) ∧
      (¬ IsRefused b → ∃ r, ((ctx.respond before).handleRequest b).1 = .ok r)) ∧
    (ctx.respond packets).assignedEid =
      (packets.filterMap requestedEid).getLastD ctx.assignedEid ∧
    ((ctx.respond packets).performDiscovery = true ↔ ctx.performDiscovery = true ∨
      ∃ b ∈ packets, b[6]? = some CommandCode.discoveryNotify.toU8) := by
  refine ⟨?_, ?_, ?_⟩
  · rintro before b after rfl
    have herr := handleRequest_err_iff (ctx.respond before) b
    refine ⟨herr, fun e he => ?_, fun hwhole => ?_⟩
    · exact handleRequest_snd_of_isRefused _ b (herr.mp ⟨e, he⟩)
    · exact (handleRequest_ok_iff _ b).mpr ⟨hwhole, hdefined b (by simp)⟩
  · rw [respond_eq]
  · rw [respond_eq]
    simp [notifiesDiscovery]

/-- An assignment, a refused one and a notification. -/
theorem respond_run_assignment :
    (respond ⟨5, false, 0x80, 32, 1, 1⟩ [[0x01, 0x00, 0x08, 0xC8, 0x00, 0x80, 0x01, 0x00, 0x2A],
      [0x01, 0x00, 0x08, 0xC9, 0x00, 0x81, 0x01, 0x00],
      [0x01, 0x00, 0x08, 0xCA, 0x00, 0x82, 0x0D]]).assignedEid = 0x2A :=
  (respond_run ⟨5, false, 0x80, 32, 1, 1⟩ [[0x01, 0x00, 0x08, 0xC8, 0x00, 0x80, 0x01, 0x00, 0x2A],
    [0x01, 0x00, 0x08, 0xC9, 0x00, 0x81, 0x01, 0x00],
    [0x01, 0x00, 0x08, 0xCA, 0x00, 0x82, 0x0D]] (by simp)).2.1

/-! ### Unsupported commands -/

/-- What is asked for commands without an implementation: no panic, and a reply that says so with
the state left alone. -/
def AnswersUnsupported (ctx : MctpEndpointContext) (b : Bytes) : Prop :=
  (∀ message, (ctx.handleRequest b).1 ≠ .panic message) ∧
  ∀ c, b[6]? = some c → c ∉ implementedCommands →
    ∃ r payload resp, (ctx.handleRequest b).1 = .ok r ∧
      ControlPayload.tryToResponse EmptyResponse r = .ok (payload, resp) ∧
      resp.completionCode = CompletionCode.errorUnsupportedCmd.toU8 ∧
      (ctx.handleRequest b).2.assignedEid = ctx.assignedEid ∧
      (ctx.handleRequest b).2.performDiscovery = ctx.performDiscovery

/-- A command without an implementation is answered as unsupported, and no packet panics, exactly
for the packets without a command byte outside of the defined range. -/
theorem answersUnsupported_iff (ctx : MctpEndpointContext) (b : Bytes) :
    AnswersUnsupported ctx b ↔ ∀ c, b[6]? = some c → c ≤ 0x14 := by
  have hpanic := handleRequest_panic_iff ctx b
  constructor
  · rintro ⟨hnever, -⟩ c hc
    by_contra hgt
    obtain ⟨message, hmessage⟩ := hpanic.mpr ⟨c, hc, hgt⟩
    exact hnever message hmessage
  · intro hdefined
    refine ⟨fun message hmessage => ?_, fun c hc hother => ?_⟩
    · obtain ⟨c, hc, hgt⟩ := hpanic.mp ⟨message, hmessage⟩
      exact hgt (hdefined c hc)
    · obtain ⟨b₀, b₁, b₂, b₃, b₄, b₅, rest, rfl⟩ := ControlPayload.exists_eq_cons_of_getElem? hc
      have hok := handleRequest_unsupported ctx b₀ b₁ b₂ b₃ b₄ b₅ rest (hdefined c hc) hother
      obtain ⟨payload, hread, -⟩ := exists_tryToResponse_reply (α := EmptyResponse) b₁ b₂ b₃ b₄ b₅
        c .errorUnsupportedCmd [] rfl
      rw [hok]
      exact ⟨_, payload, _, rfl, hread, rfl, rfl, rfl⟩

/-- The first undefined command byte panics. -/
theorem not_answersUnsupported : ¬ ∀ ctx b, AnswersUnsupported ctx b := by
  intro h
  have hdefined := (h ⟨0, false, 0x80, 32, 1, 1⟩
    [0x01, 0x00, 0x08, 0xC8, 0x00, 0x80, 0x15]).1 "not yet implemented"
  exact hdefined (congrArg Prod.fst (handleRequest_unknown _ _ _ _ _ _ _ [] (by decide)))

end MctpEndpointContext

end MctpEmu
