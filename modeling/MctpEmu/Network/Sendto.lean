import MctpEmu.Network.SimpleNetwork

/-!
# Calls that do not get their packet transmitted

`sendto` checks its arguments, registers its flow, and then unwraps the result of the
transmission. A call that is refused by a check before the registration returns an error; one that
fails later panics and leaves its flow behind.

## Main definitions

* `SimpleNetwork.startSendto`: `sendto` until it waits for its response.
* `SimpleNetwork.FailsCleanly`: a call without transmission returns an error and keeps the flows.
* `SimpleNetwork.Refused`, `SimpleNetwork.Accepted`: the two ways in which a call is well behaved.

## Main results

* `SimpleNetwork.startSendto_extended`: the result of a call of a bound socket.
* `SimpleNetwork.failsCleanly_iff`: exactly when a call fails cleanly.
-/

namespace MctpEmu

namespace SimpleNetwork

/-- `MctpNetwork::sendto` until it waits for its response, which it does on `ok`. -/
def startSendto (pec : Bytes → UInt8) (sends : Except IoError ℕ × Except IoError ℕ)
    (net : SimpleNetwork) (channel : ℕ) (sd : Int32) (payload : Bytes) (addr : SocketAddress) :
    Outcome MctpEmuError Unit × SimpleNetwork :=
  match net.registerFlow channel sd payload addr with
  | (.err e, net) => (.err e, net)
  | (.panic message, net) => (.panic message, net)
  | (.ok (binding, buf, phyAddr), net) =>
    match (binding.transmit pec sends buf phyAddr).1 with
    | .ok () => (.ok (), net)
    | .err _ => (.panic "called Result::unwrap() on an Err value", net)
    | .panic message => (.panic message, net)

section

variable (pec : Bytes → UInt8) (sends : Except IoError ℕ × Except IoError ℕ)
  (net : SimpleNetwork) (channel : ℕ) (sd : Int32) (payload : Bytes) (addr : SocketAddress)

/-- A call whose packet is not transmitted returns an error, without a panic, and leaves the flow
list as it was. -/
def FailsCleanly : Prop :=
  (net.startSendto pec sends channel sd payload addr).1 ≠ .ok () →
    (∃ e, (net.startSendto pec sends channel sd payload addr).1 = .err e) ∧
      (net.startSendto pec sends channel sd payload addr).2.flows = net.flows

/-- An extended address that does not name the binding, or a descriptor that is not bound. -/
def Refused : Prop :=
  ∃ address network bindingId phyAddr, addr = .extended address network bindingId phyAddr ∧
    (bindingId ≠ 1 ∨ net.clients sd = none)

/-- A call that is transmitted: every check is passed and the socket takes the frame. -/
def Accepted : Prop :=
  ∃ client address network phyAddr, net.clients sd = some client ∧
    addr = .extended address network 1 phyAddr ∧ net.flowsPoisoned = false ∧
    net.physBindings.Transmits pec sends (packet client address payload) phyAddr

/-- A bound socket on a network without a poisoned mutex registers its flow and then either waits
or panics. -/
theorem startSendto_extended {client : Client} (h : net.clients sd = some client)
    (hpoison : net.flowsPoisoned = false) (address : UInt8) (network : UInt32)
    (phyAddr : UInt64) :
    (net.startSendto pec sends channel sd payload (.extended address network 1 phyAddr)).2 =
        { net with flows := net.flows ++ [(flowTag client address, channel)] } ∧
      ((net.physBindings.Transmits pec sends (packet client address payload) phyAddr ∧
          (net.startSendto pec sends channel sd payload
            (.extended address network 1 phyAddr)).1 = .ok ()) ∨
        (¬ net.physBindings.Transmits pec sends (packet client address payload) phyAddr ∧
          ∃ message, (net.startSendto pec sends channel sd payload
            (.extended address network 1 phyAddr)).1 = .panic message)) := by
  have hreg := registerFlow_extended net channel sd payload h address network phyAddr
  rw [if_neg (Bool.eq_false_iff.mp hpoison)] at hreg
  have hiff := SmbusNetDevBinding.transmit_eq_ok_iff pec sends net.physBindings
    (packet client address payload) phyAddr
  simp only [startSendto, hreg]
  cases hsent : (net.physBindings.transmit pec sends (packet client address payload)
    phyAddr).1 with
  | ok u => exact ⟨rfl, .inl ⟨hiff.mp hsent, rfl⟩⟩
  | err e =>
    refine ⟨rfl, .inr ⟨fun ht => ?_, _, rfl⟩⟩
    rw [hiff.mpr ht] at hsent
    cases hsent
  | panic message =>
    refine ⟨rfl, .inr ⟨fun ht => ?_, _, rfl⟩⟩
    rw [hiff.mpr ht] at hsent
    cases hsent

/-- A refused call returns an error and changes nothing. -/
theorem startSendto_of_refused (h : net.Refused sd addr) :
    ∃ e, net.startSendto pec sends channel sd payload addr = (.err e, net) := by
  obtain ⟨address, network, bindingId, phyAddr, rfl, hrefused⟩ := h
  by_cases hid : bindingId = 1
  · subst hid
    have hunbound := hrefused.resolve_left fun hne => hne rfl
    refine ⟨.network (.invalidSocketError sd), ?_⟩
    rw [startSendto, registerFlow_of_unbound net channel sd payload hunbound]
  · refine ⟨.network (.invalidBindingError bindingId), ?_⟩
    rw [startSendto, registerFlow_of_binding net channel sd payload hid]

/-- A call that is neither refused nor accepted panics. -/
theorem startSendto_of_not (hrefused : ¬ net.Refused sd addr)
    (haccepted : ¬ net.Accepted pec sends sd payload addr) :
    ∃ message, (net.startSendto pec sends channel sd payload addr).1 = .panic message := by
  cases addr with
  | basic address msgType tag => exact ⟨_, rfl⟩
  | extended address network bindingId phyAddr =>
    have hid : bindingId = 1 := by
      by_contra hne
      exact hrefused ⟨address, network, bindingId, phyAddr, rfl, .inl hne⟩
    subst hid
    obtain ⟨client, hclient⟩ : ∃ client, net.clients sd = some client := by
      refine Option.ne_none_iff_exists'.mp fun hnone => ?_
      exact hrefused ⟨address, network, 1, phyAddr, rfl, .inr hnone⟩
    by_cases hpoison : net.flowsPoisoned = true
    · have hreg := registerFlow_extended net channel sd payload hclient address network phyAddr
      rw [if_pos hpoison] at hreg
      exact ⟨"PoisonError", by rw [startSendto, hreg]⟩
    · have hfalse := Bool.eq_false_iff.mpr hpoison
      obtain ⟨-, ⟨ht, -⟩ | ⟨-, hpanic⟩⟩ := startSendto_extended pec sends net channel sd payload
        hclient hfalse address network phyAddr
      · exact absurd ⟨client, address, network, phyAddr, hclient, rfl, hfalse, ht⟩ haccepted
      · exact hpanic

theorem startSendto_of_accepted (h : net.Accepted pec sends sd payload addr) :
    (net.startSendto pec sends channel sd payload addr).1 = .ok () := by
  obtain ⟨client, address, network, phyAddr, hclient, rfl, hpoison, ht⟩ := h
  obtain ⟨-, ⟨-, hok⟩ | ⟨hnot, -⟩⟩ := startSendto_extended pec sends net channel sd payload
    hclient hpoison address network phyAddr
  · exact hok
  · exact absurd ht hnot

/-- **When a call fails cleanly.** A call without transmission returns an error and leaves the
flows exactly when it is refused for its binding id or its descriptor; otherwise it must be
accepted and transmitted, or else it panics. -/
theorem failsCleanly_iff :
    FailsCleanly pec sends net channel sd payload addr ↔
      net.Refused sd addr ∨ net.Accepted pec sends sd payload addr := by
  constructor
  · intro h
    by_contra hnot
    obtain ⟨hrefused, haccepted⟩ := not_or.mp hnot
    obtain ⟨message, hpanic⟩ := startSendto_of_not pec sends net channel sd payload addr hrefused
      haccepted
    obtain ⟨⟨e, he⟩, -⟩ := h (by rw [hpanic]; nofun)
    rw [hpanic] at he
    cases he
  · rintro (hrefused | haccepted) hne
    · obtain ⟨e, he⟩ := startSendto_of_refused pec sends net channel sd payload addr hrefused
      exact ⟨⟨e, by rw [he]⟩, by rw [he]⟩
    · exact absurd (startSendto_of_accepted pec sends net channel sd payload addr haccepted) hne

end

/-- A call to the address `0x86`, which is no SMBus address, panics and leaves its flow, and a
call to a basic address panics. -/
theorem not_failsCleanly_invalidAddress :
    ¬ FailsCleanly crc8 (.ok 9, .ok 9)
      { new ⟨0x10, 1, some ⟨"localhost:5558", "localhost:5559"⟩⟩ with
        clients := fun sd => if sd = 0 then some ⟨0x08, 0, 0⟩ else none }
      0 0 [0x00, 0x80, 0x02] (.extended 0x0A 1 1 0x86) ∧
    (startSendto crc8 (.ok 9, .ok 9)
      { new ⟨0x10, 1, some ⟨"localhost:5558", "localhost:5559"⟩⟩ with
        clients := fun sd => if sd = 0 then some ⟨0x08, 0, 0⟩ else none }
      0 0 [0x00, 0x80, 0x02] (.extended 0x0A 1 1 0x86)).2.flows = [(⟨0x0A, 0x08, 0, true⟩, 0)] ∧
    ¬ FailsCleanly crc8 (.ok 9, .ok 9)
      { new ⟨0x10, 1, some ⟨"localhost:5558", "localhost:5559"⟩⟩ with
        clients := fun sd => if sd = 0 then some ⟨0x08, 0, 0⟩ else none }
      0 0 [0x00, 0x80, 0x02] (.basic 0x0A 0 0) := by
  refine ⟨fun h => ?_, rfl, fun h => ?_⟩
  · obtain ⟨⟨e, he⟩, -⟩ := h (by nofun)
    cases he
  · obtain ⟨⟨e, he⟩, -⟩ := h (by nofun)
    cases he

end SimpleNetwork

end MctpEmu
