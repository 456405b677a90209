import MctpEmu.Network.Polling
import MctpEmu.Phys.Transmissions

/-!
# The frames of a network

What the socket of a binding has taken from the calls of a network. A datagram socket takes a frame
whole or not at all.

## Main definitions

* `Network.Wired`: a network with its receive path, and the frames that its socket has taken.
* `Network.CarriesPacket`: a frame of a call.

## Main results

* `Network.Wired.carries_run`: every frame carries the packet of a call, with its packet error code.
-/

namespace MctpEmu

namespace Network

/-- The frames that the socket takes in a step of the calls. -/
def transmitted (pec : Bytes → UInt8) (s : State) : Event → List Bytes
  | .transmit i sends =>
    match s.calls[i]? with
    | none => []
    | some call =>
      ((s.net.physBindings.transmit pec sends call.packet call.phyAddr).2.filter
        TrySend.isTaken).map TrySend.buf
  | _ => []

/-- A network with the frames that its socket has taken. -/
structure Wired where
  polling : Polling
  frames : List Bytes

/-- A frame is an SMBus header in front of the packet of a call and its packet error code. -/
def CarriesPacket (pec : Bytes → UInt8) (s : State) (frame : Bytes) : Prop :=
  ∃ (i : ℕ) (call : Call) (hdr : Bytes), s.calls[i]? = some call ∧ IsPacket call.packet ∧
    call.packet.length < 256 ∧ hdr.length = 4 ∧ frame = hdr ++ (call.packet ++ [pec call.packet])

section Calls

variable {pec : Bytes → UInt8} {s s' : State} {e : Event}

/-- A call keeps its packet. -/
theorem exists_call_after_step (hs : WellFormed s) (h : step pec s e = some s') {i : ℕ}
    {call : Call} (hcall : s.calls[i]? = some call) :
    ∃ call', s'.calls[i]? = some call' ∧ call'.packet = call.packet := by
  obtain ⟨hlt, -⟩ := List.getElem?_eq_some_iff.mp hcall
  have hlt' := Nat.lt_of_lt_of_le hlt (length_calls_le_of_step hs h)
  refine ⟨s'.calls[i], List.getElem?_eq_getElem hlt', ?_⟩
  rcases exists_call_of_step hs h (List.getElem?_eq_getElem hlt') with
    ⟨-, hnone, -⟩ | ⟨c, hc, hsame, -⟩
  · rw [hcall] at hnone
    cases hnone
  · obtain rfl := Option.some.inj (hc.symm.trans hcall)
    exact hsame

theorem CarriesPacket.step (hs : WellFormed s) (h : Network.step pec s e = some s')
    {frame : Bytes} (hframe : CarriesPacket pec s frame) : CarriesPacket pec s' frame := by
  obtain ⟨i, call, hdr, hcall, hpacket, hlt, hhdr, rfl⟩ := hframe
  obtain ⟨call', hcall', hsame⟩ := exists_call_after_step hs h hcall
  exact ⟨i, call', hdr, hcall', hsame ▸ hpacket, hsame ▸ hlt, hhdr, by rw [hsame]⟩

/-- A call that transmits has the packet of a client. -/
theorem carriesPacket_of_mem_transmitted (hs : WellFormed s) (hsending : Sending s)
    (h : Network.step pec s e = some s') {frame : Bytes} (hframe : frame ∈ transmitted pec s e) :
    CarriesPacket pec s frame := by
  cases e with
  | transmit i sends =>
    -- The call waits for the lock, and so has the packet that it was made with.
    obtain ⟨call, hcall, hstage⟩ :
        ∃ call, s.calls[i]? = some call ∧ call.stage = .locking := by
      cases transition_of_step hs.poisoned_of_running h with
      | transmit hcall hstage | abort hcall hstage => exact ⟨_, hcall, hstage⟩
    simp only [transmitted, hcall] at hframe
    obtain ⟨trySend, hmem, rfl⟩ := List.mem_map.mp hframe
    have htaken := (List.mem_filter.mp hmem).1
    have hpacket := hsending.opened i call hcall (call.isOpen_iff.mpr (.inl hstage))
    have hbuf := SmbusNetDevBinding.buf_of_mem_transmit pec sends _ _ _ htaken
    have hlt : call.packet.length < 256 := by
      rcases s.net.physBindings.transmit_cases pec sends call.packet call.phyAddr with
        ⟨-, hnil, -⟩ | ⟨-, -, -, hlt, -⟩
      · rw [hnil] at htaken
        cases htaken
      · exact hlt
    rw [hbuf]
    refine ⟨i, call, _, hcall, hpacket, hlt, ?_, List.append_assoc _ _ _⟩
    exact FixedCodec.length_encode _
  | _ => cases hframe

end Calls

namespace Wired

/-- An event adds another binding than that of the network. -/
def addsOther : Polling.Event → Bool
  | .add (some _) => true
  | _ => false

/-- One step of a network whose own binding is the only one; its socket may take frames in it. -/
def step (pec : Bytes → UInt8) (w : Wired) (e : Polling.Event) : Option Wired :=
  if addsOther e then none else (Polling.step pec w.polling e).map fun polling =>
    ⟨polling, w.frames ++ match e with
      | .call e => transmitted pec w.polling.net e
      | _ => []⟩

/-- The start of a network: nothing was sent. -/
def init (binding : SmbusNetDevBinding) : Wired := ⟨.init binding, []⟩

section Runs

open StepSystem

variable {pec : Bytes → UInt8} {binding : SmbusNetDevBinding} {C : Wired → Polling.Event → Prop}
  {es : List Polling.Event} {w w' : Wired} {e : Polling.Event}

theorem step_eq_some (h : step pec w e = some w') :
    Polling.step pec w.polling e = some w'.polling ∧ ∃ frames, w'.frames = w.frames ++ frames ∧
      (frames = [] ∨ ∃ e', e = .call e' ∧ frames = transmitted pec w.polling.net e') := by
  unfold step at h
  split_ifs at h
  obtain ⟨polling, hstep, rfl⟩ := Option.map_eq_some_iff.mp h
  refine ⟨hstep, _, rfl, ?_⟩
  cases e with
  | call e => exact .inr ⟨e, rfl, rfl⟩
  | _ => exact .inl rfl

/-- Without the frames it is a run of the receive path. -/
theorem run_polling {w₀ : Wired} {E : Polling.Event → Prop}
    (h : Run (step pec) (fun _ e => E e) w₀ es w) :
    Run (Polling.step pec) (fun _ e => E e) w₀.polling es w.polling := by
  induction h with
  | nil => exact .nil
  | snoc _ hstep hC ih => exact ih.snoc (step_eq_some hstep).1 hC

/-- In every run each frame carries the packet of a call. -/
theorem carries_run (h : Run (step pec) C (init binding) es w) :
    WellFormed w.polling.net ∧ Sending w.polling.net ∧
      ∀ frame ∈ w.frames, CarriesPacket pec w.polling.net frame := by
  refine h.invariant (I := fun w => WellFormed w.polling.net ∧ Sending w.polling.net ∧
    ∀ frame ∈ w.frames, CarriesPacket pec w.polling.net frame)
    ⟨.init binding, .init binding, fun _ hframe => absurd hframe List.not_mem_nil⟩ ?_
  rintro w e w' ⟨hwf, hsending, hframes⟩ - hstep
  obtain ⟨hpolling, frames, hadd, hnew⟩ := step_eq_some hstep
  have hall : ∀ frame ∈ w'.frames, CarriesPacket pec w.polling.net frame := by
    intro frame hframe
    rw [hadd] at hframe
    rcases List.mem_append.mp hframe with hframe | hframe
    · exact hframes frame hframe
    · rcases hnew with rfl | ⟨e', rfl, rfl⟩
      · cases hframe
      · rw [Polling.step] at hpolling
        split_ifs at hpolling
        obtain ⟨net, hnet, -⟩ := Option.map_eq_some_iff.mp hpolling
        exact carriesPacket_of_mem_transmitted hwf hsending hnet hframe
  exact (Polling.run_of_step hpolling).invariant
    (I := fun s => WellFormed s ∧ Sending s ∧ ∀ frame ∈ w'.frames, CarriesPacket pec s frame)
    ⟨hwf, hsending, hall⟩ fun s e s' hs _ hnet => ⟨hs.1.step hnet, hs.2.1.step hs.1 hnet,
      fun frame hframe => (hs.2.2 frame hframe).step hs.1 hnet⟩

end Runs

end Wired

end Network

end MctpEmu
