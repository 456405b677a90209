import MctpEmu.BusOwner.Deliveries
import MctpEmu.BusOwner.Progress

/-!
# The requests that a bus owner answers

The transport task sends a frame for every request of the loop, and the responder answers every
packet with the tag owner set that it can parse: such a packet is never taken for a response, since
the requests of the loop have the tag owner set as well. While both tasks are there, none of them is
forgotten and none is answered twice.

## Main definitions

* `BusOwner.isRequestFrame`: a datagram with a request that the responder answers.
* `BusOwner.PhysicalTransportCommands.needsFrame`: a command that a frame is sent for.
* `BusOwner.Program.Serves`: the frames of the commands that need one.

## Main results

* `BusOwner.Program.isPacket_of_sender`: the packets of the loop have the tag owner set.
* `BusOwner.Program.serves_run`: the invariant holds in every run.
* `BusOwner.Program.answers_requests`: every request has been answered once when the tasks are idle.
-/

namespace MctpEmu

namespace BusOwner

open MctpEndpointContext (IsRefused)

/-- A datagram with a frame around a packet that has the tag owner set, is long enough for its
command, and has a command byte that is defined. -/
def isRequestFrame (buf : Bytes) : Bool :=
  decide (IsFrame buf) && (createTag (buf.drop 4)).any MsgFlowTag.tagOwner &&
    !decide (IsRefused (buf.drop 4)) && (buf.drop 4)[6]?.all (· ≤ 0x14)

/-- A command that a frame is sent for. -/
def PhysicalTransportCommands.needsFrame : PhysicalTransportCommands → Bool
  | receiveMsg buf => isRequestFrame buf
  | sendMsg _ _ => true

theorem isRequestFrame_iff {buf : Bytes} :
    isRequestFrame buf = true ↔ IsFrame buf ∧
      (∃ tag, createTag (buf.drop 4) = some tag ∧ tag.tagOwner = true) ∧
      ¬ IsRefused (buf.drop 4) ∧ ∀ c, (buf.drop 4)[6]? = some c → c ≤ 0x14 := by
  simp only [isRequestFrame, Bool.and_eq_true, decide_eq_true_eq, Option.any_eq_true,
    Bool.not_eq_true', decide_eq_false_iff_not, Option.all_eq_true, and_assoc]

/-- The send closure puts four bytes in front of a packet, and one behind it. -/
theorem exists_eq_of_sendFrame {overflowChecks : Bool} {pec : Bytes → UInt8}
    {destAddr7bit srcAddr7bit : UInt8} {packet frame : Bytes}
    (h : sendFrame overflowChecks pec destAddr7bit srcAddr7bit packet = some frame) :
    frame.length = packet.length + 5 ∧ ∃ b, frame.drop 4 = packet ++ [b] := by
  rw [sendFrame] at h
  split_ifs at h
  obtain rfl := Option.some.inj h
  refine ⟨?_, _, rfl⟩
  simp only [List.length_append, List.length_cons, List.length_nil]
  omega

/-- Every element of the second list has one of the first. -/
theorem exists_mem_of_forall₂ {α β : Type*} {R : α → β → Prop} {l : List α} {l' : List β}
    (h : List.Forall₂ R l l') {b : β} (hb : b ∈ l') : ∃ a ∈ l, R a b := by
  induction h with
  | nil => cases hb
  | cons hR _ ih =>
    rcases List.mem_cons.mp hb with rfl | hb
    · exact ⟨_, List.mem_cons_self, hR⟩
    · obtain ⟨a, ha, hRa⟩ := ih hb
      exact ⟨a, List.mem_cons_of_mem _ ha, hRa⟩

namespace Program

section Requests

variable {cfg : TransportConfig} {pingEid : UInt8} {ctx : MctpEndpointContext}
  {C : Program → Event → Prop} {es : List Event} {p : Program}

/-! ### The packets of the loop -/

/-- The requests of the loop are those of its senders. -/
theorem sendsRequests_run (h : StepSystem.Run (step cfg pingEid) C (init ctx) es p) :
    p.loop.SendsRequests := by
  have hinv := h.invariant (I := fun p => p.WellFormed ∧ p.loop.SendsRequests)
    ⟨wellFormed_init ctx, fun bytes hbytes => by cases hbytes⟩ fun _ _ _ hp _ hstep =>
      ⟨hp.1.step hstep, (run_loopEvents hp.1 hstep).invariant hp.2
        fun _ _ _ hs _ hloop => hs.step hloop⟩
  exact hinv.2

/-- A request of the loop is the packet of a client. -/
theorem isPacket_of_mem_history (h : StepSystem.Run (step cfg pingEid) C (init ctx) es p)
    {packet : Bytes} (hmem : .request packet ∈ p.loop.history) :
    Network.IsPacket packet ∧ IsPacketSize packet.length := by
  obtain ⟨q, ctx', hsend⟩ := sendsRequests_run h packet hmem
  obtain ⟨payload, hpacket, -⟩ := Session.exists_send_eq_packet q ctx'
  rw [hsend]
  exact ⟨⟨_, _, _, hpacket⟩, q.isPacketSize_send ctx'⟩

/-- A request that the transport task takes is the packet of a client. -/
theorem isPacket_of_mem_handled (h : StepSystem.Run (step cfg pingEid) C (init ctx) es p)
    {packet : Bytes} {resp : Option ℕ} (hmem : .sendMsg packet resp ∈ p.handled) :
    Network.IsPacket packet ∧ IsPacketSize packet.length := by
  have hordered := ordered_run h
  have hhanded := handed_run h
  have hcommand : (packet, resp) ∈ requestCommands p.accepted :=
    List.mem_filterMap.mpr ⟨_, hordered.received_prefix.subset hmem, rfl⟩
  obtain ⟨x, hx, heq⟩ := List.mem_map.mp (hhanded.is_prefix.subset hcommand)
  obtain ⟨rfl, -⟩ := Prod.mk.inj heq
  obtain ⟨m, hm, hrequest⟩ := List.mem_filterMap.mp (List.fst_mem_of_mem_zipIdx hx)
  cases m with
  | response bytes => cases hrequest
  | request bytes =>
    obtain rfl := Option.some.inj hrequest
    exact isPacket_of_mem_history h hm

/-- The packet of a sender of the loop is the packet of a client. -/
theorem isPacket_of_sender (h : StepSystem.Run (step cfg pingEid) C (init ctx) es p)
    {packet : Bytes} (hpacket : p.sender.packet = some packet) : Network.IsPacket packet := by
  obtain ⟨⟨exchanges, unanswered, hanswered⟩, -⟩ := delivers_run h
  have hlast := hanswered.eq_packet ((wellFormed_run h).isOver_eq_false hpacket)
  refine (isPacket_of_mem_history h ?_).1
  rw [hanswered.converses, hlast, hpacket]
  exact List.mem_append_right _ (List.mem_singleton_self _)

/-- A packet of a client has the tag owner set. -/
theorem tagOwner_of_isPacket {packet : Bytes} (h : Network.IsPacket packet) {tag : MsgFlowTag}
    (htag : createTag packet = some tag) : tag.tagOwner = true := by
  obtain ⟨client, address, payload, rfl⟩ := h
  rw [SimpleNetwork.createTag_packet] at htag
  obtain rfl := Option.some.inj htag
  rfl

/-! ### The frames of the commands -/

/-- Every frame belongs to a command. -/
theorem exists_frameOf (h : StepSystem.Run (step cfg pingEid) C (init ctx) es p) {frame : Bytes}
    (hframe : frame ∈ p.sent) : ∃ command ∈ p.handled, FrameOf cfg command frame := by
  obtain ⟨-, commands, hcommands, hframes⟩ := delivers_run h
  obtain ⟨command, hmem, hof⟩ := exists_mem_of_forall₂ hframes (List.mem_append_left _ hframe)
  exact ⟨command, hcommands.subset hmem, hof⟩

/-- While the transport task is there, the frames that were sent and the one that waits for the
socket are those of the commands that need one, in their order, and of some others. -/
def Serves (cfg : TransportConfig) (p : Program) : Prop :=
  ∀ t, p.transport = some t → ∃ commands, List.Sublist commands p.handled ∧
    List.Forall₂ (FrameOf cfg) commands (p.sent ++ t.sending.toList) ∧
      commands.filter PhysicalTransportCommands.needsFrame =
        p.handled.filter PhysicalTransportCommands.needsFrame

/-- A command without a frame is taken. -/
theorem Serves.skip (hserves : p.Serves cfg) {t : Transport} {cmd : PhysicalTransportCommands}
    {channel : BoundedChannel PhysicalTransportCommands 32} (htakes : p.Takes t cmd channel)
    (hneeds : cmd.needsFrame = false) (sender : Sender) (loop : State)
    (pendingCmd : List (MsgFlowTag × ℕ)) :
    Serves cfg { p with
      loop, sender, transport := some ⟨channel, pendingCmd, none⟩
      handled := p.handled ++ [cmd] } := by
  intro t' ht'
  obtain rfl := Option.some.inj ht'
  obtain ⟨commands, hcommands, hframes, hfilter⟩ := hserves t htakes.transport
  rw [htakes.sending] at hframes
  refine ⟨commands, hcommands.trans (List.sublist_append_left _ _), hframes, ?_⟩
  rw [List.filter_append, List.filter_cons_of_neg (by simp [hneeds]), List.filter_nil,
    List.append_nil, hfilter]

/-- A command with a frame is taken. -/
theorem Serves.concat (hserves : p.Serves cfg) {t : Transport} {cmd : PhysicalTransportCommands}
    {frame : Bytes} {channel : BoundedChannel PhysicalTransportCommands 32}
    (htakes : p.Takes t cmd channel) (hframe : FrameOf cfg cmd frame) (sender : Sender)
    (loop : State) (pendingCmd : List (MsgFlowTag × ℕ)) :
    Serves cfg { p with
      loop, sender, transport := some ⟨channel, pendingCmd, some frame⟩
      handled := p.handled ++ [cmd] } := by
  intro t' ht'
  obtain rfl := Option.some.inj ht'
  obtain ⟨commands, hcommands, hframes, hfilter⟩ := hserves t htakes.transport
  rw [htakes.sending, Option.toList_none, List.append_nil] at hframes
  refine ⟨commands ++ [cmd], hcommands.append_right _, ?_, ?_⟩
  · exact List.rel_append hframes (.cons hframe .nil)
  · rw [List.filter_append, List.filter_append, hfilter]

/-- Every transition keeps the frames. A datagram that completes a request has not the tag owner
set, since the request has it. -/
theorem Serves.transition (hserves : p.Serves cfg)
    (hpackets : ∀ packet, p.sender.packet = some packet → Network.IsPacket packet) {e : Event}
    {p' : Program} (h : Transition cfg pingEid p e p') : p'.Serves cfg := by
  have hnone {buf : Bytes} (hnot : ¬ isRequestFrame buf = true) :
      (PhysicalTransportCommands.receiveMsg buf).needsFrame = false := Bool.eq_false_iff.mpr hnot
  cases h with
  | turn | wake | deliver | ignore | overrun | recvError => exact hserves
  | enqueue _ htransport | block _ htransport | accept _ _ htransport =>
    intro t' ht'
    obtain rfl := Option.some.inj ht'
    have hcommands := hserves _ htransport
    exact hcommands
  | skip htakes hframe =>
    have hunneeded := hnone fun hrequest => hframe (isRequestFrame_iff.mp hrequest).1
    exact hserves.skip htakes hunneeded _ _ _
  | complete htakes hframe hsender htag hpending hrecvTag hmatches =>
    refine hserves.skip htakes (hnone fun hrequest => ?_) _ _ _
    obtain ⟨-, ⟨tag', htag', howner'⟩, -⟩ := isRequestFrame_iff.mp hrequest
    obtain rfl := Option.some.inj (hrecvTag.symm.trans htag')
    have howner := tagOwner_of_isPacket (hpackets _ (by rw [hsender]; rfl)) htag
    have hflip := (SimpleNetwork.matchesFlow_eq_true_iff.mp hmatches).2.2
    rw [howner, howner'] at hflip
    cases hflip
  | refuse htakes hresponder hrefused =>
    exact hserves.skip htakes
      (hnone fun hrequest => (isRequestFrame_iff.mp hrequest).2.2.1 hrefused) _ _ _
  | reply htakes hresponder hreply hframe =>
    exact hserves.concat htakes (.reply p.loop.ctx hreply hframe) _ _ _
  | register htakes hsender htag hframe => exact hserves.concat htakes (.request _ hframe) _ _ _
  | transmit htransport hsending =>
    intro t' ht'
    obtain rfl := Option.some.inj ht'
    obtain ⟨commands, hcommands, hframes, hfilter⟩ := hserves _ htransport
    rw [hsending] at hframes
    exact ⟨commands, hcommands, (List.append_nil (p.sent ++ _)).symm ▸ hframes, hfilter⟩
  | crash | abort =>
    intro t' ht'
    cases ht'

theorem serves_run (h : StepSystem.Run (step cfg pingEid) C (init ctx) es p) : p.Serves cfg := by
  induction h with
  | nil =>
    intro t ht
    obtain rfl := Option.some.inj ht
    exact ⟨[], List.Sublist.refl _, .nil, rfl⟩
  | snoc hrun hstep _ ih =>
    exact ih.transition (fun packet hpacket => isPacket_of_sender hrun hpacket)
      (transition_of_step (wellFormed_run hrun) hstep)

/-- The datagrams among the commands are counted by their commands. -/
theorem count_receiveMsg (commands : List PhysicalTransportCommands) (buf : Bytes) :
    commands.count (.receiveMsg buf) = (datagrams commands).count buf := by
  induction commands with
  | nil => rfl
  | cons cmd commands ih =>
    cases cmd with
    | receiveMsg bytes =>
      change _ = List.count buf (bytes :: datagrams commands)
      rw [List.count_cons, List.count_cons, ih]
      simp
    | sendMsg bytes resp =>
      change _ = List.count buf (datagrams commands)
      rw [List.count_cons, ih]
      simp

/-- The requests among the commands all need a frame. -/
theorem requestCommands_filter (commands : List PhysicalTransportCommands) :
    requestCommands (commands.filter PhysicalTransportCommands.needsFrame) =
      requestCommands commands := by
  rw [requestCommands, List.filterMap_filter]
  refine List.filterMap_congr fun cmd _ => ?_
  cases cmd with
  | sendMsg => rfl
  | receiveMsg buf => cases hneeds : PhysicalTransportCommands.needsFrame (.receiveMsg buf) <;> rfl

/-- Idle tasks have sent a frame for every request of the loop that was handed over, and one for
every datagram with a request that arrived. -/
theorem exists_commands_of_idle (h : StepSystem.Run (step cfg pingEid) C (init ctx) es p)
    (halive : p.Alive) (hidle : p.Idle) :
    ∃ commands, List.Sublist commands p.handled ∧ List.Forall₂ (FrameOf cfg) commands p.sent ∧
      requestCommands commands = requestCommands p.handled ∧
      ∀ buf, isRequestFrame buf = true →
        (datagrams commands).count buf = (arrivals es).count buf := by
  obtain ⟨hreceiving, hsome⟩ := halive
  obtain ⟨t, ht⟩ := Option.isSome_iff_exists.mp hsome
  obtain ⟨hqueue, hsending⟩ := hidle t ht
  obtain ⟨commands, hcommands, hframes, hfilter⟩ := serves_run h t ht
  rw [hsending, Option.toList_none, List.append_nil] at hframes
  refine ⟨commands, hcommands, hframes, ?_, fun buf hrequest => ?_⟩
  · rw [← requestCommands_filter, hfilter, requestCommands_filter]
  · have harrivals := (datagrams_accepted_run h).2 hreceiving
    rw [(ordered_run h).sent_eq t.channel (by rw [ht]; rfl), hqueue, List.append_nil] at harrivals
    have hneeds : PhysicalTransportCommands.needsFrame (.receiveMsg buf) = true := hrequest
    rw [← harrivals, ← count_receiveMsg, ← count_receiveMsg, ← List.count_filter hneeds, hfilter,
      List.count_filter hneeds]

/-- A loop that waits for the network has handed its requests over. -/
theorem unsent_of_awaitsNetwork (hawaits : p.AwaitsNetwork) (hover : p.loop.phase.isOver = false) :
    unsent p.sender = none := by
  rcases hawaits with hend | ⟨packet, tag, t, -, hsender, -⟩
  · cases hend.symm.trans hover
  · rw [hsender]
    rfl

end Requests

/-- **Requests are answered.** When the program is at rest with both its tasks, it has sent one
frame for each request of its loop, and one reply for each datagram with a request that has
arrived, as often as it has arrived. -/
theorem answers_requests (cfg : TransportConfig) (pingEid : UInt8) (ctx : MctpEndpointContext)
    (es : List Event) (p : Program)
    (h : StepSystem.Run (step cfg pingEid) (fun _ _ => True) (init ctx) es p) (halive : p.Alive)
    (hidle : p.Idle) (hawaits : p.AwaitsNetwork) :
    ∃ commands, List.Sublist commands p.handled ∧ List.Forall₂ (FrameOf cfg) commands p.sent ∧
      (p.loop.phase.isOver = false →
        requestCommands commands = numbered (requests p.loop.history)) ∧
      ∀ buf, isRequestFrame buf = true →
        (datagrams commands).count buf = (arrivals es).count buf := by
  obtain ⟨commands, hcommands, hframes, hrequests, hcount⟩ := exists_commands_of_idle h halive hidle
  refine ⟨commands, hcommands, hframes, fun hover => ?_, hcount⟩
  obtain ⟨t, ht⟩ := Option.isSome_iff_exists.mp halive.2
  have haccepted := (ordered_run h).sent_eq t.channel (by rw [ht]; rfl)
  rw [(hidle t ht).1, List.append_nil] at haccepted
  rw [(handed_run h).eq_append hover, unsent_of_awaitsNetwork hawaits hover, hrequests, haccepted]
  exact (List.append_nil _).symm

/-- The notification of the sample has been answered once. -/
theorem answers_requests_sampleAwaiting : ∃ commands,
    List.Forall₂ (FrameOf Session.sampleConfig) commands sampleFrames ∧
      (datagrams commands).count ([0x20, 0x0F, 0x08, 0x61] ++ sampleNotify ++ [0x00]) = 1 := by
  obtain ⟨commands, -, hframes, -, hcount⟩ :=
    answers_requests Session.sampleConfig 0 _ _ _ run_sampleAwaiting ⟨rfl, rfl⟩
      (fun t ht => by obtain rfl := Option.some.inj ht; exact ⟨rfl, rfl⟩)
      (.inr ⟨_, ⟨0, 0, 1, true⟩, _, rfl, rfl, by decide, rfl⟩)
  exact ⟨commands, hframes, hcount _ (by decide)⟩

end Program

end BusOwner

end MctpEmu
