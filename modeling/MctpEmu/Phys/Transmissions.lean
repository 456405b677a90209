import MctpEmu.Library.StepSystem
import MctpEmu.Phys.SmbusNetDev

/-!
# A binding in use

A binding is bound to a network and then transmits packets. Each packet is handed to the socket
twice, and only the second result is reported: the datagrams that the socket takes agree with what
is reported when the first call fails.

## Main definitions

* `SmbusNetDevBinding.bind`, `SmbusNetDevBinding.Operation`.
* `SmbusNetDevBinding.Usage`, `SmbusNetDevBinding.Usage.step`: what became of every packet.
* `SmbusNetDevBinding.SendsOnce`: a transmission reports what the socket took.
* `SmbusNetDevBinding.FirstFails`: the first call fails, or neither sends the whole frame.

## Main results

* `SmbusNetDevBinding.sendsOnce_iff`: when a transmission reports what the socket took.
* `SmbusNetDevBinding.sendsOnce_run_iff`: the same for runs, with the number of whole frames.
-/

namespace MctpEmu

/-- The socket has taken a datagram, which may hold a part of the bytes only. -/
def TrySend.isTaken (call : TrySend) : Bool :=
  match call.result with
  | .ok _ => true
  | .error _ => false

/-- The socket has taken all of the bytes. -/
def TrySend.isWhole (call : TrySend) : Bool :=
  match call.result with
  | .ok sentBytes => sentBytes = call.buf.length
  | .error _ => false

theorem TrySend.isWhole_iff {call : TrySend} :
    call.isWhole = true ↔ call.result = .ok call.buf.length := by
  rw [isWhole]
  cases call.result with
  | ok sentBytes => simp
  | error e => exact iff_of_false Bool.false_ne_true fun h => by cases h

theorem TrySend.isWhole_eq_false_iff {call : TrySend} :
    call.isWhole = false ↔ call.result ≠ .ok call.buf.length := by
  rw [Bool.eq_false_iff, ne_eq, isWhole_iff]

theorem TrySend.isTaken_eq_false_iff {call : TrySend} :
    call.isTaken = false ↔ ∃ e, call.result = .error e := by
  rw [isTaken]
  cases call.result with
  | ok sentBytes => exact iff_of_false Bool.noConfusion fun ⟨e, he⟩ => by cases he
  | error e => exact iff_of_true rfl ⟨e, rfl⟩

/-- What the socket has taken whole, it has taken. -/
theorem TrySend.isTaken_of_isWhole {call : TrySend} (h : call.isWhole = true) :
    call.isTaken = true := by
  rw [isTaken, isWhole_iff.mp h]

namespace SmbusNetDevBinding

/-! ### Operations -/

/-- `NetworkBinding::bind`, up to the task that polls the socket: the id is stored before the socket
is looked for. -/
def bind (binding : SmbusNetDevBinding) (id : UInt64) :
    Except MctpEmuError Unit × SmbusNetDevBinding :=
  let binding := { binding with networkId := id }
  match binding.socket with
  | some _ => (.ok (), binding)
  | none => (.error (.phys (.other "failed grabbing socket vector")), binding)

@[simp] theorem address_bind (binding : SmbusNetDevBinding) (id : UInt64) :
    (binding.bind id).2.address = binding.address := by
  unfold bind
  cases binding.socket <;> rfl

/-- What is done with a binding; the results of the two calls of `try_send` belong to a
transmission. -/
inductive Operation
  | bind (id : UInt64)
  | transmit (msg : Bytes) (phyAddr : UInt64) (sends : Except IoError ℕ × Except IoError ℕ)

/-- A binding, and for every transmission what it returned and the calls of `try_send`. -/
structure Usage where
  binding : SmbusNetDevBinding
  transmissions : List (Outcome MctpEmuError Unit × List TrySend)

namespace Usage

/-- A binding that has transmitted nothing yet. -/
def init (binding : SmbusNetDevBinding) : Usage := ⟨binding, []⟩

/-- Every operation is possible at any time. -/
def step (pec : Bytes → UInt8) (u : Usage) : Operation → Option Usage
  | .bind id => some { u with binding := (u.binding.bind id).2 }
  | .transmit msg phyAddr sends => some { u with
      transmissions := u.transmissions ++ [u.binding.transmit pec sends msg phyAddr] }

/-- The number of transmissions that returned `Ok`. -/
def successes (u : Usage) : ℕ := u.transmissions.countP fun t => t.1 = .ok ()

/-- The number of whole frames that the socket has taken. -/
def wholeFrames (u : Usage) : ℕ := (u.transmissions.flatMap Prod.snd).countP TrySend.isWhole

end Usage

/-! ### One transmission -/

section

variable (pec : Bytes → UInt8) (sends : Except IoError ℕ × Except IoError ℕ)
  (binding : SmbusNetDevBinding) (msg : Bytes) (phyAddr : UInt64)

/-- On `Ok`, the socket has taken one datagram, the whole frame; on `Err`, it has taken no whole
frame. -/
structure SendsOnce : Prop where
  ok : (binding.transmit pec sends msg phyAddr).1 = .ok () →
    (binding.transmit pec sends msg phyAddr).2.filter TrySend.isTaken =
      [⟨binding.frame pec msg phyAddr, .ok (binding.frame pec msg phyAddr).length⟩]
  err : ∀ e, (binding.transmit pec sends msg phyAddr).1 = .err e →
    ∀ call ∈ (binding.transmit pec sends msg phyAddr).2, call.isWhole = false

/-- The packet passes the checks in front of the socket. -/
def ReachesSocket : Prop :=
  validateSmbusAddress phyAddr = .ok () ∧ msg.length < 256 ∧ binding.socket ≠ none

/-- If the packet reaches the socket, the first call fails, or neither call sends the whole
frame. -/
def FirstFails : Prop :=
  binding.ReachesSocket msg phyAddr →
    (∃ e, sends.1 = .error e) ∨
      (sends.1 ≠ .ok (binding.frame pec msg phyAddr).length ∧
        sends.2 ≠ .ok (binding.frame pec msg phyAddr).length)

theorem transmit_of_not_reachesSocket (h : ¬ binding.ReachesSocket msg phyAddr) :
    (binding.transmit pec sends msg phyAddr).1 ≠ .ok () ∧
      (binding.transmit pec sends msg phyAddr).2 = [] := by
  rcases transmit_cases pec sends binding msg phyAddr with
    ⟨hres, hcalls, -⟩ | ⟨-, -, hreaches⟩
  · exact ⟨hres, hcalls⟩
  · exact absurd hreaches h

/-- A packet that reaches the socket is handed to it twice; the second call decides between `Ok` and
an error. -/
theorem transmit_of_reachesSocket (h : binding.ReachesSocket msg phyAddr) :
    (binding.transmit pec sends msg phyAddr).2 =
        [⟨binding.frame pec msg phyAddr, sends.1⟩, ⟨binding.frame pec msg phyAddr, sends.2⟩] ∧
      ((sends.2 = .ok (binding.frame pec msg phyAddr).length ∧
          (binding.transmit pec sends msg phyAddr).1 = .ok ()) ∨
        (sends.2 ≠ .ok (binding.frame pec msg phyAddr).length ∧
          ∃ e, (binding.transmit pec sends msg phyAddr).1 = .err e)) := by
  obtain ⟨haddr, hlen, hsocket⟩ := h
  obtain ⟨socket, hsocket⟩ := Option.ne_none_iff_exists'.mp hsocket
  simp only [transmit, haddr, if_neg (Nat.not_le.mpr hlen), hsocket]
  cases hsent : sends.2 with
  | error e =>
    refine ⟨rfl, .inr ⟨?_, _, rfl⟩⟩
    intro h
    cases h
  | ok sentBytes =>
    by_cases heq : sentBytes = (binding.frame pec msg phyAddr).length
    · simp only [if_pos heq]
      exact ⟨trivial, .inl ⟨congrArg Except.ok heq, trivial⟩⟩
    · simp only [if_neg heq]
      exact ⟨trivial, .inr ⟨fun h => heq (Except.ok.inj h), _, rfl⟩⟩

/-- A transmission that reports what the socket took did so with one of its calls. -/
theorem firstFails_of_sendsOnce (h : binding.SendsOnce pec sends msg phyAddr) :
    binding.FirstFails pec sends msg phyAddr := by
  intro hreaches
  obtain ⟨hcalls, ⟨hsecond, hok⟩ | ⟨hsecond, e, he⟩⟩ :=
    transmit_of_reachesSocket pec sends binding msg phyAddr hreaches
  · left
    have htaken := h.ok hok
    rw [hcalls] at htaken
    have hfirst : TrySend.isTaken ⟨binding.frame pec msg phyAddr, sends.1⟩ = false := by
      by_contra hfirst
      have hlen := congrArg List.length htaken
      rw [List.filter_cons_of_pos (Bool.eq_true_of_not_eq_false hfirst),
        List.filter_cons_of_pos (by rw [TrySend.isTaken, hsecond])] at hlen
      cases hlen
    exact TrySend.isTaken_eq_false_iff.mp hfirst
  · right
    refine ⟨?_, hsecond⟩
    have hmem : ⟨binding.frame pec msg phyAddr, sends.1⟩ ∈
        (binding.transmit pec sends msg phyAddr).2 := by
      rw [hcalls]
      exact List.mem_cons_self
    exact TrySend.isWhole_eq_false_iff.mp (h.err e he _ hmem)

theorem sendsOnce_of_firstFails (h : binding.FirstFails pec sends msg phyAddr) :
    binding.SendsOnce pec sends msg phyAddr := by
  by_cases hreaches : binding.ReachesSocket msg phyAddr
  swap
  · obtain ⟨hres, hcalls⟩ := transmit_of_not_reachesSocket pec sends binding msg phyAddr hreaches
    refine ⟨fun hok => absurd hok hres, fun e _ call hcall => ?_⟩
    rw [hcalls] at hcall
    cases hcall
  obtain ⟨hcalls, ⟨hsecond, hok⟩ | ⟨hsecond, e, he⟩⟩ :=
    transmit_of_reachesSocket pec sends binding msg phyAddr hreaches
  · refine ⟨fun _ => ?_, fun e he => ?_⟩
    · rcases h hreaches with ⟨e, hfirst⟩ | ⟨-, hnot⟩
      · rw [hcalls, hfirst, hsecond]
        rfl
      · exact absurd hsecond hnot
    · cases hok.symm.trans he
  · refine ⟨fun hok => ?_, fun _ _ call hcall => ?_⟩
    · cases hok.symm.trans he
    · have hfirst : sends.1 ≠ .ok (binding.frame pec msg phyAddr).length := by
        rcases h hreaches with ⟨e, hfirst⟩ | ⟨hfirst, -⟩
        · intro h
          cases hfirst.symm.trans h
        · exact hfirst
      rw [hcalls] at hcall
      simp only [List.mem_cons, List.not_mem_nil, or_false] at hcall
      rw [TrySend.isWhole_eq_false_iff]
      rcases hcall with rfl | rfl
      · exact hfirst
      · exact hsecond

/-- A transmission reports what the socket took exactly when the first call fails or neither call
sends the whole frame. -/
theorem sendsOnce_iff :
    binding.SendsOnce pec sends msg phyAddr ↔ binding.FirstFails pec sends msg phyAddr :=
  ⟨firstFails_of_sendsOnce pec sends binding msg phyAddr,
    sendsOnce_of_firstFails pec sends binding msg phyAddr⟩

/-- A transmission that reports what the socket took puts one whole frame on the wire when it
returns `Ok`, and otherwise none. -/
theorem countP_isWhole_of_sendsOnce (h : binding.SendsOnce pec sends msg phyAddr) :
    (binding.transmit pec sends msg phyAddr).2.countP TrySend.isWhole =
      if (binding.transmit pec sends msg phyAddr).1 = .ok () then 1 else 0 := by
  have hwhole (call : TrySend) : (call.isWhole && call.isTaken) = call.isWhole := by
    cases hcall : call.isWhole with
    | true => rw [TrySend.isTaken_of_isWhole hcall, Bool.and_true]
    | false => exact Bool.false_and _
  by_cases hok : (binding.transmit pec sends msg phyAddr).1 = .ok ()
  · have htaken := congrArg (List.countP TrySend.isWhole) (h.ok hok)
    simp only [List.countP_filter, hwhole] at htaken
    rw [if_pos hok, htaken, List.countP_singleton, if_pos (TrySend.isWhole_iff.mpr rfl)]
  · rw [if_neg hok, List.countP_eq_zero]
    by_cases hreaches : binding.ReachesSocket msg phyAddr
    · obtain ⟨-, ⟨-, hok'⟩ | ⟨-, e, he⟩⟩ :=
        transmit_of_reachesSocket pec sends binding msg phyAddr hreaches
      · exact absurd hok' hok
      · exact fun call hcall => Bool.eq_false_iff.mp (h.err e he call hcall)
    · rw [(transmit_of_not_reachesSocket pec sends binding msg phyAddr hreaches).2]
      intro call hcall
      cases hcall

end

/-! ### Runs -/

namespace Usage

variable {pec : Bytes → UInt8} {u u' : Usage} {ops : List Operation}

/-- The operation, if it is a transmission, reports what the socket took. -/
def SendsOnce (pec : Bytes → UInt8) (u : Usage) : Operation → Prop
  | .bind _ => True
  | .transmit msg phyAddr sends => u.binding.SendsOnce pec sends msg phyAddr

/-- The first call of the operation, if it is a transmission, fails, or neither call sends the whole
frame. -/
def FirstFails (pec : Bytes → UInt8) (u : Usage) : Operation → Prop
  | .bind _ => True
  | .transmit msg phyAddr sends => u.binding.FirstFails pec sends msg phyAddr

theorem sendsOnce_iff (u : Usage) (op : Operation) : u.SendsOnce pec op ↔ u.FirstFails pec op := by
  cases op with
  | bind id => exact Iff.rfl
  | transmit msg phyAddr sends =>
    exact SmbusNetDevBinding.sendsOnce_iff pec sends u.binding msg phyAddr

/-- Every frame on the wire stands for a transmission that returned `Ok`, and no packet is sent
twice. -/
structure Agrees (u : Usage) : Prop where
  wholeFrames : u.wholeFrames = u.successes
  once : ∀ t ∈ u.transmissions, t.2.countP TrySend.isWhole ≤ 1

/-- A transmission that reports what the socket took keeps the counts. -/
theorem Agrees.step (hu : u.Agrees) {op : Operation} (hop : u.SendsOnce pec op)
    (h : u.step pec op = some u') : u'.Agrees := by
  cases op with
  | bind id =>
    obtain rfl := Option.some.inj h
    exact ⟨hu.wholeFrames, hu.once⟩
  | transmit msg phyAddr sends =>
    obtain rfl := Option.some.inj h
    have hcount := countP_isWhole_of_sendsOnce pec sends u.binding msg phyAddr hop
    refine ⟨?_, fun t ht => ?_⟩
    · have hframes := hu.wholeFrames
      rw [Usage.wholeFrames, successes] at hframes ⊢
      rw [List.flatMap_append, List.countP_append, List.countP_append, hframes,
        List.flatMap_singleton, hcount, List.countP_singleton]
      simp only [decide_eq_true_eq]
    · rcases List.mem_append.mp ht with ht | ht
      · exact hu.once t ht
      · obtain rfl := List.mem_singleton.mp ht
        rw [hcount]
        split_ifs <;> decide

/-- So does a run of such transmissions. -/
theorem agrees_run {binding : SmbusNetDevBinding}
    (h : StepSystem.Run (step pec) (SendsOnce pec) (init binding) ops u) : u.Agrees := by
  refine h.invariant ⟨rfl, fun t ht => ?_⟩ fun _ _ _ hu hop hstep => hu.step hop hstep
  cases ht

end Usage

/-- The transmissions of a run all report what the socket took exactly when in each of them the
first call fails or neither call sends the whole frame; in such a run the socket takes one whole
frame for each transmission that returned `Ok`, and no packet twice. -/
theorem sendsOnce_run_iff (pec : Bytes → UInt8) (binding : SmbusNetDevBinding)
    (ops : List Operation) (u : Usage) :
    (StepSystem.Run (Usage.step pec) (Usage.SendsOnce pec) (.init binding) ops u ↔
      StepSystem.Run (Usage.step pec) (Usage.FirstFails pec) (.init binding) ops u) ∧
    (StepSystem.Run (Usage.step pec) (Usage.FirstFails pec) (.init binding) ops u →
      u.wholeFrames = u.successes ∧ ∀ t ∈ u.transmissions, t.2.countP TrySend.isWhole ≤ 1) := by
  have hiff : StepSystem.Run (Usage.step pec) (Usage.SendsOnce pec) (.init binding) ops u ↔
      StepSystem.Run (Usage.step pec) (Usage.FirstFails pec) (.init binding) ops u :=
    ⟨fun h => h.mono fun u op => (u.sendsOnce_iff op).mp,
      fun h => h.mono fun u op => (u.sendsOnce_iff op).mpr⟩
  refine ⟨hiff, fun h => ?_⟩
  have hagrees := Usage.agrees_run (hiff.mpr h)
  exact ⟨hagrees.wholeFrames, hagrees.once⟩

/-- A binding of the address `0x10`. -/
def sampleBinding : SmbusNetDevBinding :=
  ⟨0x10, 0, some ⟨"localhost:5558", "localhost:5559"⟩⟩

/-- The transmission of a packet of seven bytes, in a frame of twelve. -/
def sampleTransmit (sends : Except IoError ℕ × Except IoError ℕ) : Operation :=
  .transmit [0x01, 0x00, 0x08, 0xC8, 0x00, 0x80, 0x02] 0x30 sends

/-- The first call would block, and the second one sends the frame. -/
theorem sendsOnce_run_iff_wouldBlock :
    ∃ u, StepSystem.Run (Usage.step crc8) (Usage.FirstFails crc8) (.init sampleBinding)
        [.bind 1, sampleTransmit (.error "would block", .ok 12)] u ∧
      u.wholeFrames = u.successes ∧ ∀ t ∈ u.transmissions, t.2.countP TrySend.isWhole ≤ 1 := by
  have hrun : StepSystem.Run (Usage.step crc8) (Usage.FirstFails crc8) (.init sampleBinding)
      [.bind 1, sampleTransmit (.error "would block", .ok 12)] _ :=
    .cons rfl trivial (.cons rfl (fun _ => .inl ⟨_, rfl⟩) .nil)
  exact ⟨_, hrun, (sendsOnce_run_iff crc8 sampleBinding _ _).2 hrun⟩

/-- Where both calls send the frame, one transmission returns `Ok` and two frames are on the wire;
where the second one would block, it returns an error with one frame on the wire. -/
theorem not_sendsOnce_sampleTransmit :
    (∃ u, StepSystem.Run (Usage.step crc8) (fun _ _ => True) (.init sampleBinding)
        [.bind 1, sampleTransmit (.ok 12, .ok 12)] u ∧ u.successes = 1 ∧ u.wholeFrames = 2) ∧
    (∃ u, StepSystem.Run (Usage.step crc8) (fun _ _ => True) (.init sampleBinding)
        [.bind 1, sampleTransmit (.ok 12, .error "would block")] u ∧
      u.successes = 0 ∧ u.wholeFrames = 1) ∧
    (∀ sends, sends = (.ok 12, .ok 12) ∨ sends = (.ok 12, .error "would block") →
      ¬ sampleBinding.SendsOnce crc8 sends [0x01, 0x00, 0x08, 0xC8, 0x00, 0x80, 0x02] 0x30) := by
  refine ⟨⟨_, .of_foldlM_eq rfl, rfl, rfl⟩, ⟨_, .of_foldlM_eq rfl, rfl, rfl⟩, ?_⟩
  rintro sends (rfl | rfl) h
  · exact absurd (congrArg List.length (h.ok rfl)) (by decide)
  · exact absurd (h.err _ rfl _ List.mem_cons_self) (by decide)

end SmbusNetDevBinding

end MctpEmu
