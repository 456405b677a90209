import MctpEmu.BusOwner.Session

/-!
# Which reply a request gets

The task matches a reply with the request that waits by the tag and the endpoint alone. The tags
repeat every eight requests, and nothing looks at the instance id or at the command of a reply, so
that a late reply to an earlier request can be taken for the reply to a later one.

## Main definitions

* `BusOwner.Session.ReturnsOwnReply`: every sender that returns a response returns the reply to its
  own request.
* `BusOwner.Session.Mistakes`: a whole reply to another request with the same tag and the same
  endpoint as the one that waits.

## Main results

* `BusOwner.Session.fits_iff`: the replies that complete the request that waits.
* `BusOwner.Session.returnsOwnReply_iff`: the runs in which every sender returns its own reply.
-/

namespace MctpEmu

namespace BusOwner

namespace Session

/-- Of the datagrams that are not replies, the network delivers the requests of other endpoints. -/
def Event.IsFromNetwork : Event → Prop
  | .receiveOther buf _ => ∃ tag, createTag (buf.drop 4) = some tag ∧ tag.tagOwner = true
  | _ => True

/-- If the sender of request `i` returns a response, then it is decoded from a reply to `i`. -/
def OwnReply (s : Session) (i : ℕ) (result : Option ℕ × Delivery) : Prop :=
  ∀ q packet response, s.calls[i]? = some (q, packet) → q.receive result.2 = .ok response →
    ∃ j buf payload, result.1 = some j ∧ s.replies[j]? = some (i, buf) ∧
      q.tryToResponse (buf.drop 4) = .ok (payload, response)

/-- Every sender that returns a response returns the reply to its own request. -/
def ReturnsOwnReply (s : Session) : Prop :=
  ∀ (i : ℕ) result, s.results[i]? = some result → s.OwnReply i result

/-- A reply of eleven bytes or more behind its SMBus header answers an earlier request to the
endpoint of the one that waits, a multiple of eight requests before it. -/
def Mistakes (s : Session) (j : ℕ) : Prop :=
  s.stage = .waiting ∧ ∃ k buf q packet q' packet', s.replies[j]? = some (k, buf) ∧
    k < s.results.length ∧ 8 ∣ s.results.length - k ∧ s.calls[k]? = some (q, packet) ∧
    s.calls[s.results.length]? = some (q', packet') ∧ q.destEid = q'.destEid ∧ 15 ≤ buf.length

/-- No such reply arrives. -/
def Unambiguous (s : Session) : Event → Prop
  | .receive j _ => ¬ s.Mistakes j
  | _ => True

/-! ### Matching -/

section Matching

variable {t₀ : UInt8} {s : Session}

/-- The tags of two requests are the same when their numbers are the same modulo eight. -/
theorem tag_eq_iff (t₀ : UInt8) {k m : ℕ} (h : k ≤ m) :
    (t₀ + .ofNat m) % 8 = (t₀ + .ofNat k) % 8 ↔ 8 ∣ m - k := by
  rw [← UInt8.toNat_inj, UInt8.toNat_mod, UInt8.toNat_mod, UInt8.toNat_add, UInt8.toNat_add,
    UInt8.toNat_ofNat', UInt8.toNat_ofNat']
  change (_ % 2 ^ 8) % 8 = (_ % 2 ^ 8) % 8 ↔ _
  omega

/-- A reply is a frame that comes from the endpoint of its request, with the tag of the request and
the tag owner clear. -/
theorem WellFormed.exists_createTag (hs : s.WellFormed t₀) {k : ℕ} {buf : Bytes}
    (h : s.IsReply k buf) :
    IsFrame buf ∧ ∃ q packet eid, s.calls[k]? = some (q, packet) ∧
      createTag (buf.drop 4) = some ⟨eid, q.destEid, (t₀ + .ofNat k) % 8, false⟩ := by
  obtain ⟨q, packet, request, dest, count, src, body, hcall, hrequest, rfl⟩ := h
  obtain ⟨client, payload, htag, hpacket⟩ := hs.call k q packet hcall
  refine ⟨⟨?_, rfl⟩, q, packet, client.address, hcall, ?_⟩
  · rw [replyDatagram, List.length_append]
    exact Nat.le_add_right 4 _
  · have hread : FromBinary.tryFrom TransportHeader packet = .ok request.hdr := by
      rw [← ControlPayload.intoBytes_of_tryFrom hrequest]
      exact trySized_encode_append request.hdr request.payload
    have hhdr : request.hdr = .new client.address q.destEid client.tag (some true) (some true)
        (some true) := by
      rw [hpacket] at hread
      exact Except.ok.inj (hread.symm.trans (trySized_encode_append _ payload))
    rw [← htag, ← Network.createTag_createResponse client q.destEid, ← hhdr]
    rfl

/-- A packet fits the request that waits exactly when it comes from its endpoint with its tag, and
without the tag owner. -/
theorem firstPending_ne_none_iff (hs : s.WellFormed t₀) (hstage : s.stage = .waiting)
    {q : Request} {sent : Bytes} (hcall : s.calls[s.results.length]? = some (q, sent))
    {packet : Bytes} {recvTag : MsgFlowTag} (htag : createTag packet = some recvTag) :
    s.task.firstPending packet ≠ none ↔ recvTag.tagOwner = false ∧
      q.destEid = recvTag.srcEid ∧ (t₀ + .ofNat s.results.length) % 8 = recvTag.msgTag := by
  obtain ⟨q', sent', tag, hcall', hwaits, hpending⟩ := hs.pendingCmd_eq hstage
  obtain ⟨rfl, rfl⟩ := Prod.mk.inj (Option.some.inj (hcall'.symm.trans hcall))
  obtain ⟨client, payload, hclient, rfl⟩ := hs.call _ _ _ hcall
  obtain rfl := Option.some.inj ((SimpleNetwork.createTag_packet ..).symm.trans hwaits)
  have howner : (SimpleNetwork.flowTag client q'.destEid, s.results.length).1.tagOwner = true := rfl
  have hmatch := Network.matchesFlow_of_tagOwner recvTag howner
  rw [Network.flowKey_flowTag, hclient] at hmatch
  rw [TransportTask.firstPending, htag, Option.bind_some, hpending, ← Option.isSome_iff_ne_none,
    List.find?_isSome]
  simp only [List.mem_singleton, exists_eq_left, hmatch, Bool.and_eq_true, Bool.not_eq_true',
    decide_eq_true_eq, Prod.mk.injEq]

/-- A request that waits is the last one. -/
theorem WellFormed.le_of_waiting (hs : s.WellFormed t₀) (hstage : s.stage = .waiting) {k : ℕ}
    {call : Request × Bytes} (hcall : s.calls[k]? = some call) : k ≤ s.results.length := by
  have hlt := (List.getElem?_eq_some_iff.mp hcall).1
  rw [hs.length_calls, hstage] at hlt
  exact Nat.le_of_lt_succ hlt

/-- A reply completes the request that waits exactly when it comes from the endpoint of that request
and answers one with the same tag. -/
theorem fits_iff (hs : s.WellFormed t₀) (hstage : s.stage = .waiting) {k : ℕ} {buf : Bytes}
    (h : s.IsReply k buf) {q q' : Request} {packet packet' : Bytes}
    (hcall : s.calls[k]? = some (q, packet))
    (hcall' : s.calls[s.results.length]? = some (q', packet')) :
    s.Fits buf ↔ q.destEid = q'.destEid ∧ 8 ∣ s.results.length - k := by
  obtain ⟨hframe, q₁, packet₁, eid, hcall₁, htag⟩ := hs.exists_createTag h
  obtain ⟨rfl, rfl⟩ := Prod.mk.inj (Option.some.inj (hcall₁.symm.trans hcall))
  rw [Fits, and_iff_right hframe, firstPending_ne_none_iff hs hstage hcall' htag,
    and_iff_right rfl, tag_eq_iff t₀ (hs.le_of_waiting hstage hcall)]
  exact and_congr_left' eq_comm

/-- A packet with the tag owner completes no request. -/
theorem not_fits_of_tagOwner (hs : s.WellFormed t₀) {buf : Bytes} {recvTag : MsgFlowTag}
    (htag : createTag (buf.drop 4) = some recvTag) (howner : recvTag.tagOwner = true) :
    ¬ s.Fits buf := by
  rintro ⟨-, hpending⟩
  by_cases hstage : s.stage = .waiting
  · obtain ⟨q, packet, tag, hcall, -, -⟩ := hs.pendingCmd_eq hstage
    have hclear := ((firstPending_ne_none_iff hs hstage hcall htag).mp hpending).1
    exact Bool.false_ne_true (hclear.symm.trans howner)
  · exact hpending (TransportTask.firstPending_eq_none (hs.pendingCmd_eq_nil hstage) _)

end Matching

/-! ### What a step does to the results -/

section Results

variable {t₀ : UInt8} {s s' : Session}

/-- What a result is does not change. -/
theorem OwnReply.iff_of_prefix (hs : s.WellFormed t₀) (hcalls : s.calls <+: s'.calls)
    (hreplies : s.replies <+: s'.replies) {i : ℕ} {result : Option ℕ × Delivery}
    (hresult : s.results[i]? = some result) : s'.OwnReply i result ↔ s.OwnReply i result := by
  have hlt : i < s.calls.length := by
    have hlt := (List.getElem?_eq_some_iff.mp hresult).1
    rw [hs.length_calls]
    exact Nat.lt_add_right _ hlt
  constructor
  · intro h q packet response hcall hreceive
    obtain ⟨j, buf, payload, hsource, hreply, hread⟩ :=
      h q packet response (KeyedFifo.getElem?_of_prefix hcalls hcall) hreceive
    obtain ⟨source, d⟩ := result
    obtain rfl : source = some j := hsource
    have hj := hs.source i j d hresult
    have hkeep := KeyedFifo.getElem?_of_prefix hreplies (List.getElem?_eq_getElem hj)
    rw [hkeep] at hreply
    exact ⟨j, buf, payload, rfl, (List.getElem?_eq_getElem hj).trans hreply, hread⟩
  · intro h q packet response hcall hreceive
    have hkeep := KeyedFifo.getElem?_of_prefix hcalls (List.getElem?_eq_getElem hlt)
    rw [hkeep] at hcall
    obtain ⟨j, buf, payload, hsource, hreply, hread⟩ :=
      h q packet response ((List.getElem?_eq_getElem hlt).trans hcall) hreceive
    exact ⟨j, buf, payload, hsource, KeyedFifo.getElem?_of_prefix hreplies hreply, hread⟩

/-- A step without a new result. -/
theorem returnsOwnReply_iff_of_results_eq (hs : s.WellFormed t₀) {e : Event}
    (h : s.Transition e s') (hresults : s'.results = s.results) :
    s'.ReturnsOwnReply ↔ s.ReturnsOwnReply := by
  rw [ReturnsOwnReply, hresults]
  exact forall₃_congr fun i result hresult =>
    OwnReply.iff_of_prefix hs h.calls_prefix h.replies_prefix hresult

/-- A step with a new result. -/
theorem returnsOwnReply_iff_of_results_concat (hs : s.WellFormed t₀) {e : Event}
    (h : s.Transition e s') (result : Option ℕ × Delivery)
    (hresults : s'.results = s.results ++ [result]) :
    s'.ReturnsOwnReply ↔ s.ReturnsOwnReply ∧ s'.OwnReply s.results.length result := by
  have hlast : s'.results[s.results.length]? = some result := by
    rw [hresults, List.getElem?_concat_length]
  have hkeep (i : ℕ) (r : Option ℕ × Delivery) (hr : s.results[i]? = some r) :=
    OwnReply.iff_of_prefix hs h.calls_prefix h.replies_prefix hr
  constructor
  · intro hall
    refine ⟨fun i r hr => (hkeep i r hr).mp (hall i r ?_), hall _ _ hlast⟩
    rw [hresults]
    exact KeyedFifo.getElem?_concat_eq_some.mpr (.inl hr)
  · rintro ⟨hall, hown⟩ i r hr
    rw [hresults] at hr
    rcases KeyedFifo.getElem?_concat_eq_some.mp hr with hr | ⟨rfl, rfl⟩
    · exact (hkeep i r hr).mpr (hall i r hr)
    · exact hown

/-- A sender that gets no bytes returns no response. -/
theorem ownReply_of_ne_response (s : Session) (i : ℕ) (reply : Option ℕ) {d : Delivery}
    (h : ∀ bytes, d ≠ .response bytes) : s.OwnReply i (reply, d) := by
  intro q packet response hcall hreceive
  obtain ⟨bytes, payload, hd, -⟩ := Request.receive_eq_ok_iff.mp hreceive
  exact absurd hd (h bytes)

/-- Before the ninth request no reply is mistaken. -/
theorem unambiguous_of_length_lt {s : Session} (h : s.results.length < 8) (e : Event) :
    s.Unambiguous e := by
  cases e with
  | receive j sendResult =>
    rintro ⟨-, k, buf, q, packet, q', packet', -, hlt, hdvd, -⟩
    have hle := Nat.le_of_dvd (Nat.sub_pos_of_lt hlt) hdvd
    omega
  | call | transmit | answer | receiveOther => trivial

/-- A reply that does not complete the request that waits is not mistaken. -/
theorem unambiguous_of_not_fits (hs : s.WellFormed t₀) {e : Event}
    (h : ∀ reply buf, e.datagram s = some (reply, buf) → ¬ s.Fits buf) : s.Unambiguous e := by
  cases e with
  | receive j sendResult =>
    rintro ⟨hstage, k, buf, q, packet, q', packet', hreply, hlt, hdvd, hcall, hcall', hdest, -⟩
    have hdatagram : (Event.receive j sendResult).datagram s = some (some j, buf) := by
      rw [Event.datagram, hreply]
      rfl
    exact h _ _ hdatagram ((fits_iff hs hstage (hs.reply j k buf hreply) hcall hcall').mpr
      ⟨hdest, hdvd⟩)
  | call | transmit | answer | receiveOther => trivial

/-- The result of a request that a reply completes is its own exactly when the reply is not
mistaken. -/
theorem ownReply_iff_not_mistakes (hs : s.WellFormed t₀) (hstage : s.stage = .waiting)
    {j k : ℕ} {buf : Bytes} (hreply : s.replies[j]? = some (k, buf)) (hfits : s.Fits buf)
    (hcalls : s'.calls = s.calls) (hreplies : s'.replies = s.replies) :
    s'.OwnReply s.results.length (some j, .response (buf.drop 4)) ↔ ¬ s.Mistakes j := by
  obtain ⟨q', packet', -, hcall', -, -⟩ := hs.pendingCmd_eq hstage
  obtain ⟨-, q, packet, -, hcall, -⟩ := hs.exists_createTag (hs.reply j k buf hreply)
  obtain ⟨hdest, hdvd⟩ :=
    (fits_iff hs hstage (hs.reply j k buf hreply) hcall hcall').mp hfits
  have hle := hs.le_of_waiting hstage hcall
  have hlength : 15 ≤ buf.length ↔ 11 ≤ (buf.drop 4).length := by
    rw [List.length_drop]
    omega
  rw [Mistakes, and_iff_right hstage]
  constructor
  · rintro hown ⟨k', buf', q₁, packet₁, q₂, packet₂, hreply', hlt, -, -, hcall₂, -, hlen⟩
    obtain ⟨rfl, rfl⟩ := Prod.mk.inj (Option.some.inj (hreply'.symm.trans hreply))
    obtain ⟨⟨payload, response⟩, hread⟩ :=
      (q₂.exists_tryToResponse_iff _).mpr (hlength.mp hlen)
    obtain ⟨j', buf', -, hj, hreply₂, -⟩ := hown q₂ packet₂ response (by rw [hcalls, hcall₂])
      (Request.receive_eq_ok_iff.mpr ⟨_, payload, rfl, hread⟩)
    obtain rfl := Option.some.inj hj
    rw [hreplies, hreply] at hreply₂
    have hk := (Prod.mk.inj (Option.some.inj hreply₂)).1
    omega
  · intro hnot q₂ packet₂ response hcall₂ hreceive
    obtain ⟨bytes, payload, hbytes, hread⟩ := Request.receive_eq_ok_iff.mp hreceive
    obtain rfl : buf.drop 4 = bytes := Delivery.response.inj hbytes
    have hlen := (q₂.exists_tryToResponse_iff _).mp ⟨_, hread⟩
    have hk : k = s.results.length := by
      by_contra hne
      exact hnot ⟨k, buf, q, packet, q', packet', hreply, by omega, hdvd, hcall, hcall', hdest,
        hlength.mpr hlen⟩
    exact ⟨j, buf, payload, rfl, by rw [hreplies, hreply, hk], hread⟩

/-- After a step every sender has returned its own reply exactly when it had before, and the step
does not deliver a reply that is mistaken for another one. -/
theorem returnsOwnReply_iff_of_transition (hs : s.WellFormed t₀) {e : Event}
    (hnetwork : e.IsFromNetwork) (h : s.Transition e s') :
    s'.ReturnsOwnReply ↔ s.ReturnsOwnReply ∧ s.Unambiguous e := by
  have hsame := returnsOwnReply_iff_of_results_eq hs h
  have hconcat := returnsOwnReply_iff_of_results_concat hs h
  cases h with
  | queue he =>
    rw [hsame rfl, he]
    exact (and_iff_left trivial).symm
  | refuse he =>
    rw [hconcat _ rfl, he]
    exact and_congr_right' (iff_of_true
      (ownReply_of_ne_response _ _ _ fun _ hd => Delivery.noConfusion hd) trivial)
  | register hdatagram =>
    rw [hsame rfl]
    refine (and_iff_left (unambiguous_of_not_fits hs fun _ _ h => ?_)).symm
    cases hdatagram.symm.trans h
  | answer hdatagram =>
    rw [hsame rfl]
    refine (and_iff_left (unambiguous_of_not_fits hs fun _ _ h => ?_)).symm
    cases hdatagram.symm.trans h
  | @complete reply buf hdatagram hfits hstage =>
    rw [hconcat _ rfl]
    refine and_congr_right' ?_
    cases e with
    | receive j sendResult =>
      obtain ⟨⟨k, buf'⟩, hreply, hlast⟩ := Option.map_eq_some_iff.mp hdatagram
      obtain ⟨rfl, rfl⟩ := Prod.mk.inj hlast
      exact ownReply_iff_not_mistakes hs hstage hreply hfits rfl rfl
    | receiveOther buf' sendResult =>
      obtain ⟨rfl, rfl⟩ := Prod.mk.inj (Option.some.inj hdatagram)
      obtain ⟨tag, htag, howner⟩ := hnetwork
      exact absurd hfits (not_fits_of_tagOwner hs htag howner)
    | call | transmit | answer => cases hdatagram
  | pass hdatagram hfits =>
    rw [hsame rfl]
    refine (and_iff_left (unambiguous_of_not_fits hs fun _ _ h => ?_)).symm
    obtain ⟨rfl, rfl⟩ := Prod.mk.inj (Option.some.inj (hdatagram.symm.trans h))
    exact hfits
  | stop hfits =>
    rw [and_iff_left (unambiguous_of_not_fits hs hfits)]
    by_cases hidle : s.stage = .idle
    · exact hsame (if_pos hidle)
    · rw [hconcat _ (if_neg hidle)]
      exact and_iff_left (ownReply_of_ne_response _ _ _ fun _ hd => Delivery.noConfusion hd)

end Results

/-- A run delivers no reply that is mistaken for that to a later request exactly when every sender
that returns a response returns the reply to its own request. -/
theorem returnsOwnReply_iff (cfg : TransportConfig) (ctx : MctpEndpointContext) {es : List Event}
    {s : Session}
    (h : StepSystem.Run (step cfg) (fun _ e => e.IsFromNetwork) (init ctx) es s) :
    StepSystem.Run (step cfg) (fun s e => e.IsFromNetwork ∧ s.Unambiguous e) (init ctx) es s ↔
      s.ReturnsOwnReply := by
  refine h.and_iff_of_step (WellFormed.init ctx) ?_ ?_ ?_
  · intro s e s' hs _ hstep
    exact hs.transition (transition_of_step hs hstep)
  · intro i result hresult
    cases hresult
  · intro s e s' hs hnetwork hstep
    exact returnsOwnReply_iff_of_transition hs hnetwork (transition_of_step hs hstep)

/-- The addresses of `main`, in a debug build. -/
def sampleConfig : TransportConfig := ⟨true, crc8, 0x30, 0x10⟩

/-- The counters of `main`, after the EID `0x14` was assigned. -/
def sampleContext : MctpEndpointContext := ⟨0x14, true, 0x80, 32, 1, 1⟩

/-- Request `k`, to the endpoint 8, is sent and answered. -/
def exchange (k : ℕ) : List Event :=
  [.call (.getEid 8), .transmit (.ok 12), .answer k 0x20 0x0D 0x61 [0, 8, 0, 0, 0x5A],
    .receive k (.ok 0)]

/-- The first request gets its own reply. -/
theorem returnsOwnReply_iff_exchange :
    ∃ s, StepSystem.Run (step sampleConfig) (fun _ e => e.IsFromNetwork)
        (init sampleContext) (exchange 0) s ∧
      s.results.length = 1 ∧ s.ReturnsOwnReply := by
  have hrun : ∃ s, StepSystem.Run (step sampleConfig)
      (fun s e => e.IsFromNetwork ∧ s.Unambiguous e) (init sampleContext)
      (exchange 0) s := by
    refine ⟨_, .snoc (.snoc (.snoc (.snoc .nil rfl ⟨trivial, trivial⟩) rfl ⟨trivial, trivial⟩)
      rfl ⟨trivial, trivial⟩) rfl ⟨trivial, unambiguous_of_length_lt ?_ _⟩⟩
    exact Nat.succ_pos 7
  obtain ⟨s, hrun⟩ := hrun
  have hnetwork := hrun.mono fun _ _ h => h.1
  have hlength : ((exchange 0).foldlM (step sampleConfig) (init sampleContext)).map
      (fun s => s.results.length) = some 1 := by
    decide +kernel
  rw [hrun.foldlM_eq] at hlength
  exact ⟨s, hnetwork, Option.some.inj hlength, (returnsOwnReply_iff _ _ hnetwork).mp hrun⟩

/-- After eight exchanges the first reply arrives again while the ninth request waits. -/
def lateReply : List Event :=
  (List.range 8).flatMap exchange ++
    [.call (.getEid 8), .transmit (.ok 12), .receive 0 (.ok 0)]

/-- The ninth request returns the reply to the first one. -/
theorem not_returnsOwnReply : ¬ ∀ cfg ctx es s,
    StepSystem.Run (step cfg) (fun _ e => e.IsFromNetwork) (init ctx) es s →
      s.ReturnsOwnReply := by
  intro h
  have hlast : (lateReply.foldlM (step sampleConfig)
      (init sampleContext)).map
        (fun s => (s.calls[8]?.map Prod.fst, s.results[8]?, s.replies[0]?.map Prod.fst)) =
      some (some (.getEid 8), some (some 0, .response [0x01, 0x14, 0x08, 0xC1, 0x00, 0x01, 0x02,
        0x00, 0x08, 0x00, 0x00, 0x5A]), some 0) := by
    decide +kernel
  obtain ⟨s, hs, hfields⟩ := Option.map_eq_some_iff.mp hlast
  obtain ⟨hcall, hfields⟩ := Prod.mk.inj hfields
  obtain ⟨hresult, hfirst⟩ := Prod.mk.inj hfields
  obtain ⟨⟨q, packet⟩, hcall, rfl⟩ := Option.map_eq_some_iff.mp hcall
  have hnetwork : ∀ e ∈ lateReply, e.IsFromNetwork := by
    intro e he
    simp only [lateReply, List.mem_append, List.mem_flatMap, exchange, List.mem_cons,
      List.not_mem_nil, or_false] at he
    obtain ⟨k, -, rfl | rfl | rfl | rfl⟩ | rfl | rfl | rfl := he <;> trivial
  have hrun := (StepSystem.Run.of_foldlM_eq hs).of_forall_mem hnetwork
  obtain ⟨j, buf, payload, hj, hreply, -⟩ := h _ _ _ _ hrun 8 _ hresult _ packet _ hcall rfl
  obtain rfl := Option.some.inj hj
  rw [hreply] at hfirst
  cases hfirst

end Session

end BusOwner

end MctpEmu
