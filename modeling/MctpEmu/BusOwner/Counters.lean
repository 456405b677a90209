import MctpEmu.BusOwner.Responses
import MctpEmu.Endpoint.Responder

/-!
# The counters of a bus owner

Each sender takes one value of two byte counters, which wrap: the message tag keeps three bits of
the one, and the instance id five bits of the other. The responder works on the same context and
leaves the counters alone.

## Main definitions

* `BusOwner.Action`, `BusOwner.packets`: a run of the senders, with requests that are answered in
  between, and the packets that it builds.
* `BusOwner.Numbered`: the headers of the packet with a given number.

## Main results

* `BusOwner.Request.numbered_send`: the packet that a sender builds.
* `BusOwner.numbered_of_getElem?`: the packets of a run, by induction on it.
* `BusOwner.packets_numbered`: their headers, and how far apart they repeat.
-/

namespace MctpEmu

namespace TransportHeader

@[simp] theorem headerVersion_new (srcEid dstEid tag : UInt8)
    (tagOwner startOfMsg endOfMsg : Option Bool) :
    (new srcEid dstEid tag tagOwner startOfMsg endOfMsg).headerVersion = 1 := by
  rw [headerVersion, headerVersionRsvd_new]
  decide

end TransportHeader

namespace BusOwner

/-! ### Runs of the senders -/

/-- What is done with the context: a request is sent, or a packet is answered. -/
inductive Action
  | send (q : Request)
  | handleRequest (bytes : Bytes)

/-- The packets of the requests, in the order in which they are sent. -/
def packets (ctx : MctpEndpointContext) : List Action → List Bytes
  | [] => []
  | .send q :: as => (q.send ctx).1 :: packets (q.send ctx).2 as
  | .handleRequest bytes :: as => packets (ctx.handleRequest bytes).2 as

/-- The headers of the packet with number `k`: the low bits of the counters, which started at `t₀`
and `i₀`, version 1, sequence number 0, and the flags of a request. -/
structure Numbered (t₀ i₀ : UInt8) (k : ℕ) (p : ControlPayload) : Prop where
  msgTag : p.hdr.msgTag.toNat = (t₀.toNat + k) % 8
  instanceId : p.controlHdr.instanceId.toNat = (i₀.toNat + k) % 32
  headerVersion : p.hdr.headerVersion = 1
  packetSeq : p.hdr.packetSeq = 0
  tagOwner : p.hdr.tagOwner = 1
  som : p.hdr.som = 1
  eom : p.hdr.eom = 1
  rq : p.controlHdr.rq = 1
  dBit : p.controlHdr.dBit = 0
  integrityCheck : p.controlHdr.integrityCheck = 0

namespace Request

/-- A sender takes one value of each counter. -/
theorem send_snd (q : Request) (ctx : MctpEndpointContext) :
    (q.send ctx).2 = { ctx with
      nextMsgTag := ctx.nextMsgTag + 1, nextInstanceId := ctx.nextInstanceId + 1 } := by
  cases q with
  | getEid | setEid | allocateEids => rfl

/-- The packet of a sender is parsed to the headers that it built. -/
theorem exists_tryFrom_send (q : Request) (ctx : MctpEndpointContext) :
    ∃ payload, ControlPayload.tryFrom (q.send ctx).1 = .ok (.new (ctx.newTransportHdr q.destEid).1
      (ctx.newControlHdr q.commandCode) payload) := by
  cases q with
  | getEid destEid =>
    exact ⟨_, ctx.tryFrom_newRequest destEid .getEndpointID
      MctpEndpointContext.exists_encode_getEid⟩
  | setEid eid =>
    exact ⟨_, ctx.tryFrom_newRequest 0 .setEndpointID
      (MctpEndpointContext.exists_encode_setEid eid)⟩
  | allocateEids startingEid numberOfEids =>
    exact ⟨_, ctx.tryFrom_newRequest 0 .allocateEndpointIDs
      (MctpEndpointContext.exists_encode_allocateEids numberOfEids startingEid)⟩

/-- A sender numbers its packet with the present values of the counters. -/
theorem numbered_send (q : Request) (ctx : MctpEndpointContext) :
    ∃ p, ControlPayload.tryFrom (q.send ctx).1 = .ok p ∧
      Numbered ctx.nextMsgTag ctx.nextInstanceId 0 p := by
  obtain ⟨payload, hread⟩ := q.exists_tryFrom_send ctx
  refine ⟨_, hread, ?_⟩
  exact {
    msgTag := by
      rw [ControlPayload.new, MctpEndpointContext.newTransportHdr, TransportHeader.msgTag_new,
        BitField.toNat_lowBits]
      rfl
    instanceId := by
      rw [ControlPayload.new, MctpEndpointContext.newControlHdr, ControlMsgHeader.instanceId_new,
        BitField.toNat_lowBits]
      rfl
    headerVersion := TransportHeader.headerVersion_new ..
    packetSeq := TransportHeader.packetSeq_new ..
    tagOwner := TransportHeader.tagOwner_new ..
    som := TransportHeader.som_new ..
    eom := TransportHeader.eom_new ..
    rq := ControlMsgHeader.rq_new ..
    dBit := ControlMsgHeader.dBit_new ..
    integrityCheck := ControlMsgHeader.integrityCheck_new .. }

end Request

/-! ### The counters of a run -/

/-- A counter that has wrapped has the same low bits. -/
theorem toNat_succ_add_mod (t : UInt8) (k : ℕ) {m : ℕ} (hm : m ∣ 256) :
    ((t + 1).toNat + k) % m = (t.toNat + (k + 1)) % m := by
  have hstep : (t + 1).toNat = (t.toNat + 1) % 256 := UInt8.toNat_add t 1
  rw [hstep, Nat.add_mod, Nat.mod_mod_of_dvd _ hm, ← Nat.add_mod, Nat.add_assoc, Nat.add_comm 1 k]

/-- A number counted from the next values of the counters. -/
theorem Numbered.succ {t₀ i₀ : UInt8} {k : ℕ} {p : ControlPayload}
    (h : Numbered (t₀ + 1) (i₀ + 1) k p) : Numbered t₀ i₀ (k + 1) p :=
  { h with
    msgTag := h.msgTag.trans (toNat_succ_add_mod t₀ k (by decide))
    instanceId := h.instanceId.trans (toNat_succ_add_mod i₀ k (by decide)) }

/-- The packets of a run are numbered in the order in which they are sent. -/
theorem numbered_of_getElem? (ctx : MctpEndpointContext) (as : List Action) (k : ℕ)
    (packet : Bytes) (h : (packets ctx as)[k]? = some packet) :
    ∃ p, ControlPayload.tryFrom packet = .ok p ∧
      Numbered ctx.nextMsgTag ctx.nextInstanceId k p := by
  induction as generalizing ctx k with
  | nil => cases h
  | cons a as ih =>
    cases a with
    | send q =>
      cases k with
      | zero =>
        obtain rfl := Option.some.inj h
        exact q.numbered_send ctx
      | succ k =>
        obtain ⟨p, hread, hnumbered⟩ := ih (q.send ctx).2 k h
        rw [q.send_snd ctx] at hnumbered
        exact ⟨p, hread, hnumbered.succ⟩
    | handleRequest bytes =>
      obtain ⟨p, hread, hnumbered⟩ := ih (ctx.handleRequest bytes).2 k h
      rw [ctx.handleRequest_snd] at hnumbered
      exact ⟨p, hread, hnumbered⟩

/-- Every call of a sender sends one packet. -/
theorem length_packets (ctx : MctpEndpointContext) (as : List Action) :
    (packets ctx as).length = as.countP fun a => a matches .send _ := by
  induction as generalizing ctx with
  | nil => rfl
  | cons a as ih =>
    cases a with
    | send q => rw [packets, List.length_cons, ih, List.countP_cons_of_pos rfl]
    | handleRequest bytes => rw [packets, ih, List.countP_cons_of_neg Bool.false_ne_true]

/-- Numbers that are less than `m` apart have different remainders. -/
theorem add_mod_ne {t j k m : ℕ} (hjk : j < k) (hkm : k < j + m) :
    (t + j) % m ≠ (t + k) % m := by
  intro h
  have hdvd : m ∣ (t + k) - (t + j) :=
    Nat.dvd_of_mod_eq_zero (Nat.sub_mod_eq_zero_of_mod_eq h.symm)
  rw [Nat.add_sub_add_left] at hdvd
  have hle := Nat.le_of_dvd (Nat.sub_pos_of_lt hjk) hdvd
  omega

/-- Whatever values the counters start with, packet `k` of every run has the tag `t₀ + k` modulo 8
and the instance id `i₀ + k` modulo 32, and the flags of a request; so packets less than eight apart
have different tags, and those less than 32 apart different instance ids. -/
theorem packets_numbered (ctx : MctpEndpointContext) (as : List Action) :
    (packets ctx as).length = (as.countP fun a => a matches .send _) ∧
    (∀ (k : ℕ) packet, (packets ctx as)[k]? = some packet →
      ∃ p, ControlPayload.tryFrom packet = .ok p ∧
        Numbered ctx.nextMsgTag ctx.nextInstanceId k p) ∧
    ∀ (j k : ℕ) packet packet' p p', (packets ctx as)[j]? = some packet →
      (packets ctx as)[k]? = some packet' → ControlPayload.tryFrom packet = .ok p →
      ControlPayload.tryFrom packet' = .ok p' → j < k →
      (k < j + 8 → p.hdr.msgTag ≠ p'.hdr.msgTag) ∧
        (k < j + 32 → p.controlHdr.instanceId ≠ p'.controlHdr.instanceId) := by
  refine ⟨length_packets ctx as, fun k packet h => numbered_of_getElem? ctx as k packet h, ?_⟩
  intro j k packet packet' p p' hj hk hread hread' hjk
  obtain ⟨q, hq, hnumbered⟩ := numbered_of_getElem? ctx as j packet hj
  obtain ⟨q', hq', hnumbered'⟩ := numbered_of_getElem? ctx as k packet' hk
  obtain rfl := Except.ok.inj (hq.symm.trans hread)
  obtain rfl := Except.ok.inj (hq'.symm.trans hread')
  constructor
  · intro hlt heq
    have htag := congrArg UInt8.toNat heq
    rw [hnumbered.msgTag, hnumbered'.msgTag] at htag
    exact add_mod_ne hjk hlt htag
  · intro hlt heq
    have hid := congrArg UInt8.toNat heq
    rw [hnumbered.instanceId, hnumbered'.instanceId] at hid
    exact add_mod_ne hjk hlt hid

/-- The counters wrap: from 254 and 255, the tags of three packets are 6, 7 and 0, and their
instance ids 31, 0 and 1. -/
theorem packets_numbered_wrap :
    packets ⟨0x14, true, 0x80, 32, 254, 255⟩ [.send (.getEid 8), .send (.setEid 0x80),
        .handleRequest [0x01, 0x14, 0x08, 0xC8, 0x00, 0x81, 0x02], .send (.allocateEids 0x81 4)] =
      [[0x01, 0x08, 0x14, 0xCE, 0x00, 0x9F, 0x02], [0x01, 0x00, 0x14, 0xCF, 0x00, 0x80, 0x01, 0x00,
        0x80], [0x01, 0x00, 0x14, 0xC8, 0x00, 0x81, 0x08, 0x00, 0x04, 0x81]] ∧
    ∀ p p', ControlPayload.tryFrom [0x01, 0x08, 0x14, 0xCE, 0x00, 0x9F, 0x02] = .ok p →
      ControlPayload.tryFrom [0x01, 0x00, 0x14, 0xCF, 0x00, 0x80, 0x01, 0x00, 0x80] = .ok p' →
      p.hdr.msgTag ≠ p'.hdr.msgTag ∧ p.controlHdr.instanceId ≠ p'.controlHdr.instanceId := by
  refine ⟨by decide +kernel, fun p p' hp hp' => ?_⟩
  have hapart := (packets_numbered ⟨0x14, true, 0x80, 32, 254, 255⟩ [.send (.getEid 8),
    .send (.setEid 0x80)]).2.2 0 1 [0x01, 0x08, 0x14, 0xCE, 0x00, 0x9F, 0x02]
    [0x01, 0x00, 0x14, 0xCF, 0x00, 0x80, 0x01, 0x00, 0x80] p p' (by decide +kernel)
    (by decide +kernel) hp hp' Nat.zero_lt_one
  exact ⟨hapart.1 (by decide), hapart.2 (by decide)⟩

end BusOwner

end MctpEmu
