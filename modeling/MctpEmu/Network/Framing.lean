import MctpEmu.Network.SimpleNetwork

/-!
# Framing against deframing

The binding puts an SMBus header in front of a packet and a packet error code behind it; the
network takes the header off again and keeps the rest. The byte count of the header, which is
the length of the packet, is decoded and not used.

## Main definitions

* `SimpleNetwork.Delivers`: the receive path hands on exactly a packet.

## Main results

* `SimpleNetwork.receiveBuf_frame`: what the receive path makes of a frame.
* `SimpleNetwork.frame_not_delivered`: no frame is handed on as its packet.
-/

namespace MctpEmu

namespace SimpleNetwork

/-- The header of the datagram decodes, and what is handed to `createTag` and to the waiting call
is exactly the packet. -/
def Delivers (msg datagram : Bytes) : Prop := ∃ hdr, receiveBuf datagram = .ok (hdr, msg)

/-- The receive path hands on the packet with its error code. -/
theorem receiveBuf_frame (pec : Bytes → UInt8) (binding : SmbusNetDevBinding) (msg : Bytes)
    (phyAddr : UInt64) :
    receiveBuf (binding.frame pec msg phyAddr) =
      .ok (.new (phyAddr &&& 0x7f).toUInt8 binding.address (.ofNat (msg.length &&& 0xff)),
        msg ++ [pec msg]) := by
  set hdr := SmbusPhysTransportHeader.new (phyAddr &&& 0x7f).toUInt8 binding.address
    (.ofNat (msg.length &&& 0xff)) with hhdr
  have hframe : binding.frame pec msg phyAddr = FixedCodec.encode hdr ++ (msg ++ [pec msg]) := by
    rw [SmbusNetDevBinding.frame, FromBinary.intoBytes, List.append_assoc]
  have hread : FromBinary.tryFrom SmbusPhysTransportHeader (binding.frame pec msg phyAddr) =
      .ok hdr := by
    rw [hframe]
    exact trySized_encode_append hdr _
  have hdrop : (binding.frame pec msg phyAddr).drop 4 = msg ++ [pec msg] := by
    rw [hframe]
    exact List.drop_left' (FixedCodec.length_encode hdr)
  rw [receiveBuf, hread, hdrop]

/-- **No frame is handed on as its packet.** Every datagram that a transmission hands to the
socket is the frame of the packet, and of every frame the receive path hands on one byte too
many, the packet error code. -/
theorem frame_not_delivered (pec : Bytes → UInt8)
    (sends : Except IoError ℕ × Except IoError ℕ) (binding : SmbusNetDevBinding) (msg : Bytes)
    (phyAddr : UInt64) :
    (∀ call ∈ (binding.transmit pec sends msg phyAddr).2,
      call.buf = binding.frame pec msg phyAddr) ∧
    (∃ hdr, receiveBuf (binding.frame pec msg phyAddr) = .ok (hdr, msg ++ [pec msg])) ∧
    ¬ Delivers msg (binding.frame pec msg phyAddr) := by
  have hread := receiveBuf_frame pec binding msg phyAddr
  refine ⟨fun call hcall => binding.buf_of_mem_transmit pec sends msg phyAddr hcall,
    ⟨_, hread⟩, ?_⟩
  rintro ⟨hdr, hdeliver⟩
  rw [hread] at hdeliver
  have hmsg : msg ++ [pec msg] = msg := (Prod.mk.inj (Except.ok.inj hdeliver)).2
  have hlen := congrArg List.length hmsg
  rw [List.length_append, List.length_singleton] at hlen
  omega

/-- A Get Endpoint ID request to the address `0x25` arrives with the byte `0x79` behind it. -/
theorem frame_not_delivered_getEndpointID :
    validateSmbusAddress 0x25 = .ok () ∧
    receiveBuf (SmbusNetDevBinding.frame crc8 ⟨0x10, 1, some ⟨"localhost:5558", "localhost:5559"⟩⟩
      [0x01, 0x0A, 0x08, 0xC8, 0x00, 0x80, 0x02] 0x25) =
      .ok (⟨0x4A, 0x0F, 0x07, 0x21⟩, [0x01, 0x0A, 0x08, 0xC8, 0x00, 0x80, 0x02, 0x79]) ∧
    ¬ Delivers [0x01, 0x0A, 0x08, 0xC8, 0x00, 0x80, 0x02]
      (SmbusNetDevBinding.frame crc8 ⟨0x10, 1, some ⟨"localhost:5558", "localhost:5559"⟩⟩
        [0x01, 0x0A, 0x08, 0xC8, 0x00, 0x80, 0x02] 0x25) := by
  have hread : receiveBuf (SmbusNetDevBinding.frame crc8
      ⟨0x10, 1, some ⟨"localhost:5558", "localhost:5559"⟩⟩
      [0x01, 0x0A, 0x08, 0xC8, 0x00, 0x80, 0x02] 0x25) =
      .ok (⟨0x4A, 0x0F, 0x07, 0x21⟩, [0x01, 0x0A, 0x08, 0xC8, 0x00, 0x80, 0x02, 0x79]) := by
    have hpec : crc8 [0x01, 0x0A, 0x08, 0xC8, 0x00, 0x80, 0x02] = 0x79 := by decide +kernel
    rw [receiveBuf_frame, hpec]
    rfl
  refine ⟨rfl, hread, ?_⟩
  rintro ⟨hdr, hdeliver⟩
  rw [hread] at hdeliver
  cases hdeliver

end SimpleNetwork

end MctpEmu
