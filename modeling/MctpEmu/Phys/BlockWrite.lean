import MctpEmu.Phys.SmbusNetDev

/-!
# SMBus block writes

Two framers of the repository put MCTP packets into SMBus block writes: the binding of
`src/phys/smbus_netdev.rs`, and the send closure of `examples/basic_bus_owner_loop.rs`. They differ
in the byte count, and in what the packet error code covers.

## Main definitions

* `sendFrame`: the datagram that the send closure builds.
* `IsBlockWrite`: a consistent block write of a packet.

## Main results

* `sendFrame_eq_some`: the send closure builds block writes.
* `SmbusNetDevBinding.transmit_not_isBlockWrite`: the binding never does.
-/

namespace MctpEmu

/-- The datagram of the send closure in `main`; the addition of `buf.len() as u8 + 1` is checked in
a debug build. -/
def sendFrame (overflowChecks : Bool) (pec : Bytes → UInt8) (destAddr7bit srcAddr7bit : UInt8)
    (buf : Bytes) : Option Bytes :=
  let len : UInt8 := .ofNat buf.length
  if overflowChecks ∧ len = 255 then none
  else
    let respBuf := [destAddr7bit <<< 1, 0x0f, len + 1, srcAddr7bit <<< 1 ||| 1] ++ buf
    some (respBuf ++ [pec respBuf])

/-- The bytes of a block write in front of its packet error code. The byte count covers the source
address and the packet. -/
def blockWrite (destAddr7bit srcAddr7bit : UInt8) (msg : Bytes) : Bytes :=
  [destAddr7bit <<< 1, smbusCommandCodeMctp, .ofNat (msg.length + 1), srcAddr7bit <<< 1 ||| 1] ++ msg

/-- A datagram is a block write of a packet, with the packet error code of all bytes before it. -/
def IsBlockWrite (pec : Bytes → UInt8) (destAddr7bit srcAddr7bit : UInt8)
    (msg datagram : Bytes) : Prop :=
  datagram = blockWrite destAddr7bit srcAddr7bit msg ++
    [pec (blockWrite destAddr7bit srcAddr7bit msg)]

section

variable (pec : Bytes → UInt8) (destAddr7bit srcAddr7bit : UInt8) {msg : Bytes}

/-- The send closure builds a block write of every packet of at most 254 bytes. -/
theorem sendFrame_eq_some (overflowChecks : Bool) (h : msg.length ≤ 254) :
    sendFrame overflowChecks pec destAddr7bit srcAddr7bit msg =
      some (blockWrite destAddr7bit srcAddr7bit msg ++
        [pec (blockWrite destAddr7bit srcAddr7bit msg)]) := by
  have hlen : ¬ (overflowChecks = true ∧ UInt8.ofNat msg.length = 255) := by
    rintro ⟨-, hmax⟩
    have hnat := congrArg UInt8.toNat hmax
    rw [UInt8.toNat_ofNat_of_lt' (by change _ < 256; omega)] at hnat
    change _ = 255 at hnat
    omega
  have hcount : UInt8.ofNat msg.length + 1 = .ofNat (msg.length + 1) :=
    (UInt8.ofNat_add msg.length 1).symm
  simp only [sendFrame, if_neg hlen, hcount]
  rfl

theorem getElem?_two_of_isBlockWrite {datagram : Bytes}
    (h : IsBlockWrite pec destAddr7bit srcAddr7bit msg datagram) :
    datagram[2]? = some (.ofNat (msg.length + 1)) := by
  rw [h]
  rfl

end

namespace SmbusNetDevBinding

variable (pec : Bytes → UInt8) (binding : SmbusNetDevBinding) (msg : Bytes) (phyAddr : UInt64)

/-- The byte count of the binding is the length of the packet alone. -/
theorem getElem?_two_frame :
    (binding.frame pec msg phyAddr)[2]? = some (.ofNat msg.length) := by
  have hmask : UInt8.ofNat (msg.length &&& 0xff) = .ofNat msg.length := by
    refine UInt8.toNat_inj.mp ?_
    rw [UInt8.toNat_ofNat', UInt8.toNat_ofNat']
    change (msg.length &&& (2 ^ 8 - 1)) % 2 ^ 8 = msg.length % 2 ^ 8
    rw [Nat.and_two_pow_sub_one_eq_mod, Nat.mod_mod]
  rw [frame, FromBinary.intoBytes, SmbusPhysTransportHeader.encode_new, hmask]
  rfl

/-- A frame of the binding is no block write of its packet, whatever the addresses are. -/
theorem not_isBlockWrite_frame (destAddr7bit srcAddr7bit : UInt8) :
    ¬ IsBlockWrite pec destAddr7bit srcAddr7bit msg (binding.frame pec msg phyAddr) := by
  intro h
  have hcount := (getElem?_two_frame pec binding msg phyAddr).symm.trans
    (getElem?_two_of_isBlockWrite pec destAddr7bit srcAddr7bit h)
  have hnat := congrArg UInt8.toNat (Option.some.inj hcount)
  rw [UInt8.toNat_ofNat', UInt8.toNat_ofNat'] at hnat
  omega

/-- Every packet that is transmitted is handed to the socket in a datagram that is neither a block
write of it nor what the send closure would have built. -/
theorem transmit_not_isBlockWrite (overflowChecks : Bool)
    (sends : Except IoError ℕ × Except IoError ℕ) (haddr : validateSmbusAddress phyAddr = .ok ())
    (hlen : msg.length ≤ 254) (hsocket : binding.socket ≠ none) :
    (binding.transmit crc8 sends msg phyAddr).2 ≠ [] ∧
    ∀ call ∈ (binding.transmit crc8 sends msg phyAddr).2,
      ¬ IsBlockWrite crc8 phyAddr.toUInt8 binding.address msg call.buf ∧
      sendFrame overflowChecks crc8 phyAddr.toUInt8 binding.address msg ≠ some call.buf := by
  refine ⟨?_, fun call hcall => ?_⟩
  · rcases transmit_cases crc8 sends binding msg phyAddr with ⟨-, -, hrefused⟩ | ⟨-, htwo, -⟩
    · exact absurd ⟨haddr, by omega, hsocket⟩ hrefused
    · rw [htwo]
      exact List.cons_ne_nil _ _
  · rw [buf_of_mem_transmit crc8 sends binding msg phyAddr hcall]
    have hframe := not_isBlockWrite_frame crc8 binding msg phyAddr phyAddr.toUInt8 binding.address
    refine ⟨hframe, fun hsend => hframe ?_⟩
    rw [sendFrame_eq_some crc8 _ _ overflowChecks hlen] at hsend
    exact (Option.some.inj hsend).symm

/-- The address `0x30` is sent a packet of seven bytes. -/
theorem transmit_not_isBlockWrite_getEid :
    (transmit crc8 (.ok 12, .ok 12) ⟨0x10, 1, some ⟨"localhost:5558", "localhost:5559"⟩⟩
      [0x01, 0x00, 0x08, 0xC8, 0x00, 0x80, 0x02] 0x30).2 ≠ [] :=
  (transmit_not_isBlockWrite ⟨0x10, 1, some ⟨"localhost:5558", "localhost:5559"⟩⟩
    [0x01, 0x00, 0x08, 0xC8, 0x00, 0x80, 0x02] 0x30 true (.ok 12, .ok 12) rfl (by decide)
    (Option.some_ne_none _)).1

/-- Its datagram has the byte count 7 instead of 8. -/
theorem frame_ne_blockWrite_getEid :
    ¬ IsBlockWrite crc8 0x30 0x10 [0x01, 0x00, 0x08, 0xC8, 0x00, 0x80, 0x02]
      (frame crc8 ⟨0x10, 1, some ⟨"localhost:5558", "localhost:5559"⟩⟩
        [0x01, 0x00, 0x08, 0xC8, 0x00, 0x80, 0x02] 0x30) := by
  intro h
  have hcount := congrArg (fun bytes => bytes[2]?) h
  exact absurd hcount (by decide)

end SmbusNetDevBinding

end MctpEmu
