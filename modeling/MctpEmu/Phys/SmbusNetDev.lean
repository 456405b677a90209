import MctpEmu.Network.Types
import MctpEmu.Phys.SmbusTypes

/-!
# The SMBus binding

`SmbusNetDevBinding` of `src/phys/smbus_netdev.rs` sends MCTP packets as SMBus frames over a
datagram socket. The packet error code of the `smbus-pec` crate is a parameter `pec`, and the
results of the two calls of `try_send` that one transmission makes are an input.

## Main definitions

* `validateSmbusAddress`, `SmbusNetDevBinding`.
* `SmbusNetDevBinding.frame`: the datagram built for a packet.
* `SmbusNetDevBinding.transmit`: its result, and the datagrams handed to the socket.
* `crc8`: the checksum that SMBus specifies for the packet error code.

## Main results

* `SmbusNetDevBinding.transmit_eq_ok_iff`: when a packet counts as transmitted.
* `SmbusNetDevBinding.buf_of_mem_transmit`: every datagram handed to the socket is the frame.
-/

namespace MctpEmu

/-- `validate_smbus_address`: reserved, invalid and unsupported addresses are refused. -/
def validateSmbusAddress (addr : UInt64) : Except MctpEmuError Unit :=
  if addr < 8 ∨ addr >>> 3 = 0b1111 ∨ addr > 0x7F then
    .error (.phys (.invalidAddress addr))
  else .ok ()

/-- One bit of the cyclic redundancy check with polynomial `0x07`. -/
def crc8Step (crc : UInt8) : UInt8 :=
  if crc &&& (0x80 : UInt8) = 0 then crc <<< 1 else crc <<< 1 ^^^ 0x07

/-- The CRC-8 with polynomial `0x07` and initial value 0. -/
def crc8 (bytes : Bytes) : UInt8 :=
  bytes.foldl (fun crc b => crc8Step^[8] (crc ^^^ b)) 0

/-- A datagram socket, bound to one address and connected to another. -/
structure UdpSocket where
  recvSockAddr : String
  sendSockAddr : String
deriving DecidableEq, Repr

/-- One call of `UdpSocket::try_send`, with the number of bytes sent or the error. -/
structure TrySend where
  buf : Bytes
  result : Except IoError ℕ

structure SmbusNetDevBinding where
  address : UInt8
  networkId : UInt64
  socket : Option UdpSocket
deriving DecidableEq, Repr

namespace SmbusNetDevBinding

/-- The derived `Default`. -/
def default : SmbusNetDevBinding := ⟨0, 0, none⟩

/-- `tx_buf`: the SMBus header, the packet and the packet error code of the packet. -/
def frame (pec : Bytes → UInt8) (binding : SmbusNetDevBinding) (msg : Bytes) (phyAddr : UInt64) :
    Bytes :=
  let destAddr : UInt8 := (phyAddr &&& 0x7f).toUInt8
  let msgLength : UInt8 := .ofNat (msg.length &&& 0xff)
  let hdr := SmbusPhysTransportHeader.new destAddr binding.address msgLength
  FromBinary.intoBytes hdr ++ msg ++ [pec msg]

/-- `SmbusNetDevBinding::transmit`. The frame is handed to the socket twice; the first result is
discarded. -/
def transmit (pec : Bytes → UInt8) (sends : Except IoError ℕ × Except IoError ℕ)
    (binding : SmbusNetDevBinding) (msg : Bytes) (phyAddr : UInt64) :
    Outcome MctpEmuError Unit × List TrySend :=
  match validateSmbusAddress phyAddr with
  | .error e => (.err e, [])
  | .ok () =>
    if msg.length ≥ 256 then
      (.panic "not yet implemented: Support fragmenting messages", [])
    else
      let txBuf := binding.frame pec msg phyAddr
      match binding.socket with
      | none => (.panic "called Option::unwrap() on a None value", [])
      | some _ =>
        let calls := [⟨txBuf, sends.1⟩, ⟨txBuf, sends.2⟩]
        match sends.2 with
        | .ok sentBytes =>
          if sentBytes = txBuf.length then (.ok (), calls)
          else
            (.err (.phys (.transmitError
              s!"incomplete transfer: {sentBytes} != {txBuf.length}")), calls)
        | .error err => (.err (.phys (.socketError err)), calls)

section

variable (pec : Bytes → UInt8) (sends : Except IoError ℕ × Except IoError ℕ)
  (binding : SmbusNetDevBinding) (msg : Bytes) (phyAddr : UInt64)

/-- A packet is either refused with nothing handed to the socket, or handed to it twice. -/
theorem transmit_cases :
    ((binding.transmit pec sends msg phyAddr).1 ≠ .ok () ∧
      (binding.transmit pec sends msg phyAddr).2 = [] ∧
      ¬ (validateSmbusAddress phyAddr = .ok () ∧ msg.length < 256 ∧ binding.socket ≠ none)) ∨
    (((binding.transmit pec sends msg phyAddr).1 = .ok () ↔
        sends.2 = .ok (binding.frame pec msg phyAddr).length) ∧
      (binding.transmit pec sends msg phyAddr).2 =
        [⟨binding.frame pec msg phyAddr, sends.1⟩, ⟨binding.frame pec msg phyAddr, sends.2⟩] ∧
      validateSmbusAddress phyAddr = .ok () ∧ msg.length < 256 ∧ binding.socket ≠ none) := by
  unfold transmit
  cases haddr : validateSmbusAddress phyAddr with
  | error e => exact .inl ⟨nofun, rfl, nofun⟩
  | ok u =>
    by_cases hlen : msg.length ≥ 256
    · simp only [if_pos hlen]
      exact .inl ⟨nofun, trivial, fun h => Nat.not_lt.mpr hlen h.2.1⟩
    · simp only [if_neg hlen]
      cases hsock : binding.socket with
      | none => exact .inl ⟨nofun, rfl, fun h => h.2.2 rfl⟩
      | some socket =>
        refine .inr ?_
        cases hsent : sends.2 with
        | error err => exact ⟨⟨nofun, nofun⟩, rfl, trivial, Nat.lt_of_not_le hlen, nofun⟩
        | ok sentBytes =>
          by_cases heq : sentBytes = (binding.frame pec msg phyAddr).length
          · simp only [heq, if_true]
            exact ⟨trivial, trivial, trivial, Nat.lt_of_not_le hlen, nofun⟩
          · simp only [if_neg heq]
            exact ⟨⟨nofun, fun h => absurd (Except.ok.inj h) heq⟩, trivial, trivial,
              Nat.lt_of_not_le hlen, nofun⟩

/-- The conditions under which a packet counts as transmitted. -/
structure Transmits : Prop where
  address : validateSmbusAddress phyAddr = .ok ()
  length : msg.length < 256
  socket : binding.socket ≠ none
  sent : sends.2 = .ok (binding.frame pec msg phyAddr).length

/-- A packet counts as transmitted when it passes every check and the second call sends all of
its frame. -/
theorem transmit_eq_ok_iff :
    (binding.transmit pec sends msg phyAddr).1 = .ok () ↔
      binding.Transmits pec sends msg phyAddr := by
  rcases transmit_cases pec sends binding msg phyAddr with
    ⟨hres, -, hrefused⟩ | ⟨hres, -, haddr, hlen, hsock⟩
  · exact ⟨fun h => absurd h hres, fun h => absurd ⟨h.address, h.length, h.socket⟩ hrefused⟩
  · rw [hres]
    exact ⟨fun hsent => ⟨haddr, hlen, hsock, hsent⟩, fun h => h.sent⟩

/-- Every datagram handed to the socket is the frame of the packet. -/
theorem buf_of_mem_transmit {call : TrySend}
    (h : call ∈ (binding.transmit pec sends msg phyAddr).2) :
    call.buf = binding.frame pec msg phyAddr := by
  rcases transmit_cases pec sends binding msg phyAddr with ⟨-, hnil, -⟩ | ⟨-, htwo, -⟩
  · rw [hnil] at h
    cases h
  · rw [htwo] at h
    simp only [List.mem_cons, List.not_mem_nil, or_false] at h
    rcases h with rfl | rfl <;> rfl

end

end SmbusNetDevBinding

end MctpEmu
