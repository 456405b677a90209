import MctpEmu.Base.Derive

/-!
# The SMBus header

The four bytes that SMBus puts in front of an MCTP packet (`src/phys/smbus_types.rs`): the
destination address, the command code, the byte count and the source address, both addresses
shifted left by one bit.

## Main definitions

* `SmbusPhysTransportHeader`, `SmbusPhysTransportHeader.new`.

## Main results

* `SmbusPhysTransportHeader.encode_new`: the bytes of a built header.
-/

namespace MctpEmu

/-- `SMBUS_COMMAND_CODE_MCTP`. -/
def smbusCommandCodeMctp : UInt8 := 0x0f

structure SmbusPhysTransportHeader where
  destAddr : UInt8
  commandCode : UInt8
  byteCount : UInt8
  srcAddr : UInt8
deriving DecidableEq, Repr

namespace SmbusPhysTransportHeader

def fields : SmbusPhysTransportHeader ≃ UInt8 × UInt8 × UInt8 × UInt8 where
  toFun h := (h.destAddr, h.commandCode, h.byteCount, h.srcAddr)
  invFun f := ⟨f.1, f.2.1, f.2.2.1, f.2.2.2⟩
  left_inv _ := rfl
  right_inv _ := rfl

instance : FixedCodec SmbusPhysTransportHeader := .ofEquiv fields

@[simp] theorem size_eq : FixedCodec.size SmbusPhysTransportHeader = 4 := rfl

/-- `SmbusPhysTransportHeader::new`. -/
def new (destAddr7bit srcAddr7bit byteCount : UInt8) : SmbusPhysTransportHeader where
  destAddr := destAddr7bit <<< 1
  commandCode := smbusCommandCodeMctp
  byteCount := byteCount
  srcAddr := srcAddr7bit <<< 1 ||| 0x01

theorem encode_new (destAddr7bit srcAddr7bit byteCount : UInt8) :
    FixedCodec.encode (new destAddr7bit srcAddr7bit byteCount) =
      [destAddr7bit <<< 1, smbusCommandCodeMctp, byteCount, srcAddr7bit <<< 1 ||| 0x01] := rfl

end SmbusPhysTransportHeader

end MctpEmu
