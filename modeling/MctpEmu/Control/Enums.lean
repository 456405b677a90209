import MctpEmu.Base.Derive
import Mathlib.Tactic.IntervalCases

/-!
# Enumerations of the control protocol

The one-byte enumerations of `mctp-base-lib/src/control`. Each is written as its discriminant, and
read through `num_enum`'s `FromPrimitive`, which sends every byte that is no discriminant to the
variant marked `#[default]`.

## Main definitions

* `CommandCode`, `CompletionCode`, and their conversions `toU8` and `fromU8`.
* `SetEid.Operation`, `SetEid.EidAssignmentStatus`, `SetEid.EidAllocationStatus`,
  `GetEid.EidType`, `GetEid.EndpointType`, `AllocateEids.Operation`,
  `AllocateEids.AllocationStatus`.

## Main results

* `CommandCode.fromU8_toU8`, `CommandCode.toU8_fromU8`: reading back a written code, and writing
  back a code that was read.
-/

namespace MctpEmu

/-! ### Command codes -/

/-- The command codes of the control protocol. `unknown` stands for every other byte. -/
inductive CommandCode
  | reserved
  | setEndpointID
  | getEndpointID
  | getEndpointUUID
  | getMCTPVersionSupport
  | getMessageTypeSupport
  | getVendorDefinedMessageSupport
  | resolveEndpointID
  | allocateEndpointIDs
  | routingInformationUpdate
  | getRoutingTableEntries
  | prepareForEndpointDiscovery
  | endpointDiscovery
  | discoveryNotify
  | getNetworkID
  | queryHop
  | resolveUUID
  | queryRateLimit
  | requestTXRateLimit
  | updateRateLimit
  | querySupportedInterfaces
  | unknown
deriving DecidableEq, Repr

namespace CommandCode

/-- The discriminant, `self as u8`. -/
def toU8 : CommandCode → UInt8
  | reserved => 0x00
  | setEndpointID => 0x01
  | getEndpointID => 0x02
  | getEndpointUUID => 0x03
  | getMCTPVersionSupport => 0x04
  | getMessageTypeSupport => 0x05
  | getVendorDefinedMessageSupport => 0x06
  | resolveEndpointID => 0x07
  | allocateEndpointIDs => 0x08
  | routingInformationUpdate => 0x09
  | getRoutingTableEntries => 0x0A
  | prepareForEndpointDiscovery => 0x0B
  | endpointDiscovery => 0x0C
  | discoveryNotify => 0x0D
  | getNetworkID => 0x0E
  | queryHop => 0x0F
  | resolveUUID => 0x10
  | queryRateLimit => 0x11
  | requestTXRateLimit => 0x12
  | updateRateLimit => 0x13
  | querySupportedInterfaces => 0x14
  | unknown => 0xFF

/-- `CommandCode::from(u8)`. -/
def fromU8 : UInt8 → CommandCode
  | 0x00 => reserved
  | 0x01 => setEndpointID
  | 0x02 => getEndpointID
  | 0x03 => getEndpointUUID
  | 0x04 => getMCTPVersionSupport
  | 0x05 => getMessageTypeSupport
  | 0x06 => getVendorDefinedMessageSupport
  | 0x07 => resolveEndpointID
  | 0x08 => allocateEndpointIDs
  | 0x09 => routingInformationUpdate
  | 0x0A => getRoutingTableEntries
  | 0x0B => prepareForEndpointDiscovery
  | 0x0C => endpointDiscovery
  | 0x0D => discoveryNotify
  | 0x0E => getNetworkID
  | 0x0F => queryHop
  | 0x10 => resolveUUID
  | 0x11 => queryRateLimit
  | 0x12 => requestTXRateLimit
  | 0x13 => updateRateLimit
  | 0x14 => querySupportedInterfaces
  | _ => unknown

@[simp] theorem fromU8_toU8 (c : CommandCode) : fromU8 c.toU8 = c := by
  cases c <;> rfl

/-- A defined command byte is written back; any other becomes `0xFF`. -/
theorem toU8_fromU8 (b : UInt8) : (fromU8 b).toU8 = if b ≤ 0x14 then b else 0xFF := by
  by_cases hb : b ≤ 0x14
  · rw [if_pos hb]
    have hnat : b.toNat ≤ 20 := hb
    obtain ⟨n, hn⟩ : ∃ n, b.toNat = n := ⟨_, rfl⟩
    obtain rfl : b = .ofNat n := by rw [← hn, UInt8.ofNat_toNat]
    rw [hn] at hnat
    interval_cases n <;> rfl
  · rw [if_neg hb]
    unfold fromU8
    split <;> first | rfl | exact absurd (by decide) hb

/-- `CommandCode::from` gives the default variant exactly outside of the defined range. -/
theorem fromU8_eq_unknown_iff (b : UInt8) : fromU8 b = unknown ↔ ¬ b ≤ 0x14 := by
  have h := toU8_fromU8 b
  refine ⟨fun hu hb => ?_, fun hb => ?_⟩
  · rw [hu, if_pos hb] at h
    exact absurd (h ▸ hb) (by decide)
  · rw [if_neg hb] at h
    rw [← fromU8_toU8 (fromU8 b), h]
    rfl

/-- A defined code is read from its discriminant only. -/
theorem fromU8_eq_iff {b : UInt8} {c : CommandCode} (hc : c ≠ unknown) :
    fromU8 b = c ↔ b = c.toU8 := by
  constructor
  · rintro rfl
    have hle : b ≤ 0x14 := by
      by_contra hgt
      exact hc ((fromU8_eq_unknown_iff b).mpr hgt)
    rw [toU8_fromU8, if_pos hle]
  · rintro rfl
    exact fromU8_toU8 c

instance : FixedCodec CommandCode := .byteEnum toU8 fromU8 fromU8_toU8

end CommandCode

/-! ### Completion codes -/

inductive CompletionCode
  | success
  | error
  | errorInvalidData
  | errorInvalidLength
  | errorNotReady
  | errorUnsupportedCmd
deriving DecidableEq, Repr

namespace CompletionCode

def toU8 : CompletionCode → UInt8
  | success => 0x00
  | error => 0x01
  | errorInvalidData => 0x02
  | errorInvalidLength => 0x03
  | errorNotReady => 0x04
  | errorUnsupportedCmd => 0x05

/-- `CompletionCode::from(u8)`. -/
def fromU8 : UInt8 → CompletionCode
  | 0x00 => success
  | 0x01 => error
  | 0x02 => errorInvalidData
  | 0x03 => errorInvalidLength
  | 0x04 => errorNotReady
  | _ => errorUnsupportedCmd

@[simp] theorem fromU8_toU8 (c : CompletionCode) : fromU8 c.toU8 = c := by
  cases c <;> rfl

end CompletionCode

/-! ### Fields of the requests and responses -/

/-- `set_eid::Operation`. -/
inductive SetEid.Operation
  | setEid
  | forceEid
  | resetEid
  | setDiscoveredFlag
deriving DecidableEq, Repr

def SetEid.Operation.toU8 : SetEid.Operation → UInt8
  | setEid => 0
  | forceEid => 1
  | resetEid => 2
  | setDiscoveredFlag => 3

inductive SetEid.EidAssignmentStatus
  | accepted
  | rejected
deriving DecidableEq, Repr

def SetEid.EidAssignmentStatus.toU8 : SetEid.EidAssignmentStatus → UInt8
  | accepted => 0
  | rejected => 1

inductive SetEid.EidAllocationStatus
  | noPoolSupport
  | requiresPoolAllocation
  | poolAlreadyAllocated
deriving DecidableEq, Repr

def SetEid.EidAllocationStatus.toU8 : SetEid.EidAllocationStatus → UInt8
  | noPoolSupport => 0
  | requiresPoolAllocation => 1
  | poolAlreadyAllocated => 2

def SetEid.EidAllocationStatus.fromU8 : UInt8 → SetEid.EidAllocationStatus
  | 1 => requiresPoolAllocation
  | 2 => poolAlreadyAllocated
  | _ => noPoolSupport

inductive GetEid.EidType
  | dynamic
  | staticSupportedWithPresentEidReturned
  | staticMatch
  | staticMismatch
deriving DecidableEq, Repr

def GetEid.EidType.toU8 : GetEid.EidType → UInt8
  | dynamic => 0
  | staticSupportedWithPresentEidReturned => 1
  | staticMatch => 2
  | staticMismatch => 3

def GetEid.EidType.fromU8 : UInt8 → GetEid.EidType
  | 1 => staticSupportedWithPresentEidReturned
  | 2 => staticMatch
  | 3 => staticMismatch
  | _ => dynamic

inductive GetEid.EndpointType
  | simple
  | busOwnerOrBridge
deriving DecidableEq, Repr

def GetEid.EndpointType.toU8 : GetEid.EndpointType → UInt8
  | simple => 0
  | busOwnerOrBridge => 1

def GetEid.EndpointType.fromU8 : UInt8 → GetEid.EndpointType
  | 1 => busOwnerOrBridge
  | _ => simple

/-- `allocate_eids::Operation`. -/
inductive AllocateEids.Operation
  | allocateEids
  | forceAllocation
  | getAllocationInfo
deriving DecidableEq, Repr

def AllocateEids.Operation.toU8 : AllocateEids.Operation → UInt8
  | allocateEids => 0
  | forceAllocation => 1
  | getAllocationInfo => 2

inductive AllocateEids.AllocationStatus
  | allocationAccepted
  | allocationRejected
deriving DecidableEq, Repr

def AllocateEids.AllocationStatus.toU8 : AllocateEids.AllocationStatus → UInt8
  | allocationAccepted => 0
  | allocationRejected => 1

def AllocateEids.AllocationStatus.fromU8 : UInt8 → AllocateEids.AllocationStatus
  | 0 => allocationAccepted
  | _ => allocationRejected

end MctpEmu
