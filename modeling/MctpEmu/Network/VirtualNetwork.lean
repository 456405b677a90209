import MctpEmu.Network.Types
import Mathlib.Logic.Function.Basic

/-!
# The network between sockets and several bindings

`VirtualNetwork` of `src/network/virtual_network.rs` keeps the bound sockets and a registry of
physical bindings. A binding gets its id from a counter, is pushed to the registry, and only then
is asked to bind, which may fail.

## Main definitions

* `VirtualNetwork`, `VirtualNetwork.socket`, `VirtualNetwork.bind`, `VirtualNetwork.getBinding`,
  `VirtualNetwork.addPhysicalBinding`.
* `VirtualNetwork.addPhysicalBindings`: the network after a sequence of calls.
* `VirtualNetwork.RegistryAgrees`: the registry holds what was registered, under its ids.

## Main results

* `VirtualNetwork.addPhysicalBindings_new`: the registry after a sequence of calls.
* `VirtualNetwork.registryAgrees_iff`: the sequences after which the registry is right.
-/

namespace MctpEmu

/-- The state of `VirtualNetwork` over binding handles `β` and join handles `η`. -/
structure VirtualNetwork (β η : Type) where
  clients : Int32 → Option Client
  numClients : Int32
  netDevs : List β
  numBindings : UInt64
  callbackHandles : List η

/-- One call of `add_physical_binding`: the binding, and what its own `bind` returns, with the
`Debug` text of an error. -/
structure AddBinding (β η : Type) where
  binding : β
  result : Except String η

/-- Whether the binding was bound. -/
def AddBinding.isOk {β η : Type} (call : AddBinding β η) : Bool := call.result.isOk

namespace VirtualNetwork

variable {β η : Type}

/-- `VirtualNetwork::new`, with the handle of its callback task. -/
def new (callbackHandle : η) : VirtualNetwork β η where
  clients := fun _ => none
  numClients := 0
  netDevs := []
  numBindings := 0
  callbackHandles := [callbackHandle]

/-- `VirtualNetwork::get_binding`; the subtraction is checked in a debug build. -/
def getBinding (overflowChecks : Bool) (net : VirtualNetwork β η) (bindingId : UInt64) :
    Outcome Network.Error β :=
  if overflowChecks ∧ net.numBindings = 0 then .panic "attempt to subtract with overflow"
  else if bindingId < net.numBindings - 1 then .err (.invalidBindingError bindingId)
  else
    match net.netDevs[bindingId.toNat]? with
    | some binding => .ok binding
    | none => .err (.invalidBindingError bindingId)

/-- `MctpNetwork::socket`: the counter wraps. -/
def socket (net : VirtualNetwork β η) : Int32 × VirtualNetwork β η :=
  (net.numClients, { net with numClients := net.numClients + 1 })

/-- `MctpNetwork::bind`; the subtraction is checked. -/
def bind (net : VirtualNetwork β η) (sd : Int32) (address msgType tag : UInt8) :
    Outcome MctpEmuError Unit × VirtualNetwork β η :=
  if net.numClients = Int32.minValue then (.panic "attempt to subtract with overflow", net)
  else if sd < net.numClients - 1 then (.err (.network (.invalidSocketError sd)), net)
  else
    let clientHandle : Client := { address, msgType, tag }
    (.ok (), { net with clients := Function.update net.clients sd (some clientHandle) })

/-- `MctpNetwork::add_physical_binding`. -/
def addPhysicalBinding (net : VirtualNetwork β η) (call : AddBinding β η) :
    Outcome MctpEmuError Unit × VirtualNetwork β η :=
  let net := { net with numBindings := net.numBindings + 1 }
  let net := { net with netDevs := net.netDevs ++ [call.binding] }
  match call.result with
  | .error err => (.err (.network (.other s!"failed calling binding: {err}")), net)
  | .ok handle => (.ok (), { net with callbackHandles := net.callbackHandles ++ [handle] })

/-! ### The registry -/

/-- The network after a sequence of calls of `add_physical_binding`. -/
def addPhysicalBindings (net : VirtualNetwork β η) (calls : List (AddBinding β η)) :
    VirtualNetwork β η :=
  calls.foldl (fun net call => (net.addPhysicalBinding call).2) net

/-- The registry, and its counter, hold exactly the bindings whose call returned `Ok`; a call that
returns an error leaves both as they were; and a binding is found under an id exactly when it was
registered under it. -/
structure RegistryAgrees (overflowChecks : Bool) (callbackHandle : η)
    (calls : List (AddBinding β η)) : Prop where
  netDevs : ((new callbackHandle).addPhysicalBindings calls).netDevs =
    (calls.filter AddBinding.isOk).map AddBinding.binding
  numBindings : ((new callbackHandle).addPhysicalBindings calls).numBindings.toNat =
    (calls.filter AddBinding.isOk).length
  failed : ∀ before call after, calls = before ++ call :: after →
    ∀ e, (((new callbackHandle).addPhysicalBindings before).addPhysicalBinding call).1 = .err e →
      (((new callbackHandle).addPhysicalBindings before).addPhysicalBinding call).2.netDevs =
        ((new callbackHandle).addPhysicalBindings before).netDevs ∧
      (((new callbackHandle).addPhysicalBindings before).addPhysicalBinding call).2.numBindings =
        ((new callbackHandle).addPhysicalBindings before).numBindings
  getBinding : ∀ id binding,
    ((new callbackHandle).addPhysicalBindings calls).getBinding overflowChecks id = .ok binding ↔
      ∃ before call after, calls = before ++ call :: after ∧
        ((new callbackHandle).addPhysicalBindings before).numBindings = id ∧
        call.isOk = true ∧ call.binding = binding

variable (net : VirtualNetwork β η)

/-- Whatever a call returns, its binding is pushed and the counter goes up. -/
theorem addPhysicalBinding_registry (call : AddBinding β η) :
    (net.addPhysicalBinding call).2.netDevs = net.netDevs ++ [call.binding] ∧
      (net.addPhysicalBinding call).2.numBindings = net.numBindings + 1 := by
  rw [addPhysicalBinding]
  cases call.result <;> exact ⟨rfl, rfl⟩

/-- The registry after a sequence of calls holds the bindings of all of them. -/
theorem addPhysicalBindings_registry (calls : List (AddBinding β η)) :
    (net.addPhysicalBindings calls).netDevs = net.netDevs ++ calls.map AddBinding.binding ∧
      (net.addPhysicalBindings calls).numBindings = net.numBindings + .ofNat calls.length := by
  induction calls generalizing net with
  | nil => exact ⟨(List.append_nil _).symm, (UInt64.add_zero _).symm⟩
  | cons call calls ih =>
    obtain ⟨hdevs, hnum⟩ := net.addPhysicalBinding_registry call
    obtain ⟨hdevs', hnum'⟩ := ih (net.addPhysicalBinding call).2
    rw [addPhysicalBindings, List.foldl_cons]
    refine ⟨hdevs'.trans ?_, hnum'.trans ?_⟩
    · rw [hdevs, List.append_assoc]
      rfl
    · rw [hnum, List.length_cons, UInt64.ofNat_add, UInt64.add_assoc]
      exact congrArg _ (UInt64.add_comm _ _)

/-- The registry of a network that was just made. -/
theorem addPhysicalBindings_new (callbackHandle : η) (calls : List (AddBinding β η)) :
    ((new callbackHandle).addPhysicalBindings calls).netDevs = calls.map AddBinding.binding ∧
      ((new callbackHandle).addPhysicalBindings calls).numBindings = .ofNat calls.length := by
  obtain ⟨hdevs, hnum⟩ := (new callbackHandle).addPhysicalBindings_registry calls
  exact ⟨hdevs, hnum.trans (UInt64.zero_add _)⟩

/-- Below the last id, no binding is found. -/
theorem getBinding_ne_ok_of_lt (overflowChecks : Bool) {net : VirtualNetwork β η}
    {bindingId : UInt64} (h : bindingId.toNat + 1 < net.numBindings.toNat) (binding : β) :
    net.getBinding overflowChecks bindingId ≠ .ok binding := by
  have hlt : bindingId < net.numBindings - 1 := by
    have hle : (1 : UInt64) ≤ net.numBindings := by
      rw [UInt64.le_iff_toNat_le]
      change 1 ≤ net.numBindings.toNat
      omega
    rw [UInt64.lt_iff_toNat_lt, UInt64.toNat_sub_of_le _ _ hle]
    change _ < net.numBindings.toNat - 1
    omega
  unfold getBinding
  split_ifs
  · intro hok
    cases hok
  · intro hok
    cases hok

/-- A registry that agrees was never told of a failing binding. -/
theorem RegistryAgrees.isOk {overflowChecks : Bool} {callbackHandle : η}
    {calls : List (AddBinding β η)} (h : RegistryAgrees overflowChecks callbackHandle calls) :
    ∀ call ∈ calls, call.isOk = true := by
  have hdevs := congrArg List.length h.netDevs
  rw [(addPhysicalBindings_new callbackHandle calls).1, List.length_map, List.length_map] at hdevs
  exact List.length_filter_eq_length_iff.mp hdevs.symm

/-- A registry that agrees has at most one binding: the first of several is not found. -/
theorem RegistryAgrees.length_le {overflowChecks : Bool} {callbackHandle : η}
    {calls : List (AddBinding β η)} (h : RegistryAgrees overflowChecks callbackHandle calls) :
    calls.length ≤ 1 := by
  have hok := h.isOk
  match calls, h with
  | [], _ => exact Nat.zero_le 1
  | [_], _ => exact le_rfl
  | first :: second :: calls, h =>
    have hfilter : (first :: second :: calls).filter AddBinding.isOk = first :: second :: calls :=
      List.filter_eq_self.mpr hok
    have hnum := h.numBindings
    rw [hfilter, List.length_cons, List.length_cons] at hnum
    have hfound := (h.getBinding 0 first.binding).mpr
      ⟨[], first, second :: calls, rfl, rfl, hok first List.mem_cons_self, rfl⟩
    refine absurd hfound (getBinding_ne_ok_of_lt overflowChecks ?_ first.binding)
    rw [hnum, UInt64.toNat_zero]
    omega

/-- With at most one binding, the lookup is that of the vector. -/
theorem getBinding_eq_ok_iff_of_le (overflowChecks : Bool) {net : VirtualNetwork β η}
    (hlen : net.netDevs.length = net.numBindings.toNat) (hle : net.numBindings.toNat ≤ 1)
    (bindingId : UInt64) (binding : β) :
    net.getBinding overflowChecks bindingId = .ok binding ↔
      net.netDevs[bindingId.toNat]? = some binding := by
  unfold getBinding
  constructor
  · intro h
    split_ifs at h
    cases hget : net.netDevs[bindingId.toNat]? with
    | none =>
      rw [hget] at h
      cases h
    | some found =>
      rw [hget] at h
      exact congrArg some (Outcome.ok.inj h)
  · intro hget
    obtain ⟨hlt, -⟩ := List.getElem?_eq_some_iff.mp hget
    have hone : net.numBindings = 1 := by
      refine UInt64.toNat_inj.mp ?_
      change net.numBindings.toNat = 1
      omega
    rw [if_neg (by rw [hone]; exact fun h => absurd h.2 (by decide)),
      if_neg (by rw [hone]; exact UInt64.not_lt.mpr (UInt64.le_iff_toNat_le.mpr (Nat.zero_le _))),
      hget]

/-- A sole binding was registered under its position. -/
theorem exists_registered_iff (callbackHandle : η) {calls : List (AddBinding β η)}
    (hok : ∀ call ∈ calls, call.isOk = true) (hlen : calls.length ≤ 1) (id : UInt64)
    (binding : β) :
    (∃ before call after, calls = before ++ call :: after ∧
      ((new callbackHandle).addPhysicalBindings before).numBindings = id ∧
      call.isOk = true ∧ call.binding = binding) ↔
      (calls.map AddBinding.binding)[id.toNat]? = some binding := by
  constructor
  · rintro ⟨before, call, after, rfl, rfl, -, rfl⟩
    obtain rfl : before = [] := by
      rw [List.length_append, List.length_cons] at hlen
      exact List.length_eq_zero_iff.mp (by omega)
    rfl
  · intro hget
    match calls, hok with
    | [], _ => cases hget
    | call :: calls, hok =>
      obtain ⟨hlt, hbinding⟩ := List.getElem?_eq_some_iff.mp hget
      rw [List.length_map] at hlt
      have hzero : id = 0 := UInt64.toNat_inj.mp (Nat.lt_one_iff.mp (Nat.lt_of_lt_of_le hlt hlen))
      subst hzero
      exact ⟨[], call, calls, rfl, rfl, hok call List.mem_cons_self, hbinding⟩

/-- The registry holds what was registered, and finds it, exactly when every binding was bound and
there is at most one. -/
theorem registryAgrees_iff (overflowChecks : Bool) (callbackHandle : η)
    (calls : List (AddBinding β η)) :
    RegistryAgrees overflowChecks callbackHandle calls ↔
      (∀ call ∈ calls, call.isOk = true) ∧ calls.length ≤ 1 := by
  constructor
  · intro h
    exact ⟨h.isOk, h.length_le⟩
  · rintro ⟨hok, hlen⟩
    obtain ⟨hdevs, hnum⟩ := addPhysicalBindings_new callbackHandle calls
    have hfilter : calls.filter AddBinding.isOk = calls := List.filter_eq_self.mpr hok
    have hcount : ((new callbackHandle).addPhysicalBindings calls).numBindings.toNat =
        calls.length := by
      rw [hnum, UInt64.toNat_ofNat']
      exact Nat.mod_eq_of_lt (by omega)
    refine ⟨by rw [hdevs, hfilter], by rw [hcount, hfilter], ?_, fun id binding => ?_⟩
    · rintro before call after rfl e he
      have hbound := hok call (List.mem_append_right before List.mem_cons_self)
      rw [addPhysicalBinding] at he
      cases hresult : call.result with
      | error err =>
        rw [AddBinding.isOk, hresult] at hbound
        cases hbound
      | ok handle =>
        rw [hresult] at he
        cases he
    · rw [exists_registered_iff callbackHandle hok hlen, ← hdevs]
      refine getBinding_eq_ok_iff_of_le overflowChecks ?_ (hcount ▸ hlen) id binding
      rw [hdevs, hcount, List.length_map]

/-- The first of two bindings is not found. -/
theorem not_registryAgrees : ¬ ∀ calls : List (AddBinding ℕ ℕ), RegistryAgrees false 0 calls :=
  fun h => absurd (h [⟨10, .ok 1⟩, ⟨11, .ok 2⟩]).length_le (by decide)

end VirtualNetwork

end MctpEmu
