import MctpEmu.Network.SimpleNetwork
import MctpEmu.Network.VirtualNetwork

/-!
# Sockets

Both networks hand out descriptors from a counter, and compare the descriptor of a `bind` with this
counter. What a sequence of calls does is derived once, from what the two have in common.

## Main definitions

* `MctpNetwork`: a network with a client table, and the laws of its `socket` and `bind`.
* `SocketCall`, `MctpNetwork.run`, `MctpNetwork.returned`: sequences of calls, the network
  afterwards and the descriptors handed out.
* `MctpNetwork.BindAgrees`: a `bind` after a sequence of calls succeeds exactly for these
  descriptors.

## Main results

* `MctpNetwork.returned_eq`: the descriptors of a fresh network count from 0.
* `MctpNetwork.bindAgrees_iff`: the descriptors for which a `bind` is right.
-/

namespace MctpEmu

/-- The socket calls of the trait `MctpNetwork`, with the laws that its implementations share. -/
class MctpNetwork (σ : Type) where
  clients : σ → Int32 → Option Client
  numClients : σ → Int32
  socket : σ → Int32 × σ
  bind : σ → Int32 → UInt8 → UInt8 → UInt8 → Outcome MctpEmuError Unit × σ
  socket_fst (net : σ) : (socket net).1 = numClients net
  numClients_socket (net : σ) : numClients (socket net).2 = numClients net + 1
  numClients_bind (net : σ) (sd : Int32) (address msgType tag : UInt8) :
    numClients (bind net sd address msgType tag).2 = numClients net
  bind_eq_ok_iff (net : σ) (sd : Int32) (address msgType tag : UInt8) :
    (bind net sd address msgType tag).1 = .ok () ↔
      numClients net ≠ Int32.minValue ∧ ¬ sd < numClients net - 1
  clients_bind_of_ne_ok (net : σ) (sd : Int32) (address msgType tag : UInt8) :
    (bind net sd address msgType tag).1 ≠ .ok () →
      clients (bind net sd address msgType tag).2 = clients net

instance : MctpNetwork SimpleNetwork where
  clients := SimpleNetwork.clients
  numClients := SimpleNetwork.numClients
  socket := SimpleNetwork.socket
  bind := SimpleNetwork.bind
  socket_fst _ := rfl
  numClients_socket _ := rfl
  numClients_bind net sd address msgType tag := by
    unfold SimpleNetwork.bind
    split_ifs <;> rfl
  bind_eq_ok_iff net sd address msgType tag := by
    unfold SimpleNetwork.bind
    split_ifs <;> simp_all
  clients_bind_of_ne_ok net sd address msgType tag := by
    unfold SimpleNetwork.bind
    split_ifs <;> simp

instance {β η : Type} : MctpNetwork (VirtualNetwork β η) where
  clients := VirtualNetwork.clients
  numClients := VirtualNetwork.numClients
  socket := VirtualNetwork.socket
  bind := VirtualNetwork.bind
  socket_fst _ := rfl
  numClients_socket _ := rfl
  numClients_bind net sd address msgType tag := by
    unfold VirtualNetwork.bind
    split_ifs <;> rfl
  bind_eq_ok_iff net sd address msgType tag := by
    unfold VirtualNetwork.bind
    split_ifs <;> simp_all
  clients_bind_of_ne_ok net sd address msgType tag := by
    unfold VirtualNetwork.bind
    split_ifs <;> simp

/-- A call of a client. -/
inductive SocketCall
  | socket
  | bind (sd : Int32) (address msgType tag : UInt8)
deriving DecidableEq, Repr

namespace MctpNetwork

variable {σ : Type} [MctpNetwork σ]

/-- The network after a call. -/
def call (net : σ) : SocketCall → σ
  | .socket => (socket net).2
  | .bind sd address msgType tag => (bind net sd address msgType tag).2

/-- The network after a sequence of calls. -/
def run (net : σ) (calls : List SocketCall) : σ := calls.foldl call net

/-- The descriptors that a sequence of calls hands out. -/
def returned (net : σ) : List SocketCall → List Int32
  | [] => []
  | .socket :: calls => (socket net).1 :: returned (socket net).2 calls
  | .bind sd address msgType tag :: calls => returned (bind net sd address msgType tag).2 calls

/-- A `bind` after a sequence of calls succeeds exactly for a descriptor that was handed out, and
leaves the client table alone when it fails. -/
def BindAgrees (net : σ) (calls : List SocketCall) (sd : Int32) (address msgType tag : UInt8) :
    Prop :=
  ((bind (run net calls) sd address msgType tag).1 = .ok () ↔ sd ∈ returned net calls) ∧
  ∀ e, (bind (run net calls) sd address msgType tag).1 = .err e →
    clients (bind (run net calls) sd address msgType tag).2 = clients (run net calls)

/-- The number of sockets that a sequence of calls opens. -/
def opened (calls : List SocketCall) : ℕ := calls.count .socket

theorem opened_socket (calls : List SocketCall) : opened (.socket :: calls) = opened calls + 1 :=
  List.count_cons_self

theorem opened_bind (sd : Int32) (address msgType tag : UInt8) (calls : List SocketCall) :
    opened (.bind sd address msgType tag :: calls) = opened calls := rfl

/-- The counter goes up with every socket. -/
theorem numClients_run (net : σ) (calls : List SocketCall) :
    numClients (run net calls) = numClients net + .ofNat (opened calls) := by
  induction calls generalizing net with
  | nil => exact (Int32.add_zero _).symm
  | cons c calls ih =>
    rw [run, List.foldl_cons]
    refine (ih (call net c)).trans ?_
    cases c with
    | socket =>
      rw [call, numClients_socket, opened_socket, Int32.ofNat_add, Int32.add_assoc]
      exact congrArg _ (Int32.add_comm _ _)
    | bind sd address msgType tag => rw [call, numClients_bind, opened_bind]

/-- Descriptors are counted from the counter at the start. -/
theorem returned_eq (net : σ) (calls : List SocketCall) :
    returned net calls =
      (List.range (opened calls)).map fun i => numClients net + .ofNat i := by
  induction calls generalizing net with
  | nil => rfl
  | cons c calls ih =>
    cases c with
    | socket =>
      rw [returned, ih, opened_socket, List.range_succ_eq_map, List.map_cons, List.map_map,
        socket_fst, numClients_socket]
      refine congrArg₂ _ (Int32.add_zero _).symm (List.map_congr_left fun i _ => ?_)
      change _ = numClients net + .ofNat (i + 1)
      rw [Int32.ofNat_add, Int32.add_assoc]
      exact congrArg _ (Int32.add_comm _ _)
    | bind sd address msgType tag => rw [returned, ih, opened_bind, numClients_bind]

section Fresh

variable {net : σ} {calls : List SocketCall} (hfresh : numClients net = 0)
  (hopened : opened calls < 2 ^ 31) (sd : Int32)

include hfresh hopened

/-- The descriptors of a fresh network are those from 0 up to the number of sockets. -/
theorem mem_returned_iff : sd ∈ returned net calls ↔ 0 ≤ sd.toInt ∧ sd.toInt < opened calls := by
  rw [returned_eq, hfresh, List.mem_map]
  constructor
  · rintro ⟨i, hi, rfl⟩
    have hlt := List.mem_range.mp hi
    rw [Int32.zero_add, Int32.toInt_ofNat_of_lt (by omega)]
    omega
  · rintro ⟨hnonneg, hlt⟩
    have htoNat : (sd.toInt.toNat : ℤ) = sd.toInt := Int.toNat_of_nonneg hnonneg
    refine ⟨sd.toInt.toNat, List.mem_range.mpr (by omega), Int32.toInt.inj ?_⟩
    rw [Int32.zero_add, Int32.toInt_ofNat_of_lt (by omega), htoNat]

/-- A `bind` on a fresh network succeeds from the last descriptor on. -/
theorem bind_run_eq_ok_iff (address msgType tag : UInt8) :
    (bind (run net calls) sd address msgType tag).1 = .ok () ↔
      (opened calls : ℤ) - 1 ≤ sd.toInt := by
  have hnum : (numClients (run net calls)).toInt = opened calls := by
    rw [numClients_run, hfresh, Int32.zero_add, Int32.toInt_ofNat_of_lt hopened]
  have hsub : (numClients (run net calls) - 1).toInt = opened calls - 1 := by
    rw [Int32.toInt_sub, hnum]
    exact Int.bmod_eq_of_le (by change _ ≤ (_ : ℤ) - 1; omega) (by change (_ : ℤ) - 1 < _; omega)
  have hne : numClients (run net calls) ≠ Int32.minValue := by
    intro hmin
    rw [hmin] at hnum
    change (-2147483648 : ℤ) = _ at hnum
    omega
  rw [bind_eq_ok_iff, Int32.lt_iff_toInt_lt, hsub]
  simp only [hne, ne_eq, not_false_eq_true, true_and, not_lt]

/-- A `bind` on a fresh network is right for the last descriptor, and for the negative ones that
it refuses. -/
theorem bindAgrees_iff (address msgType tag : UInt8) :
    BindAgrees net calls sd address msgType tag ↔
      (0 < opened calls ∧ sd.toInt = opened calls - 1) ∨
        (sd.toInt < 0 ∧ sd.toInt < opened calls - 1) := by
  have hclients : ∀ e, (bind (run net calls) sd address msgType tag).1 = .err e →
      clients (bind (run net calls) sd address msgType tag).2 = clients (run net calls) := by
    intro e he
    refine clients_bind_of_ne_ok _ sd address msgType tag fun hok => ?_
    rw [he] at hok
    cases hok
  rw [BindAgrees, bind_run_eq_ok_iff hfresh hopened sd, mem_returned_iff hfresh hopened sd]
  constructor
  · rintro ⟨hiff, -⟩
    omega
  · intro h
    exact ⟨by omega, hclients⟩

end Fresh

/-- After any sequence of calls on either network, a `bind` is right exactly for the descriptor of
the last socket, and for the negative descriptors below it. -/
theorem networks_bindAgrees_iff {β η : Type} (binding : SmbusNetDevBinding) (callbackHandle : η)
    (calls : List SocketCall) (hopened : opened calls < 2 ^ 31) (sd : Int32)
    (address msgType tag : UInt8) :
    (BindAgrees (SimpleNetwork.new binding) calls sd address msgType tag ↔
      (0 < opened calls ∧ sd.toInt = opened calls - 1) ∨
        (sd.toInt < 0 ∧ sd.toInt < opened calls - 1)) ∧
    (BindAgrees (VirtualNetwork.new (β := β) callbackHandle) calls sd address msgType tag ↔
      (0 < opened calls ∧ sd.toInt = opened calls - 1) ∨
        (sd.toInt < 0 ∧ sd.toInt < opened calls - 1)) :=
  ⟨bindAgrees_iff rfl hopened sd address msgType tag,
    bindAgrees_iff rfl hopened sd address msgType tag⟩

/-- The last of two sockets can be bound. -/
theorem networks_bindAgrees_last :
    BindAgrees (SimpleNetwork.new .default) [.socket, .socket] 1 0x08 0 1 :=
  ((networks_bindAgrees_iff (β := ℕ) .default 0 [.socket, .socket] (by decide) 1 0x08 0 1).1).mpr
    (.inl (by decide))

/-- The first of two sockets cannot be bound. -/
theorem not_bindAgrees_first :
    ¬ BindAgrees (SimpleNetwork.new .default) [.socket, .socket] 0 0x08 0 1 := by
  rintro ⟨hiff, -⟩
  exact absurd (hiff.mpr (by decide)) (by decide)

end MctpNetwork

end MctpEmu
