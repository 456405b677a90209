import MctpEmu.Phys.Transmissions

/-!
# The source address of a binding

The setter of the address refuses what `validate_smbus_address` refuses, and leaves the address of
the binding alone. The constructor calls it in a builder chain that discards its result, so a
refused address gives a binding of the address 0, which is itself a reserved one.

## Main definitions

* `SmbusNetDevBinding.setAddress`, `SmbusNetDevBinding.new`.
* `sourceAddress`: the source field of a datagram.
* `SmbusNetDevBinding.SendsFrom`: a refused address is an error, and datagrams carry any other.

## Main results

* `SmbusNetDevBinding.sourceAddress_run`: all datagrams of a run carry the address of the binding.
* `SmbusNetDevBinding.sendsFrom_iff`: when the constructor keeps what `SendsFrom` says.
* `SmbusNetDevBinding.sourceAddress_of_refused`: what a refused address leads to.
-/

namespace MctpEmu

/-- The 7-bit source address of a datagram, from the fourth byte of its SMBus header. -/
def sourceAddress (datagram : Bytes) : Option UInt8 :=
  (datagram[3]?).map fun src : UInt8 => src >>> 1

/-- Accepted addresses have seven bits. -/
theorem toNat_lt_of_validateSmbusAddress {address : UInt8}
    (h : validateSmbusAddress address.toUInt64 = .ok ()) : address.toNat < 128 := by
  rw [validateSmbusAddress] at h
  split_ifs at h with hrefused
  have hle : ¬ address.toUInt64 > 0x7F := fun hgt => hrefused (.inr (.inr hgt))
  rw [gt_iff_lt, UInt64.lt_iff_toNat_lt, UInt8.toNat_toUInt64] at hle
  change ¬ 127 < address.toNat at hle
  omega

/-- The address bits of a header hold an address of seven bits. -/
theorem shiftRight_srcAddr {address : UInt8} (h : address.toNat < 128) :
    (address <<< 1 ||| 1) >>> 1 = address := by
  refine UInt8.toNat_inj.mp ?_
  have hshift : (address <<< 1).toNat = address.toNat <<< 1 := by
    rw [UInt8.toNat_shiftLeft]
    refine Nat.mod_eq_of_lt ?_
    change address.toNat <<< 1 < 256
    rw [Nat.shiftLeft_eq]
    omega
  rw [UInt8.toNat_shiftRight, UInt8.toNat_or, hshift]
  change (address.toNat <<< 1 ||| 1) >>> 1 = address.toNat
  rw [Nat.shiftRight_or_distrib, Nat.shiftLeft_shiftRight]
  exact Nat.or_zero _

namespace SmbusNetDevBinding

/-- `SmbusNetDevBinding::set_address`. -/
def setAddress (binding : SmbusNetDevBinding) (address : UInt8) :
    Except MctpEmuError Unit × SmbusNetDevBinding :=
  match validateSmbusAddress address.toUInt64 with
  | .error e => (.error e, binding)
  | .ok () => (.ok (), { binding with address })

/-- `SmbusNetDevBinding::new`, with the results of `UdpSocket::bind` and `UdpSocket::connect`. -/
def new (bound connected : Except IoError Unit) (recvSockAddr sendSockAddr : String)
    (address : UInt8) : Except MctpEmuError SmbusNetDevBinding :=
  -- The builder chain discards the result of the setter.
  let binding := (default.setAddress address).2
  match bound with
  | .error e => .error (.phys (.socketError e))
  | .ok () =>
    match connected with
    | .error e => .error (.phys (.socketError e))
    | .ok () => .ok { binding with socket := some ⟨recvSockAddr, sendSockAddr⟩ }

/-- A refused address is an error of the constructor, and with any other address every datagram of
the run carries this address. -/
structure SendsFrom (pec : Bytes → UInt8) (bound connected : Except IoError Unit)
    (recvSockAddr sendSockAddr : String) (address : UInt8) (ops : List Operation) : Prop where
  refuses : validateSmbusAddress address.toUInt64 ≠ .ok () →
    ∃ e, new bound connected recvSockAddr sendSockAddr address = .error e
  source : validateSmbusAddress address.toUInt64 = .ok () → ∀ binding u,
    new bound connected recvSockAddr sendSockAddr address = .ok binding →
    StepSystem.Run (Usage.step pec) (fun _ _ => True) (.init binding) ops u →
    ∀ t ∈ u.transmissions, ∀ call ∈ t.2, sourceAddress call.buf = some address

/-! ### The address of a binding -/

theorem address_setAddress_of_ok {address : UInt8}
    (h : validateSmbusAddress address.toUInt64 = .ok ()) (binding : SmbusNetDevBinding) :
    (binding.setAddress address).2.address = address := by
  rw [setAddress, h]

theorem setAddress_of_ne_ok {address : UInt8}
    (h : validateSmbusAddress address.toUInt64 ≠ .ok ()) (binding : SmbusNetDevBinding) :
    (binding.setAddress address).2 = binding := by
  rw [setAddress]
  cases hvalid : validateSmbusAddress address.toUInt64 with
  | error e => rfl
  | ok u => exact absurd hvalid h

section

variable {bound connected : Except IoError Unit} {recvSockAddr sendSockAddr : String}
  {address : UInt8} {binding : SmbusNetDevBinding}

/-- The constructor fails with its socket, and with nothing else. -/
theorem new_eq_ok_iff :
    new bound connected recvSockAddr sendSockAddr address = .ok binding ↔
      bound = .ok () ∧ connected = .ok () ∧
        { (default.setAddress address).2 with
          socket := some ⟨recvSockAddr, sendSockAddr⟩ } = binding := by
  cases bound with
  | error e => exact iff_of_false (fun h => by cases h) fun h => by cases h.1
  | ok u =>
    cases connected with
    | error e => exact iff_of_false (fun h => by cases h) fun h => by cases h.2.1
    | ok u =>
      simp only [new, Except.ok.injEq, true_and]

end

section Run

variable {pec : Bytes → UInt8} {binding : SmbusNetDevBinding} {ops : List Operation} {u : Usage}
  {C : Usage → Operation → Prop}

theorem getElem?_three_frame (pec : Bytes → UInt8) (binding : SmbusNetDevBinding) (msg : Bytes)
    (phyAddr : UInt64) :
    (binding.frame pec msg phyAddr)[3]? = some (binding.address <<< 1 ||| 0x01) := by
  rw [frame, FromBinary.intoBytes, SmbusPhysTransportHeader.encode_new]
  rfl

/-- No operation changes the address of a binding, and every datagram carries it. -/
theorem sourceAddress_run (h : StepSystem.Run (Usage.step pec) C (.init binding) ops u)
    (haddress : binding.address.toNat < 128) :
    u.binding.address = binding.address ∧
      ∀ t ∈ u.transmissions, ∀ call ∈ t.2, sourceAddress call.buf = some binding.address := by
  refine h.invariant (I := fun u => u.binding.address = binding.address ∧
    ∀ t ∈ u.transmissions, ∀ call ∈ t.2, sourceAddress call.buf = some binding.address) ?_ ?_
  · refine ⟨rfl, fun t ht => ?_⟩
    cases ht
  · rintro u op u' ⟨haddr, hsource⟩ - hstep
    cases op with
    | bind id =>
      obtain rfl := Option.some.inj hstep
      exact ⟨(address_bind u.binding id).trans haddr, hsource⟩
    | transmit msg phyAddr sends =>
      obtain rfl := Option.some.inj hstep
      refine ⟨haddr, fun t ht call hcall => ?_⟩
      rcases List.mem_append.mp ht with ht | ht
      · exact hsource t ht call hcall
      · obtain rfl := List.mem_singleton.mp ht
        rw [buf_of_mem_transmit pec sends u.binding msg phyAddr hcall, sourceAddress,
          getElem?_three_frame, haddr, Option.map_some]
        exact congrArg some (shiftRight_srcAddr haddress)

end Run

/-- The constructor refuses what is no address, and all datagrams carry any other one, exactly when
the address is accepted or the socket cannot be opened. -/
theorem sendsFrom_iff (pec : Bytes → UInt8) (bound connected : Except IoError Unit)
    (recvSockAddr sendSockAddr : String) (address : UInt8) (ops : List Operation) :
    SendsFrom pec bound connected recvSockAddr sendSockAddr address ops ↔
      validateSmbusAddress address.toUInt64 = .ok () ∨ bound ≠ .ok () ∨ connected ≠ .ok () := by
  constructor
  · intro h
    by_contra hcond
    simp only [not_or, ne_eq, not_not] at hcond
    obtain ⟨hrefused, hbound, hconnected⟩ := hcond
    obtain ⟨e, he⟩ := h.refuses hrefused
    cases he.symm.trans (new_eq_ok_iff.mpr ⟨hbound, hconnected, rfl⟩)
  · intro h
    refine ⟨fun hrefused => ?_, fun hvalid binding u hnew hrun => ?_⟩
    · cases hnew : new bound connected recvSockAddr sendSockAddr address with
      | error e => exact ⟨e, rfl⟩
      | ok binding =>
        obtain ⟨hbound, hconnected, -⟩ := new_eq_ok_iff.mp hnew
        rcases h with h | h | h
        · exact absurd h hrefused
        · exact absurd hbound h
        · exact absurd hconnected h
    · obtain ⟨-, -, rfl⟩ := new_eq_ok_iff.mp hnew
      have haddress := address_setAddress_of_ok hvalid default
      have hlt : (default.setAddress address).2.address.toNat < 128 := by
        rw [haddress]
        exact toNat_lt_of_validateSmbusAddress hvalid
      have hsource := (sourceAddress_run hrun hlt).2
      intro t ht call hcall
      exact (hsource t ht call hcall).trans (congrArg some haddress)

/-- With a refused address, every datagram carries the reserved address 0. -/
theorem sourceAddress_of_refused {pec : Bytes → UInt8} {bound connected : Except IoError Unit}
    {recvSockAddr sendSockAddr : String} {address : UInt8} {binding : SmbusNetDevBinding}
    {ops : List Operation} {u : Usage}
    (hrefused : validateSmbusAddress address.toUInt64 ≠ .ok ())
    (hnew : new bound connected recvSockAddr sendSockAddr address = .ok binding)
    (h : StepSystem.Run (Usage.step pec) (fun _ _ => True) (.init binding) ops u) :
    ∀ t ∈ u.transmissions, ∀ call ∈ t.2, sourceAddress call.buf = some 0 := by
  obtain ⟨-, -, rfl⟩ := new_eq_ok_iff.mp hnew
  rw [setAddress_of_ne_ok hrefused] at h
  exact (sourceAddress_run h (Nat.zero_lt_succ 127)).2

/-- The address `0x86` is refused, and a packet leaves with the source address 0. -/
theorem not_sendsFrom_invalidAddress :
    ¬ SendsFrom crc8 (.ok ()) (.ok ()) "localhost:5558" "localhost:5559" 0x86
      [.bind 1, sampleTransmit (.ok 12, .ok 12)] ∧
    ∃ binding u, new (.ok ()) (.ok ()) "localhost:5558" "localhost:5559" 0x86 = .ok binding ∧
      StepSystem.Run (Usage.step crc8) (fun _ _ => True) (.init binding)
        [.bind 1, sampleTransmit (.ok 12, .ok 12)] u ∧
      u.transmissions.map (fun t => (t.1, t.2.map fun call => sourceAddress call.buf)) =
        [(.ok (), [some 0, some 0])] := by
  refine ⟨fun h => ?_, _, _, rfl, .of_foldlM_eq rfl, rfl⟩
  have hrefused : validateSmbusAddress (0x86 : UInt8).toUInt64 ≠ .ok () := fun h => by cases h
  obtain ⟨e, he⟩ := h.refuses hrefused
  cases he

end SmbusNetDevBinding

end MctpEmu
