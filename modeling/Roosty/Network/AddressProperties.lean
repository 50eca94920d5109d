import Roosty.Network.Endpoint

/-!
# The two address filters

The web-push client refuses every address that the federation client refuses, and
some more: shared and protocol ranges, reserved addresses, documentation addresses of
IPv6, and mapped addresses whose IPv4 address it refuses. The federation client takes
a mapped address for a public one.
-/

set_option autoImplicit false

namespace Roosty.Network

open Library

/-!
## Ranges
-/

/-- The IPv4 ranges that both clients refuse. -/
def Ipv4Addr.Special (address : Ipv4Addr) : Prop :=
  address.a = 10 ∨ (address.a = 172 ∧ 16 ≤ address.b ∧ address.b ≤ 31) ∨
    (address.a = 192 ∧ address.b = 168) ∨ address.a = 127 ∨
    (address.a = 169 ∧ address.b = 254) ∨ (224 ≤ address.a ∧ address.a ≤ 239) ∨
    address = ⟨255, 255, 255, 255⟩ ∨ (address.a = 192 ∧ address.b = 0 ∧ address.c = 2) ∨
    (address.a = 198 ∧ address.b = 51 ∧ address.c = 100) ∨
    (address.a = 203 ∧ address.b = 0 ∧ address.c = 113) ∨
    (address.a = 198 ∧ (address.b = 18 ∨ address.b = 19)) ∨ address.a = 0

/-- The IPv4 ranges that only the web-push client refuses. -/
def Ipv4Addr.Reserved (address : Ipv4Addr) : Prop :=
  (address.a = 100 ∧ 64 ≤ address.b ∧ address.b ≤ 127) ∨
    (address.a = 192 ∧ address.b = 0 ∧ address.c = 0) ∨
    (240 ≤ address.a ∧ address ≠ ⟨255, 255, 255, 255⟩)

/-- The IPv6 ranges that both clients refuse. -/
def Ipv6Addr.Special (address : Ipv6Addr) : Prop :=
  address = ⟨0, 0, 0, 0, 0, 0, 0, 1⟩ ∨ address = ⟨0, 0, 0, 0, 0, 0, 0, 0⟩ ∨
    address.s0 &&& 0xfe00 = 0xfc00 ∨ address.s0 &&& 0xffc0 = 0xfe80 ∨
    address.s0 &&& 0xff00 = 0xff00

/-- The IPv6 ranges that only the web-push client refuses. -/
def Ipv6Addr.Reserved (address : Ipv6Addr) : Prop :=
  match address.toIpv4Mapped with
  | some mapped => mapped.Special ∨ mapped.Reserved
  | none => address.s0 = 0x2001 ∧ address.s1 = 0x0db8

def IpAddr.Special : IpAddr → Prop
  | .v4 address => address.Special
  | .v6 address => address.Special

def IpAddr.Reserved : IpAddr → Prop
  | .v4 address => address.Reserved
  | .v6 address => address.Reserved

/-!
## Filters
-/

theorem isUnsafeAddress_v4 (address : Ipv4Addr) :
    isUnsafeAddress (.v4 address) = true ↔ address.Special := by
  have zero : address = ⟨0, 0, 0, 0⟩ → address.a = 0 := fun same => congrArg Ipv4Addr.a same
  simp only [isUnsafeAddress, Ipv4Addr.Special, Ipv4Addr.isPrivate, Ipv4Addr.isLoopback,
    Ipv4Addr.isLinkLocal, Ipv4Addr.isUnspecified, Ipv4Addr.isMulticast, Ipv4Addr.isBroadcast,
    Ipv4Addr.isDocumentation, Bool.or_eq_true, Bool.and_eq_true, beq_iff_eq, decide_eq_true_eq,
    and_assoc, or_assoc]
  refine or_congr_right (or_congr_right (or_congr_right (or_congr_right (or_congr_right
    (or_iff_right_of_imp ?_)))))
  intro unspecified
  simp [zero unspecified]

theorem isPublicV4_eq_false (address : Ipv4Addr) :
    isPublicV4 address = false ↔ address.Special ∨ address.Reserved := by
  simp only [isPublicV4, Bool.not_eq_false', Bool.or_eq_true,
    Bool.and_eq_true, beq_iff_eq, decide_eq_true_eq, and_assoc, or_assoc]
  constructor
  · intro refused
    rcases refused with h | h | h | h | h | h | h | h | h | h | h | h | high
    iterate 12 simp [Ipv4Addr.Special, Ipv4Addr.Reserved, h]
    by_cases multicast : address.a ≤ 239
    · exact .inl (by simp [Ipv4Addr.Special, high, multicast])
    · by_cases broadcast : address = ⟨255, 255, 255, 255⟩
      · exact .inl (by simp [Ipv4Addr.Special, broadcast])
      · refine .inr (.inr (.inr ⟨?_, broadcast⟩))
        simp only [UInt8.le_iff_toNat_le] at multicast ⊢
        change ¬address.a.toNat ≤ 239 at multicast
        change 240 ≤ address.a.toNat
        omega
  · intro ranges
    rcases ranges with special | reserved
    · unfold Ipv4Addr.Special at special
      rcases special with h | h | h | h | h | h | h | h | h | h | h | h
      iterate 12 simp [h]
    · rcases reserved with h | h | h
      · simp [h]
      · simp [h]
      · have high : 224 ≤ address.a := UInt8.le_trans (by decide) h.1
        simp [high]

theorem isUnsafeAddress_v6 (address : Ipv6Addr) :
    isUnsafeAddress (.v6 address) = true ↔ address.Special := by
  simp only [isUnsafeAddress, Ipv6Addr.Special, Ipv6Addr.isLoopback, Ipv6Addr.isUnspecified,
    Ipv6Addr.isUniqueLocal, Ipv6Addr.isUnicastLinkLocal, Ipv6Addr.isMulticast, Bool.or_eq_true,
    beq_iff_eq, or_assoc]

theorem Ipv6Addr.not_special_of_mapped {address : Ipv6Addr} {mapped : Ipv4Addr}
    (isMapped : address.toIpv4Mapped = some mapped) : ¬address.Special := by
  unfold Ipv6Addr.toIpv4Mapped at isMapped
  split at isMapped
  · rename_i segments
    simp only [Bool.and_eq_true, beq_iff_eq] at segments
    intro special
    rcases special with loopback | unspecified | range | range | range
    · rw [loopback] at segments
      simp at segments
    · rw [unspecified] at segments
      simp at segments
    · rw [segments.1.1.1.1.1] at range
      simp at range
    · rw [segments.1.1.1.1.1] at range
      simp at range
    · rw [segments.1.1.1.1.1] at range
      simp at range
  · cases isMapped

theorem isPublicV6_eq_false (address : Ipv6Addr) :
    isPublicV6 address = false ↔ address.Special ∨ address.Reserved := by
  unfold isPublicV6 Ipv6Addr.Reserved
  cases isMapped : address.toIpv4Mapped with
  | some mapped =>
      dsimp only
      rw [isPublicV4_eq_false]
      constructor
      · intro refused
        exact .inr refused
      · intro ranges
        rcases ranges with special | refused
        · exact absurd special (Ipv6Addr.not_special_of_mapped isMapped)
        · exact refused
  | none =>
      simp only [Ipv6Addr.Special, Ipv6Addr.isLoopback, Ipv6Addr.isUnspecified,
        Bool.not_eq_false', Bool.or_eq_true, Bool.and_eq_true, beq_iff_eq, or_assoc]
      exact or_left_comm

theorem isUnsafeAddress_iff (address : IpAddr) :
    isUnsafeAddress address = true ↔ address.Special := by
  cases address with
  | v4 address => exact isUnsafeAddress_v4 address
  | v6 address => exact isUnsafeAddress_v6 address

theorem isPublic_eq_false (address : IpAddr) :
    isPublic address = false ↔ address.Special ∨ address.Reserved := by
  cases address with
  | v4 address => exact isPublicV4_eq_false address
  | v6 address => exact isPublicV6_eq_false address

theorem Ipv4Addr.Special.not_reserved {address : Ipv4Addr} (special : address.Special) :
    ¬address.Reserved := by
  intro reserved
  unfold Ipv4Addr.Special at special
  rcases reserved with shared | protocol | ⟨high, notBroadcast⟩
  · rcases special with h | h | h | h | h | h | h | h | h | h | h | h
    iterate 12 simp_all
  · rcases special with h | h | h | h | h | h | h | h | h | h | h | h
    iterate 12 simp_all
  · have notMulticast : ¬address.a ≤ 239 := fun low =>
      absurd (UInt8.le_trans high low) (by decide)
    rcases special with h | h | h | h | h | h | h | h | h | h | h | h
    iterate 12 simp_all

theorem IpAddr.Special.not_reserved {address : IpAddr} (special : address.Special) :
    ¬address.Reserved := by
  cases address with
  | v4 address => exact Ipv4Addr.Special.not_reserved special
  | v6 address =>
      intro reserved
      change address.Reserved at reserved
      unfold Ipv6Addr.Reserved at reserved
      cases isMapped : address.toIpv4Mapped with
      | some mapped => exact Ipv6Addr.not_special_of_mapped isMapped special
      | none =>
          rw [isMapped] at reserved
          obtain ⟨first, _⟩ := reserved
          rcases special with same | same | range | range | range
          · rw [same] at first
            simp at first
          · rw [same] at first
            simp at first
          · rw [first] at range
            exact absurd range (by decide)
          · rw [first] at range
            exact absurd range (by decide)
          · rw [first] at range
            exact absurd range (by decide)

/-!
## Agreement
-/

private theorem mapped_agrees_iff (address : Ipv4Addr) :
    isUnsafeAddress (.v4 address) = isUnsafeAddress (.v6 address.toIpv6Mapped) ↔
      ¬address.Special := by
  have reads : isUnsafeAddress (.v6 address.toIpv6Mapped) = false := by
    rw [← Bool.not_eq_true, isUnsafeAddress_v6]
    exact Ipv6Addr.not_special_of_mapped rfl
  rw [reads, ← Bool.not_eq_true, isUnsafeAddress_v4]

private theorem filters_agree_iff (address : IpAddr) :
    (isUnsafeAddress address = true ↔ isPublic address = false) ↔ ¬address.Reserved := by
  rw [isUnsafeAddress_iff, isPublic_eq_false]
  constructor
  · intro agree reserved
    exact (agree.mpr (.inr reserved)).not_reserved reserved
  · intro unreserved
    exact (or_iff_left unreserved).symm

private theorem publicAddress_isOk (addresses : List SocketAddr) :
    (publicAddress addresses).isOk = true ↔
      addresses ≠ [] ∧ ∀ address ∈ addresses, ¬address.ip.Special := by
  unfold publicAddress
  cases addresses with
  | nil => simp [Except.isOk, Except.toBool]
  | cons first others =>
      cases refused : (first :: others).any fun address => isUnsafeAddress address.ip with
      | true =>
          obtain ⟨address, member, isUnsafe⟩ := List.any_eq_true.mp refused
          simp only [List.isEmpty_cons, Bool.or_true, if_true, Except.isOk, Except.toBool,
            Bool.false_eq_true, ne_eq, reduceCtorEq, not_false_eq_true, true_and, false_iff]
          intro none
          exact none address member ((isUnsafeAddress_iff _).mp isUnsafe)
      | false =>
          simp only [List.isEmpty_cons, Bool.or_false, Bool.false_eq_true, if_false, Except.isOk,
            Except.toBool, List.head?_cons, ne_eq, reduceCtorEq, not_false_eq_true, true_and,
            true_iff]
          intro address member special
          have isUnsafe := List.any_eq_false.mp refused address member
          exact isUnsafe ((isUnsafeAddress_iff _).mpr special)

private theorem validateResolved_isOk (addresses : List SocketAddr) :
    (validateResolved addresses).isOk = true ↔
      addresses ≠ [] ∧ ∀ address ∈ addresses, ¬(address.ip.Special ∨ address.ip.Reserved) := by
  unfold validateResolved
  cases addresses with
  | nil => simp [Except.isOk, Except.toBool]
  | cons first others =>
      cases refused : (first :: others).any fun address => !isPublic address.ip with
      | true =>
          obtain ⟨address, member, hidden⟩ := List.any_eq_true.mp refused
          simp only [List.isEmpty_cons, Bool.false_eq_true, if_false, if_true, Except.isOk,
            Except.toBool, ne_eq, reduceCtorEq, not_false_eq_true, true_and, false_iff]
          intro none
          exact none address member ((isPublic_eq_false _).mp (by simpa using hidden))
      | false =>
          simp only [List.isEmpty_cons, Bool.false_eq_true, if_false, Except.isOk,
            Except.toBool, ne_eq, reduceCtorEq, not_false_eq_true, true_and, true_iff]
          intro address member ranges
          have hidden := List.any_eq_false.mp refused address member
          exact hidden (by simpa using (isPublic_eq_false _).mpr ranges)

private theorem hosts_agree_iff (addresses : List SocketAddr) :
    (publicAddress addresses).isOk = (validateResolved addresses).isOk ↔
      (∀ address ∈ addresses, ¬address.ip.Reserved) ∨
        ∃ address ∈ addresses, address.ip.Special := by
  rw [Bool.eq_iff_iff, publicAddress_isOk, validateResolved_isOk]
  constructor
  · intro agree
    by_cases special : ∃ address ∈ addresses, address.ip.Special
    · exact .inr special
    · refine .inl ?_
      intro address member reserved
      have resolved : addresses ≠ [] := List.ne_nil_of_mem member
      have none : ∀ address ∈ addresses, ¬address.ip.Special := fun other otherMember isSpecial =>
        special ⟨other, otherMember, isSpecial⟩
      exact (agree.mp ⟨resolved, none⟩).2 address member (.inr reserved)
  · intro condition
    rcases condition with unreserved | ⟨address, member, special⟩
    · refine and_congr_right fun _ => forall₂_congr fun address member => ?_
      rw [or_iff_left (unreserved address member)]
    · constructor
      · intro accepted
        exact absurd special (accepted.2 address member)
      · intro accepted
        exact absurd (.inl special) (accepted.2 address member)

/-- The filters agree, on an address and on a host, except in the ranges that only the
web-push client refuses; a mapped address is read as its IPv4 address only where that is
not refused. -/
theorem address_filters_agree_iff (mapped : Ipv4Addr) (address : IpAddr) (resolver : Resolver)
    (url : Url) (addresses : List SocketAddr) :
    (isUnsafeAddress (.v4 mapped) = isUnsafeAddress (.v6 mapped.toIpv6Mapped) ↔
      ¬mapped.Special) ∧
    ((isUnsafeAddress address = true ↔ isPublic address = false) ↔ ¬address.Reserved) ∧
    (remoteAddresses resolver url = .ok addresses →
      ((validateRemoteUrl resolver url).isOk = (validateResolved addresses).isOk ↔
        (∀ address ∈ addresses, ¬address.ip.Reserved) ∨
          ∃ address ∈ addresses, address.ip.Special)) := by
  refine ⟨mapped_agrees_iff mapped, filters_agree_iff address, ?_⟩
  intro resolved
  have reached : (validateRemoteUrl resolver url).isOk = (publicAddress addresses).isOk := by
    unfold validateRemoteUrl
    rw [resolved, ok_bind]
    cases publicAddress addresses with
    | error error => rfl
    | ok address => rfl
  rw [reached]
  exact hosts_agree_iff addresses

namespace Sample

def url : Url := ⟨"https", "", none, some (.domain "remote.example"), some 443, "/inbox"⟩

def resolver (ip : IpAddr) : Resolver where
  federationDomainIsAllowed _ := true
  federationDomainIsSuspended _ := false
  parseIp _ := none
  lookupHost _ port := some [⟨ip, port⟩]

end Sample

open Sample in
theorem address_filters_agree_public :
    (validateRemoteUrl (resolver (.v4 ⟨1, 1, 1, 1⟩)) url).isOk =
      (validateResolved [⟨.v4 ⟨1, 1, 1, 1⟩, 443⟩]).isOk := by
  obtain ⟨-, agree, hosts⟩ := address_filters_agree_iff ⟨1, 1, 1, 1⟩ (.v4 ⟨1, 1, 1, 1⟩)
    (resolver (.v4 ⟨1, 1, 1, 1⟩)) url [⟨.v4 ⟨1, 1, 1, 1⟩, 443⟩]
  refine (hosts rfl).mpr (.inl ?_)
  intro address member
  rw [List.mem_singleton.mp member]
  exact agree.mp (by decide)

open Sample in
/-- The federation client refuses the loopback address and connects to it as a mapped
address; it connects to a shared address, which the web-push client refuses. -/
theorem address_filters_disagree :
    isUnsafeAddress (.v4 ⟨127, 0, 0, 1⟩) ≠
        isUnsafeAddress (.v6 (Ipv4Addr.toIpv6Mapped ⟨127, 0, 0, 1⟩)) ∧
      ¬(isUnsafeAddress (.v4 ⟨100, 64, 0, 1⟩) = true ↔ isPublic (.v4 ⟨100, 64, 0, 1⟩) = false) ∧
      (validateRemoteUrl (resolver (.v4 ⟨100, 64, 0, 1⟩)) url).isOk ≠
        (validateResolved [⟨.v4 ⟨100, 64, 0, 1⟩, 443⟩]).isOk := by
  decide

end Roosty.Network
