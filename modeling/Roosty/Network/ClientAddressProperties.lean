import Roosty.Network.ClientAddress

/-!
# Which address a forwarded request is attributed to

Reading a chain of hops from the right, the first address that no trusted network holds is
the client: what stands to its left was written by that client. The chain of a request
is the concatenation of its header lines, of which the server reads the first only.
-/

set_option autoImplicit false

namespace Roosty.Network

open Library

/-!
## The client of a chain
-/

section

variable (trusted : IpAddr → Bool)

def RightmostUntrusted (chain : List IpAddr) (address : IpAddr) : Prop :=
  ∃ before after, chain = before ++ address :: after ∧ trusted address = false ∧
    ∀ hop ∈ after, trusted hop = true

/-- The rightmost untrusted address, or the peer of a chain that has none. -/
def IsClient (peer : IpAddr) (chain : List IpAddr) (address : IpAddr) : Prop :=
  RightmostUntrusted trusted chain address ∨
    ((∀ hop ∈ chain, trusted hop = true) ∧ address = peer)

end

variable {trusted : IpAddr → Bool} {peer address other : IpAddr}

theorem RightmostUntrusted.untrusted_mem {chain : List IpAddr}
    (rightmost : RightmostUntrusted trusted chain address) :
    address ∈ chain ∧ trusted address = false := by
  obtain ⟨before, after, rfl, untrusted, _⟩ := rightmost
  exact ⟨by simp, untrusted⟩

theorem rightmostUntrusted_iff_find {chain : List IpAddr} :
    RightmostUntrusted trusted chain address ↔
      (chain.reverse.find? fun hop => !trusted hop) = some address := by
  rw [List.find?_eq_some_iff_append]
  constructor
  · rintro ⟨before, after, rfl, untrusted, rest⟩
    refine ⟨by simp [untrusted], after.reverse, before.reverse, by simp, ?_⟩
    intro hop member
    simp [rest hop (List.mem_reverse.mp member)]
  · rintro ⟨untrusted, after, before, split, rest⟩
    refine ⟨before.reverse, after.reverse, ?_, by simpa using untrusted, ?_⟩
    · rw [← List.reverse_reverse chain, split]
      simp
    · intro hop member
      simpa using rest hop (List.mem_reverse.mp member)

theorem isClient_iff_find {chain : List IpAddr} :
    IsClient trusted peer chain address ↔
      (chain.reverse.find? fun hop => !trusted hop).getD peer = address := by
  unfold IsClient
  rw [rightmostUntrusted_iff_find]
  cases found : chain.reverse.find? fun hop => !trusted hop with
  | none =>
      have all : ∀ hop ∈ chain, trusted hop = true := by simpa using found
      simp only [reduceCtorEq, false_or, Option.getD_none]
      exact ⟨fun ⟨_, same⟩ => same.symm, fun same => ⟨all, same.symm⟩⟩
  | some client =>
      have some : ¬∀ hop ∈ chain, trusted hop = true := by
        obtain ⟨member, untrusted⟩ := (rightmostUntrusted_iff_find.mpr found).untrusted_mem
        intro all
        rw [all client member] at untrusted
        exact Bool.noConfusion untrusted
      simp [some]

theorem IsClient.unique {chain : List IpAddr} (client : IsClient trusted peer chain address)
    (another : IsClient trusted peer chain other) : address = other :=
  (isClient_iff_find.mp client).symm.trans (isClient_iff_find.mp another)

theorem RightmostUntrusted.append {right : List IpAddr}
    (rightmost : RightmostUntrusted trusted right address) (left : List IpAddr) :
    RightmostUntrusted trusted (left ++ right) address := by
  obtain ⟨before, after, rfl, untrusted, rest⟩ := rightmost
  exact ⟨left ++ before, after, by simp, untrusted, rest⟩

theorem IsClient.append_trusted {left right : List IpAddr}
    (allTrusted : ∀ hop ∈ right, trusted hop = true)
    (client : IsClient trusted peer left address) :
    IsClient trusted peer (left ++ right) address := by
  rcases client with ⟨before, after, rfl, untrusted, rest⟩ | ⟨all, rfl⟩
  · refine .inl ⟨before, after ++ right, by simp, untrusted, ?_⟩
    intro hop member
    exact (List.mem_append.mp member).elim (rest hop) (allTrusted hop)
  · refine .inr ⟨?_, rfl⟩
    intro hop member
    exact (List.mem_append.mp member).elim (all hop) (allTrusted hop)

theorem exists_rightmostUntrusted_or_trusted (trusted : IpAddr → Bool) (chain : List IpAddr) :
    (∃ address, RightmostUntrusted trusted chain address) ∨ ∀ hop ∈ chain, trusted hop = true := by
  cases found : chain.reverse.find? fun hop => !trusted hop with
  | none => exact .inr (by simpa using found)
  | some address => exact .inl ⟨address, rightmostUntrusted_iff_find.mpr found⟩

/-!
## Forwarded requests
-/

variable {IpNet : Type} {contains : IpNet → IpAddr → Bool}

theorem parseChain_length {value : String} {chain : List IpAddr}
    (parsed : parseChain value = some chain) :
    chain.length = (value.toList.splitOn ',').length := by
  have lengths : ∀ (parts : List (List Char)) (addresses : List IpAddr),
      (parts.mapM fun part => (parseIpAddr part).map normalize) = some addresses →
        addresses.length = parts.length := by
    intro parts
    induction parts with
    | nil => simp
    | cons part parts ih =>
        intro addresses read
        simp only [List.mapM_cons, Option.bind_eq_bind, Option.bind_eq_some_iff,
          Option.pure_def, Option.some.injEq] at read
        obtain ⟨_, _, rest, restRead, rfl⟩ := read
        simp [ih rest restRead]
  simpa using lengths _ chain parsed

/-- A request of a trusted peer whose header lines all are lists of addresses, at most
thirty-two of them. -/
structure ForwardedRequest (contains : IpNet → IpAddr → Bool) where
  peer : IpAddr
  trustedProxies : List IpNet
  lines : List String
  chains : List (List IpAddr)
  trusted : isTrusted contains (normalize peer) trustedProxies = true
  wellFormed : List.Forall₂ (fun line chain => parseChain line = some chain) lines chains
  bounded : chains.flatten.length ≤ 32

namespace ForwardedRequest

variable (request : ForwardedRequest contains)

def trusts (address : IpAddr) : Bool := isTrusted contains address request.trustedProxies

def resolved : IpAddr :=
  resolve contains request.peer (request.lines.map some) request.trustedProxies

def chain : List IpAddr := request.chains.flatten

/-- An untrusted address of the later lines is the client of the first line too. -/
def FirstLineDecides : Prop :=
  ∀ address, RightmostUntrusted request.trusts request.chains.tail.flatten address →
    RightmostUntrusted request.trusts (request.chains.head?.getD []) address

theorem chain_eq_append :
    request.chain = request.chains.head?.getD [] ++ request.chains.tail.flatten := by
  unfold chain
  cases request.chains with
  | nil => rfl
  | cons first later => rfl

/-- The same hops from the client to the right, or the same peer and hops throughout. -/
def AgreesFromClient (another : ForwardedRequest contains) : Prop :=
  another.trustedProxies = request.trustedProxies ∧
    ((∃ left left' right, request.chain = left ++ right ∧ another.chain = left' ++ right ∧
        ∃ hop ∈ right, request.trusts hop = false) ∨
      (another.peer = request.peer ∧ another.chain = request.chain))

theorem resolved_isClient_first :
    IsClient request.trusts (normalize request.peer) (request.chains.head?.getD [])
      request.resolved := by
  rw [isClient_iff_find]
  obtain ⟨peer, trustedProxies, lines, chains, trusted, wellFormed, bounded⟩ := request
  cases wellFormed with
  | nil => simp [resolved, resolve, trusted]
  | @cons line first _ later parsed _ =>
      have short : ¬32 < (line.toList.splitOn ',').length := by
        rw [← parseChain_length parsed]
        simp only [List.flatten_cons, List.length_append] at bounded
        omega
      simp only [resolved, resolve, trusted, List.map_cons, List.head?_cons, Option.join_some,
        parsed, short, Bool.not_true, Bool.false_eq_true, ↓reduceIte, Option.getD_some]
      rfl

theorem trusts_peer : request.trusts (normalize request.peer) = true := request.trusted

theorem firstLineDecides_of_isClient
    (client : IsClient request.trusts (normalize request.peer) request.chain request.resolved) :
    request.FirstLineDecides := by
  intro address rightmost
  have whole : RightmostUntrusted request.trusts request.chain address := by
    rw [chain_eq_append]
    exact rightmost.append _
  have same : request.resolved = address := client.unique (.inl whole)
  rcases request.resolved_isClient_first with first | ⟨_, isPeer⟩
  · exact same ▸ first
  · have trusted : request.trusts address = true := by
      rw [← same, isPeer]
      exact request.trusts_peer
    rw [rightmost.untrusted_mem.2] at trusted
    exact Bool.noConfusion trusted

theorem isClient_of_firstLineDecides (decides : request.FirstLineDecides) :
    IsClient request.trusts (normalize request.peer) request.chain request.resolved := by
  rw [chain_eq_append]
  rcases exists_rightmostUntrusted_or_trusted request.trusts request.chains.tail.flatten with
    ⟨address, rightmost⟩ | allTrusted
  · have same : request.resolved = address :=
      request.resolved_isClient_first.unique (.inl (decides address rightmost))
    rw [same]
    exact .inl (rightmost.append _)
  · exact request.resolved_isClient_first.append_trusted allTrusted

theorem client_eq_of_agrees {another : ForwardedRequest contains}
    (agrees : request.AgreesFromClient another) {address other : IpAddr}
    (client : IsClient request.trusts (normalize request.peer) request.chain address)
    (another_client : IsClient another.trusts (normalize another.peer) another.chain other) :
    other = address := by
  obtain ⟨sameProxies, agreement⟩ := agrees
  have sameTrusts : another.trusts = request.trusts := by
    unfold trusts
    rw [sameProxies]
  rw [sameTrusts] at another_client
  rcases agreement with ⟨left, left', right, split, split', hop, member, untrusted⟩ |
    ⟨samePeer, sameChain⟩
  · rcases exists_rightmostUntrusted_or_trusted request.trusts right with
      ⟨rightmost, isRightmost⟩ | allTrusted
    · rw [split] at client
      rw [split'] at another_client
      rw [client.unique (.inl (isRightmost.append left)),
        another_client.unique (.inl (isRightmost.append left'))]
    · rw [allTrusted hop member] at untrusted
      exact Bool.noConfusion untrusted
  · rw [samePeer, sameChain] at another_client
    exact another_client.unique client

/-- The request is attributed to the client of the whole chain exactly when its first line
decides; two such requests that agree from the client to the right are attributed alike. -/
theorem resolved_isClient_iff :
    (IsClient request.trusts (normalize request.peer) request.chain request.resolved ↔
      request.FirstLineDecides) ∧
    ∀ another : ForwardedRequest contains, request.FirstLineDecides → another.FirstLineDecides →
      request.AgreesFromClient another → another.resolved = request.resolved := by
  refine ⟨⟨request.firstLineDecides_of_isClient, request.isClient_of_firstLineDecides⟩, ?_⟩
  intro another decides another_decides agrees
  exact request.client_eq_of_agrees agrees (request.isClient_of_firstLineDecides decides)
    (another.isClient_of_firstLineDecides another_decides)

end ForwardedRequest

/-!
## A proxy that appends a header line
-/

namespace Sample

/-- The networks `a.0.0.0/8`, each given by `a`. -/
def containsV4 (network : UInt8) : IpAddr → Bool
  | .v4 address => address.a == network
  | .v6 _ => false

def proxy : IpAddr := .v4 ⟨10, 0, 0, 3⟩
def forged : IpAddr := .v4 ⟨198, 51, 100, 1⟩
def client : IpAddr := .v4 ⟨203, 0, 113, 7⟩

/-- The client sends a header line of its own, and the proxy adds one below it. -/
def spoofed : ForwardedRequest containsV4 where
  peer := proxy
  trustedProxies := [10]
  lines := ["198.51.100.1", "203.0.113.7"]
  chains := [[forged], [client]]
  trusted := by decide +kernel
  wellFormed := .cons (by decide +kernel) (.cons (by decide +kernel) .nil)
  bounded := by decide

/-- The proxy appends to the client's line, which says what it will. -/
def appended (text : String) (written : IpAddr) (parsed : parseChain text = some [written, client]) :
    ForwardedRequest containsV4 where
  peer := proxy
  trustedProxies := [10]
  lines := [text]
  chains := [[written, client]]
  trusted := by decide +kernel
  wellFormed := .cons parsed .nil
  bounded := by simp

def first : ForwardedRequest containsV4 :=
  appended "198.51.100.1, 203.0.113.7" forged (by decide +kernel)

def second : ForwardedRequest containsV4 :=
  appended "::ffff:10.0.0.9,203.0.113.7" (.v4 ⟨10, 0, 0, 9⟩) (by decide +kernel)

end Sample

/-- The client chooses the address that it is attributed to. -/
theorem forged_line_decides :
    ¬IsClient Sample.spoofed.trusts (normalize Sample.spoofed.peer) Sample.spoofed.chain
      Sample.spoofed.resolved := by
  rw [isClient_iff_find]
  decide +kernel

/-- Two clients' lines, extended by one proxy, make no difference. -/
theorem appended_lines_agree :
    IsClient Sample.first.trusts (normalize Sample.first.peer) Sample.first.chain
        Sample.first.resolved ∧
      Sample.second.resolved = Sample.first.resolved := by
  have decides : Sample.first.FirstLineDecides := by
    rintro address ⟨before, after, split, _⟩
    exact absurd split (by simp [Sample.first, Sample.appended])
  have also_decides : Sample.second.FirstLineDecides := by
    rintro address ⟨before, after, split, _⟩
    exact absurd split (by simp [Sample.second, Sample.appended])
  have agrees : Sample.first.AgreesFromClient Sample.second :=
    ⟨rfl, .inl ⟨[Sample.forged], [.v4 ⟨10, 0, 0, 9⟩], [Sample.client], rfl, rfl, Sample.client,
      List.mem_singleton_self _, by decide +kernel⟩⟩
  have ⟨attributed, alike⟩ := ForwardedRequest.resolved_isClient_iff Sample.first
  exact ⟨attributed.mpr decides, alike Sample.second decides also_decides agrees⟩

end Roosty.Network
