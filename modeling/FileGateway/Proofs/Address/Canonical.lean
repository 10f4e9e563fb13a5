import FileGateway.Pool
import FileGateway.Proofs.Address.Colon

/-! A host that is accepted becomes an address, and an address becomes itself, whatever the settings.
So a host and its address stand for one entry of a pool. -/
namespace FileGateway
open Blank (trim)

namespace Address

/-- A text with a name before its last colon and a valid port behind it. -/
def HasPort (text : List Char) : Prop :=
  ∃ name port, text = name ++ ':' :: port ∧ ':' ∉ port ∧ name ≠ [] ∧ (port? port).isSome

theorem HasPort.colon {text : List Char} (hasPort : HasPort text) : ':' ∈ text := by
  obtain ⟨name, port, rfl, -⟩ := hasPort
  exact List.mem_append_right name List.mem_cons_self

theorem hasPort_append_iff {name port : List Char} (plain : ':' ∉ port) :
    HasPort (name ++ ':' :: port) ↔ name ≠ [] ∧ (port? port).isSome := by
  constructor
  · rintro ⟨name', port', same, plain', valid⟩
    have split := splitLastColon_append name plain
    rw [same, splitLastColon_append name' plain'] at split
    cases split
    exact valid
  · intro valid
    exact ⟨name, port, rfl, plain, valid⟩

/-! ## Ports in decimal -/

theorem toString_ne_nil (port : Nat) : (toString port).toList ≠ [] := by
  rw [show (toString port).toList = Nat.toDigits 10 port from Nat.toList_repr]
  exact Nat.toDigits_ne_nil

theorem decimal_toString (port : Nat) : decimal (toString port).toList = port := by
  rw [show (toString port).toList = Nat.toDigits 10 port from Nat.toList_repr]
  have same : decimal (Nat.toDigits 10 port) = Nat.ofDigitChars 10 (Nat.toDigits 10 port) 0 := by
    simp only [decimal, Nat.ofDigitChars, Nat.mul_comm]
  rw [same, Nat.ofDigitChars_toDigits (by decide) (by decide)]

/-- Digits alone have no sign in front. -/
theorem port?_of_isDigit {text : List Char} (digits : ∀ c ∈ text, c.isDigit = true)
    (nonempty : text ≠ []) (small : decimal text ≤ maxPort) :
    port? text = some (decimal text) := by
  have signless : ∀ rest, text ≠ '+' :: rest := by
    rintro rest rfl
    have digit := digits '+' List.mem_cons_self
    contradiction
  rw [port?]
  · exact if_pos ⟨nonempty, List.all_eq_true.mpr digits, small⟩
  · exact signless

theorem port?_toString {port : Nat} (small : port ≤ maxPort) :
    port? (toString port).toList = some port := by
  have read := port?_of_isDigit (fun _ => isDigit_of_mem_toString) (toString_ne_nil port)
  rw [decimal_toString] at read
  exact read small

/-! ## Addresses -/

theorem hasPort_ofPort {name : String} (nonempty : name.toList ≠ []) {port : Nat}
    (small : port ≤ maxPort) : HasPort (ofPort name port).toList := by
  refine ⟨name.toList, (toString port).toList, toList_ofPort name port,
    colon_notMem_toString port, nonempty, ?_⟩
  rw [port?_toString small]
  rfl

/-- The decimal digits behind a trimmed name leave nothing to trim. -/
theorem trim_ofPort {name : String} (nonempty : name.toList ≠ [])
    (trimmed : trim name.toList = name.toList) (port : Nat) :
    trim (ofPort name port).toList = (ofPort name port).toList := by
  obtain ⟨starts, -⟩ := Blank.trim_eq_self_iff.mp trimmed
  rw [Blank.trim_eq_self_iff, toList_ofPort, Blank.trimStart_eq_self_iff_head?,
    Blank.trimEnd_eq_self_iff_getLast?, List.head?_append_of_ne_nil _ nonempty,
    List.getLast?_append_of_ne_nil _ (List.cons_ne_nil _ _)]
  constructor
  · exact Blank.trimStart_eq_self_iff_head?.mp starts
  · intro c last
    rw [← List.singleton_append, List.getLast?_append_of_ne_nil _ (toString_ne_nil port)] at last
    exact Blank.isBlank_of_isDigit (isDigit_of_mem_toString (List.mem_of_getLast? last))

end Address

namespace Settings
variable {settings : Settings} {host address : String}

/-- The two ways in which a host is accepted: with a port of its own, or with that of the
settings. -/
theorem resolve_eq_ok_iff : settings.resolve host = .ok address ↔
    Address.HasPort (trim host.toList) ∧ address = String.ofList (trim host.toList) ∨
      ':' ∉ trim host.toList ∧ trim host.toList ≠ [] ∧
        address = Address.ofPort (String.ofList (trim host.toList)) settings.defaultPort.toNat := by
  simp only [resolve]
  generalize trim host.toList = text
  split
  · rename_i unsplit
    have plain := Address.splitLastColon_eq_none_iff.mp unsplit
    constructor
    · intro resolved
      split at resolved
      · contradiction
      · rename_i nonempty
        cases resolved
        exact .inr ⟨plain, nonempty, rfl⟩
    · rintro (⟨hasPort, -⟩ | ⟨-, nonempty, rfl⟩)
      · exact absurd hasPort.colon plain
      · exact if_neg nonempty
  · rename_i name port split
    obtain ⟨rfl, plain⟩ := Address.splitLastColon_eq_some_iff.mp split
    rw [Address.hasPort_append_iff plain]
    constructor
    · intro resolved
      split at resolved
      · contradiction
      · rename_i valid
        cases resolved
        exact .inl ⟨by simpa [Option.isSome_iff_ne_none] using valid, rfl⟩
    · rintro (⟨⟨named, valid⟩, rfl⟩ | ⟨noColon, -⟩)
      · exact if_neg (by simp [named, Option.isSome_iff_ne_none.mp valid])
      · simp at noColon

theorem error_of_resolve {error : GatewayError}
    (refused : settings.resolve host = .error error) :
    error = .invalidHost (String.ofList (Blank.trim host.toList)) := by
  simp only [resolve] at refused
  split at refused <;> split at refused <;> cases refused <;> rfl

theorem hostName_of_resolve (resolved : settings.resolve host = .ok address) :
    Address.hostName address = Address.hostName (String.ofList (trim host.toList)) := by
  rcases resolve_eq_ok_iff.mp resolved with ⟨-, rfl⟩ | ⟨plain, -, rfl⟩
  · rfl
  · rw [Address.hostName_ofPort, Address.hostName_of_notMem]
    rwa [String.toList_ofList]

theorem resolve_self (settings : Settings) (hasPort : Address.HasPort address.toList)
    (trimmed : trim address.toList = address.toList) :
    settings.resolve address = .ok address := by
  rw [resolve_eq_ok_iff, trimmed, String.ofList_toList]
  exact .inl ⟨hasPort, rfl⟩

theorem hasPort_of_resolve (resolved : settings.resolve host = .ok address) :
    Address.HasPort address.toList ∧ trim address.toList = address.toList := by
  have trimmed : trim (trim host.toList) = trim host.toList :=
    Blank.trim_eq_self_iff.mpr ⟨Blank.trimStart_trim _, Blank.trimEnd_trim _⟩
  rcases resolve_eq_ok_iff.mp resolved with ⟨hasPort, rfl⟩ | ⟨-, nonempty, rfl⟩
  · rw [String.toList_ofList]
    exact ⟨hasPort, trimmed⟩
  · constructor
    · apply Address.hasPort_ofPort
      · rwa [String.toList_ofList]
      · exact Nat.le_of_lt_succ settings.defaultPort.toNat_lt
    · apply Address.trim_ofPort
      · rwa [String.toList_ofList]
      · rwa [String.toList_ofList]

theorem exists_resolve_iff : (∃ address, settings.resolve host = .ok address) ↔
    trim host.toList ≠ [] ∧ (':' ∉ trim host.toList ∨ Address.HasPort (trim host.toList)) := by
  simp only [resolve_eq_ok_iff]
  constructor
  · rintro ⟨address, ⟨hasPort, -⟩ | ⟨plain, nonempty, -⟩⟩
    · exact ⟨List.ne_nil_of_mem hasPort.colon, .inr hasPort⟩
    · exact ⟨nonempty, .inl plain⟩
  · rintro ⟨nonempty, plain | hasPort⟩
    · exact ⟨_, .inr ⟨plain, nonempty, rfl⟩⟩
    · exact ⟨_, .inl ⟨hasPort, rfl⟩⟩

end Settings

theorem Pool.get_congr {pool : Pool} {host other : String}
    (same : pool.settings.resolve host = pool.settings.resolve other) (network : Network)
    (now : Nat) : pool.get network now host = pool.get network now other := by
  rw [Pool.get, Pool.get, same]

theorem Pool.invalidate_congr {pool : Pool} {host other : String}
    (same : pool.settings.resolve host = pool.settings.resolve other) :
    pool.invalidate host = pool.invalidate other := by
  rw [Pool.invalidate, Pool.invalidate, same]

/-- A host is accepted if something is left of it without the blanks around it that either has no
colon or has a name and a valid port at its last one. Its address has both, keeps the host's name and
is itself accepted as it stands, with whatever settings. A pool gives the same client for a host and
for its address, connects it in the same way, and forgets it for either. -/
theorem Settings.resolve_canonical (settings other : Settings) (host : String) :
    ((∃ address, settings.resolve host = .ok address) ↔
      trim host.toList ≠ [] ∧ (':' ∉ trim host.toList ∨ Address.HasPort (trim host.toList))) ∧
    ∀ address, settings.resolve host = .ok address →
      Address.HasPort address.toList ∧
      other.resolve address = .ok address ∧
      Address.hostName address = Address.hostName (String.ofList (trim host.toList)) ∧
      ∀ pool : Pool, pool.settings = settings →
        (∀ network now, pool.get network now host = pool.get network now address) ∧
        pool.invalidate host = pool.invalidate address := by
  refine ⟨exists_resolve_iff, ?_⟩
  intro address resolved
  obtain ⟨hasPort, trimmed⟩ := hasPort_of_resolve resolved
  refine ⟨hasPort, other.resolve_self hasPort trimmed, hostName_of_resolve resolved, ?_⟩
  rintro pool rfl
  have same : pool.settings.resolve host = pool.settings.resolve address :=
    resolved.trans (pool.settings.resolve_self hasPort trimmed).symm
  exact ⟨Pool.get_congr same, Pool.invalidate_congr same⟩

/-- Only the last of several colons counts. A port keeps its sign and its zeros. -/
theorem Settings.resolve_canonical_signed_port :
    Settings.resolve {} "\u3000::1:+080 " = .ok "::1:+080" ∧
      Settings.resolve { defaultPort := 7000 } "::1:+080" = .ok "::1:+080" ∧
      Address.hostName "::1:+080" = "::1" ∧
      (Pool.ofSettings {}).get {} 5 "\u3000::1:+080 " = (Pool.ofSettings {}).get {} 5 "::1:+080" := by
  have resolved : Settings.resolve {} "\u3000::1:+080 " = .ok "::1:+080" := by rfl
  obtain ⟨-, same, named, pooled⟩ :=
    (Settings.resolve_canonical {} { defaultPort := 7000 } "\u3000::1:+080 ").2 _ resolved
  exact ⟨resolved, same, named.trans (by decide), (pooled (.ofSettings {}) rfl).1 {} 5⟩

end FileGateway
