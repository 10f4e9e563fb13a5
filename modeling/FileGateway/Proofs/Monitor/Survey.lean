import FileGateway.Monitor

/-! A monitor has hosts with addresses, and blocks of some size. As long as no call is given up,
it asks all of its hosts, one after another, and the answers stand in their order. -/
namespace FileGateway
variable {α : Type}

/-- The answer that stands for what a host gave. -/
def HostAnswer.ofOutcome (host : String) (outcome : Except Failure (Option α)) : HostAnswer α :=
  ⟨host, outcome.toOption.join⟩

namespace Hub

/-- What each of the hosts gives if they are asked one after another. -/
def askEach (now : Nat) (query : Query α) :
    Hub → List String → List (Except Failure (Option α)) × Hub
  | hub, [] => ([], hub)
  | hub, host :: hosts =>
    let (outcome, hub) := hub.ask now query host
    let (outcomes, hub) := askEach now query hub hosts
    (outcome :: outcomes, hub)

theorem askEach_cons (now : Nat) (query : Query α) (hub : Hub) (host : String)
    (hosts : List String) :
    askEach now query hub (host :: hosts) =
      ((hub.ask now query host).1 :: (askEach now query (hub.ask now query host).2 hosts).1,
        (askEach now query (hub.ask now query host).2 hosts).2) :=
  rfl

theorem length_askEach (now : Nat) (query : Query α) (hub : Hub) (hosts : List String) :
    (askEach now query hub hosts).1.length = hosts.length := by
  induction hosts generalizing hub with
  | nil => rfl
  | cons host hosts ih => rw [askEach_cons, List.length_cons, List.length_cons, ih]

/-- Without a call that is given up, one worker is enough. -/
theorem askAll_eq_askEach {now : Nat} {query : Query α} (workers : Nat) {hub : Hub}
    {hosts : List String} (come : .error .cancelled ∉ (askEach now query hub hosts).1) :
    askAll now query (workers + 1) hub hosts =
      (some (List.zipWith HostAnswer.ofOutcome hosts (askEach now query hub hosts).1),
        (askEach now query hub hosts).2) := by
  induction hosts generalizing hub with
  | nil => rfl
  | cons host hosts ih =>
    rw [askEach_cons, List.mem_cons, not_or] at come
    obtain ⟨first, others⟩ := come
    rw [askAll, askEach_cons]
    cases asked : hub.ask now query host with
    | mk outcome next =>
      rw [asked] at first others
      rw [List.zipWith_cons_cons]
      match outcome with
      | .error .cancelled => contradiction
      | .error (.error cause) =>
        simp only [ih others]
        rfl
      | .ok value =>
        simp only [ih others]
        rfl

end Hub

namespace Monitor

theorem exists_ok_of_mapM {β γ ε : Type} {check : β → Except ε γ} {entries : List β}
    {results : List γ} (checked : entries.mapM check = .ok results) :
    ∀ entry ∈ entries, ∃ result, check entry = .ok result := by
  induction entries generalizing results with
  | nil => exact nofun
  | cons entry rest ih =>
    rw [List.mapM_cons] at checked
    cases first : check entry with
    | error error =>
      rw [first] at checked
      contradiction
    | ok result =>
      rw [first] at checked
      cases others : rest.mapM check with
      | error error => simp [others, bind, Except.bind] at checked
      | ok later => exact List.forall_mem_cons.mpr ⟨⟨result, first⟩, ih others⟩

theorem ofHosts_eq_ok {settings : Settings} {hosts : List String} {monitor : Monitor}
    (built : ofHosts settings hosts = .ok monitor) :
    settings.blockSize ≠ 0 ∧
      ∀ host ∈ hosts, ∃ address, settings.resolve host = .ok address := by
  by_cases empty : hosts = []
  · rw [ofHosts, if_pos empty] at built
    contradiction
  by_cases zero : settings.blockSize = 0
  · rw [ofHosts, if_neg empty, if_pos zero] at built
    contradiction
  refine ⟨zero, ?_⟩
  cases resolved : hosts.mapM settings.resolve with
  | ok addresses => exact exists_ok_of_mapM resolved
  | error error =>
    rw [ofHosts, if_neg empty, if_neg zero, resolved] at built
    contradiction

theorem exists_mapM_of_exists_ok {β γ ε : Type} {check : β → Except ε γ} {entries : List β}
    (checks : ∀ entry ∈ entries, ∃ result, check entry = .ok result) :
    ∃ results, entries.mapM check = .ok results := by
  induction entries with
  | nil => exact ⟨[], rfl⟩
  | cons entry rest ih =>
    obtain ⟨⟨result, first⟩, others⟩ := List.forall_mem_cons.mp checks
    obtain ⟨results, later⟩ := ih others
    refine ⟨result :: results, ?_⟩
    rw [List.mapM_cons, first, later]
    rfl

/-- A monitor is refused for want of hosts, for blocks without a size, or for a host that has no
valid address. -/
theorem exists_ofHosts_eq_error_iff {settings : Settings} {hosts : List String} :
    (∃ error, ofHosts settings hosts = .error error) ↔
      hosts = [] ∨ settings.blockSize = 0 ∨
        ∃ host ∈ hosts, ∃ error, settings.resolve host = .error error := by
  constructor
  · intro ⟨error, refused⟩
    by_cases empty : hosts = []
    · exact .inl empty
    by_cases zero : settings.blockSize = 0
    · exact .inr (.inl zero)
    refine .inr (.inr ?_)
    by_cases invalid : ∃ host ∈ hosts, ∃ error, settings.resolve host = .error error
    · exact invalid
    have resolves : ∀ host ∈ hosts, ∃ address, settings.resolve host = .ok address := by
      intro host listed
      cases resolved : settings.resolve host with
      | error error => exact absurd ⟨host, listed, error, resolved⟩ invalid
      | ok address => exact ⟨address, rfl⟩
    obtain ⟨addresses, resolved⟩ := exists_mapM_of_exists_ok resolves
    rw [ofHosts, if_neg empty, if_neg zero, resolved] at refused
    cases refused
  · intro rejected
    cases built : ofHosts settings hosts with
    | error error => exact ⟨error, rfl⟩
    | ok monitor =>
      obtain ⟨positive, resolves⟩ := ofHosts_eq_ok built
      rcases rejected with rfl | zero | ⟨host, listed, error, refused⟩
      · cases built
      · exact absurd zero positive
      · obtain ⟨address, resolved⟩ := resolves host listed
        cases resolved.symm.trans refused

theorem eq_of_ofHosts {settings : Settings} {hosts : List String} {monitor : Monitor}
    (built : ofHosts settings hosts = .ok monitor) : monitor = ⟨hosts, .ofSettings settings⟩ := by
  rw [ofHosts] at built
  by_cases empty : hosts = []
  · rw [if_pos empty] at built
    cases built
  by_cases zero : settings.blockSize = 0
  · rw [if_neg empty, if_pos zero] at built
    cases built
  cases resolved : hosts.mapM settings.resolve with
  | error error =>
    rw [if_neg empty, if_neg zero, resolved] at built
    cases built
  | ok addresses =>
    rw [if_neg empty, if_neg zero, resolved] at built
    cases built
    rfl

theorem survey_eq_askEach {monitor : Monitor} {hub : Hub} {now : Nat} {query : Query α}
    (come : .error .cancelled ∉ (Hub.askEach now query hub monitor.hosts).1) :
    monitor.survey hub now query =
      (some (List.zipWith HostAnswer.ofOutcome monitor.hosts
          (Hub.askEach now query hub monitor.hosts).1),
        (Hub.askEach now query hub monitor.hosts).2) := by
  obtain ⟨spare, workers⟩ : ∃ spare, max hub.pool.settings.fanoutWorkers 1 = spare + 1 :=
    Nat.exists_eq_add_of_le' (Nat.le_max_right ..)
  rw [survey, workers]
  exact Hub.askAll_eq_askEach spare come

end Monitor
end FileGateway
