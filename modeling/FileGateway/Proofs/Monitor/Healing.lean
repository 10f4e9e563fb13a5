import FileGateway.Proofs.Hub.Accounts
import FileGateway.Proofs.Hub.Healing
import FileGateway.Proofs.Hub.Settle
import FileGateway.Proofs.Monitor.Survey

/-! Whatever closed clients a monitor finds in the pool, once it has asked its hosts none is left
under their addresses. Asking the hosts one after another is one way in which a fan-out can go. -/
namespace FileGateway

namespace Hub
variable {α : Type}

theorem settings_ask (hub : Hub) (now : Nat) (question : Question α) (host : String) :
    (hub.ask now question.query host).2.pool.settings = hub.pool.settings := by
  have kept := (sameLimits_client hub now host).settings
  rw [FanOut.ask_eq]
  cases asked : hub.client now host with
  | mk result next =>
    rw [asked] at kept
    cases result with
    | error error => exact kept
    | ok id =>
      refine Eq.trans ?_ kept
      simp only [FanOut.askClient]
      split
      · rw [discardAfter]
        split
        · exact (sameLimits_invalidate next.pool host).settings
        · rfl
      · rfl

/-- If there is a result, no call was given up. -/
theorem come_of_askAll {now : Nat} {query : Query α} {workers : Nat} {hub : Hub}
    {hosts : List String} {answers : List (HostAnswer α)}
    (asked : (askAll now query workers hub hosts).1 = some answers) :
    .error .cancelled ∉ (askEach now query hub hosts).1 := by
  induction hosts generalizing workers hub answers with
  | nil => exact List.not_mem_nil
  | cons host hosts ih =>
    cases workers with
    | zero =>
      rw [askAll] at asked
      cases asked
    | succ workers =>
      rw [askAll] at asked
      rw [askEach_cons]
      cases first : hub.ask now query host with
      | mk outcome next =>
        rw [first] at asked
        rw [List.mem_cons, not_or]
        cases outcome with
        | error failure =>
          cases failure with
          | cancelled => cases asked
          | error cause =>
            obtain ⟨others, asked', _⟩ := Option.map_eq_some_iff.mp asked
            exact ⟨by simp, ih asked'⟩
        | ok value =>
          obtain ⟨others, asked', _⟩ := Option.map_eq_some_iff.mp asked
          exact ⟨by simp, ih asked'⟩

/-- Where the pool has no client for a host, asking for one connects it. -/
theorem client_of_find?_eq_none (hub : Hub) {host address : String}
    (resolved : hub.pool.settings.resolve host = .ok address)
    (absent : hub.pool.clients.find? address = none) (now : Nat) :
    (hub.client now host).1 = (hub.network.connect address).1 ∧
      (hub.client now host).2.network = (hub.network.connect address).2 := by
  have unusable : hub.pool.usable? hub.network now address = none := by
    rw [Pool.usable?, absent]
    rfl
  simp only [Hub.client, Pool.get, resolved, Pool.live_eq, unusable, Pool.connect]
  cases hub.network.connect address with
  | mk result network => cases result <;> exact ⟨rfl, rfl⟩

end Hub

namespace FanOut
variable {α : Type} {question : Question α} {state : State α} {index : Nat} {task : Task α}

theorem Stage.isBusy_of_isSome_outcome? {stage : Stage α} (ended : stage.outcome?.isSome = true) :
    stage.isBusy = false := by
  obtain ⟨outcome, finished⟩ := Option.isSome_iff_exists.mp ended
  rw [Stage.outcome?_eq_some_iff.mp finished]
  rfl

namespace State

theorem play_append (question : Question α) (state : State α) (before after : List Move) :
    state.play question (before ++ after) =
      (state.play question before).bind (fun next => next.play question after) := by
  induction before generalizing state with
  | nil => rfl
  | cons move before ih =>
    simp only [List.cons_append, play, ih, Option.bind_eq_bind, Option.bind_assoc]

/-- Nobody keeps a task waiting that is the only one to move. -/
theorem lets_alone (present : state.tasks[index]? = some task)
    (alone : ∀ (other : Nat) (idle : Task α), other ≠ index → state.tasks[other]? = some idle →
      idle.stage.isBusy = false) : state.lets task = true := by
  obtain ⟨host, stage⟩ := task
  have others {idle : Task α} (member : idle ∈ state.tasks) :
      idle = ⟨host, stage⟩ ∨ idle.stage.isBusy = false := by
    obtain ⟨other, there⟩ := List.getElem?_of_mem member
    by_cases same : other = index
    · subst same
      exact .inl (Option.some.inj (there.symm.trans present))
    · exact .inr (alone other idle same there)
  cases stage with
  | waiting =>
    have free : state.busy = 0 := by
      refine List.countP_eq_zero.mpr ?_
      intro idle member
      rcases others member with rfl | unmoved
      · exact Bool.false_ne_true
      · exact Bool.eq_false_iff.mp unmoved
    simp only [lets, free, decide_eq_true_eq]
    exact Nat.lt_of_lt_of_le Nat.zero_lt_one (Nat.le_max_right _ _)
  | approach address =>
    simp only [lets, List.all_eq_true, bne_iff_ne]
    intro idle member
    rcases others member with rfl | unmoved
    · exact nofun
    · intro inside
      obtain ⟨owner, stage⟩ := idle
      cases stage <;> contradiction
  | _ => rfl

/-- A task that is the only one to move runs on to where it settles. -/
theorem exists_play_settle (question : Question α) {state : State α} {index : Nat} {task : Task α}
    (present : state.tasks[index]? = some task)
    (alone : ∀ (other : Nat) (idle : Task α), other ≠ index → state.tasks[other]? = some idle →
      idle.stage.isBusy = false) :
    ∃ moves given, state.play question moves = some { state with
      hub := (settle question state.now task.host task.stage state.hub).2
      tasks := state.tasks.set index
        ⟨task.host, (settle question state.now task.host task.stage state.hub).1⟩
      given } := by
  obtain ⟨bound, here⟩ := List.getElem?_eq_some_iff.mp present
  cases moved : task.stage.advance question state.now task.host state.hub with
  | none =>
    refine ⟨[], state.given, ?_⟩
    have same : state.tasks.set index ⟨task.host, task.stage⟩ = state.tasks := by
      have kept := List.set_getElem_self bound
      rwa [here] at kept
    rw [settle_of_none moved, same]
    rfl
  | some moment =>
    obtain ⟨stage, hub⟩ := moment
    let next : State α := { state with
      hub
      tasks := state.tasks.set index ⟨task.host, stage⟩
      given := state.given ++ (stage.outcome?.map (index, ·)).toList }
    have stepped : state.move question (.task index) = some next := by
      simp [State.move, State.step, present, lets_alone present alone, moved, guard, next]
    have present' : next.tasks[index]? = some ⟨task.host, stage⟩ := List.getElem?_set_self bound
    have alone' : ∀ (other : Nat) (idle : Task α), other ≠ index →
        next.tasks[other]? = some idle → idle.stage.isBusy = false := by
      intro other idle apart there
      rw [List.getElem?_set_ne apart.symm] at there
      exact alone other idle apart there
    obtain ⟨moves, given, played⟩ := exists_play_settle question present' alone'
    refine ⟨.task index :: moves, given, ?_⟩
    rw [play, stepped, Option.bind_eq_bind, Option.bind_some, played, settle_of_some moved]
    simp only [next, List.set_set]
termination_by task.stage.rank
decreasing_by exact rank_advance moved

/-- The task of a host can run on by itself, and then its host is asked. -/
theorem exists_play_ask {hub : Hub} {now : Nat} {host address : String}
    (resolved : hub.pool.settings.resolve host = .ok address)
    (come : (hub.ask now question.query host).1 ≠ .error .cancelled) {front rest : List (Task α)}
    (idle : ∀ task ∈ front ++ rest, task.stage.isBusy = false) (given : List (Nat × Outcome α)) :
    ∃ moves outcome given', State.play question
        ⟨hub, now, front ++ ⟨host, .waiting⟩ :: rest, given⟩ moves =
      some ⟨(hub.ask now question.query host).2, now,
        front ++ ⟨host, .finished outcome⟩ :: rest, given'⟩ := by
  let start : State α := ⟨hub, now, front ++ ⟨host, .waiting⟩ :: rest, given⟩
  have present : start.tasks[front.length]? = some ⟨host, .waiting⟩ := by
    rw [List.getElem?_append_right (Nat.le_refl _), Nat.sub_self]
    rfl
  have alone : ∀ (other : Nat) (task : Task α), other ≠ front.length →
      start.tasks[other]? = some task → task.stage.isBusy = false := by
    intro other task _ there
    rcases List.mem_append.mp (List.mem_of_getElem? there) with member | member
    · exact idle task (List.mem_append_left _ member)
    rcases List.mem_cons.mp member with rfl | member
    · rfl
    · exact idle task (List.mem_append_right _ member)
  obtain ⟨gives, leaves⟩ := settle_waiting question now resolved
  obtain ⟨outcome, finished⟩ :
      ∃ outcome, (settle question now host .waiting hub).1 = .finished outcome := by
    cases unfinished : (settle question now host .waiting hub).1.outcome? with
    | some outcome => exact ⟨outcome, Stage.outcome?_eq_some_iff.mp unfinished⟩
    | none => exact absurd (gives.symm.trans (Stage.gives_of_unfinished unfinished)) come
  obtain ⟨moves, given', played⟩ := exists_play_settle question present alone
  refine ⟨moves, outcome, given', ?_⟩
  have reached : (front ++ ⟨host, .waiting⟩ :: rest).set front.length ⟨host, .finished outcome⟩ =
      front ++ ⟨host, .finished outcome⟩ :: rest := by
    simp
  rw [← leaves come, ← reached, ← finished]
  exact played

/-- Hosts can be asked one after another, each by its task. -/
theorem exists_play_askEach (now : Nat) {hosts : List String} {hub : Hub} (front : List (Task α))
    (ended : ∀ task ∈ front, task.stage.outcome?.isSome = true)
    (resolves : ∀ host ∈ hosts, ∃ address, hub.pool.settings.resolve host = .ok address)
    (come : .error .cancelled ∉ (Hub.askEach now question.query hub hosts).1)
    (given : List (Nat × Outcome α)) :
    ∃ moves last, State.play question
        ⟨hub, now, front ++ hosts.map (fun host => ⟨host, .waiting⟩), given⟩ moves = some last ∧
      last.isDone = true ∧ last.hub = (Hub.askEach now question.query hub hosts).2 := by
  induction hosts generalizing front hub given with
  | nil =>
    refine ⟨[], _, rfl, ?_, rfl⟩
    rw [isDone, List.map_nil, List.append_nil]
    exact List.all_eq_true.mpr ended
  | cons host hosts ih =>
    rw [Hub.askEach_cons, List.mem_cons, not_or] at come
    obtain ⟨address, resolved⟩ := resolves host List.mem_cons_self
    have idle : ∀ task ∈ front ++ hosts.map (fun host => ⟨host, .waiting⟩),
        task.stage.isBusy = false := by
      intro task member
      rcases List.mem_append.mp member with former | later
      · exact Stage.isBusy_of_isSome_outcome? (ended task former)
      · obtain ⟨_, _, rfl⟩ := List.mem_map.mp later
        rfl
    obtain ⟨moves, outcome, given', played⟩ :=
      exists_play_ask resolved (Ne.symm come.1) idle given
    have ended' : ∀ task ∈ front ++ [⟨host, .finished outcome⟩],
        task.stage.outcome?.isSome = true := by
      intro task member
      rcases List.mem_append.mp member with former | last
      · exact ended task former
      · rw [List.mem_singleton.mp last]
        rfl
    have resolves' : ∀ other ∈ hosts, ∃ address,
        (hub.ask now question.query host).2.pool.settings.resolve other = .ok address := by
      intro other listed
      rw [Hub.settings_ask]
      exact resolves other (List.mem_cons_of_mem _ listed)
    obtain ⟨moves', last, played', done, hubs⟩ := ih _ ended' resolves' come.2 given'
    refine ⟨moves ++ moves', last, ?_, done, hubs⟩
    rw [List.append_assoc] at played'
    rw [play_append, List.map_cons, played]
    exact played'

end State
end FanOut

namespace Monitor
open FanOut

/-- When a fan-out has finished, however its tasks moved and whatever the gateways did meanwhile,
every client that the pool holds under an address of a host is open. A host that failed fatally,
and shares its address with no other of the list, has none, so that the next one to ask for its
client connects. A survey is one such fan-out. -/
theorem fanOut_heals {α : Type} {monitor fresh : Monitor} {hub : Hub} {now : Nat}
    (question : Question α) (built : ofHosts hub.pool.settings monitor.hosts = .ok fresh)
    (consistent : hub.Consistent now) :
    (∀ moves state, (State.start hub now monitor.hosts).play question moves = some state →
      state.isDone = true →
        (∀ host ∈ monitor.hosts, ∀ address, hub.pool.settings.resolve host = .ok address →
          ∀ entry, state.hub.pool.clients.find? address = some entry →
            (state.hub.network.client entry.value).closed = false) ∧
        (∀ (index : Nat) host error,
          state.tasks[index]? = some ⟨host, .finished (.error error)⟩ → error.isFatal = true →
            ∀ address, hub.pool.settings.resolve host = .ok address →
              Lone hub.pool.settings monitor.hosts index address →
                state.hub.pool.clients.find? address = none ∧
                ∀ network later,
                  let next := Hub.client ⟨state.hub.pool, network⟩ later host
                  next.1 = (network.connect address).1 ∧
                    next.2.network = (network.connect address).2)) ∧
    ∀ answers last, monitor.survey hub now question.query = (some answers, last) →
      ∃ moves state, (State.start hub now monitor.hosts).play question moves = some state ∧
        state.isDone = true ∧ state.hub = last := by
  have resolves := (ofHosts_eq_ok built).2
  refine ⟨?_, ?_⟩
  · intro moves state played done
    have healing := healing_play resolves (healing_start consistent monitor.hosts) played
    refine ⟨?_, ?_⟩
    · intro host listed address resolved entry found
      obtain ⟨stored, rfl⟩ := ExpiringCache.mem_of_find? found
      exact healing.opened done stored listed resolved
    · intro index host error present fatal address resolved lone
      have emptied := healing.emptied index _ present address resolved lone fatal
      refine ⟨emptied, ?_⟩
      intro network later
      have settings : state.hub.pool.settings.resolve host = .ok address := by
        rw [healing.unchanged]
        exact resolved
      exact Hub.client_of_find?_eq_none ⟨state.hub.pool, network⟩ settings emptied later
  · intro answers last surveyed
    have come := Hub.come_of_askAll (congrArg Prod.fst surveyed)
    rw [survey_eq_askEach come] at surveyed
    obtain ⟨moves, state, played, done, hubs⟩ :=
      State.exists_play_askEach now [] nofun resolves come []
    exact ⟨moves, state, played, done, hubs.trans (congrArg Prod.snd surveyed)⟩

/-- A hub whose only client is closed, with a route to its gateway, which gives no replies. -/
def closedPool : Hub where
  pool := ⟨{}, ⟨some 64, some 300000, [⟨"a:1", 0, 0⟩]⟩⟩
  network.gateways := [("a:1", ⟨[], true⟩)]
  network.clients := #[{ address := "a:1", closed := true }]

def aliasedHosts : Monitor := ⟨["a:1", " a:1", "b:2"], .ofSettings {}⟩

/-- Two tasks share the client that the first of them connects, and both forget it. -/
theorem fanOut_heals_aliased :
    ∃ state, (State.start closedPool 0 aliasedHosts.hosts).play (.attributeValue "/f" "k")
        ([2, 0, 0, 0, 0, 0, 1, 1, 0, 1, 2, 0, 1, 2, 2, 2].map .task) = some state ∧
      (∀ entry, state.hub.pool.clients.find? "a:1" = some entry →
        (state.hub.network.client entry.value).closed = false) ∧
      state.hub.pool.clients.find? "b:2" = none := by
  have built : ofHosts closedPool.pool.settings aliasedHosts.hosts = .ok aliasedHosts := rfl
  have consistent : closedPool.Consistent 0 := by
    refine ⟨⟨?_, ?_, ?_, ?_⟩, ?_, ?_⟩ <;> decide
  obtain ⟨healed, -⟩ := fanOut_heals (.attributeValue "/f" "k") built consistent
  let last := (State.start closedPool 0 aliasedHosts.hosts).play (.attributeValue "/f" "k")
    ([2, 0, 0, 0, 0, 0, 1, 1, 0, 1, 2, 0, 1, 2, 2, 2].map .task)
  have finishes : last.any (fun state => state.isDone &&
      state.tasks[2]?.any (fun task => task.host == "b:2" && decide
        (task.stage.outcome? = some (.error (.connect "b:2" .refused))))) = true := by
    decide +kernel
  obtain ⟨state, played, ends⟩ := (Option.any_eq_true ..).mp finishes
  simp only [Bool.and_eq_true, Option.any_eq_true, beq_iff_eq, decide_eq_true_eq,
    Stage.outcome?_eq_some_iff] at ends
  obtain ⟨done, ⟨host, stage⟩, third, rfl, rfl⟩ := ends
  have lone : Lone closedPool.pool.settings aliasedHosts.hosts 2 "b:2" := by
    intro other host listed resolved
    match other with
    | 0 | 1 =>
      cases listed
      exact absurd resolved (by decide)
    | 2 => rfl
  obtain ⟨opened, emptied⟩ := healed _ state played done
  exact ⟨state, played, opened "a:1" (by decide) "a:1" rfl,
    (emptied 2 "b:2" _ third rfl "b:2" rfl lone).1⟩

end Monitor
end FileGateway
