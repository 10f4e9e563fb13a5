import FileGateway.Proofs.Hub.Schedule
import FileGateway.Proofs.Hub.Within

/-! In whatever order the tasks of a fan-out move, each of them gives what its host gives when it
is asked alone, and the pool is left as if the hosts had been asked one after another. -/
namespace FileGateway.FanOut
variable {α : Type}

/-- What holds of a fan-out at any time. -/
structure Sound (question : Question α) (now : Nat) (hosts : List String) (start : Hub)
    (state : State α) : Prop where
  clock : state.now = now
  within : Hub.Within now hosts start state.hub
  listed : state.tasks.map Task.host = hosts
  /-- If a task ran on by itself, it would give what it gives from the start. -/
  tasks : ∀ (index : Nat) (task : Task α), state.tasks[index]? = some task → ∀ address,
    start.pool.settings.resolve task.host = .ok address →
      task.stage.Fits state.hub address ∧
        Alike start.network.clients.size address
          (settle question now task.host task.stage state.hub)
          (settle question now task.host .waiting start)
  recorded : state.Recorded

variable {question : Question α} {now : Nat} {hosts : List String} {start : Hub}
  {state next : State α} {index : Nat} {task : Task α}

theorem sound_start (serves : start.Serves now hosts) :
    Sound question now hosts start (.start start now hosts) where
  clock := rfl
  within := serves.within
  listed := by
    rw [State.start, List.map_map]
    exact List.map_id hosts
  tasks := by
    intro index task present address resolved
    rw [State.start, List.getElem?_map, Option.map_eq_some_iff] at present
    obtain ⟨host, _, rfl⟩ := present
    exact ⟨trivial, .refl _ _ _⟩
  recorded := by
    intro index outcome
    refine ⟨fun held => absurd held List.not_mem_nil, ?_⟩
    rintro ⟨task, present, finished⟩
    rw [State.start, List.getElem?_map, Option.map_eq_some_iff] at present
    obtain ⟨host, _, rfl⟩ := present
    cases finished

theorem Sound.host (sound : Sound question now hosts start state)
    (present : state.tasks[index]? = some task) : hosts[index]? = some task.host := by
  rw [← sound.listed, List.getElem?_map, present]
  rfl

theorem Sound.ready (sound : Sound question now hosts start state)
    (serves : start.Serves now hosts) (present : state.tasks[index]? = some task) :
    ∃ address, start.pool.settings.resolve task.host = .ok address ∧
      Ready now start.network.clients.size task.host address task.stage state.hub := by
  have listed := List.mem_of_getElem? (sound.host present)
  obtain ⟨address, resolved⟩ := serves.resolved task.host listed
  have fits := (sound.tasks index task present address resolved).1
  exact ⟨address, resolved, ready_of_within sound.within serves listed resolved fits⟩

/-- A step of one task keeps what holds of every other. -/
theorem sound_step (serves : start.Serves now hosts)
    (sound : Sound question now hosts start state)
    (stepped : state.step question index = some next) :
    Sound question now hosts start next := by
  obtain ⟨task, stage, hub, present, _, moved, rfl⟩ := State.step_cases stepped
  obtain ⟨address, resolved, ready⟩ := sound.ready serves present
  rw [sound.clock] at moved
  have here := sound.host present
  obtain ⟨effect, fits⟩ := ready.effect moved
  have ready' := ready.advance moved
  have within : Hub.Within now hosts start hub :=
    sound.within.confined (List.mem_of_getElem? here) resolved
      (effect.confined ready.consistent ready.room _) ready'.consistent ready'.past
  refine ⟨sound.clock, within, ?_, ?_, ?_⟩
  · obtain ⟨bound, host⟩ := List.getElem?_eq_some_iff.mp here
    rw [List.map_set, sound.listed, ← host]
    exact List.set_getElem_self bound
  · intro index' task' present' place resolved'
    by_cases same : index = index'
    · subst same
      obtain ⟨bound, _⟩ := List.getElem?_eq_some_iff.mp present
      rw [List.getElem?_set_self bound] at present'
      cases present'
      cases resolved.symm.trans resolved'
      have alike := (sound.tasks index task present address resolved).2
      rw [settle_of_some moved] at alike
      exact ⟨fits, alike⟩
    · rw [List.getElem?_set_ne same] at present'
      have there := sound.host present'
      have listed' := List.mem_of_getElem? there
      have apart := serves.gatewayName_ne there here (Ne.symm same) resolved' resolved
      obtain ⟨fitted, alike⟩ := sound.tasks index' task' present' place resolved'
      have distinct : place ≠ address := fun shared => apart (congrArg _ shared)
      have fits' := fitted.of_find?_eq (effect.find?_of_ne ready.room distinct)
      have view := effect.view_of_ne ready.consistent ready.room start.network.clients.size apart
      have moments : Alike start.network.clients.size place (task'.stage, hub)
          (task'.stage, state.hub) := ⟨rfl, view⟩
      have settled := moments.settle question
        (ready_of_within within serves listed' resolved' fits')
        (ready_of_within sound.within serves listed' resolved' fitted)
      exact ⟨fits', settled.trans alike⟩
  · exact State.recorded_step sound.recorded stepped

theorem sound_run (serves : start.Serves now hosts) {schedule : List Nat} {last : State α}
    (sound : Sound question now hosts start state)
    (ran : state.run question schedule = some last) : Sound question now hosts start last := by
  induction schedule generalizing state with
  | nil =>
    cases ran
    exact sound
  | cons index schedule ih =>
    simp only [State.run, Option.bind_eq_bind, Option.bind_eq_some_iff] at ran
    obtain ⟨next, stepped, ran⟩ := ran
    exact ih (sound_step serves sound stepped) ran

/-- The outcome of a finished task is what its host gives when it is asked alone. -/
theorem Sound.outcome (sound : Sound question now hosts start state)
    (come : ∀ host ∈ hosts, (start.ask now question.query host).1 ≠ .error .cancelled)
    (present : state.tasks[index]? = some task) {outcome : Outcome α}
    (finished : task.stage = .finished outcome) {address : String}
    (resolved : start.pool.settings.resolve task.host = .ok address) :
    (start.ask now question.query task.host).1 = outcome.mapError .error ∧
      state.hub.holding start.network.clients.size address =
        (start.ask now question.query task.host).2.holding start.network.clients.size address := by
  have listed := List.mem_of_getElem? (sound.host present)
  obtain ⟨_, alike⟩ := sound.tasks index task present address resolved
  rw [finished, settle_of_none rfl] at alike
  obtain ⟨gives, leaves⟩ := settle_waiting question now resolved
  refine ⟨gives.symm.trans alike.gives.symm, ?_⟩
  rw [← leaves (come task.host listed)]
  exact congrArg View.holding alike.view

/-- A task that has not finished can move if the others let it. -/
theorem Sound.moves (sound : Sound question now hosts start state)
    (serves : start.Serves now hosts)
    (come : ∀ host ∈ hosts, (start.ask now question.query host).1 ≠ .error .cancelled)
    (present : state.tasks[index]? = some task) (unfinished : task.stage.outcome? = none)
    (free : state.lets task = true) : ∃ next, state.step question index = some next := by
  have listed := List.mem_of_getElem? (sound.host present)
  obtain ⟨address, resolved, _⟩ := sound.ready serves present
  obtain ⟨_, alike⟩ := sound.tasks index task present address resolved
  cases moved : task.stage.advance question now task.host state.hub with
  | none =>
    rw [settle_of_none moved] at alike
    have gives := alike.gives
    rw [(settle_waiting question now resolved).1, Stage.gives_of_unfinished unfinished] at gives
    exact absurd gives.symm (come task.host listed)
  | some moment =>
    simp [State.step, present, free, sound.clock, moved, guard]

/-- Nobody else is behind the gate of a task's address. -/
theorem Sound.lets_busy (sound : Sound question now hosts start state)
    (serves : start.Serves now hosts) (present : state.tasks[index]? = some task)
    (busy : task.stage.isBusy = true) : state.lets task = true := by
  obtain ⟨address, resolved, ready⟩ := sound.ready serves present
  obtain ⟨host, stage⟩ := task
  cases stage with
  | approach place =>
    have here : place = address := ready.fits
    subst here
    simp only [State.lets, List.all_eq_true, bne_iff_ne]
    intro other member inside
    obtain ⟨index', present'⟩ := List.getElem?_of_mem member
    obtain ⟨address', resolved', ready'⟩ := sound.ready serves present'
    have distinct : index ≠ index' := by
      rintro rfl
      cases present.symm.trans present'
      contradiction
    have apart := serves.gatewayName_ne (sound.host present) (sound.host present') distinct
      resolved resolved'
    have there := ready'.fits
    obtain ⟨owner, stage⟩ := other
    cases stage <;> cases inside <;> exact apart (congrArg _ there)
  | waiting => contradiction
  | _ => rfl

/-- Until all tasks have finished, one of them can move. -/
theorem Sound.progress (sound : Sound question now hosts start state)
    (serves : start.Serves now hosts)
    (come : ∀ host ∈ hosts, (start.ask now question.query host).1 ≠ .error .cancelled) :
    state.isDone = true ∨ ∃ index next, state.step question index = some next := by
  by_cases busy : ∃ task ∈ state.tasks, task.stage.isBusy = true
  · obtain ⟨task, member, busy⟩ := busy
    obtain ⟨index, present⟩ := List.getElem?_of_mem member
    exact .inr ⟨index, sound.moves serves come present (Stage.outcome?_of_isBusy busy)
      (sound.lets_busy serves present busy)⟩
  by_cases done : state.isDone = true
  · exact .inl done
  -- nobody is busy, so whoever has not finished waits for a worker, and all are free
  right
  simp only [State.isDone, List.all_eq_true, not_forall] at done
  obtain ⟨task, member, unfinished⟩ := done
  obtain ⟨index, present⟩ := List.getElem?_of_mem member
  rw [Bool.not_eq_true, Option.isSome_eq_false_iff, Option.isNone_iff_eq_none] at unfinished
  have idle : ∀ task ∈ state.tasks, ¬ task.stage.isBusy = true :=
    fun task member busyTask => busy ⟨task, member, busyTask⟩
  have free : state.busy = 0 := List.countP_eq_zero.mpr idle
  have waits := Stage.eq_waiting (Bool.eq_false_iff.mpr (idle task member)) unfinished
  refine ⟨index, sound.moves serves come present unfinished ?_⟩
  simp only [State.lets, waits, free, decide_eq_true_eq]
  exact Nat.lt_of_lt_of_le Nat.zero_lt_one (Nat.le_max_right _ _)

/-- The answers of a fan-out whose tasks have all finished. -/
theorem Sound.answers_eq (sound : Sound question now hosts start state)
    (serves : start.Serves now hosts)
    (come : ∀ host ∈ hosts, (start.ask now question.query host).1 ≠ .error .cancelled)
    (done : state.isDone = true) :
    state.answers = hosts.map (fun host =>
      HostAnswer.ofOutcome host (start.ask now question.query host).1) := by
  refine List.ext_getElem? ?_
  intro index
  rw [State.answers, List.getElem?_zipWith, List.getElem?_map, ← sound.listed, List.getElem?_map]
  cases present : state.tasks[index]? with
  | none => rfl
  | some task =>
    obtain ⟨address, resolved, _⟩ := sound.ready serves present
    have ended := List.all_eq_true.mp done task (List.mem_of_getElem? present)
    obtain ⟨outcome, finished⟩ := Option.isSome_iff_exists.mp ended
    rw [Stage.outcome?_eq_some_iff] at finished
    have given := (sound.outcome come present finished resolved).1
    have member := (sound.recorded index outcome).mpr ⟨task, present, finished⟩
    have same : ∀ other, (index, other) ∈ state.given → other = outcome := by
      intro other recorded
      obtain ⟨task', present', finished'⟩ := (sound.recorded index other).mp recorded
      cases present.symm.trans present'
      cases finished.symm.trans finished'
      rfl
    obtain ⟨bound, _⟩ := List.getElem?_eq_some_iff.mp present
    have empty : (List.replicate state.tasks.length (none : Option α))[index]? = some none :=
      List.getElem?_replicate_of_lt bound
    rw [State.getElem?_foldl_place same member empty, Option.map_some, Option.map_some, given]
    cases outcome <;> rfl

/-- The pool in the end of a fan-out holds for each host what asking it alone leaves there. -/
theorem Sound.served (sound : Sound question now hosts start state)
    (come : ∀ host ∈ hosts, (start.ask now question.query host).1 ≠ .error .cancelled)
    (done : state.isDone = true) : Served question now hosts start start state.hub := by
  refine ⟨?_, sound.within.holding⟩
  intro host listed address resolved
  obtain ⟨task, member, rfl⟩ := List.mem_map.mp (sound.listed ▸ listed)
  obtain ⟨index, present⟩ := List.getElem?_of_mem member
  obtain ⟨outcome, finished⟩ := Option.isSome_iff_exists.mp (List.all_eq_true.mp done task member)
  exact (sound.outcome come present (Stage.outcome?_eq_some_iff.mp finished) resolved).2

theorem Served.holding_eq {last last' : Hub} (served : Served question now hosts start start last)
    (served' : Served question now hosts start start last') (address : String) :
    last.holding start.network.clients.size address =
      last'.holding start.network.clients.size address := by
  by_cases owned : ∃ host ∈ hosts, start.pool.settings.resolve host = .ok address
  · obtain ⟨host, listed, resolved⟩ := owned
    exact (served.asked host listed address resolved).trans
      (served'.asked host listed address resolved).symm
  · have absent : ∀ host ∈ hosts, start.pool.settings.resolve host ≠ .ok address :=
      fun host listed resolved => owned ⟨host, listed, resolved⟩
    exact (served.others address absent).trans (served'.others address absent).symm

end FileGateway.FanOut

namespace FileGateway.Monitor
open FanOut

/-- A fan-out over hosts with gateways of their own, in a pool that cannot fill up and without a
gateway that keeps silent, answers for each host what it gives alone, in the order of the
list, in whatever order the tasks move. No schedule gets stuck or goes on for ever, and all of
them leave the pool as asking the hosts one after another does. -/
theorem fanOut_exact {α : Type} {monitor fresh : Monitor} {hub : Hub} {now : Nat}
    (question : Question α) (built : ofHosts hub.pool.settings monitor.hosts = .ok fresh)
    (consistent : hub.Consistent now)
    (apart : (monitor.hosts.map (gatewayOf hub.pool.settings)).Nodup)
    (roomy : ∀ capacity, hub.pool.clients.capacity = some capacity →
      hub.pool.clients.entries.length + monitor.hosts.length ≤ capacity)
    (come : ∀ host ∈ monitor.hosts, (hub.ask now question.query host).1 ≠ .error .cancelled) :
    let known := hub.network.clients.size
    let answers := monitor.hosts.map (fun host =>
      HostAnswer.ofOutcome host (hub.ask now question.query host).1)
    ∃ last, monitor.survey hub now question.query = (some answers, last) ∧
      (∀ host ∈ monitor.hosts, ∀ address, hub.pool.settings.resolve host = .ok address →
        last.holding known address = (hub.ask now question.query host).2.holding known address) ∧
      (∀ address, (∀ host ∈ monitor.hosts, hub.pool.settings.resolve host ≠ .ok address) →
        last.holding known address = hub.holding known address) ∧
      ∀ schedule state, (State.start hub now monitor.hosts).run question schedule = some state →
        schedule.length ≤ 7 * monitor.hosts.length ∧
        (state.isDone = true ∨ ∃ index next, state.step question index = some next) ∧
        (state.isDone = true → state.answers = answers ∧
          ∀ address, state.hub.holding known address = last.holding known address) := by
  intro known answers
  have serves : hub.Serves now monitor.hosts :=
    ⟨consistent, (ofHosts_eq_ok built).2, apart, roomy⟩
  obtain ⟨outcomes, served⟩ := askEach_within serves.within serves (List.Subset.refl _) apart
    (fun _ _ _ _ => rfl) come
  refine ⟨_, ?_, served.asked, served.others, ?_⟩
  · have given : .error .cancelled ∉ (Hub.askEach now question.query hub monitor.hosts).1 := by
      rw [outcomes]
      intro member
      obtain ⟨host, listed, silent⟩ := List.mem_map.mp member
      exact come host listed silent
    rw [survey_eq_askEach given, outcomes, List.zipWith_map_right, List.zipWith_self]
  · intro schedule state ran
    have sound := sound_run serves (sound_start serves) ran
    have bounded := State.length_run ran
    rw [State.rank_start] at bounded
    refine ⟨by omega, sound.progress serves come, ?_⟩
    intro done
    exact ⟨sound.answers_eq serves come done, (sound.served come done).holding_eq served⟩

/-- A hub with a route to the second of two hosts. -/
def halfRouted : Hub where
  pool := .ofSettings {}
  network.gateways := [("b:2", ⟨[.send ⟨#[0, 0, 0, 14, 0, 0, 0, 0, 0, 0, 0, 5, 0, 0, 0, 1,
    0, 0, 0, 1, 7]⟩], true⟩)]

def twoHosts : Monitor := ⟨["a:1", "b:2"], .ofSettings {}⟩

/-- The second host begins first and ends last. -/
theorem fanOut_exact_half_routed :
    ((State.start halfRouted 0 twoHosts.hosts).run (.attributeValue "/f" "k")
        [1, 1, 0, 1, 0, 0, 1, 1, 0, 0, 1]).map State.answers =
      some [⟨"a:1", none⟩, ⟨"b:2", some ⟨#[7]⟩⟩] := by
  have built : ofHosts halfRouted.pool.settings twoHosts.hosts = .ok twoHosts := rfl
  have consistent : halfRouted.Consistent 0 :=
    ⟨ExpiringCache.consistent_ofLimits 0 64 300000, nofun, nofun⟩
  have first : (halfRouted.ask 0 (Question.attributeValue "/f" "k").query "a:1").1 =
      .error (.error (.connect "a:1" .refused)) := rfl
  have second : (halfRouted.ask 0 (Question.attributeValue "/f" "k").query "b:2").1 =
      .ok (some ⟨#[7]⟩) := rfl
  have come : ∀ host ∈ twoHosts.hosts,
      (halfRouted.ask 0 (Question.attributeValue "/f" "k").query host).1 ≠ .error .cancelled := by
    simp [twoHosts, first, second]
  obtain ⟨last, -, -, -, each⟩ := fanOut_exact (.attributeValue "/f" "k") built consistent
    (by decide) (by decide) come
  have finishes : ((State.start halfRouted 0 twoHosts.hosts).run (.attributeValue "/f" "k")
      [1, 1, 0, 1, 0, 0, 1, 1, 0, 0, 1]).any State.isDone = true := by
    decide +kernel
  obtain ⟨state, ran, done⟩ := (Option.any_eq_true ..).mp finishes
  have answered := ((each _ state ran).2.2 done).1
  rw [ran, Option.map_some, answered, twoHosts, List.map_cons, List.map_cons, first, second]
  rfl

end FileGateway.Monitor
