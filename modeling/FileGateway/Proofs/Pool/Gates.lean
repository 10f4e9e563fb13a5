import FileGateway.Pool.SingleFlight.Run
import FileGateway.Proofs.Hub.Schedule

/-! Gates are removed by counting references while callers come and go. The count is exact: a gate
has more than two references just when its caller is not its only one. So an address has a gate
as long as somebody holds it, everybody who holds one for the address holds that one, and one
caller at a time is inside. -/
namespace FileGateway.SingleFlight

/-- One step of a caller for an address: its next stage, and the state beside the callers. -/
inductive Proceeds (state : State) (address : String) : Stage → Stage × State → Prop where
  | found {id : ClientId}
    (usable : state.pool.usable? state.network state.now address = some id) :
    Proceeds state address .lookup (.finished (.ok id), state)
  | missed (absent : state.pool.usable? state.network state.now address = none) :
    Proceeds state address .lookup
      (.approach, { state with pool := state.pool.forget address })
  | joined {gate : GateId} (known : state.gates.lookup address = some gate) :
    Proceeds state address .approach (.wait gate, state)
  | opened (unknown : state.gates.lookup address = none) :
    Proceeds state address .approach (.wait state.made,
      { state with gates := (address, state.made) :: state.gates, made := state.made + 1 })
  | passed {gate : GateId} (free : state.isOccupied gate = false) :
    Proceeds state address (.wait gate) (.recheck gate, state)
  | foundAgain {gate : GateId} {id : ClientId}
    (usable : state.pool.usable? state.network state.now address = some id) :
    Proceeds state address (.recheck gate) (.leave gate (.ok id), state)
  | missedAgain {gate : GateId}
    (absent : state.pool.usable? state.network state.now address = none) :
    Proceeds state address (.recheck gate)
      (.connect gate, { state with pool := state.pool.forget address })
  | refused {gate : GateId} {fault : LinkFault}
    (unrouted : state.network.route (Network.gatewayName address) = .error fault) :
    Proceeds state address (.connect gate) (.leave gate (.error (.connect address fault)),
      { state with network := (state.network.connect address).2 })
  | connected {gate : GateId}
    (routed : state.network.route (Network.gatewayName address) = .ok ()) :
    Proceeds state address (.connect gate) (.leave gate (.ok state.network.clients.size),
      { state with
        pool := { state.pool with
          clients := state.pool.clients.insert state.now address state.network.clients.size }
        network := (state.network.connect address).2 })
  | left {gate : GateId} {outcome : Outcome} :
    Proceeds state address (.leave gate outcome) (.release gate outcome, state)
  | kept {gate : GateId} {outcome : Outcome} (shared : 2 < state.references gate) :
    Proceeds state address (.release gate outcome) (.finished outcome, state)
  | removed {gate : GateId} {outcome : Outcome} (last : state.references gate ≤ 2) :
    Proceeds state address (.release gate outcome) (.finished outcome,
      { state with gates := state.gates.filter (fun (place, _) => place ≠ address) })

variable {state next shared : State} {index : Nat} {caller : Caller} {stage : Stage}

theorem setStage_eq (present : state.callers[index]? = some caller)
    (same : shared.callers = state.callers) (stage : Stage) :
    shared.setStage index stage =
      { shared with callers := state.callers.set index ⟨caller.address, stage⟩ } := by
  rw [State.setStage, same, List.modify_eq_set_getElem?, present]
  rfl

/-- Every step is one step of one caller, and the others stay where they are. -/
theorem step_cases (stepped : state.step index = some next) :
    ∃ caller stage shared, state.callers[index]? = some caller ∧
      Proceeds state caller.address caller.stage (stage, shared) ∧
      next = { shared with callers := state.callers.set index ⟨caller.address, stage⟩ } := by
  simp only [State.step, Option.bind_eq_bind, Option.bind_eq_some_iff] at stepped
  obtain ⟨caller, present, moved⟩ := stepped
  obtain ⟨address, stage⟩ := caller
  refine ⟨⟨address, stage⟩, ?_⟩
  have done {stage' : Stage} {shared : State}
      (proceeds : Proceeds state address stage (stage', shared))
      (same : shared.callers = state.callers)
      (result : some (shared.setStage index stage') = some next) :
      ∃ stage' shared, state.callers[index]? = some ⟨address, stage⟩ ∧
        Proceeds state address stage (stage', shared) ∧
        next = { shared with callers := state.callers.set index ⟨address, stage'⟩ } :=
    ⟨stage', shared, present, proceeds,
      (Option.some.inj result).symm.trans (setStage_eq present same stage')⟩
  cases stage with
  | lookup =>
    simp only [Pool.live_eq] at moved
    cases usable : state.pool.usable? state.network state.now address with
    | none =>
      rw [usable] at moved
      exact done (.missed usable) rfl moved
    | some id =>
      rw [usable] at moved
      exact done (.found usable) rfl moved
  | approach =>
    simp only at moved
    cases known : state.gates.lookup address with
    | none =>
      rw [known] at moved
      exact done (.opened known) rfl moved
    | some gate =>
      rw [known] at moved
      exact done (.joined known) rfl moved
  | wait gate =>
    simp only [Option.ite_none_left_eq_some] at moved
    exact done (.passed (Bool.not_eq_true _ ▸ moved.1)) rfl moved.2
  | recheck gate =>
    simp only [Pool.live_eq] at moved
    cases usable : state.pool.usable? state.network state.now address with
    | none =>
      rw [usable] at moved
      exact done (.missedAgain usable) rfl moved
    | some id =>
      rw [usable] at moved
      exact done (.foundAgain usable) rfl moved
  | connect gate =>
    simp only at moved
    cases routed : state.network.route (Network.gatewayName address) with
    | error fault =>
      simp only [Pool.connect_of_route_error routed] at moved
      exact done (.refused routed) rfl moved
    | ok _ =>
      simp only [Pool.connect_of_route_ok routed] at moved
      exact done (.connected routed) rfl moved
  | leave gate outcome => exact done .left rfl moved
  | release gate outcome =>
    simp only at moved
    split at moved
    · rename_i last
      exact done (.removed last) rfl moved
    · rename_i shared
      exact done (.kept (Nat.not_le.mp shared)) rfl moved
  | finished outcome => cases moved

/-- What holds of gates and callers at any time. -/
structure Gated (state : State) : Prop where
  distinct : (state.gates.map Prod.fst).Nodup
  single : (state.gates.map Prod.snd).Nodup
  made : ∀ entry ∈ state.gates, entry.2 < state.made
  /-- Whoever holds a gate holds the one of the address. -/
  held : ∀ caller ∈ state.callers, ∀ gate, caller.stage.gate? = some gate →
    (caller.address, gate) ∈ state.gates
  used : ∀ entry ∈ state.gates, ∃ (index : Nat) (caller : Caller),
    state.callers[index]? = some caller ∧ caller.stage.gate? = some entry.2
  alone : ∀ (index index' : Nat) (caller caller' : Caller) (gate : GateId),
    state.callers[index]? = some caller → state.callers[index']? = some caller' →
      caller.stage.inside? = some gate → caller'.stage.inside? = some gate → index = index'

/-- Another caller than the one at a place holds a gate. -/
def Shares (state : State) (index : Nat) (gate : GateId) : Prop :=
  ∃ (other : Nat) (caller : Caller), other ≠ index ∧ state.callers[other]? = some caller ∧
    caller.stage.gate? = some gate

theorem lookup_eq_some_iff_mem {gates : List (String × GateId)}
    (distinct : (gates.map Prod.fst).Nodup) {address : String} {gate : GateId} :
    gates.lookup address = some gate ↔ (address, gate) ∈ gates := by
  induction gates with
  | nil => simp
  | cons entry rest ih =>
    obtain ⟨place, known⟩ := entry
    obtain ⟨unlisted, others⟩ := List.nodup_cons.mp distinct
    rw [List.lookup_cons, List.mem_cons, ← ih others, Prod.mk.injEq]
    by_cases same : address = place
    · subst same
      have absent : rest.lookup address ≠ some gate := by
        rw [Ne, ih others]
        exact fun member => unlisted (List.mem_map.mpr ⟨_, member, rfl⟩)
      simp [absent, eq_comm]
    · simp [beq_false_of_ne same, same]

/-- A gate has more than two references just when it is shared. -/
theorem Gated.references_iff (gated : Gated state) (present : state.callers[index]? = some caller)
    {gate : GateId} (holds : caller.stage.gate? = some gate) :
    2 < state.references gate ↔ Shares state index gate := by
  obtain ⟨bound, here⟩ := List.getElem?_eq_some_iff.mp present
  let holder (caller : Caller) : Bool := caller.stage.gate? == some gate
  have once : state.gates.countP (fun (_, known) => known == gate) = 1 := by
    have entry := gated.held caller (List.mem_of_getElem? present) gate holds
    have counted := List.count_eq_one_of_mem gated.single (List.mem_map_of_mem entry)
    rwa [List.count, List.countP_map] at counted
  have own : holder caller = true := beq_iff_eq.mpr holds
  have positive : 0 < state.callers.countP holder :=
    List.countP_pos_iff.mpr ⟨caller, List.mem_of_getElem? present, own⟩
  -- without the caller of the place, the holders are the others
  let vacated := state.callers.set index ⟨caller.address, .lookup⟩
  have fewer : vacated.countP holder = state.callers.countP holder - 1 := by
    rw [List.countP_set bound, here, if_pos own]
    rfl
  have others : 0 < vacated.countP holder ↔ Shares state index gate := by
    rw [List.countP_pos_iff]
    constructor
    · rintro ⟨found, member, holding⟩
      obtain ⟨other, there⟩ := List.getElem?_of_mem member
      by_cases same : index = other
      · subst same
        rw [List.getElem?_set_self bound] at there
        cases there
        contradiction
      · rw [List.getElem?_set_ne same] at there
        exact ⟨other, found, Ne.symm same, there, beq_iff_eq.mp holding⟩
    · rintro ⟨other, found, apart, there, holding⟩
      refine ⟨found, List.mem_of_getElem? (i := other) ?_, beq_iff_eq.mpr holding⟩
      rwa [List.getElem?_set_ne apart.symm]
  rw [State.references, once, ← others, fewer]
  show 2 < 1 + state.callers.countP holder ↔ _
  omega

theorem gated_start (pool : Pool) (network : Network) (now : Nat) (addresses : List String) :
    Gated (.start pool network now addresses) := by
  have begin {caller : Caller}
      (member : caller ∈ (State.start pool network now addresses).callers) :
      caller.stage = .lookup := by
    obtain ⟨address, _, rfl⟩ := List.mem_map.mp member
    rfl
  refine ⟨.nil, .nil, nofun, ?_, nofun, ?_⟩
  · intro caller member gate holds
    rw [begin member] at holds
    contradiction
  · intro index index' caller caller' gate present _ inside
    rw [begin (List.mem_of_getElem? present)] at inside
    contradiction

/-- A step keeps the gates in order if every gate that is left has a holder, every holder has the
gate of its address, and nobody enters an occupied gate. -/
theorem Gated.set (gated : Gated state) (present : state.callers[index]? = some caller)
    (distinct : (shared.gates.map Prod.fst).Nodup) (single : (shared.gates.map Prod.snd).Nodup)
    (made : ∀ entry ∈ shared.gates, entry.2 < shared.made)
    (own : ∀ gate, stage.gate? = some gate → (caller.address, gate) ∈ shared.gates)
    (others : ∀ (other : Nat) (holder : Caller) (gate : GateId), other ≠ index →
      state.callers[other]? = some holder → holder.stage.gate? = some gate →
        (holder.address, gate) ∈ shared.gates)
    (used : ∀ entry ∈ shared.gates,
      stage.gate? = some entry.2 ∨ Shares state index entry.2)
    (enters : ∀ gate, stage.inside? = some gate →
      caller.stage.inside? = some gate ∨ state.isOccupied gate = false) :
    Gated { shared with callers := state.callers.set index ⟨caller.address, stage⟩ } := by
  obtain ⟨bound, here⟩ := List.getElem?_eq_some_iff.mp present
  have moved : (state.callers.set index ⟨caller.address, stage⟩)[index]? =
      some ⟨caller.address, stage⟩ := List.getElem?_set_self bound
  -- whoever else is inside a gate that the caller is in now was there before, or it was free
  have apart {other : Nat} {occupant : Caller} {gate : GateId} (distinct : index ≠ other)
      (there : state.callers[other]? = some occupant) (inside : stage.inside? = some gate) :
      occupant.stage.inside? ≠ some gate := by
    intro inside'
    rcases enters gate inside with before | free
    · exact distinct (gated.alone index other caller occupant gate present there before inside')
    · have vacant := List.any_eq_false.mp free occupant (List.mem_of_getElem? there)
      exact vacant (beq_iff_eq.mpr inside')
  refine ⟨distinct, single, made, ?_, ?_, ?_⟩
  · intro holder member gate holds
    obtain ⟨other, there⟩ := List.getElem?_of_mem member
    by_cases same : index = other
    · subst same
      cases moved.symm.trans there
      exact own gate holds
    · rw [List.getElem?_set_ne same] at there
      exact others other holder gate (Ne.symm same) there holds
  · intro entry member
    rcases used entry member with holds | ⟨other, holder, distinct, there, holds⟩
    · exact ⟨index, _, moved, holds⟩
    · refine ⟨other, holder, ?_, holds⟩
      rwa [List.getElem?_set_ne distinct.symm]
  · intro one two first second gate there there' inside inside'
    by_cases same : index = one
    · by_cases same' : index = two
      · exact same.symm.trans same'
      · subst same
        cases moved.symm.trans there
        rw [List.getElem?_set_ne same'] at there'
        exact absurd inside' (apart same' there' inside)
    · rw [List.getElem?_set_ne same] at there
      by_cases same' : index = two
      · subst same'
        cases moved.symm.trans there'
        exact absurd inside (apart same there inside')
      · rw [List.getElem?_set_ne same'] at there'
        exact gated.alone one two first second gate there there' inside inside'

/-- A step that leaves the gates alone and whose caller holds what it held. -/
theorem Gated.keep (gated : Gated state) (present : state.callers[index]? = some caller)
    (gates : shared.gates = state.gates) (made : shared.made = state.made)
    (same : stage.gate? = caller.stage.gate?)
    (enters : ∀ gate, stage.inside? = some gate →
      caller.stage.inside? = some gate ∨ state.isOccupied gate = false) :
    Gated { shared with callers := state.callers.set index ⟨caller.address, stage⟩ } := by
  refine gated.set present ?_ ?_ ?_ ?_ ?_ ?_ enters
  · exact gates ▸ gated.distinct
  · exact gates ▸ gated.single
  · rw [gates, made]
    exact gated.made
  · intro gate holds
    rw [gates]
    exact gated.held caller (List.mem_of_getElem? present) gate (same ▸ holds)
  · intro other holder gate _ there holds
    rw [gates]
    exact gated.held holder (List.mem_of_getElem? there) gate holds
  · intro entry member
    obtain ⟨other, holder, there, holds⟩ := gated.used entry (gates ▸ member)
    by_cases here : other = index
    · subst here
      cases there.symm.trans present
      exact .inl (same ▸ holds)
    · exact .inr ⟨other, holder, here, there, holds⟩

/-- A gate of which the caller at a place holds no clone has a holder elsewhere. -/
theorem Gated.shares_of_ne (gated : Gated state) (present : state.callers[index]? = some caller)
    {entry : String × GateId} (member : entry ∈ state.gates)
    (differs : caller.stage.gate? ≠ some entry.2) : Shares state index entry.2 := by
  obtain ⟨other, holder, there, holds⟩ := gated.used entry member
  refine ⟨other, holder, ?_, there, holds⟩
  rintro rfl
  cases there.symm.trans present
  exact differs holds

theorem gated_step (gated : Gated state) (stepped : state.step index = some next) :
    Gated next := by
  obtain ⟨⟨address, stage⟩, stage', shared, present, proceeds, rfl⟩ := step_cases stepped
  have elsewhere (other : Nat) (holder : Caller) (gate : GateId) (_ : other ≠ index)
      (there : state.callers[other]? = some holder) (holds : holder.stage.gate? = some gate) :
      (holder.address, gate) ∈ state.gates :=
    gated.held holder (List.mem_of_getElem? there) gate holds
  cases proceeds with
  | found usable => exact gated.keep present rfl rfl rfl nofun
  | missed absent => exact gated.keep present rfl rfl rfl nofun
  | @joined gate known =>
    refine gated.set present gated.distinct gated.single gated.made ?_ elsewhere ?_ nofun
    · rintro _ ⟨⟩
      exact (lookup_eq_some_iff_mem gated.distinct).mp known
    · exact fun entry member => .inr (gated.shares_of_ne present member nofun)
  | opened unknown =>
    refine gated.set present ?_ ?_ ?_ ?_ ?_ ?_ nofun
    · refine List.nodup_cons.mpr ⟨?_, gated.distinct⟩
      intro listed
      obtain ⟨entry, member, same⟩ := List.mem_map.mp listed
      have other := List.lookup_eq_none_iff.mp unknown entry member
      rw [same, bne_self_eq_false] at other
      contradiction
    · refine List.nodup_cons.mpr ⟨?_, gated.single⟩
      intro listed
      obtain ⟨entry, member, same⟩ := List.mem_map.mp listed
      exact Nat.ne_of_lt (gated.made entry member) same
    · intro entry member
      rcases List.mem_cons.mp member with rfl | former
      · exact Nat.lt_succ_self _
      · exact Nat.lt_succ_of_lt (gated.made entry former)
    · rintro _ ⟨⟩
      exact List.mem_cons_self
    · exact fun other holder gate apart there holds =>
        List.mem_cons_of_mem _ (elsewhere other holder gate apart there holds)
    · intro entry member
      rcases List.mem_cons.mp member with rfl | former
      · exact .inl rfl
      · exact .inr (gated.shares_of_ne present former nofun)
  | passed free =>
    refine gated.keep present rfl rfl rfl ?_
    rintro _ ⟨⟩
    exact .inr free
  | foundAgain usable => exact gated.keep present rfl rfl rfl (fun _ inside => .inl inside)
  | missedAgain absent => exact gated.keep present rfl rfl rfl (fun _ inside => .inl inside)
  | refused unrouted => exact gated.keep present rfl rfl rfl (fun _ inside => .inl inside)
  | connected routed => exact gated.keep present rfl rfl rfl (fun _ inside => .inl inside)
  | left => exact gated.keep present rfl rfl rfl nofun
  | @kept gate outcome many =>
    refine gated.set present gated.distinct gated.single gated.made nofun elsewhere ?_ nofun
    intro entry member
    by_cases own : gate = entry.2
    · exact .inr (own ▸ (gated.references_iff present rfl).mp many)
    · exact .inr (gated.shares_of_ne present member (fun holds => own (Option.some.inj holds)))
  | @removed gate outcome last =>
    have own : (address, gate) ∈ state.gates :=
      gated.held ⟨address, _⟩ (List.mem_of_getElem? present) gate rfl
    have sublist : (state.gates.filter (fun (place, _) => place ≠ address)).Sublist state.gates :=
      List.filter_sublist
    refine gated.set present (gated.distinct.sublist (sublist.map _))
      (gated.single.sublist (sublist.map _))
      (fun entry member => gated.made entry (sublist.subset member)) nofun ?_ ?_ nofun
    · intro other holder gate' apart there holds
      have entry := elsewhere other holder gate' apart there holds
      refine List.mem_filter.mpr ⟨entry, decide_eq_true ?_⟩
      intro same
      have shared := List.inj_on_of_nodup_map gated.distinct entry own same
      have many := (gated.references_iff present rfl).mpr
        ⟨other, holder, apart, there, holds.trans (congrArg (some ·.2) shared)⟩
      omega
    · intro entry member
      obtain ⟨former, other⟩ := List.mem_filter.mp member
      refine .inr (gated.shares_of_ne present former ?_)
      intro holds
      have same := List.inj_on_of_nodup_map gated.single own former (Option.some.inj holds)
      exact of_decide_eq_true other (congrArg Prod.fst same).symm

theorem gated_move (gated : Gated state) {move : Move} (moved : state.move move = some next) :
    Gated next := by
  cases move with
  | caller index => exact gated_step gated moved
  | turn turn =>
    cases moved
    exact ⟨gated.distinct, gated.single, gated.made, gated.held, gated.used, gated.alone⟩

/-- What every move keeps, moves keep. -/
theorem play_induction {motive : State → Prop}
    (step : ∀ {state next : State} {move : Move}, motive state → state.move move = some next →
      motive next)
    {state last : State} {moves : List Move} (holds : motive state)
    (played : state.play moves = some last) : motive last := by
  induction moves generalizing state with
  | nil =>
    cases played
    exact holds
  | cons move moves ih =>
    simp only [State.play, Option.bind_eq_bind, Option.bind_eq_some_iff] at played
    obtain ⟨next, moved, played⟩ := played
    exact ih (step holds moved) played

theorem gated_play (gated : Gated state) {moves : List Move} {last : State}
    (played : state.play moves = some last) : Gated last :=
  play_induction (fun kept moved => gated_move kept moved) gated played

theorem gate?_of_inside? {gate : GateId} (inside : stage.inside? = some gate) :
    stage.gate? = some gate := by
  cases stage <;> first | contradiction | exact inside

/-- One caller of an address at a time is behind its gate. -/
theorem Gated.exclusive (gated : Gated state) {index' : Nat} {caller' : Caller}
    (present : state.callers[index]? = some caller)
    (present' : state.callers[index']? = some caller') (same : caller.address = caller'.address)
    (inside : caller.stage.inside?.isSome = true) (inside' : caller'.stage.inside?.isSome = true) :
    index = index' := by
  obtain ⟨gate, within⟩ := Option.isSome_iff_exists.mp inside
  obtain ⟨gate', within'⟩ := Option.isSome_iff_exists.mp inside'
  have entry := gated.held caller (List.mem_of_getElem? present) gate (gate?_of_inside? within)
  have entry' := gated.held caller' (List.mem_of_getElem? present') gate' (gate?_of_inside? within')
  have shared := List.inj_on_of_nodup_map gated.distinct entry entry' same
  cases congrArg Prod.snd shared
  exact gated.alone index index' caller caller' gate present present' within within'

/-- Without a call in progress there is no gate. -/
theorem Gated.gates_eq_nil (gated : Gated state)
    (idle : ∀ caller ∈ state.callers, caller.stage.gate? = none) : state.gates = [] := by
  refine List.eq_nil_iff_forall_not_mem.mpr ?_
  intro entry member
  obtain ⟨index, caller, present, holds⟩ := gated.used entry member
  rw [idle caller (List.mem_of_getElem? present)] at holds
  contradiction

/-- How many steps a caller has still to take at most. -/
def Stage.rank : Stage → Nat
  | lookup => 7
  | approach => 6
  | wait _ => 5
  | recheck _ => 4
  | connect _ => 3
  | leave .. => 2
  | release .. => 1
  | finished _ => 0

def State.rank (state : State) : Nat := (state.callers.map (fun caller => caller.stage.rank)).sum

theorem rank_start (pool : Pool) (network : Network) (now : Nat) (addresses : List String) :
    (State.start pool network now addresses).rank = 7 * addresses.length := by
  simp [State.rank, State.start, Stage.rank, Function.comp_def, Nat.mul_comm]

theorem rank_proceeds {address : String} {stage' : Stage}
    (proceeds : Proceeds state address stage (stage', shared)) : stage'.rank < stage.rank := by
  cases proceeds <;> simp [Stage.rank]

def Move.isCaller : Move → Bool
  | .caller _ => true
  | .turn _ => false

/-- Callers that go on moving come to their end. -/
theorem countP_play {moves : List Move} {last : State} (played : state.play moves = some last) :
    moves.countP Move.isCaller + last.rank ≤ state.rank := by
  induction moves generalizing state with
  | nil =>
    cases played
    exact Nat.le_of_eq (Nat.zero_add _)
  | cons move moves ih =>
    simp only [State.play, Option.bind_eq_bind, Option.bind_eq_some_iff] at played
    obtain ⟨next, moved, played⟩ := played
    have rest := ih played
    cases move with
    | caller index =>
      obtain ⟨caller, stage, shared, present, proceeds, rfl⟩ := step_cases moved
      have lower : ((state.callers.set index ⟨caller.address, stage⟩).map
          (fun caller => caller.stage.rank)).sum < state.rank :=
        FanOut.State.sum_map_set_lt present (rank_proceeds proceeds)
      rw [List.countP_cons_of_pos rfl]
      simp only [State.rank] at rest lower ⊢
      omega
    | turn turn =>
      cases moved
      rw [List.countP_cons_of_neg Bool.false_ne_true]
      exact rest

/-- A caller can move unless it has finished or waits at an occupied gate. -/
theorem exists_step (present : state.callers[index]? = some caller)
    (unfinished : ∀ outcome, caller.stage ≠ .finished outcome)
    (free : ∀ gate, caller.stage = .wait gate → state.isOccupied gate = false) :
    ∃ next, state.step index = some next := by
  obtain ⟨address, stage⟩ := caller
  simp only [State.step, present, Option.bind_eq_bind, Option.bind_some]
  cases stage with
  | lookup | approach | recheck gate =>
    simp only
    split <;> exact ⟨_, rfl⟩
  | wait gate =>
    simp only [free gate rfl]
    exact ⟨_, rfl⟩
  | connect gate | leave gate outcome | release gate outcome => exact ⟨_, rfl⟩
  | finished outcome => exact absurd rfl (unfinished outcome)

/-- Nobody waits for ever: until all have finished, some caller can move. -/
theorem finished_or_exists_step (state : State) :
    (∀ caller ∈ state.callers, ∃ outcome, caller.stage = .finished outcome) ∨
      ∃ index next, state.step index = some next := by
  by_cases done : ∀ caller ∈ state.callers, ∃ outcome, caller.stage = .finished outcome
  · exact .inl done
  right
  simp only [not_forall, not_exists] at done
  obtain ⟨caller, member, unfinished⟩ := done
  obtain ⟨index, present⟩ := List.getElem?_of_mem member
  by_cases blocked : ∃ gate, caller.stage = .wait gate ∧ state.isOccupied gate = true
  · -- whoever is inside the gate can move
    obtain ⟨gate, _, occupied⟩ := blocked
    obtain ⟨occupant, member', inside⟩ := List.any_eq_true.mp occupied
    obtain ⟨index', present'⟩ := List.getElem?_of_mem member'
    have within := beq_iff_eq.mp inside
    refine ⟨index', exists_step present' ?_ ?_⟩
    · intro outcome finished
      rw [finished] at within
      contradiction
    · intro gate' waits
      rw [waits] at within
      contradiction
  · refine ⟨index, exists_step present unfinished ?_⟩
    intro gate waits
    by_contra occupied
    exact blocked ⟨gate, waits, Bool.not_eq_false _ ▸ occupied⟩

end FileGateway.SingleFlight
