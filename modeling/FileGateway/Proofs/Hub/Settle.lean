import FileGateway.Proofs.Hub.Task

/-! A task that runs on by itself asks its host as if there were no tasks. What it gives, and what
it leaves behind at its address, is the same from every hub of the same view, and nothing else
is touched. -/
namespace FileGateway

/-- What may differ between two hubs if only one address was served in between. -/
structure Hub.Confined (known : Nat) (address : String) (hub next : Hub) : Prop where
  settings : next.pool.settings = hub.pool.settings
  capacity : next.pool.clients.capacity = hub.pool.clients.capacity
  keys : ∀ entry ∈ next.pool.clients.entries,
    entry.key = address ∨ entry ∈ hub.pool.clients.entries
  holding : ∀ other, other ≠ address → next.holding known other = hub.holding known other
  view : ∀ other, Network.gatewayName other ≠ Network.gatewayName address →
    next.view known other = hub.view known other

theorem Hub.Confined.refl (known : Nat) (address : String) (hub : Hub) :
    hub.Confined known address hub :=
  ⟨rfl, rfl, fun _ stored => .inr stored, fun _ _ => rfl, fun _ _ => rfl⟩

theorem Hub.Confined.trans {known : Nat} {address : String} {hub next last : Hub}
    (first : hub.Confined known address next) (second : next.Confined known address last) :
    hub.Confined known address last where
  settings := second.settings.trans first.settings
  capacity := second.capacity.trans first.capacity
  keys entry stored := (second.keys entry stored).elim .inl (first.keys entry)
  holding other distinct := (second.holding other distinct).trans (first.holding other distinct)
  view other apart := (second.view other apart).trans (first.view other apart)

theorem Hub.Effect.confined {now : Nat} {address : String} {hub next : Hub}
    (effect : hub.Effect now address next) (consistent : hub.Consistent now)
    (room : hub.pool.clients.HasRoom address) (known : Nat) :
    hub.Confined known address next where
  settings := effect.settings
  capacity := effect.capacity
  keys _ stored := effect.keys stored
  holding _ distinct := effect.holding_of_ne consistent room known distinct
  view _ apart := effect.view_of_ne consistent room known apart

namespace FanOut
variable {α : Type} {question : Question α} {now known : Nat} {host address : String}
  {hub hub' : Hub} {stage stage' : Stage α}

/-- A task run on by itself as far as it goes. -/
def settle (question : Question α) (now : Nat) (host : String) (stage : Stage α) (hub : Hub) :
    Stage α × Hub :=
  match _ : stage.advance question now host hub with
  | none => (stage, hub)
  | some (stage', hub') => settle question now host stage' hub'
termination_by stage.rank
decreasing_by exact rank_advance ‹_›

theorem settle_of_none (stuck : stage.advance question now host hub = none) :
    settle question now host stage hub = (stage, hub) := by
  rw [settle]
  split
  · rfl
  · rename_i moved
    rw [stuck] at moved
    contradiction

theorem settle_of_some (moved : stage.advance question now host hub = some (stage', hub')) :
    settle question now host stage hub = settle question now host stage' hub' := by
  rw [settle]
  split
  · rename_i stuck
    rw [moved] at stuck
    contradiction
  · rename_i again
    rw [moved] at again
    cases again
    rfl

/-- From moments that are alike a task settles alike. -/
theorem Alike.settle (question : Question α) {one two : Stage α × Hub}
    (alike : Alike known address one two)
    (ready : Ready now known host address one.1 one.2)
    (ready' : Ready now known host address two.1 two.2) :
    Alike known address (settle question now host one.1 one.2)
      (settle question now host two.1 two.2) := by
  have steps : Option.Rel (Alike known address) (one.1.advance question now host one.2)
      (two.1.advance question now host two.2) := alike.advance ready ready'
  cases moved : one.1.advance question now host one.2 with
  | none =>
    cases moved' : two.1.advance question now host two.2 with
    | none =>
      rw [settle_of_none moved, settle_of_none moved']
      exact alike
    | some next' =>
      rw [moved, moved'] at steps
      cases steps
  | some next =>
    cases moved' : two.1.advance question now host two.2 with
    | none =>
      rw [moved, moved'] at steps
      cases steps
    | some next' =>
      rw [moved, moved'] at steps
      cases steps with
      | some later =>
        rw [settle_of_some moved, settle_of_some moved']
        exact later.settle question (ready.advance moved) (ready'.advance moved')
termination_by one.1.rank
decreasing_by exact rank_advance moved

theorem Ready.settle (question : Question α) {stage : Stage α} {hub : Hub}
    (ready : Ready now known host address stage hub) :
    Ready now known host address (settle question now host stage hub).1
        (settle question now host stage hub).2 ∧
      hub.Confined known address (settle question now host stage hub).2 := by
  cases moved : stage.advance question now host hub with
  | none =>
    rw [settle_of_none moved]
    exact ⟨ready, .refl known address hub⟩
  | some next =>
    obtain ⟨settled, confined⟩ := (ready.advance moved).settle question
    rw [settle_of_some moved]
    refine ⟨settled, .trans ?_ confined⟩
    exact (ready.effect moved).1.confined ready.consistent ready.room known
termination_by stage.rank
decreasing_by exact rank_advance moved

/-- What asking a client of a host comes to. -/
def askClient (question : Question α) (host : String) (id : ClientId) (hub : Hub) :
    Except Failure (Option α) × Hub :=
  match question.query hub.network id with
  | (.error (.error error), network) =>
    (.error (.error error), { hub with network }.discardAfter host error)
  | (result, network) => (result, { hub with network })

theorem ask_eq (hub : Hub) (now : Nat) (question : Question α) (host : String) :
    hub.ask now question.query host =
      match hub.client now host with
      | (.error error, hub) => (.error (.error error), hub)
      | (.ok id, hub) => askClient question host id hub := by
  rw [Hub.ask]
  rfl

/-- What a task gives that comes to rest at a stage: its outcome, or nothing for ever. -/
def Stage.gives : Stage α → Except Failure (Option α)
  | finished outcome => outcome.mapError .error
  | waiting | lookup | approach _ | recheck _ | connect _ | query _ | discard _ =>
    .error .cancelled

theorem Stage.gives_of_unfinished {stage : Stage α} (unfinished : stage.outcome? = none) :
    stage.gives = .error .cancelled := by
  cases stage with
  | finished outcome => contradiction
  | _ => rfl

theorem Alike.gives {one two : Stage α × Hub} (alike : Alike known address one two) :
    one.1.gives = two.1.gives := by
  rcases eq_or_query_of_unnamed alike.stage with same | ⟨id, id', query, query'⟩
  · rw [same]
  · rw [query, query']
    rfl

theorem settle_query (question : Question α) (now : Nat) (host : String) (id : ClientId)
    (hub : Hub) :
    (settle question now host (.query id) hub).1.gives = (askClient question host id hub).1 ∧
      ((askClient question host id hub).1 ≠ .error .cancelled →
        (settle question now host (.query id) hub).2 = (askClient question host id hub).2) := by
  cases given : question.query hub.network id with
  | mk result network =>
    match result with
    | .error .cancelled =>
      have stuck : (Stage.query (α := α) id).advance question now host hub = none := by
        simp only [Stage.advance, given]
      rw [settle_of_none stuck, askClient, given]
      exact ⟨rfl, fun come => absurd rfl come⟩
    | .error (.error error) =>
      have moved : (Stage.query (α := α) id).advance question now host hub =
          some (.discard error, { hub with network }) := by
        simp only [Stage.advance, given]
      rw [settle_of_some moved, settle_of_some rfl, settle_of_none rfl, askClient, given]
      exact ⟨rfl, fun _ => rfl⟩
    | .ok value =>
      have moved : (Stage.query (α := α) id).advance question now host hub =
          some (.finished (.ok value), { hub with network }) := by
        simp only [Stage.advance, given]
      rw [settle_of_some moved, settle_of_none rfl, askClient, given]
      exact ⟨rfl, fun _ => rfl⟩

/-- A task that runs on by itself from the start asks its host. -/
theorem settle_waiting (question : Question α) (now : Nat)
    (resolved : hub.pool.settings.resolve host = .ok address) :
    (settle question now host .waiting hub).1.gives = (hub.ask now question.query host).1 ∧
      ((hub.ask now question.query host).1 ≠ .error .cancelled →
        (settle question now host .waiting hub).2 = (hub.ask now question.query host).2) := by
  rw [settle_of_some rfl, ask_eq, Hub.client, Pool.get, resolved]
  simp only [Pool.live_eq]
  cases usable : hub.pool.usable? hub.network now address with
  | some id =>
    have moved : (Stage.lookup (α := α)).advance question now host hub = some (.query id, hub) := by
      simp only [Stage.advance, resolved, Pool.live_eq, usable]
    rw [settle_of_some moved]
    exact settle_query question now host id hub
  | none =>
    have moved : (Stage.lookup (α := α)).advance question now host hub =
        some (.approach address, hub.forget address) := by
      simp only [Stage.advance, resolved, Pool.live_eq, usable]
      rfl
    have again : (Stage.recheck (α := α) address).advance question now host (hub.forget address) =
        some (.connect address, hub.forget address) := by
      have absent : (hub.forget address).pool.usable? hub.network now address = none :=
        hub.pool.usable?_forget hub.network now address
      simp only [Stage.advance, Pool.live_eq, Hub.forget] at absent ⊢
      simp only [absent, Pool.forget_forget]
    rw [settle_of_some moved, settle_of_some rfl, settle_of_some again]
    cases routed : hub.network.route (Network.gatewayName address) with
    | error fault =>
      have failed : (Stage.connect (α := α) address).advance question now host
          (hub.forget address) = some (.finished (.error (.connect address fault)),
            ⟨hub.pool.forget address, (hub.network.connect address).2⟩) := by
        simp only [Stage.advance, Hub.forget, Pool.connect_of_route_error routed]
      simp only [Pool.connect_of_route_error routed]
      rw [settle_of_some failed, settle_of_none rfl]
      exact ⟨rfl, fun _ => rfl⟩
    | ok _ =>
      have connected : (Stage.connect (α := α) address).advance question now host
          (hub.forget address) = some (.query hub.network.clients.size,
            (hub.forget address).adopt now address) := by
        simp only [Stage.advance, Hub.forget, Pool.connect_of_route_ok routed]
        rfl
      simp only [Pool.connect_of_route_ok routed]
      rw [settle_of_some connected]
      exact settle_query question now host _ _

end FanOut
end FileGateway
