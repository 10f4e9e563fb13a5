import FileGateway.Hub.FanOut
import FileGateway.Proofs.Hub.Effect

/-! A task of a fan-out looks at its own address only: what it does next, and what it leaves
behind there, is determined by the view of the hub from that address. -/
namespace FileGateway

/-- Every question is one call, with its answer read in some way. -/
theorem Question.exists_request {α : Type} (question : Question α) :
    ∃ (request : Request) (read : request.Answer → Option α), ∀ network id,
      question.query network id =
        ((network.perform id request).1.map read, (network.perform id request).2) := by
  cases question with
  | cachedBlocks path =>
    exact ⟨.getExtendedAttr path Request.cachedBlocksAttribute, Option.map Bitmap.mk,
      fun _ _ => rfl⟩
  | attributeNames path => exact ⟨.listExtendedAttr path, some, fun _ _ => rfl⟩
  | attributeValue path name =>
    refine ⟨.getExtendedAttr path name, fun value => value, ?_⟩
    intro network id
    exact Prod.ext (congrFun Except.map_id _).symm rfl

namespace FanOut
variable {α : Type}

namespace Stage

/-- Whether what a stage remembers belongs to an address. -/
def Fits (hub : Hub) (address : String) : Stage α → Prop
  | approach place | recheck place | connect place => place = address
  | query id => ∃ entry, hub.pool.clients.find? address = some entry ∧ entry.value = id
  | waiting | lookup | discard _ | finished _ => True

theorem Fits.of_find?_eq {hub next : Hub} {address : String} {stage : Stage α}
    (fits : stage.Fits hub address)
    (same : next.pool.clients.find? address = hub.pool.clients.find? address) :
    stage.Fits next address := by
  cases stage with
  | query id =>
    obtain ⟨entry, found, owns⟩ := fits
    exact ⟨entry, same.trans found, owns⟩
  | _ => exact fits

theorem outcome?_eq_some_iff {stage : Stage α} {outcome : Outcome α} :
    stage.outcome? = some outcome ↔ stage = finished outcome := by
  cases stage <;> simp [outcome?]

theorem outcome?_of_isBusy {stage : Stage α} (busy : stage.isBusy = true) :
    stage.outcome? = none := by
  cases stage with
  | waiting | finished outcome => contradiction
  | _ => rfl

/-- A task that is neither busy nor at its end has not begun. -/
theorem eq_waiting {stage : Stage α} (idle : stage.isBusy = false)
    (unfinished : stage.outcome? = none) : stage = waiting := by
  cases stage with
  | waiting => rfl
  | _ => contradiction

/-- A stage where clients are not told apart. -/
def unnamed : Stage α → Stage α
  | query _ => query 0
  | stage => stage

/-- How many steps a task has still to take at most. -/
def rank : Stage α → Nat
  | waiting => 7
  | lookup => 6
  | approach _ => 5
  | recheck _ => 4
  | connect _ => 3
  | query _ => 2
  | discard _ => 1
  | finished _ => 0

end Stage

/-- A task for the host of an address, and the hub that it finds. -/
structure Ready (now known : Nat) (host address : String) (stage : Stage α) (hub : Hub) :
    Prop where
  consistent : hub.Consistent now
  resolved : hub.pool.settings.resolve host = .ok address
  past : known ≤ hub.network.clients.size
  room : hub.pool.clients.HasRoom address
  fits : stage.Fits hub address

variable {question : Question α} {now known : Nat} {host address : String} {hub hub' : Hub}
  {stage stage' : Stage α}

theorem rank_advance (moved : stage.advance question now host hub = some (stage', hub')) :
    stage'.rank < stage.rank := by
  cases stage with
  | waiting | approach place | discard error =>
    cases moved
    simp [Stage.rank]
  | lookup =>
    simp only [Stage.advance] at moved
    split at moved
    · cases moved
      simp [Stage.rank]
    · split at moved <;> cases moved <;> simp [Stage.rank]
  | recheck place | connect place =>
    simp only [Stage.advance] at moved
    split at moved <;> cases moved <;> simp [Stage.rank]
  | query id =>
    simp only [Stage.advance] at moved
    split at moved <;> cases moved <;> simp [Stage.rank]
  | finished outcome => cases moved

/-- Looking for a client forgets the address at most, and then there is another stage to go to. -/
theorem effect_live {otherwise : Stage α}
    (moved : (match hub.pool.live hub.network now address with
      | (some id, pool) => some (Stage.query id, { hub with pool })
      | (none, pool) => some (otherwise, { hub with pool })) = some (stage', hub'))
    (stays : otherwise.Fits (hub.forget address) address) :
    hub.Effect now address hub' ∧ stage'.Fits hub' address := by
  rw [Pool.live_eq] at moved
  cases usable : hub.pool.usable? hub.network now address with
  | none =>
    rw [usable] at moved
    cases moved
    exact ⟨.forget, stays⟩
  | some id =>
    rw [usable] at moved
    cases moved
    obtain ⟨entry, present, same, _⟩ := Pool.usable?_eq_some_iff.mp usable
    exact ⟨.none, entry, present, same⟩

theorem discardAfter_eq (resolved : hub.pool.settings.resolve host = .ok address)
    (error : GatewayError) :
    hub.discardAfter host error = if error.isFatal then hub.forget address else hub := by
  simp only [Hub.discardAfter, Pool.invalidate, resolved]
  rfl

/-- One step of a task has an effect for its own address only. -/
theorem Ready.effect (ready : Ready now known host address stage hub)
    (moved : stage.advance question now host hub = some (stage', hub')) :
    hub.Effect now address hub' ∧ stage'.Fits hub' address := by
  obtain ⟨consistent, resolved, past, room, fits⟩ := ready
  cases stage with
  | waiting =>
    cases moved
    exact ⟨.none, trivial⟩
  | lookup =>
    simp only [Stage.advance, resolved] at moved
    exact effect_live moved rfl
  | approach place =>
    cases moved
    exact ⟨.none, fits⟩
  | recheck place =>
    cases fits
    simp only [Stage.advance] at moved
    exact effect_live moved rfl
  | connect place =>
    cases fits
    cases routed : hub.network.route (Network.gatewayName address) with
    | error fault =>
      simp only [Stage.advance, Pool.connect_of_route_error routed] at moved
      cases moved
      exact ⟨.attempt, trivial⟩
    | ok _ =>
      simp only [Stage.advance, Pool.connect_of_route_ok routed] at moved
      cases moved
      exact ⟨.adopt routed, _, ExpiringCache.find?_insert_self room .., rfl⟩
  | query id =>
    obtain ⟨entry, found, rfl⟩ := fits
    obtain ⟨request, read, called⟩ := question.exists_request
    have effect : hub.Effect now address (hub.call entry.value request) := .call found request
    simp only [Stage.advance, called] at moved
    split at moved <;> rename_i given <;> cases moved <;>
      obtain rfl := congrArg Prod.snd given
    · exact ⟨effect, trivial⟩
    · exact ⟨effect, trivial⟩
  | discard error =>
    simp only [Stage.advance, discardAfter_eq resolved] at moved
    split at moved <;> cases moved
    · exact ⟨.forget, trivial⟩
    · exact ⟨.none, trivial⟩
  | finished outcome => cases moved

theorem Ready.advance (ready : Ready now known host address stage hub)
    (moved : stage.advance question now host hub = some (stage', hub')) :
    Ready now known host address stage' hub' := by
  obtain ⟨effect, fits⟩ := ready.effect moved
  refine ⟨effect.consistent ready.consistent, ?_, ready.past.trans effect.size_le,
    effect.hasRoom ready.consistent ready.room, fits⟩
  rw [effect.settings]
  exact ready.resolved

/-- Two moments of the task of an address that cannot be told apart from there. -/
structure Alike (known : Nat) (address : String) (one two : Stage α × Hub) : Prop where
  stage : one.1.unnamed = two.1.unnamed
  view : one.2.view known address = two.2.view known address

theorem Alike.refl (known : Nat) (address : String) (moment : Stage α × Hub) :
    Alike known address moment moment := ⟨rfl, rfl⟩

theorem Alike.trans {one two three : Stage α × Hub} (first : Alike known address one two)
    (second : Alike known address two three) : Alike known address one three :=
  ⟨first.stage.trans second.stage, first.view.trans second.view⟩

theorem eq_or_query_of_unnamed (same : stage.unnamed = stage'.unnamed) :
    stage = stage' ∨ ∃ id id', stage = .query id ∧ stage' = .query id' := by
  cases stage <;> cases stage' <;> simp_all [Stage.unnamed]

theorem view_forget_congr (same : hub.view known address = hub'.view known address) :
    (hub.forget address).view known address = (hub'.forget address).view known address := by
  rw [Hub.view_forget_self, Hub.view_forget_self, same]

/-- In hubs of one view there is a usable client or there is none. -/
theorem alike_live (same : hub.view known address = hub'.view known address)
    (otherwise : Stage α) :
    Option.Rel (Alike known address)
      (match hub.pool.live hub.network now address with
        | (some id, pool) => some (Stage.query id, { hub with pool })
        | (none, pool) => some (otherwise, { hub with pool }))
      (match hub'.pool.live hub'.network now address with
        | (some id, pool) => some (Stage.query id, { hub' with pool })
        | (none, pool) => some (otherwise, { hub' with pool })) := by
  have usable := hub.isSome_usable? now known address
  rw [same, ← hub'.isSome_usable? now known address] at usable
  rw [Pool.live_eq, Pool.live_eq]
  cases one : hub.pool.usable? hub.network now address with
  | none =>
    rw [one, Option.isSome_none, eq_comm, Option.isSome_eq_false_iff,
      Option.isNone_iff_eq_none] at usable
    rw [usable]
    exact .some ⟨rfl, view_forget_congr same⟩
  | some id =>
    rw [one, Option.isSome_some, eq_comm, Option.isSome_iff_exists] at usable
    obtain ⟨id', two⟩ := usable
    rw [two]
    exact .some ⟨rfl, same⟩

/-- What the client of an address gives is determined by the view from there. -/
theorem alike_query {id id' : ClientId}
    (ready : Ready now known host address (Stage.query (α := α) id) hub)
    (ready' : Ready now known host address (Stage.query (α := α) id') hub')
    (same : hub.view known address = hub'.view known address) :
    Option.Rel (Alike known address) ((Stage.query id).advance question now host hub)
      ((Stage.query id').advance question now host hub') := by
  obtain ⟨entry, found, rfl⟩ := ready.fits
  obtain ⟨entry', found', rfl⟩ := ready'.fits
  obtain ⟨request, read, called⟩ := question.exists_request
  have held := congrArg View.holding same
  simp only [Hub.view, Hub.holding, found, found', Option.map_some, Option.some.injEq,
    Holding.mk.injEq] at held
  obtain ⟨_, _, client⟩ := held
  have given : (hub.network.perform entry.value request).1 =
      (hub'.network.perform entry'.value request).1 := by
    have one := congrArg Prod.fst (ready.consistent.perform_eq found known request)
    have two := congrArg Prod.fst (ready'.consistent.perform_eq found' known request)
    rw [client, same] at one
    exact one.trans two.symm
  have after : (hub.call entry.value request).view known address =
      (hub'.call entry'.value request).view known address := by
    rw [ready.consistent.view_call_self found, ready'.consistent.view_call_self found', same]
  simp only [Stage.advance, called, given]
  cases (hub'.network.perform entry'.value request).1 with
  | error failure =>
    cases failure with
    | cancelled => exact .none
    | error cause => exact .some ⟨rfl, after⟩
  | ok value => exact .some ⟨rfl, after⟩

theorem alike_connect
    (ready : Ready now known host address (Stage.connect (α := α) address) hub)
    (ready' : Ready now known host address (Stage.connect (α := α) address) hub')
    (same : hub.view known address = hub'.view known address) :
    Option.Rel (Alike known address) ((Stage.connect address).advance question now host hub)
      ((Stage.connect address).advance question now host hub') := by
  have routes : hub.network.route (Network.gatewayName address) =
      hub'.network.route (Network.gatewayName address) :=
    Hub.route_congr (congrArg View.gateway same)
  cases routed : hub'.network.route (Network.gatewayName address) with
  | error fault =>
    rw [routed] at routes
    simp only [Stage.advance, Pool.connect_of_route_error routed,
      Pool.connect_of_route_error routes]
    refine .some ⟨rfl, ?_⟩
    have one := ready.consistent.view_connect known address address
    have two := ready'.consistent.view_connect known address address
    exact one.trans (same.trans two.symm)
  | ok _ =>
    rw [routed] at routes
    simp only [Stage.advance, Pool.connect_of_route_ok routed, Pool.connect_of_route_ok routes]
    refine .some ⟨rfl, ?_⟩
    have one := Hub.view_adopt_self ready.room routes ready.past now
    have two := Hub.view_adopt_self ready'.room routed ready'.past now
    exact one.trans (same ▸ two.symm)

/-- Moments that are alike have the same step, up to the numbers of clients. -/
theorem Alike.advance {one two : Stage α × Hub} (alike : Alike known address one two)
    (ready : Ready now known host address one.1 one.2)
    (ready' : Ready now known host address two.1 two.2) :
    Option.Rel (Alike known address) (one.1.advance question now host one.2)
      (two.1.advance question now host two.2) := by
  obtain ⟨stage, hub⟩ := one
  obtain ⟨stage', hub'⟩ := two
  obtain ⟨sameStage, same⟩ := alike
  rcases eq_or_query_of_unnamed sameStage with rfl | ⟨id, id', rfl, rfl⟩
  · cases stage with
    | waiting => exact .some ⟨rfl, same⟩
    | lookup =>
      simp only [Stage.advance, ready.resolved, ready'.resolved]
      exact alike_live same (.approach address)
    | approach place => exact .some ⟨rfl, same⟩
    | recheck place =>
      have here : place = address := ready.fits
      subst here
      exact alike_live same (.connect place)
    | connect place =>
      have here : place = address := ready.fits
      subst here
      exact alike_connect ready ready' same
    | query id => exact alike_query ready ready' same
    | discard error =>
      simp only [Stage.advance, discardAfter_eq ready.resolved, discardAfter_eq ready'.resolved]
      split
      · exact .some ⟨rfl, view_forget_congr same⟩
      · exact .some ⟨rfl, same⟩
    | finished outcome => exact .none
  · exact alike_query ready ready' same

end FanOut
end FileGateway
