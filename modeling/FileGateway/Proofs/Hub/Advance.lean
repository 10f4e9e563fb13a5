import FileGateway.Hub.FanOut.Run
import FileGateway.Proofs.Client.Closing
import FileGateway.Proofs.Hub.Task

/-! All that one move of a fan-out can do, with no assumption about the other tasks: a client may
have been forgotten, or closed, since a task was given it. -/
namespace FileGateway

/-- The clients of a network are still there in a later one, under their addresses. -/
structure Network.Grows (earlier later : Network) : Prop where
  size : earlier.clients.size ≤ later.clients.size
  address : ∀ id < earlier.clients.size, (later.client id).address = (earlier.client id).address

/-- A call of a client has come to its end. If it closed the client, it failed fatally. -/
structure Network.Asked (network : Network) (id : ClientId) (failure : Option GatewayError)
    (next : Network) : Prop where
  grows : network.Grows next
  others : ∀ other ≠ id, next.client other = network.client other
  closed : (next.client id).closed = true →
    (network.client id).closed = true ∨ ∃ error, failure = some error ∧ error.isFatal = true

namespace Network

theorem Grows.refl (network : Network) : network.Grows network :=
  ⟨Nat.le_refl _, fun _ _ => rfl⟩

/-- Only the clients of a network count. -/
theorem Grows.of_clients_eq {network next : Network} (same : next.clients = network.clients) :
    network.Grows next := by
  refine ⟨Nat.le_of_eq (congrArg Array.size same.symm), ?_⟩
  intro id _
  rw [client_eq_of_clients_eq same]

theorem grows_connect (network : Network) (address : String) :
    network.Grows (network.connect address).2 :=
  ⟨network.size_le_connect address,
    fun _ known => congrArg Client.address (network.client_connect_of_lt address known)⟩

/-- A client may be put in the place of another one with its address. -/
theorem grows_setClient {network : Network} (id : ClientId) {client : Client}
    (same : client.address = (network.client id).address) :
    network.Grows (network.setClient id client) := by
  refine ⟨Nat.le_of_eq (Array.size_setIfInBounds ..).symm, ?_⟩
  intro other known
  by_cases here : id = other
  · subst here
    rw [client_setClient known]
    exact same
  · rw [network.client_setClient_of_ne here]

/-- Where there is no client to be replaced, nothing changes. -/
theorem client_setClient_of_unknown {network : Network} {id : ClientId}
    (unknown : network.clients.size ≤ id) (client : Client) :
    (network.setClient id client).client id = network.client id := by
  rw [Network.client, Network.client, setClient, Array.getElem?_eq_none unknown]
  rw [Array.getElem?_eq_none]
  rwa [Array.size_setIfInBounds]

/-- A client may be put in the place of another one that is closed or open like it. -/
theorem closed_setClient {network : Network} {id : ClientId} {client : Client}
    (same : client.closed = (network.client id).closed) (other : ClientId) :
    ((network.setClient id client).client other).closed = (network.client other).closed := by
  by_cases here : id = other
  · subst here
    by_cases known : id < network.clients.size
    · rw [client_setClient known]
      exact same
    · rw [client_setClient_of_unknown (Nat.not_lt.mp known)]
  · rw [network.client_setClient_of_ne here]

theorem grows_arrival (network : Network) (id : ClientId) (reply : Reply) :
    network.Grows (network.arrival id reply) :=
  grows_setClient id rfl

theorem closed_client_arrival (network : Network) (id : ClientId) (reply : Reply)
    (other : ClientId) :
    ((network.arrival id reply).client other).closed = (network.client other).closed := by
  rw [arrival, closed_setClient]
  rfl

theorem Asked.refl (network : Network) (id : ClientId) : network.Asked id none network where
  grows := .refl network
  others _ _ := rfl
  closed := .inl

/-- The failure of a call that has come to its end. -/
def errorOf {β : Type} : Except Failure β → Option GatewayError
  | .error (.error error) => some error
  | .error .cancelled | .ok _ => none

theorem asked_perform {network : Network} {id : ClientId} {request : Request}
    (come : (network.perform id request).1 ≠ .error .cancelled) :
    network.Asked id (errorOf (network.perform id request).1) (network.perform id request).2 where
  grows := ⟨Nat.le_of_eq (network.size_perform id request).symm,
    fun other _ => network.address_client_perform id other request⟩
  others other distinct := network.perform_client_of_ne distinct.symm request
  closed := by
    intro closes
    cases prepared : (network.client id).prepare request with
    | error error =>
      rw [perform_of_prepare_error prepared] at closes
      exact .inl closes
    | ok frame =>
      have performed := network.perform_client id request
      have opened := Client.open_of_prepare prepared
      have closedIff := Client.closed_perform_iff opened prepared
        (network.nextReply (gatewayName (network.client id).address))
      rw [← performed] at closedIff
      obtain ⟨failure, given, fatal⟩ := closedIff.mp closes
      cases failure with
      | cancelled => exact absurd given come
      | error error => exact .inr ⟨error, congrArg errorOf given, fatal⟩

theorem asked_interrupt {network : Network} {id : ClientId} {request : Request} {reply : Reply}
    {fault : LinkFault} {error : GatewayError} {client : Client}
    (given : (network.client id).interrupt request reply (.fault fault) =
      (.error (.error error), client)) :
    network.Asked id (some error) (network.setClient id client) where
  grows := by
    refine grows_setClient id ?_
    have named := Client.address_interrupt (network.client id) request reply (.fault fault)
    rwa [given] at named
  others other distinct := network.client_setClient_of_ne distinct.symm client
  closed := by
    intro closes
    by_cases known : id < network.clients.size
    · rw [client_setClient known] at closes
      cases prepared : (network.client id).prepare request with
      | error refusal =>
        rw [Client.interrupt, prepared] at given
        cases given
        exact .inl closes
      | ok frame =>
        rw [Client.interrupt, prepared] at given
        cases given
        exact .inr ⟨_, rfl, rfl⟩
    · rw [client_setClient_of_unknown (Nat.not_lt.mp known)] at closes
      exact .inl closes

end Network

theorem Hub.Consistent.grow {hub : Hub} {now : Nat} (consistent : hub.Consistent now)
    {network : Network} (grows : hub.network.Grows network) :
    Hub.Consistent now { hub with network } :=
  consistent.rewire grows.size grows.address

namespace FanOut
variable {α : Type}

namespace Stage

/-- Whether what a stage remembers belongs to an address. -/
def Tied (network : Network) (address : String) : Stage α → Prop
  | approach place | recheck place | connect place => place = address
  | query id => id < network.clients.size ∧ (network.client id).address = address
  | waiting | lookup | discard _ | finished _ => True

theorem Tied.of_grows {network next : Network} {address : String} {stage : Stage α}
    (tied : stage.Tied network address) (grows : network.Grows next) :
    stage.Tied next address := by
  cases stage with
  | query id => exact ⟨Nat.lt_of_lt_of_le tied.1 grows.size, (grows.address id tied.1).trans tied.2⟩
  | _ => exact tied

end Stage

/-- What every move keeps, moves keep. -/
theorem State.play_induction {question : Question α} {motive : State α → Prop}
    (step : ∀ {state next : State α} {move : Move}, motive state →
      state.move question move = some next → motive next)
    {state last : State α} {moves : List Move} (holds : motive state)
    (played : state.play question moves = some last) : motive last := by
  induction moves generalizing state with
  | nil =>
    cases played
    exact holds
  | cons move moves ih =>
    simp only [State.play, Option.bind_eq_bind, Option.bind_eq_some_iff] at played
    obtain ⟨next, moved, played⟩ := played
    exact ih (step holds moved) played

/-- Tasks keep their hosts. -/
theorem map_host_set {tasks : List (Task α)} {index : Nat} {task : Task α}
    (present : tasks[index]? = some task) (stage : Stage α) :
    (tasks.set index { task with stage }).map Task.host = tasks.map Task.host := by
  obtain ⟨bound, here⟩ := List.getElem?_eq_some_iff.mp present
  rw [List.map_set, ← here, ← List.getElem_map Task.host]
  exact List.set_getElem_self (by rwa [List.length_map])

/-- A step of a task whose host stands for an address, from a stage and a hub to the next. -/
inductive Advances (now : Nat) (address : String) (hub : Hub) :
    Stage α → Stage α × Hub → Prop where
  | begun : Advances now address hub .waiting (.lookup, hub)
  | missed (absent : hub.pool.usable? hub.network now address = none) :
    Advances now address hub .lookup (.approach address, hub.forget address)
  | passed : Advances now address hub (.approach address) (.recheck address, hub)
  | missedAgain (absent : hub.pool.usable? hub.network now address = none) :
    Advances now address hub (.recheck address) (.connect address, hub.forget address)
  | found {stage : Stage α} (looks : stage = .lookup ∨ stage = .recheck address) {id : ClientId}
    (usable : hub.pool.usable? hub.network now address = some id) :
    Advances now address hub stage (.query id, hub)
  | refused (fault : LinkFault) {network : Network} (same : network.clients = hub.network.clients) :
    Advances now address hub (.connect address)
      (.finished (.error (.connect address fault)), { hub with network })
  | connected (routed : hub.network.route (Network.gatewayName address) = .ok ()) :
    Advances now address hub (.connect address)
      (.query hub.network.clients.size, hub.adopt now address)
  | failed {id : ClientId} {error : GatewayError} {network : Network}
    (asked : hub.network.Asked id (some error) network) :
    Advances now address hub (.query id) (.discard error, { hub with network })
  | answered {id : ClientId} (value : Option α) {network : Network}
    (asked : hub.network.Asked id none network) :
    Advances now address hub (.query id) (.finished (.ok value), { hub with network })
  | forgotten {error : GatewayError} (fatal : error.isFatal = true) :
    Advances now address hub (.discard error) (.finished (.error error), hub.forget address)
  | kept {error : GatewayError} (harmless : error.isFatal = false) :
    Advances now address hub (.discard error) (.finished (.error error), hub)

variable {question : Question α} {now : Nat} {host address : String} {hub : Hub}
  {stage : Stage α} {next : Stage α × Hub}

theorem advances_of_advance (resolved : hub.pool.settings.resolve host = .ok address)
    (tied : stage.Tied hub.network address)
    (moved : stage.advance question now host hub = some next) :
    Advances now address hub stage next := by
  cases stage with
  | waiting =>
    cases moved
    exact .begun
  | lookup =>
    simp only [Stage.advance, resolved, Pool.live_eq] at moved
    cases usable : hub.pool.usable? hub.network now address with
    | none =>
      rw [usable] at moved
      cases moved
      exact .missed usable
    | some id =>
      rw [usable] at moved
      cases moved
      exact .found (.inl rfl) usable
  | approach place =>
    cases tied
    cases moved
    exact .passed
  | recheck place =>
    cases tied
    simp only [Stage.advance, Pool.live_eq] at moved
    cases usable : hub.pool.usable? hub.network now address with
    | none =>
      rw [usable] at moved
      cases moved
      exact .missedAgain usable
    | some id =>
      rw [usable] at moved
      cases moved
      exact .found (.inr rfl) usable
  | connect place =>
    cases tied
    cases routed : hub.network.route (Network.gatewayName address) with
    | error fault =>
      simp only [Stage.advance, Pool.connect_of_route_error routed] at moved
      cases moved
      exact .refused fault (Network.clients_connect_of_route_error routed)
    | ok _ =>
      simp only [Stage.advance, Pool.connect_of_route_ok routed] at moved
      cases moved
      exact .connected routed
  | query id =>
    obtain ⟨request, read, called⟩ := question.exists_request
    simp only [Stage.advance, called] at moved
    have asked : (hub.network.perform id request).1 ≠ .error .cancelled →
        hub.network.Asked id _ _ := Network.asked_perform
    cases given : (hub.network.perform id request).1 with
    | error failure =>
      cases failure with
      | cancelled =>
        rw [given] at moved
        contradiction
      | error error =>
        rw [given] at moved asked
        cases moved
        exact .failed (asked (by simp))
    | ok answer =>
      rw [given] at moved asked
      cases moved
      exact .answered _ (asked (by simp))
  | discard error =>
    simp only [Stage.advance, discardAfter_eq resolved, Option.some.injEq] at moved
    subst moved
    cases fatal : error.isFatal with
    | true => exact .forgotten fatal
    | false => exact .kept fatal
  | finished outcome => cases moved

/-- A connection that fails by itself ends a stage like any other that fails. -/
theorem advances_of_breakOff {reply : Reply} {fault : LinkFault}
    (tied : stage.Tied hub.network address)
    (moved : stage.breakOff question reply fault hub = some next) (now : Nat) :
    Advances now address hub stage next := by
  cases stage with
  | connect place =>
    cases tied
    cases moved
    exact .refused fault rfl
  | query id =>
    simp only [Stage.breakOff] at moved
    split at moved
    · rename_i error client given
      cases moved
      exact .failed (Network.asked_interrupt given)
    · contradiction
  | _ => contradiction

/-- Whatever a task does, the clients stay, and the task remembers what belongs to its address. -/
theorem Advances.tied (advances : Advances now address hub stage next)
    (consistent : hub.Consistent now) (tied : stage.Tied hub.network address) :
    hub.network.Grows next.2.network ∧ next.1.Tied next.2.network address := by
  cases advances with
  | begun => exact ⟨.refl _, trivial⟩
  | missed absent => exact ⟨.refl _, rfl⟩
  | passed => exact ⟨.refl _, rfl⟩
  | missedAgain absent => exact ⟨.refl _, rfl⟩
  | found looks usable =>
    obtain ⟨entry, present, rfl, _, _⟩ := Pool.usable?_eq_some_iff.mp usable
    exact ⟨.refl _, consistent.known entry (ExpiringCache.mem_of_find? present).1,
      consistent.client_address present⟩
  | refused fault same => exact ⟨.of_clients_eq same, trivial⟩
  | connected routed =>
    refine ⟨hub.network.grows_connect address, ?_, ?_⟩
    · show hub.network.clients.size < (hub.network.connect address).2.clients.size
      rw [Network.size_connect routed]
      exact Nat.lt_succ_self _
    · exact congrArg Client.address (Network.client_connect_self routed)
  | failed asked => exact ⟨asked.grows, trivial⟩
  | answered value asked => exact ⟨asked.grows, trivial⟩
  | forgotten fatal => exact ⟨.refl _, trivial⟩
  | kept harmless => exact ⟨.refl _, trivial⟩

theorem Advances.consistent (advances : Advances now address hub stage next)
    (consistent : hub.Consistent now) : next.2.Consistent now := by
  cases advances with
  | begun => exact consistent
  | missed absent => exact consistent.forget address
  | passed => exact consistent
  | missedAgain absent => exact consistent.forget address
  | found looks usable => exact consistent
  | refused fault same => exact consistent.grow (.of_clients_eq same)
  | connected routed => exact consistent.adopt routed
  | failed asked => exact consistent.grow asked.grows
  | answered value asked => exact consistent.grow asked.grows
  | forgotten fatal => exact consistent.forget address
  | kept harmless => exact consistent

theorem Advances.settings (advances : Advances now address hub stage next) :
    next.2.pool.settings = hub.pool.settings := by
  cases advances <;> rfl

/-- The pool gains no address but the task's own. -/
theorem Advances.keys (advances : Advances now address hub stage next)
    {entry : ExpiringCache.Entry String ClientId} (stored : entry ∈ next.2.pool.clients.entries) :
    entry ∈ hub.pool.clients.entries ∨ entry.key = address := by
  cases advances with
  | missed absent => exact .inl (ExpiringCache.mem_erase.mp stored).1
  | missedAgain absent => exact .inl (ExpiringCache.mem_erase.mp stored).1
  | forgotten fatal => exact .inl (ExpiringCache.mem_erase.mp stored).1
  | connected routed =>
    rcases ExpiringCache.mem_of_mem_insert stored with ⟨former, _⟩ | rfl
    · exact .inl former
    · exact .inr rfl
  | _ => exact .inl stored

end FanOut
end FileGateway
