import FileGateway.Proofs.ExpiringCache.Compaction
import FileGateway.Proofs.Network.Answered
import FileGateway.Proofs.Origin
import FileGateway.Proofs.StatCache.Calls

/-! Metadata that is given without asking a gateway is what the last successful request for it was
answered with. The answer is younger than a lifetime, and since it came the path was not
invalidated and no mutation of it has come to an end. -/
namespace FileGateway

/-- A client asks for the metadata of a path. The octets that it has by then begin with a response
whose one field is the writing of `found`. -/
structure Network.Tells (network : Network) (id : ClientId) (path : String) (found : FileStat) :
    Prop where
  asked : ∃ frame, (network.client id).prepare (.getStat path) = .ok frame
  answered : ∃ response rest returnCode field,
    (network.client id).stream.pending ++ (network.client id).stream.arriving
        (network.nextReply (gatewayName (network.client id).address)) = response ++ rest ∧
      Frame.encodeResponse .getStat returnCode [field] = .ok response ∧ 0 ≤ returnCode ∧
      FileStat.decode field = .ok found

theorem Network.tells_of_perform {network : Network} {id : ClientId} {path : String}
    {found : FileStat} (given : (network.perform id (.getStat path)).1 = .ok found) :
    network.Tells id path found := by
  have performed := congrArg Prod.fst (network.perform_client id (.getStat path))
  have answered := performed.symm.trans given
  obtain ⟨response, returnCode, fields, arrived, written, gives⟩ :=
    Client.exists_response_of_answered answered
  have success : 0 ≤ returnCode := by
    by_contra negative
    have unforgiven : ¬ Request.Forgives (.getStat path) returnCode := fun forgiven =>
      nomatch forgiven.1
    have refused := gives.failure (Int32.not_le.mp negative) unforgiven
    contradiction
  obtain ⟨field, rfl, decoded⟩ := gives.answer success found rfl
  exact ⟨Client.exists_prepare_of_answered answered,
    response, _, returnCode, field, arrived, written, success, decoded⟩

namespace StatCache

/-- An event is a successful request for the metadata of a path, and gave `found`. -/
inductive Timed.Learns (state : Timed) (id : ClientId) (path : String) (found : FileStat) :
    Event → Prop where
  | stat (absent : (state.cache.cached state.now path).1 = none)
    (told : (state.network.perform id (.getStat path)).1 = .ok found) :
    Learns state id path found (.stat id path)
  | fetch (told : (state.network.perform id (.getStat path)).1 = .ok found) :
    Learns state id path found (.fetch id path)

/-- After an event nothing that was known of a path before it may be given without asking. -/
inductive Timed.Supersedes (state : Timed) (path : String) : Event → Prop where
  | learnt {id : ClientId} {found : FileStat} {event : Event}
    (learns : state.Learns id path found event) : Supersedes state path event
  | invalidated : Supersedes state path (.invalidate path)
  /-- A mutation of the path has succeeded or failed. -/
  | mutated {id : ClientId} {mutation : Mutation} (named : path ∈ mutation.paths)
    (ended : (mutation.perform state.network id).1 ≠ .error .cancelled) :
    Supersedes state path (.mutate id mutation)

/-- The metadata of a path is given without asking a gateway. -/
def Timed.ServesUnasked (state : Timed) (path : String) (found : FileStat) : Prop :=
  (state.cache.cached state.now path).1 = some found ∨
    ∃ id, (state.cache.stat state.network state.now id path).1 = .ok found ∧
      (state.cache.stat state.network state.now id path).2.2 = state.network

/-- The last successful request for a path gave `found`, less than a lifetime ago, and nothing
that was done since makes it out of date. -/
def IsCurrent (initial : Timed) (lifetime : Nat) (events : List Event) (path : String)
    (found : FileStat) : Prop :=
  ∃ before event after id, events = before ++ event :: after ∧
    (run initial before).Learns id path found event ∧
    (run initial before).network.Tells id path found ∧
    (lifetime = 0 ∨ (run initial events).now - (run initial before).now < lifetime) ∧
    Throughout step (fun state event => ¬ state.Supersedes path event)
      (step (run initial before) event) after

variable {path : String} {found : FileStat} {state : Timed}
  {entry : ExpiringCache.Entry String FileStat}

/-- An entry that is stored after an event was stored before it and is not superseded, or the event
is the request that it comes from. -/
theorem mem_of_mem_step {event : Event}
    (stored : entry ∈ (step state event).cache.stats.entries) :
    entry ∈ state.cache.stats.entries ∧ ¬ state.Supersedes entry.key event ∨
      ∃ id, state.Learns id entry.key entry.value event ∧ entry.inserted = state.now := by
  cases event with
  | stat id path =>
    rcases mem_of_mem_stat stored with ⟨former, untold⟩ | ⟨absent, rfl, told, instant⟩
    · refine .inl ⟨former, fun superseded => ?_⟩
      cases superseded with
      | learnt learns =>
        cases learns with
        | stat absent told => exact untold absent rfl _ told
    · exact .inr ⟨id, .stat absent told, instant⟩
  | cached path => exact .inl ⟨mem_of_mem_cached stored, fun superseded => nomatch superseded⟩
  | fetch id path =>
    rcases mem_of_mem_fetch stored with ⟨former, untold⟩ | ⟨rfl, told, instant⟩
    · refine .inl ⟨former, fun superseded => ?_⟩
      cases superseded with
      | learnt learns =>
        cases learns with
        | fetch told => exact untold rfl _ told
    · exact .inr ⟨id, .fetch told, instant⟩
  | invalidate path =>
    obtain ⟨former, other⟩ := ExpiringCache.mem_erase.mp stored
    refine .inl ⟨former, fun superseded => ?_⟩
    cases superseded with
    | learnt learns => contradiction
    | invalidated => exact other rfl
  | mutate id mutation =>
    obtain ⟨former, cancelled⟩ := mem_of_mem_mutate stored
    refine .inl ⟨former, fun superseded => ?_⟩
    cases superseded with
    | learnt learns => contradiction
    | mutated named ended => exact ended (cancelled named)
  | size =>
    exact .inl ⟨(ExpiringCache.mem_compact.mp stored).1, fun superseded => nomatch superseded⟩
  | advance duration => exact .inl ⟨stored, fun superseded => nomatch superseded⟩
  | outside network => exact .inl ⟨stored, fun superseded => nomatch superseded⟩

theorem lifetime_step (state : Timed) (event : Event) :
    (step state event).cache.stats.lifetime = state.cache.stats.lifetime := by
  cases event with
  | stat id path => exact lifetime_stat ..
  | cached path => exact lifetime_cached ..
  | fetch id path => exact lifetime_fetch ..
  | mutate id mutation => exact lifetime_mutate ..
  | _ => rfl

theorem lifetime_run (state : Timed) (events : List Event) :
    (run state events).cache.stats.lifetime = state.cache.stats.lifetime := by
  induction events generalizing state with
  | nil => rfl
  | cons event rest ih => exact (ih _).trans (lifetime_step state event)

/-- What is given without asking is stored and has not expired. -/
theorem exists_entry_of_servesUnasked (served : state.ServesUnasked path found) :
    ∃ instant, ⟨path, found, instant⟩ ∈ state.cache.stats.entries ∧
      state.cache.stats.isStale state.now ⟨path, found, instant⟩ = false := by
  apply ExpiringCache.exists_fresh_of_get
  rcases served with looked | ⟨id, given, quiet⟩
  · exact looked
  · change (state.cache.cached state.now path).1 = some found
    cases held : (state.cache.cached state.now path).1 with
    | some other =>
      rw [stat_of_cached held] at given
      cases given
      rfl
    | none =>
      -- The request that gave the answer would have left its mark on the network.
      rw [stat_of_not_cached held] at given quiet
      obtain ⟨outcome, effect⟩ := fetch_performs _ state.network state.now id path
      exact absurd (effect.symm.trans quiet) (Network.perform_ne (outcome.symm.trans given))

/-- What is stored comes from a request of the run, at the time that it is stored with, and was
not superseded since. -/
theorem exists_learns_of_mem {initial : Timed} {events : List Event}
    (absent : entry ∉ initial.cache.stats.entries)
    (stored : entry ∈ (run initial events).cache.stats.entries) :
    ∃ before event after id, events = before ++ event :: after ∧
      (run initial before).Learns id entry.key entry.value event ∧
      entry.inserted = (run initial before).now ∧
      Throughout step (fun state event => ¬ state.Supersedes entry.key event)
        (step (run initial before) event) after := by
  have origin : Originates step
      (fun state event => ∃ id, state.Learns id entry.key entry.value event ∧
        entry.inserted = state.now)
      (fun state event => state.Supersedes entry.key event) initial events :=
    originates_of_held (fun _ => True) (fun state => entry ∈ state.cache.stats.entries)
      (fun _ _ _ => trivial) (fun _ _ _ => mem_of_mem_step) trivial absent stored
  obtain ⟨before, event, after, split, ⟨id, learns, instant⟩, untouched⟩ := origin
  exact ⟨before, event, after, id, split, learns, instant, untouched⟩

theorem Timed.Learns.told {id : ClientId} {event : Event}
    (learns : state.Learns id path found event) :
    (state.network.perform id (.getStat path)).1 = .ok found := by
  cases learns with
  | stat absent told => exact told
  | fetch told => exact told

theorem isCurrent_of_servesUnasked (settings : Settings) (start : Nat) (network : Network)
    (events : List Event)
    (served : (run ⟨start, .ofSettings settings, network⟩ events).ServesUnasked path found) :
    IsCurrent ⟨start, .ofSettings settings, network⟩ settings.metadataCache.lifetime events path
      found := by
  obtain ⟨instant, stored, fresh⟩ := exists_entry_of_servesUnasked served
  obtain ⟨before, event, after, id, split, learns, rfl, untouched⟩ :=
    exists_learns_of_mem List.not_mem_nil stored
  have young := (ExpiringCache.isStale_ofLimits_iff (lifetime_run _ events)).mp fresh
  exact ⟨before, event, after, id, split, learns, Network.tells_of_perform learns.told, young,
    untouched⟩

/-- Metadata that is given without asking is current, whatever was done before by any clients. A
call of `stat` that fails, at once or at its end, stores nothing, and a mutation leaves alone
what is stored for the paths that it does not name. -/
theorem run_coherent (settings : Settings) (start : Nat) (network : Network)
    (events : List Event) (path : String) :
    let initial : Timed := ⟨start, .ofSettings settings, network⟩
    let reached := run initial events
    (∀ found, reached.ServesUnasked path found →
      IsCurrent initial settings.metadataCache.lifetime events path found) ∧
    (∀ id failure,
      (reached.cache.stat reached.network reached.now id path).1 = .error failure →
      (reached.cache.stat reached.network reached.now id path).2.1.stats.find? path = none) ∧
    (∀ id failure,
      (reached.cache.fetch reached.network reached.now id path).1 = .error failure →
      (reached.cache.fetch reached.network reached.now id path).2.1 = reached.cache) ∧
    ∀ id (mutation : Mutation), path ∉ mutation.paths →
      (reached.cache.mutate reached.network id mutation).2.1.stats.find? path =
        reached.cache.stats.find? path := by
  intro initial reached
  refine ⟨fun found => isCurrent_of_servesUnasked settings start network events,
    fun id failure => find?_stat_of_error, fun id failure => fetch_of_error,
    fun id mutation => find?_mutate_of_not_mem reached.cache reached.network id⟩

/-- A stat that was asked for is given again after the deletion of another path has failed, until
its time runs out. -/
theorem run_coherent_other_path :
    let stat : FileStat := ⟨0, 0, 0, 0, 0, 0, 0, 0, 0, 0, 0, 0⟩
    let reply : Reply := .send ⟨#[0, 0, 0, 0, 0, 0, 0, 0, 0, 0, 0, 84, 0, 0, 0, 1, 0, 0, 0, 80] ++
      Array.replicate 80 0⟩
    let gateways : List (String × Gateway) := [("gw:9090", { replies := [reply] })]
    let initial : Timed := ⟨0, .ofSettings { metadataCache := ⟨2, 10⟩ },
      { gateways, clients := #[{ address := "gw:9090" }] }⟩
    let events : List Event := [.stat 0 "/a", .mutate 0 (.delete "/b"), .advance 9]
    (run initial events).ServesUnasked "/a" stat ∧ IsCurrent initial 10 events "/a" stat := by
  intro stat reply gateways initial events
  have served : (run initial events).ServesUnasked "/a" stat := .inl (by decide +kernel)
  exact ⟨served, (run_coherent _ _ _ _ _).1 _ served⟩

end StatCache
end FileGateway
