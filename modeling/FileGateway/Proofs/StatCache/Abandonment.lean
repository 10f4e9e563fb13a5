import FileGateway.Proofs.Client.Admission
import FileGateway.Proofs.Network.Answered
import FileGateway.Proofs.StatCache.Calls

/-! A mutation forgets its paths when its call comes to an end. A call that is given up after its
request was written does not come to an end, though the gateway may have carried it out: what
was stored for its paths is then given until it expires. -/
namespace FileGateway

/-- The request that a mutation makes. -/
def Mutation.request : Mutation → Request
  | delete path => .delete path
  | rename source target => .rename source target
  | truncate path length => .truncateFile path length

namespace StatCache

/-- A call of `stat` writes a request for the metadata and gives what comes of it. -/
structure Asks (cache : StatCache) (network : Network) (now : Nat) (id : ClientId)
    (path : String) : Prop where
  written : ∃ frame, (network.client id).prepare (.getStat path) = .ok frame
  outcome : (cache.stat network now id path).1 = (network.perform id (.getStat path)).1
  effect : (cache.stat network now id path).2.2 = (network.perform id (.getStat path)).2

variable {cache : StatCache} {network : Network} {now : Nat} {id : ClientId} {path : String}
  {found : FileStat} {mutation : Mutation}

theorem not_asks_of_cached (held : (cache.cached now path).1 = some found) :
    ¬ cache.Asks network now id path := by
  intro asks
  have given := stat_of_cached held network id
  have answered := asks.outcome.symm.trans (congrArg Prod.fst given)
  have quiet := asks.effect.symm.trans (congrArg (fun result => result.2.2) given)
  exact Network.perform_ne answered quiet

theorem asks_of_not_cached {frame : ByteArray}
    (prepared : (network.client id).prepare (.getStat path) = .ok frame)
    (missed : (cache.cached now path).1 = none) : cache.Asks network now id path := by
  have asked := stat_of_not_cached missed network id
  obtain ⟨outcome, effect⟩ := (cache.cached now path).2.fetch_performs network now id path
  exact ⟨⟨frame, prepared⟩, asked ▸ outcome, asked ▸ effect⟩

theorem cached_foldl_invalidate {paths : List String} (named : path ∈ paths) (now : Nat) :
    ((paths.foldl invalidate cache).cached now path).1 = none := by
  have absent : (paths.foldl invalidate cache).stats.find? path = none := by
    rw [ExpiringCache.find?_eq_none_iff]
    rintro entry stored rfl
    exact (mem_foldl_invalidate.mp stored).2 named
  exact cached_of_find?_eq_none absent now

/-- However its call ends, the request of a mutation that was written has come to the gateway. -/
theorem history_mutate (cache : StatCache) (mutation : Mutation) {frame : ByteArray}
    (sent : (network.client id).prepare mutation.request = .ok frame)
    (reached : (network.client id).stream.ended = false) :
    (cache.mutate network id mutation).2.2.history = network.history ++
      [.request (Network.gatewayName (network.client id).address) frame] := by
  have performed : (mutation.perform network id).2 = (network.perform id mutation.request).2 := by
    cases mutation <;> rfl
  rw [← Network.history_perform sent reached, ← performed]
  rcases cache.mutate_cases network id mutation with ⟨_, given⟩ | ⟨_, given⟩
  · rw [given]
  · rw [given]

/-- A path that a written mutation names is short enough to be asked for. -/
theorem admits_getStat {writer reader : Client} {frame : ByteArray}
    (named : path ∈ mutation.paths) (sent : writer.prepare mutation.request = .ok frame)
    (opened : reader.closed = false) : reader.Admits (.getStat path) := by
  have member : Field.ofText path ∈ mutation.request.fields := by
    cases mutation with
    | delete target =>
      rw [List.mem_singleton.mp named]
      exact List.mem_cons_self
    | rename source target =>
      simp only [Mutation.paths, List.mem_cons, List.not_mem_nil, or_false] at named
      rcases named with rfl | rfl
      · exact List.mem_cons_self
      · exact List.mem_cons_of_mem _ List.mem_cons_self
    | truncate target length =>
      rw [List.mem_singleton.mp named]
      exact List.mem_cons_self
  exact ⟨opened, trivial, Nat.le_trans (Frame.size_le_payloadSize member)
    (Client.prepare_eq_ok_iff.mp sent).1.fits⟩

/-- Once a mutation of a path was written, the next call of `stat` for it asks if the mutation came
to an end. If it was given up, the call asks only if what was stored before has expired. -/
theorem asks_after_mutate_iff (cache : StatCache) (network elsewhere : Network)
    (id reader : ClientId) (mutation : Mutation) (path : String) (later : Nat)
    (named : path ∈ mutation.paths)
    (sent : ∃ frame, (network.client id).prepare mutation.request = .ok frame)
    (opened : (elsewhere.client reader).closed = false) :
    let mutated := cache.mutate network id mutation
    mutated.2.1.Asks elsewhere later reader path ↔
      mutated.1 ≠ .error .cancelled ∨ (cache.cached later path).1 = none := by
  obtain ⟨frame, sent⟩ := sent
  obtain ⟨asking, prepared⟩ := (admits_getStat named sent opened).exists_prepare
  rcases cache.mutate_cases network id mutation with ⟨cancelled, given⟩ | ⟨ended, given⟩
  · simp only [given, cancelled, ne_eq, not_true_eq_false, false_or]
    refine ⟨fun asks => ?_, asks_of_not_cached prepared⟩
    cases held : (cache.cached later path).1 with
    | none => rfl
    | some found => exact absurd asks (not_asks_of_cached held)
  · simp only [given]
    exact iff_of_true (asks_of_not_cached prepared (cached_foldl_invalidate named later))
      (.inl ended)

/-- The gateway ends the stream instead of an answer to a rename, and a client that is connected
next asks for the target. -/
theorem asks_after_mutate_iff_lost :
    let stat : FileStat := ⟨0, 0, 0, 0, 0, 0, 0, 0, 0, 0, 0, 0⟩
    let cache : StatCache := ⟨.insert (.ofLimits 2 10) 0 "/b" stat⟩
    let network : Network :=
      { gateways := [("gw:9090", { replies := [] })], clients := #[{ address := "gw:9090" }] }
    let mutated := cache.mutate network 0 (.rename "/a" "/b")
    let connected := mutated.2.2.connect "gw:9090"
    mutated.1 = .error (.error (.io "gw:9090" .endOfStream)) ∧
      mutated.2.1.Asks connected.2 5 1 "/b" := by
  intro stat cache network mutated connected
  have lost : mutated.1 = .error (.error (.io "gw:9090" .endOfStream)) := by decide +kernel
  have opened : (connected.2.client 1).closed = false := by decide +kernel
  have ended : mutated.1 ≠ .error .cancelled := by
    rw [lost]
    nofun
  have same : mutated = cache.mutate network 0 (.rename "/a" "/b") := rfl
  rw [same] at lost ended ⊢
  exact ⟨lost, (asks_after_mutate_iff cache network connected.2 0 1 (.rename "/a" "/b") "/b" 5
    (by decide) ⟨_, rfl⟩ opened).mpr (.inl ended)⟩

/-- A deletion is given up after the gateway has received it. A second client is then given what
was stored before, and the gateway is not asked. -/
theorem stat_after_abandoned_delete :
    let stat : FileStat := ⟨0, 0, 0, 0, 0, 0, 0, 0, 0, 0, 0, 0⟩
    let cache : StatCache := ⟨.insert (.ofLimits 2 10) 0 "/a" stat⟩
    let gateways : List (String × Gateway) := [("gw:9090", { replies := [.stall] })]
    let network : Network :=
      { gateways, clients := #[{ address := "gw:9090" }, { address := "gw:9090" }] }
    let mutated := cache.mutate network 0 (.delete "/a")
    (∃ frame, mutated.2.2.history = [.request "gw:9090" frame]) ∧
      mutated.1 = .error .cancelled ∧ (mutated.2.2.client 1).closed = false ∧
      (mutated.2.1.stat mutated.2.2 5 1 "/a").1 = .ok stat ∧
      ¬ mutated.2.1.Asks mutated.2.2 5 1 "/a" := by
  intro stat cache gateways network mutated
  have held : (mutated.2.1.cached 5 "/a").1 = some stat := by decide +kernel
  have name : Network.gatewayName "gw:9090" = "gw:9090" := by decide +kernel
  have address : (network.client 0).address = "gw:9090" := rfl
  have same : mutated = cache.mutate network 0 (.delete "/a") := rfl
  obtain ⟨frame, sent⟩ : ∃ frame, (network.client 0).prepare (.delete "/a") = .ok frame :=
    ⟨_, rfl⟩
  have received := cache.history_mutate (.delete "/a") sent rfl
  rw [← same, address, name] at received
  exact ⟨⟨frame, received⟩, by decide +kernel, by decide +kernel, congrArg Prod.fst (stat_of_cached held _ 1),
    not_asks_of_cached held⟩

end StatCache
end FileGateway
