import FileGateway.Monitor.Lookup
import FileGateway.Proofs.Hub.Advance
import FileGateway.Proofs.Hub.Sending
import FileGateway.Proofs.StatCache.Calls

/-! All that one step of a lookup can do. To the hub it does what a task of a fan-out does, and it
looks into the cache of metadata before it asks. -/
namespace FileGateway

namespace Lookup

namespace Stage

/-- Where the task of a fan-out stands that has come as far. -/
def task : Stage → FanOut.Stage FileStat
  | lookup => .lookup
  | approach address => .approach address
  | recheck address => .recheck address
  | connect address => .connect address
  | consult id | query id => .query id
  | discard error => .discard error
  | failed error => .finished (.error error)
  | found stat => .finished (.ok (some stat))

/-- How many steps a lookup has taken at most for the host that it visits. -/
def depth : Stage → Nat
  | lookup => 0
  | approach _ => 1
  | recheck _ => 2
  | connect _ => 3
  | consult _ => 4
  | query _ => 5
  | discard _ => 6
  | failed _ | found _ => 7

theorem depth_le (stage : Stage) : stage.depth ≤ 7 := by cases stage <;> simp [depth]

end Stage

/-- What one step at the host of an address does. -/
structure Effect (now : Nat) (path address : String) (stats : StatCache) (hub : Hub)
    (stage : Stage) (next : Stage × StatCache × Hub) : Prop where
  advances : next.2.2 = hub ∧ next.1.task = stage.task ∨
    FanOut.Advances now address hub stage.task (next.1.task, next.2.2)
  deeper : stage.depth < next.1.depth
  turns : ∀ event, stage.sends? path hub = some event → stage.task.turn < next.1.task.turn
  hears : hub.network.Hears (stage.sends? path hub).toList next.2.2.network
  missed : ∀ id, next.1 = .query id →
    (stats.cached now path).1 = none ∧ next.2.1.stats.find? path = none
  kept : next.2.1 = stats ∨ (stats.cached now path).1 = none ∨ ∃ id, stage = .query id

variable {now : Nat} {path host address : String} {stats : StatCache} {hub hub' : Hub}
  {stage stage' : Stage} {next : Stage × StatCache × Hub}

/-- A step that sends nothing and leaves the metadata alone. -/
theorem effect_of_quiet {network : Network} {pool : Pool}
    (advances : FanOut.Advances now address hub stage.task (stage'.task, ⟨pool, network⟩))
    (deeper : stage.depth < stage'.depth) (silent : stage.sends? path hub = none)
    (same : network.history = hub.network.history) (unasked : ∀ id, stage' ≠ .query id) :
    Effect now path address stats hub stage (stage', stats, ⟨pool, network⟩) where
  advances := .inr advances
  deeper := deeper
  turns _ sends := absurd (silent.symm.trans sends) nofun
  hears := Network.hears_of_history_eq same _
  missed id asks := absurd asks (unasked id)
  kept := .inl rfl

/-- A step that may send something. -/
theorem effect_of_sending {stats' : StatCache} {network : Network} {pool : Pool}
    (advances : FanOut.Advances now address hub stage.task (stage'.task, ⟨pool, network⟩))
    (deeper : stage.depth < stage'.depth) (turns : stage.task.turn < stage'.task.turn)
    (hears : hub.network.Hears (stage.sends? path hub).toList network)
    (unasked : ∀ id, stage' ≠ .query id) (kept : stats' = stats ∨ ∃ id, stage = .query id) :
    Effect now path address stats hub stage (stage', stats', ⟨pool, network⟩) where
  advances := .inr advances
  deeper := deeper
  turns _ _ := turns
  hears := hears
  missed id asks := absurd asks (unasked id)
  kept := kept.imp_right .inr

theorem effect_of_advance (resolved : hub.pool.settings.resolve host = .ok address)
    (tied : stage.task.Tied hub.network address)
    (moved : stage.advance now path host stats hub = some next) :
    Effect now path address stats hub stage next := by
  cases stage with
  | lookup =>
    simp only [Stage.advance, resolved, Pool.live_eq] at moved
    cases usable : hub.pool.usable? hub.network now address with
    | none =>
      rw [usable] at moved
      cases moved
      exact effect_of_quiet (.missed usable) (by simp [Stage.depth]) rfl rfl (by simp)
    | some id =>
      rw [usable] at moved
      cases moved
      exact effect_of_quiet (.found (.inl rfl) usable) (by simp [Stage.depth]) rfl rfl (by simp)
  | approach place =>
    cases tied
    cases moved
    exact effect_of_quiet .passed (by simp [Stage.depth]) rfl rfl (by simp)
  | recheck place =>
    cases tied
    simp only [Stage.advance, Pool.live_eq] at moved
    cases usable : hub.pool.usable? hub.network now address with
    | none =>
      rw [usable] at moved
      cases moved
      exact effect_of_quiet (.missedAgain usable) (by simp [Stage.depth]) rfl rfl (by simp)
    | some id =>
      rw [usable] at moved
      cases moved
      exact effect_of_quiet (.found (.inr rfl) usable) (by simp [Stage.depth]) rfl rfl (by simp)
  | connect place =>
    cases tied
    cases routed : hub.network.route (Network.gatewayName address) with
    | error fault =>
      simp only [Stage.advance, Pool.connect_of_route_error routed] at moved
      cases moved
      have same := Network.clients_connect_of_route_error routed
      exact effect_of_sending (.refused fault same) (by simp [Stage.depth])
        (by simp [Stage.task, FanOut.Stage.turn]) (hub.network.hears_connect address)
        (by simp) (.inl rfl)
    | ok _ =>
      simp only [Stage.advance, Pool.connect_of_route_ok routed] at moved
      cases moved
      exact effect_of_sending (.connected routed) (by simp [Stage.depth])
        (by simp [Stage.task, FanOut.Stage.turn]) (hub.network.hears_connect address)
        (by simp) (.inl rfl)
  | consult id =>
    simp only [Stage.advance] at moved
    cases held : (stats.cached now path).1 with
    | some stat =>
      have same := StatCache.cached_snd_of_some held
      generalize stats.cached now path = looked at held same moved
      obtain ⟨known, left⟩ := looked
      cases held
      cases same
      cases moved
      exact effect_of_quiet (.answered (some stat) (.refl _ id)) (by simp [Stage.depth]) rfl rfl
        (by simp)
    | none =>
      have absent := StatCache.find?_cached_of_none held
      have missed := held
      generalize stats.cached now path = looked at held absent moved
      obtain ⟨known, left⟩ := looked
      cases held
      cases moved
      exact {
        advances := .inl ⟨rfl, rfl⟩
        deeper := by simp [Stage.depth]
        turns := by simp [Stage.sends?]
        hears := Network.hears_of_history_eq rfl _
        missed := fun _ _ => ⟨missed, absent⟩
        kept := .inr (.inl missed) }
  | query id =>
    have asked : (hub.network.perform id (.getStat path)).1 ≠ .error .cancelled →
        hub.network.Asked id _ _ := Network.asked_perform
    simp only [Stage.advance] at moved
    have hears := hub.network.hears_perform id (.getStat path)
    rcases stats.fetch_cases hub.network now id path with
      ⟨stat, told, given⟩ | ⟨failure, told, given⟩
    · rw [given] at moved
      rw [told] at asked
      cases moved
      exact effect_of_sending (.answered (some stat) (asked (by simp))) (by simp [Stage.depth])
        (by simp [Stage.task, FanOut.Stage.turn]) hears (by simp)
        (.inr ⟨id, rfl⟩)
    · rw [given] at moved
      rw [told] at asked
      cases failure with
      | cancelled => contradiction
      | error error =>
        cases moved
        exact effect_of_sending (.failed (asked (by simp))) (by simp [Stage.depth])
          (by simp [Stage.task, FanOut.Stage.turn]) hears (by simp) (.inl rfl)
  | discard error =>
    simp only [Stage.advance, FanOut.discardAfter_eq resolved, Option.some.injEq] at moved
    subst moved
    cases fatal : error.isFatal with
    | true => exact effect_of_quiet (.forgotten fatal) (by simp [Stage.depth]) rfl rfl (by simp)
    | false => exact effect_of_quiet (.kept fatal) (by simp [Stage.depth]) rfl rfl (by simp)
  | failed error => cases moved
  | found stat => cases moved

/-- A connection that fails by itself ends a visit like any other failure. -/
theorem effect_of_breakOff {reply : Reply} {fault : LinkFault}
    (tied : stage.task.Tied hub.network address)
    (moved : stage.breakOff path reply fault hub = some (stage', hub')) (now : Nat)
    (stats : StatCache) : Effect now path address stats hub stage (stage', stats, hub') := by
  cases stage with
  | connect place =>
    cases tied
    cases moved
    refine effect_of_sending (.refused fault rfl) (by simp [Stage.depth])
      (by simp [Stage.task, FanOut.Stage.turn]) ⟨_, List.Sublist.refl _, rfl⟩ (by simp)
      (.inl rfl)
  | query id =>
    simp only [Stage.breakOff] at moved
    split at moved
    · rename_i error client given
      cases moved
      exact effect_of_sending (.failed (Network.asked_interrupt given)) (by simp [Stage.depth])
        (by simp [Stage.task, FanOut.Stage.turn]) (Network.hears_of_history_eq rfl _)
        (by simp) (.inl rfl)
    · contradiction
  | _ => contradiction

end Lookup
end FileGateway
