import FileGateway.Proofs.Monitor.Healing
import FileGateway.Proofs.Monitor.Locations
import FileGateway.Proofs.Monitor.Lookup.Reach
import FileGateway.Proofs.Monitor.Lookup.Traffic

/-! Which hosts a lookup of a file's length touches, and how often, and which of them are asked for
the blocks of a range afterwards. -/
namespace FileGateway

theorem FileStat.toNat_length (stat : FileStat) : stat.length.toNat = stat.size.toInt.toNat := by
  have word : stat.size.toInt = stat.size.toUInt64.toBitVec.toInt := rfl
  have octets : stat.size.toUInt64.toNat = stat.size.toUInt64.toBitVec.toNat := rfl
  rw [length]
  split
  · rename_i negative
    rw [Int64.lt_iff_toInt_lt, Int64.toInt_zero] at negative
    rw [Int.toNat_of_nonpos (Int.le_of_lt negative)]
    rfl
  · rename_i positive
    rw [Int64.lt_iff_toInt_lt, Int64.toInt_zero] at positive
    rw [word, BitVec.toInt_eq_toNat_cond] at positive ⊢
    have bound := stat.size.toUInt64.toBitVec.isLt
    split at positive <;> omega

namespace Lookup

/-- The fan-out by which the blocks of a range are asked for after a lookup has ended. There is none
if nothing is left of the range. -/
def State.fanOut? (state : State) (hosts : List String) (start length : UInt64) :
    Option (FanOut.State Bitmap) :=
  match state.result? with
  | none => none
  | some known =>
    if (Monitor.outline state.hub.pool.settings start length known).isEmpty then none
    else some (.start state.hub state.now hosts)

/-- What holds of a lookup at any time, of where it stands and of what it has sent. -/
structure Orderly (hosts : List String) (origin : Hub) (stats : StatCache) (path : String)
    (state : State) (sent : List Sending) : Prop where
  /-- The hosts that failed are the first of the list, and the one after them is visited. -/
  visiting : state.hosts = hosts.drop state.failures.length ∧ state.failures.length ≤ hosts.length
  /-- Things are sent in the order of the list, and none for a host that was not visited. -/
  inOrder : (sent.map Sending.place).Pairwise (· ≤ ·) ∧
    ∀ sending ∈ sent, sending.place ≤ state.failures.length
  attempts : ∀ place, sent.countP (·.isAttemptAt place) ≤ 1
  requests : ∀ place, sent.countP (·.isRequestAt place) ≤ 1
  addressed : ∀ sending ∈ sent, Addressed origin.pool.settings hosts path sending
  heard : origin.network.Hears (sent.map Sending.event) state.hub.network
  /-- Whoever failed fatally has no client left, unless its address was visited again. -/
  forgotten : ∀ (index : Nat) error, state.failures[index]? = some error → error.isFatal = true →
    ∀ host address, hosts[index]? = some host →
      origin.pool.settings.resolve host = .ok address →
      LastOf origin.pool.settings hosts state.failures.length index address →
        state.hub.pool.clients.find? address = none
  /-- Whoever is asked at an instant, the metadata is not in the cache then. -/
  uncached : ∀ move sending, state.sends? move = some sending → sending.event.isRequest = true →
    (state.stats.cached state.now path).1 = none
  /-- As long as what was in the cache has not expired, nobody has been asked. -/
  unasked : (stats.cached state.now path).1.isSome = true →
    ∀ sending ∈ sent, sending.event.isRequest = false

/-- How a lookup ends: by the metadata that it finds, or because every host has failed. -/
structure Ends (hosts : List String) (state : State) : Prop where
  found : ∀ size, state.result? = some (some size) ↔
    ∃ stat, state.stage = .found stat ∧ size.toNat = stat.size.toInt.toNat
  failed : state.result? = some none ↔ state.failures.length = hosts.length
  /-- Then nothing more is done. -/
  rests : ∀ known, state.result? = some known → ∀ move : Move, move.isOwn = true →
    state.move move = none
  /-- Until then there is another step, unless a gateway does not answer. -/
  goesOn : state.result? = none → (∃ next, state.move .step = some next) ∨ state.IsStalled

variable {hosts : List String} {path : String} {state : State}

theorem ends_of_placed {settings : Settings} (placed : Placed settings hosts path state) :
    Ends hosts state where
  found := by
    intro size
    have idle := placed.idle
    obtain ⟨hub, stats, now, path, hosts, failures, stage⟩ := state
    cases hosts with
    | nil =>
      rw [idle rfl]
      exact iff_of_false nofun nofun
    | cons host rest =>
      cases stage with
      | found stat =>
        simp only [State.result?, Option.some.injEq, Stage.found.injEq, exists_eq_left',
          ← stat.toNat_length, UInt64.toNat_inj, eq_comm]
      | _ => exact iff_of_false nofun nofun
  failed := by
    have dropped := congrArg List.length placed.visiting
    have within := placed.within
    rw [List.length_drop] at dropped
    rw [State.result?]
    split
    · rename_i ended
      rw [ended, List.length_nil] at dropped
      exact iff_of_true rfl (by omega)
    · rename_i here _
      rw [here, List.length_cons] at dropped
      exact iff_of_false nofun (by omega)
    · rename_i here _
      rw [here, List.length_cons] at dropped
      exact iff_of_false nofun (by omega)
  rests known ended move own := move_of_result? ended placed own
  goesOn := exists_step

theorem orderly_play {monitor : Monitor} {hub : Hub} {now : Nat}
    (resolves : ∀ host ∈ monitor.hosts, ∃ address, hub.pool.settings.resolve host = .ok address)
    (consistent : hub.Consistent now) {moves : List Move}
    (played : (State.start monitor hub now path).play moves = some state) :
    Placed hub.pool.settings monitor.hosts path state ∧
      Orderly monitor.hosts hub monitor.stats path state
        ((State.start monitor hub now path).sendings moves) := by
  let start := State.start monitor hub now path
  have placed : Placed hub.pool.settings monitor.hosts path start := placed_start consistent path
  have sent : Sent hub.pool.settings monitor.hosts path hub.network start [] := by
    refine ⟨.nil, ?_, ?_, ⟨[], List.Sublist.refl _, (List.append_nil _).symm⟩⟩ <;>
      exact fun _ none => absurd none List.not_mem_nil
  have forgotten : Forgotten hub.pool.settings monitor.hosts start :=
    ⟨fun _ _ _ _ hasEmptied => absurd hasEmptied nofun, fun _ _ present => absurd present nofun⟩
  have missed : Missed path monitor.stats start [] :=
    ⟨nofun, .inl ⟨rfl, nofun, fun _ none => absurd none List.not_mem_nil⟩⟩
  obtain ⟨placed', sent', forgotten', missed'⟩ := placed_play
    (fun state sent => Sent hub.pool.settings monitor.hosts path hub.network state sent ∧
      Forgotten hub.pool.settings monitor.hosts state ∧ Missed path monitor.stats state sent)
    resolves (fun placed ⟨sent, forgotten, missed⟩ moves =>
      ⟨sent.moves placed moves, forgotten.moves placed moves, missed.moves placed moves⟩)
    placed [] ⟨sent, forgotten, missed⟩ played
  rw [List.nil_append] at sent' missed'
  refine ⟨placed', ?_⟩
  have distinct := Sending.nodup_slot_of_before sent'.ordered
  refine {
    visiting := ⟨placed'.visiting, placed'.within⟩
    inOrder := ⟨?inOrder, ?visited⟩
    attempts := Sending.countP_isAttemptAt_le_one distinct
    requests := Sending.countP_isRequestAt_le_one distinct
    addressed := sent'.addressed
    heard := sent'.heard
    forgotten := forgotten'.forgotten
    uncached := ?uncached
    unasked := ?unasked }
  case inOrder =>
    rw [List.pairwise_map]
    refine sent'.ordered.imp ?_
    rintro first second (earlier | ⟨same, _⟩)
    · exact Nat.le_of_lt earlier
    · exact Nat.le_of_eq same
  case visited =>
    intro sending member
    rcases sent'.past sending member with earlier | ⟨same, _⟩
    · exact Nat.le_of_lt earlier
    · exact Nat.le_of_eq same
  case uncached =>
    intro move sending sends asks
    rw [State.sends?, Option.ite_none_right_eq_some] at sends
    obtain ⟨event, event?, rfl⟩ := Option.map_eq_some_iff.mp sends.2
    by_cases querying : ∃ id, state.stage = .query id
    · obtain ⟨id, querying⟩ := querying
      exact StatCache.cached_of_find?_eq_none (missed'.absent id querying) state.now
    · rw [isRequest_eq_false_of_sends? event? (fun id asking => querying ⟨id, asking⟩)] at asks
      contradiction
  case unasked =>
    intro held
    rcases missed'.unasked with ⟨_, _, silent⟩ | ⟨instant, passed, missed⟩
    · exact silent
    · rw [StatCache.cached_eq_none_of_le missed passed] at held
      contradiction

/-- A lookup takes no more than eight steps for each host. -/
theorem countP_isOwn_le_mul {settings : Settings} {last : State} {moves : List Move}
    (resolves : ∀ host ∈ hosts, ∃ address, settings.resolve host = .ok address)
    (placed : Placed settings hosts path state) (played : state.play moves = some last) :
    moves.countP Move.isOwn ≤ 8 * hosts.length := by
  have nearer := countP_isOwn_le resolves placed played
  obtain ⟨placed', -⟩ := placed_play (fun _ _ => True) resolves (fun _ _ _ => trivial) placed []
    trivial played
  have within := placed'.within
  cases here : last.hosts with
  | nil =>
    have shallow : last.stage.depth = 0 := by
      rw [placed'.idle here]
      rfl
    omega
  | cons host rest =>
    have dropped := congrArg List.length (here ▸ placed'.visiting)
    have deep := last.stage.depth_le
    rw [List.length_cons, List.length_drop] at dropped
    omega

theorem fanOut?_eq_none_iff {known : Option UInt64} (ended : state.result? = some known)
    (start length : UInt64) :
    state.fanOut? hosts start length = none ↔
      Monitor.rangeEnd start length known ≤ start.toNat := by
  have empty : (Monitor.outline state.hub.pool.settings start length known).isEmpty = true ↔
      (Monitor.outline state.hub.pool.settings start length known).stop.toNat ≤ start.toNat :=
    Placement.isEmpty_iff
  rw [Monitor.toNat_stop_outline] at empty
  simp only [State.fanOut?, ended]
  split
  · rename_i nothing
    exact iff_of_true rfl (empty.mp nothing)
  · rename_i something
    exact iff_of_false nofun (mt empty.mpr something)

end Lookup

namespace Monitor
open Lookup

variable {α : Type} {monitor fresh : Monitor} {hub : Hub} {now : Nat} {path : String}

/-- A survey is one way in which a fan-out can go. -/
theorem exists_play_survey (question : Question α)
    {answers : List (HostAnswer α)} {last : Hub}
    (resolves : ∀ host ∈ monitor.hosts, ∃ address, hub.pool.settings.resolve host = .ok address)
    (surveyed : monitor.survey hub now question.query = (some answers, last)) :
    ∃ turns state, (FanOut.State.start hub now monitor.hosts).play question turns = some state ∧
      state.isDone = true ∧ state.hub = last := by
  have come := Hub.come_of_askAll (congrArg Prod.fst surveyed)
  rw [survey_eq_askEach come] at surveyed
  obtain ⟨turns, state, played, done, hubs⟩ :=
    FanOut.State.exists_play_askEach now [] nofun resolves come []
  exact ⟨turns, state, played, done, hubs.trans (congrArg Prod.snd surveyed)⟩

/-- The length that a monitor gives is what comes of a lookup that nothing disturbs. -/
theorem exists_play_fileLength {known : Option UInt64} {measured : Monitor} {last : Hub}
    (given : monitor.fileLength hub now path = (some known, measured, last)) :
    ∃ moves state, (Lookup.State.start monitor hub now path).play moves = some state ∧
      state.result? = some known ∧ state.stats = measured.stats ∧ state.hub = last ∧
      state.now = now ∧ measured.hosts = monitor.hosts := by
  rw [fileLength] at given
  cases asked : lengthAt now path monitor.stats hub monitor.hosts with
  | mk length next =>
    obtain ⟨stats, hub'⟩ := next
    rw [asked] at given
    cases given
    obtain ⟨state, ⟨moves, played⟩, ended, same, hubs, instant⟩ :=
      reaches_lengthAt [] asked
    exact ⟨moves, state, played, ended, same, hubs, instant, rfl⟩

theorem place_of_fileLength {start length : UInt64} {known : Option UInt64} {measured : Monitor}
    {next : Hub} (given : monitor.fileLength hub now path = (some known, measured, next)) :
    monitor.place hub now path start length =
      let placement := outline hub.pool.settings start length known
      if placement.isEmpty then (some placement, measured, next)
      else
        match measured.survey next now (.cachedBlocks path) with
        | (none, last) => (none, measured, last)
        | (some answers, last) =>
          let holders := Holders.ofAnswers answers placement.firstBlock placement.lastBlock
          (some { placement with holders }, measured, last) := by
  rw [place]
  simp only [given]
  rfl

/-- To locate blocks is to look the length up, and to fan out if anything is left of the range. -/
theorem exists_play_place {start length : UInt64} {placement : Placement} {measured : Monitor}
    {last : Hub}
    (resolves : ∀ host ∈ monitor.hosts, ∃ address, hub.pool.settings.resolve host = .ok address)
    (consistent : hub.Consistent now)
    (given : monitor.place hub now path start length = (some placement, measured, last)) :
    ∃ moves state, (Lookup.State.start monitor hub now path).play moves = some state ∧
      state.result?.isSome = true ∧ state.stats = measured.stats ∧
      match state.fanOut? monitor.hosts start length with
      | none => state.hub = last
      | some fanOut => ∃ turns done, fanOut.play (.cachedBlocks path) turns = some done ∧
          done.isDone = true ∧ done.hub = last := by
  cases asked : monitor.fileLength hub now path with
  | mk outcome next =>
    obtain ⟨measured', hub'⟩ := next
    cases outcome with
    | none =>
      rw [place] at given
      simp only [asked] at given
      cases given
    | some known =>
      obtain ⟨moves, state, played, ended, same, rfl, rfl, hosts⟩ := exists_play_fileLength asked
      obtain ⟨stands, -⟩ := orderly_play resolves consistent played
      rw [place_of_fileLength asked, ← stands.unchanged] at given
      refine ⟨moves, state, played, Option.isSome_of_mem ended, ?_⟩
      simp only [Lookup.State.fanOut?, ended]
      by_cases nothing : (outline state.hub.pool.settings start length known).isEmpty = true
      · simp only [if_pos nothing] at given ⊢
        cases given
        exact ⟨same, rfl⟩
      · simp only [if_neg nothing] at given ⊢
        have resolves' : ∀ host ∈ measured'.hosts,
            ∃ address, state.hub.pool.settings.resolve host = .ok address := by
          rwa [hosts, stands.unchanged]
        cases surveyed : measured'.survey state.hub state.now (.cachedBlocks path) with
        | mk answers left =>
          rw [surveyed] at given
          cases answers with
          | none => cases given
          | some answers =>
            cases given
            rw [← hosts]
            exact ⟨same, exists_play_survey (.cachedBlocks path) resolves' surveyed⟩

/-- A monitor that is kept waiting by nobody for the metadata gives a length. It is what comes of a
lookup that nothing disturbs. -/
theorem exists_fileLength
    (come : .error .cancelled ∉ monitor.statOutcomes hub now path) :
    ∃ measured last moves state,
      monitor.fileLength hub now path =
        (some (monitor.knownLength hub now path), measured, last) ∧
      (Lookup.State.start monitor hub now path).play moves = some state ∧
      state.result? = some (monitor.knownLength hub now path) ∧
      state.stats = measured.stats ∧ state.hub = last := by
  obtain ⟨stats, last, given⟩ := fileLength_eq come
  obtain ⟨moves, state, played, ended, same, hubs, -⟩ := exists_play_fileLength given
  exact ⟨_, last, moves, state, given, played, ended, same, hubs⟩

/-- Locations are given up only where there is no placement for them. -/
theorem exists_place_of_blockLocations {start length : UInt64} {memory : Nat}
    {outcome : Except Halt (List BlockLocation)} {measured : Monitor} {last : Hub}
    (given : monitor.blockLocations hub memory now path start length = (outcome, measured, last))
    (kept : outcome ≠ .error .gaveUp) :
    ∃ placement, monitor.place hub now path start length = (some placement, measured, last) ∧
      outcome = (placement.collect memory).mapError .crashed := by
  rw [blockLocations] at given
  split at given
  · cases given
    exact absurd rfl kept
  · rename_i placement _ _ placed
    cases given
    exact ⟨placement, placed, rfl⟩

theorem mapError_crashed_ne_gaveUp (collected : Except AllocationFault α) :
    collected.mapError Halt.crashed ≠ .error .gaveUp := by
  intro same
  cases collected <;> cases same

theorem blockLocations_ne_gaveUp {start length : UInt64}
    (statsCome : .error .cancelled ∉ monitor.statOutcomes hub now path)
    (bitmapsCome : start.toNat < rangeEnd start length (monitor.knownLength hub now path) →
      .error .cancelled ∉ monitor.bitmapOutcomes hub now path) (memory : Nat) :
    (monitor.blockLocations hub memory now path start length).1 ≠ .error .gaveUp := by
  rw [blockLocations_fst (place_fst_of_come statsCome bitmapsCome) memory]
  exact mapError_crashed_ne_gaveUp _

/-- However the gateways behave, a lookup of a file's length visits the hosts of a monitor in the
order of the list, with at most one attempt to connect and at most one request for each of them and
none after the first that gives the metadata (`Orderly`, `Ends`). The blocks of a range are asked
for at most once from each host, and not at all if nothing is left of the range. What a monitor
does undisturbed is one way in which this can go, and unless it is kept waiting for ever it gives
the length that the lookup ends with, and then whatever comes of the range. -/
theorem fileLength_visits (built : ofHosts hub.pool.settings monitor.hosts = .ok fresh)
    (consistent : hub.Consistent now) (path : String) :
    let begun := Lookup.State.start monitor hub now path
    (∀ moves state, begun.play moves = some state →
      Orderly monitor.hosts hub monitor.stats path state (begun.sendings moves) ∧
        Ends monitor.hosts state ∧ moves.countP Move.isOwn ≤ 8 * monitor.hosts.length ∧
        ∀ start length,
          (∀ known, state.result? = some known →
            (state.fanOut? monitor.hosts start length = none ↔
              rangeEnd start length known ≤ start.toNat)) ∧
          ∀ fanOut, state.fanOut? monitor.hosts start length = some fanOut →
            ∀ turns last, fanOut.play (.cachedBlocks path) turns = some last → ∀ place,
              (fanOut.sendings (.cachedBlocks path) turns).countP (·.isRequestAt place) ≤ 1) ∧
    (∀ known measured last, monitor.fileLength hub now path = (some known, measured, last) →
      ∃ moves state, begun.play moves = some state ∧ state.result? = some known ∧
        state.stats = measured.stats ∧ state.hub = last) ∧
    (∀ start length memory outcome measured last,
      monitor.blockLocations hub memory now path start length = (outcome, measured, last) →
        outcome ≠ .error .gaveUp →
          ∃ moves state, begun.play moves = some state ∧ state.result?.isSome = true ∧
            state.stats = measured.stats ∧
            match state.fanOut? monitor.hosts start length with
            | none => state.hub = last
            | some fanOut => ∃ turns done, fanOut.play (.cachedBlocks path) turns = some done ∧
                done.isDone = true ∧ done.hub = last) ∧
    (.error .cancelled ∉ monitor.statOutcomes hub now path →
      (∃ measured last moves state,
        monitor.fileLength hub now path =
          (some (monitor.knownLength hub now path), measured, last) ∧
        begun.play moves = some state ∧
        state.result? = some (monitor.knownLength hub now path) ∧
        state.stats = measured.stats ∧ state.hub = last) ∧
      ∀ start length memory,
        (start.toNat < rangeEnd start length (monitor.knownLength hub now path) →
          .error .cancelled ∉ monitor.bitmapOutcomes hub now path) →
        (monitor.blockLocations hub memory now path start length).1 ≠ .error .gaveUp) := by
  have resolves := (ofHosts_eq_ok built).2
  refine ⟨?visits, ?lookup, ?locate, ?given⟩
  case visits =>
    intro moves state played
    obtain ⟨placed, orderly⟩ := orderly_play resolves consistent played
    have bounded := countP_isOwn_le_mul resolves (placed_start consistent path) played
    refine ⟨orderly, ends_of_placed placed, bounded, ?_⟩
    intro start length
    refine ⟨fun known ended => fanOut?_eq_none_iff ended start length, ?_⟩
    intro fanOut _ turns last played' place
    exact Sending.countP_isRequestAt_le_one (FanOut.nodup_sendings played') place
  case lookup =>
    intro known measured last given
    obtain ⟨moves, state, played, ended, same, hubs, -⟩ := exists_play_fileLength given
    exact ⟨moves, state, played, ended, same, hubs⟩
  case locate =>
    intro start length memory outcome measured last given kept
    obtain ⟨placement, placed, -⟩ := exists_place_of_blockLocations given kept
    exact exists_play_place resolves consistent placed
  case given =>
    intro statsCome
    refine ⟨exists_fileLength statsCome, ?_⟩
    intro start length memory bitmapsCome
    exact blockLocations_ne_gaveUp statsCome bitmapsCome memory

def unansweredHosts : Monitor := ⟨["a:1", "b:2"], .ofSettings {}⟩

/-- A lookup that connects to a gateway which ends the stream, and to another that is not there. -/
theorem fileLength_visits_unanswered :
    ∃ state, (Lookup.State.start unansweredHosts closedPool 0 "/f").play
        (List.replicate 13 .step) = some state ∧
      state.result? = some none ∧ state.hub.pool.clients.find? "a:1" = none ∧
      ∀ place, ((Lookup.State.start unansweredHosts closedPool 0 "/f").sendings
        (List.replicate 13 .step)).countP (·.isRequestAt place) ≤ 1 := by
  have built : ofHosts closedPool.pool.settings unansweredHosts.hosts = .ok unansweredHosts := rfl
  have consistent : closedPool.Consistent 0 := by
    refine ⟨⟨?_, ?_, ?_, ?_⟩, ?_, ?_⟩ <;> decide
  obtain ⟨visits, -⟩ := fileLength_visits built consistent "/f"
  have finishes : ((Lookup.State.start unansweredHosts closedPool 0 "/f").play
      (List.replicate 13 .step)).any (fun state => state.failures.length == 2 &&
        state.failures[0]?.any GatewayError.isFatal) = true := by
    decide +kernel
  obtain ⟨state, played, ends⟩ := (Option.any_eq_true ..).mp finishes
  simp only [Bool.and_eq_true, Option.any_eq_true, beq_iff_eq] at ends
  obtain ⟨failed, error, first, fatal⟩ := ends
  obtain ⟨orderly, ending, -⟩ := visits _ state played
  have last : LastOf closedPool.pool.settings unansweredHosts.hosts state.failures.length 0
      "a:1" := by
    intro other host after _ listed resolved
    match other with
    | 1 =>
      cases listed
      exact absurd resolved (by decide)
    | other + 2 => cases listed
  exact ⟨state, played, ending.failed.mpr failed,
    orderly.forgotten 0 error first fatal "a:1" "a:1" rfl rfl last, orderly.requests⟩

end Monitor
end FileGateway
