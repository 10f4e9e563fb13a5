import FileGateway.Proofs.Monitor.Lookup.Moves

/-! What a lookup sends, and what it leaves behind. Things are sent in the order of the list and
of the turns at each host; a host that fails fatally loses its client; and nothing is asked while
the metadata is in the cache. -/
namespace FileGateway

theorem FanOut.Advances.turn_le {α : Type} {now : Nat} {address : String} {hub : Hub}
    {stage : FanOut.Stage α} {next : FanOut.Stage α × Hub}
    (advances : Advances now address hub stage next) : stage.turn ≤ next.1.turn := by
  cases advances with
  | found looks usable => rcases looks with rfl | rfl <;> simp [FanOut.Stage.turn]
  | _ => simp [FanOut.Stage.turn]

namespace Lookup
variable {settings : Settings} {hosts : List String} {path : String} {origin : Network}
  {state next : State} {sent : List Sending} {move : Move}

/-- Something was sent to the address of its host, and if it is a request, it asks for the
metadata of the path. -/
def Addressed (settings : Settings) (hosts : List String) (path : String) (sending : Sending) :
    Prop :=
  ∃ host address, hosts[sending.place]? = some host ∧ settings.resolve host = .ok address ∧
    (sending.event = .attempt (Network.gatewayName address) ∨
      ∃ frame, Frame.encodeRequest (Request.getStat path).opcode (Request.getStat path).fields =
          .ok frame ∧
        sending.event = .request (Network.gatewayName address) frame)

/-- What was sent so far. -/
structure Sent (settings : Settings) (hosts : List String) (path : String) (origin : Network)
    (state : State) (sent : List Sending) : Prop where
  ordered : sent.Pairwise Sending.Before
  past : ∀ sending ∈ sent, sending.place < state.failures.length ∨
    sending.place = state.failures.length ∧ sending.event.turn < state.stage.task.turn
  addressed : ∀ sending ∈ sent, Addressed settings hosts path sending
  heard : origin.Hears (sent.map Sending.event) state.hub.network

theorem turn_of_sends? {hub : Hub} {stage : Stage} {event : NetworkEvent}
    (sends : stage.sends? path hub = some event) : event.turn = stage.task.turn := by
  cases stage with
  | connect address =>
    cases sends
    rfl
  | query id =>
    obtain ⟨frame, _, rfl⟩ := Network.sends?_eq_some_iff.mp sends
    rfl
  | _ => contradiction

theorem Placed.addressed (placed : Placed settings hosts path state) {host address : String}
    (here : state.hosts.head? = some host) (resolved : settings.resolve host = .ok address)
    {event : NetworkEvent} (sends : state.stage.sends? state.path state.hub = some event) :
    Addressed settings hosts path ⟨state.failures.length, event⟩ := by
  have tied := placed.tied host here address resolved
  refine ⟨host, address, placed.head? ▸ here, resolved, ?_⟩
  generalize state.stage = stage at sends tied
  cases stage with
  | connect place =>
    cases tied
    cases sends
    exact .inl rfl
  | query id =>
    obtain ⟨_, named⟩ := tied
    obtain ⟨frame, prepared, rfl⟩ := Network.sends?_eq_some_iff.mp sends
    rw [placed.path] at prepared
    exact .inr ⟨frame, Client.encodeRequest_of_prepare prepared, named ▸ rfl⟩
  | _ => contradiction

theorem sends?_of_outside (outside : move.isOwn = false) : state.sends? move = none := by
  rw [State.sends?, if_neg (Bool.eq_false_iff.mp outside)]

theorem sends?_of_own (own : move.isOwn = true) :
    state.sends? move =
      (state.stage.sends? state.path state.hub).map (Sending.mk state.failures.length) := by
  rw [State.sends?, if_pos own]

theorem Effect.turn_le {now : Nat} {address : String} {stats : StatCache} {hub : Hub}
    {stage : Stage} {next : Stage × StatCache × Hub}
    (effect : Effect now path address stats hub stage next) :
    stage.task.turn ≤ next.1.task.turn := by
  rcases effect.advances with ⟨_, same⟩ | advances
  · exact Nat.le_of_eq (congrArg FanOut.Stage.turn same.symm)
  · exact advances.turn_le

theorem Sent.moves (kept : Sent settings hosts path origin state sent)
    (placed : Placed settings hosts path state) (moves : Moves settings state move next) :
    Sent settings hosts path origin next (sent ++ (state.sends? move).toList) := by
  cases moves with
  | @left host rest error own here failed =>
    have silent : state.sends? move = none := by
      rw [sends?_of_own own, failed]
      rfl
    rw [silent, Option.toList_none, List.append_nil]
    refine { kept with past := ?_ }
    intro sending former
    simp only [List.length_append, List.length_singleton]
    have before := kept.past sending former
    omega
  | @acted host address stage stats hub own here resolved effect =>
    have onward : state.stage.task.turn ≤ stage.task.turn := effect.turn_le
    have past : ∀ sending ∈ sent, sending.place < state.failures.length ∨
        sending.place = state.failures.length ∧ sending.event.turn < stage.task.turn := by
      intro sending former
      have before := kept.past sending former
      omega
    have hears := kept.heard.trans effect.hears
    rw [sends?_of_own own]
    cases sends : state.stage.sends? state.path state.hub with
    | none =>
      rw [sends, Option.toList_none, List.append_nil] at hears
      rw [Option.map_none, Option.toList_none, List.append_nil]
      exact { kept with past, heard := hears }
    | some event =>
      have due := turn_of_sends? sends
      have done := effect.turns event sends
      rw [sends] at hears
      rw [Option.map_some, Option.toList_some]
      refine ⟨?ordered, ?past, ?addressed, ?heard⟩
      case ordered =>
        refine List.pairwise_append.mpr ⟨kept.ordered, List.pairwise_singleton _ _, ?_⟩
        intro sending former other added
        rw [List.mem_singleton.mp added]
        rcases kept.past sending former with earlier | ⟨same, earlier⟩
        · exact .inl earlier
        · exact .inr ⟨same, due ▸ earlier⟩
      case past =>
        intro sending member
        rcases List.mem_append.mp member with former | added
        · exact past sending former
        · rw [List.mem_singleton.mp added]
          exact .inr ⟨rfl, due ▸ done⟩
      case addressed =>
        intro sending member
        rcases List.mem_append.mp member with former | added
        · exact kept.addressed sending former
        · rw [List.mem_singleton.mp added]
          exact placed.addressed here resolved sends
      case heard =>
        rw [List.map_append]
        exact hears
  | @drifted network outside grows same duration =>
    rw [sends?_of_outside outside, Option.toList_none, List.append_nil]
    refine { kept with heard := ?_ }
    obtain ⟨heard, sublist, grown⟩ := kept.heard
    exact ⟨heard, sublist, same.trans grown⟩

/-- The host at a place shares its address with no later one that was visited. -/
def LastOf (settings : Settings) (hosts : List String) (visited index : Nat) (address : String) :
    Prop :=
  ∀ (other : Nat) (host : String), index < other → other ≤ visited → hosts[other]? = some host →
    settings.resolve host ≠ .ok address

/-- No client is left for a host that failed fatally. -/
structure Forgotten (settings : Settings) (hosts : List String) (state : State) : Prop where
  emptied : ∀ host, state.hosts.head? = some host → ∀ address,
    settings.resolve host = .ok address → state.stage.task.hasEmptied = true →
      state.hub.pool.clients.find? address = none
  forgotten : ∀ (index : Nat) error, state.failures[index]? = some error → error.isFatal = true →
    ∀ host address, hosts[index]? = some host → settings.resolve host = .ok address →
      LastOf settings hosts state.failures.length index address →
        state.hub.pool.clients.find? address = none

theorem Forgotten.moves (kept : Forgotten settings hosts state)
    (placed : Placed settings hosts path state) (moves : Moves settings state move next) :
    Forgotten settings hosts next := by
  cases moves with
  | @left host rest error own here failed =>
    have visited : state.hosts.head? = some host := congrArg List.head? here
    refine ⟨fun _ _ _ _ hasEmptied => absurd hasEmptied nofun, ?_⟩
    intro index cause present fatal other address there resolved last
    rw [List.length_append, List.length_singleton] at last
    rcases Nat.lt_or_ge index state.failures.length with former | latter
    · rw [List.getElem?_append_left former] at present
      refine kept.forgotten index cause present fatal other address there resolved ?_
      exact fun later place after before => last later place after (Nat.le_succ_of_le before)
    · obtain ⟨bound, _⟩ := List.getElem?_eq_some_iff.mp present
      rw [List.length_append, List.length_singleton] at bound
      obtain rfl : index = state.failures.length := by omega
      rw [List.getElem?_concat_length] at present
      cases present
      rw [← placed.head?, visited] at there
      cases there
      refine kept.emptied host visited address resolved ?_
      rw [failed]
      exact fatal
  | @acted host address stage stats hub own here resolved effect =>
    have placing := placed.head? ▸ here
    refine ⟨?_, ?_⟩
    · intro other here' address' resolved' hasEmptied
      cases here.symm.trans here'
      cases resolved.symm.trans resolved'
      rcases effect.advances with ⟨same, task⟩ | advances
      · rw [show hub = state.hub from same]
        exact kept.emptied host here address resolved (task ▸ hasEmptied)
      · exact advances.emptied (kept.emptied host here address resolved) hasEmptied
    · intro index error present fatal other place there resolved' last
      have before := kept.forgotten index error present fatal other place there resolved' last
      rcases effect.advances with ⟨same, _⟩ | advances
      · rw [show hub = state.hub from same]
        exact before
      · refine ExpiringCache.find?_eq_none_iff.mpr ?_
        intro entry stored owned
        rcases advances.keys stored with former | own
        · exact ExpiringCache.find?_eq_none_iff.mp before entry former owned
        · obtain ⟨bound, _⟩ := List.getElem?_eq_some_iff.mp present
          refine last state.failures.length host bound (Nat.le_refl _) placing ?_
          rw [resolved, ← own, owned]
  | @drifted network outside grows same duration => exact ⟨kept.emptied, kept.forgotten⟩

/-- The metadata is asked for only once it was not found in the cache. -/
structure Missed (path : String) (stats : StatCache) (state : State) (sent : List Sending) :
    Prop where
  absent : ∀ id, state.stage = .query id → state.stats.stats.find? path = none
  unasked : state.stats = stats ∧ (∀ id, state.stage ≠ .query id) ∧
      (∀ sending ∈ sent, sending.event.isRequest = false) ∨
    ∃ instant ≤ state.now, (stats.cached instant path).1 = none

theorem isRequest_eq_false_of_sends? {hub : Hub} {stage : Stage} {event : NetworkEvent}
    (sends : stage.sends? path hub = some event) (unasked : ∀ id, stage ≠ .query id) :
    event.isRequest = false := by
  cases stage with
  | connect address =>
    cases sends
    rfl
  | query id => exact absurd rfl (unasked id)
  | _ => contradiction

theorem Missed.moves {stats : StatCache} (kept : Missed path stats state sent)
    (placed : Placed settings hosts path state) (moves : Moves settings state move next) :
    Missed path stats next (sent ++ (state.sends? move).toList) := by
  have quiet (unasked : ∀ id, state.stage ≠ .query id)
      (silent : ∀ sending ∈ sent, sending.event.isRequest = false) :
      ∀ sending ∈ sent ++ (state.sends? move).toList, sending.event.isRequest = false := by
    intro sending member
    rcases List.mem_append.mp member with former | added
    · exact silent sending former
    · rw [Option.mem_toList, State.sends?, Option.ite_none_right_eq_some] at added
      obtain ⟨event, sends, rfl⟩ := Option.map_eq_some_iff.mp added.2
      exact isRequest_eq_false_of_sends? sends unasked
  cases moves with
  | left own here failed =>
    refine ⟨nofun, kept.unasked.imp_left ?_⟩
    exact fun ⟨same, unasked, silent⟩ => ⟨same, nofun, quiet unasked silent⟩
  | @acted host address stage stats' hub own here resolved effect =>
    rw [placed.path] at effect
    refine ⟨fun id asks => (effect.missed id asks).2, ?_⟩
    rcases kept.unasked with ⟨same, unasked, silent⟩ | missed
    · by_cases found : (stats.cached state.now path).1 = none
      · exact .inr ⟨state.now, Nat.le_refl _, found⟩
      · rw [← same] at found
        refine .inl ⟨?_, fun id asks => found (effect.missed id asks).1, quiet unasked silent⟩
        rcases effect.kept with unchanged | missed | ⟨id, asks⟩
        · exact unchanged.trans same
        · exact absurd missed found
        · exact absurd asks (unasked id)
    · exact .inr missed
  | drifted outside grows same duration =>
    refine ⟨kept.absent, ?_⟩
    rcases kept.unasked with ⟨unchanged, unasked, silent⟩ | ⟨instant, passed, missed⟩
    · exact .inl ⟨unchanged, unasked, quiet unasked silent⟩
    · exact .inr ⟨instant, Nat.le_add_right_of_le passed, missed⟩

end Lookup
end FileGateway
