import FileGateway.Proofs.Client.Admission

/-! A closed client stays closed, and its connection is left alone: no request is written and no
octet is read, however long the session goes on and whatever still comes from the gateway.
Every call is refused, for its arguments if these are out of range and otherwise because
the client is closed. -/
namespace FileGateway.Session

/-- From the first session to the second nothing was written or read on a closed connection.
Octets may have come, and all of them are still pending. -/
structure Silent (earlier later : Session) : Prop where
  closed : later.client.closed = true
  unwritten : later.exchanges = earlier.exchanges
  unread : ∃ octets, later.received = earlier.received ++ octets ∧
    later.client.stream.pending = earlier.client.stream.pending ++ octets

theorem Silent.refl {session : Session} (closed : session.client.closed = true) :
    session.Silent session :=
  ⟨closed, rfl, ByteArray.empty, ByteArray.append_empty.symm, ByteArray.append_empty.symm⟩

theorem Silent.trans {first second third : Session} (before : first.Silent second)
    (after : second.Silent third) : first.Silent third := by
  obtain ⟨octets, received, pending⟩ := before.unread
  obtain ⟨others, receivedAfter, pendingAfter⟩ := after.unread
  refine ⟨after.closed, after.unwritten.trans before.unwritten, octets ++ others, ?_, ?_⟩
  · rw [receivedAfter, received, ByteArray.append_assoc]
  · rw [pendingAfter, pending, ByteArray.append_assoc]

/-- A closed client refuses every call before its exchange. -/
theorem exists_prepare_error {client : Client} (closed : client.closed = true)
    (request : Request) : ∃ error, client.prepare request = .error error := by
  apply Client.exists_error_of_not_admits
  intro admitted
  rw [admitted.opened] at closed
  contradiction

theorem silent_step {session : Session} (closed : session.client.closed = true) (event : Event) :
    session.Silent (session.step event) := by
  cases event with
  | call request reply =>
    obtain ⟨error, refused⟩ := exists_prepare_error closed request
    rw [step_of_prepare_error rfl refused]
    exact Silent.refl closed
  | cut request reply interruption =>
    obtain ⟨error, refused⟩ := exists_prepare_error closed request
    rw [step_of_prepare_error rfl refused]
    exact Silent.refl closed
  | arrival reply =>
    exact ⟨closed, rfl, session.client.stream.arriving reply, rfl,
      session.client.stream.pending_receive reply⟩
  | close => exact { Silent.refl closed with closed := rfl }

theorem silent_run {session : Session} (closed : session.client.closed = true)
    (events : List Event) : session.Silent (session.run events) := by
  induction events generalizing session with
  | nil => exact Silent.refl closed
  | cons event rest ih =>
    have first := silent_step closed event
    exact first.trans (ih first.closed)

/-- Once a client is closed it stays so. Nothing is written to its connection and nothing is read
from it, and every call returns at once: with a refusal of its arguments if they are out
of range, and with the client's address in every other case. -/
theorem run_closed_silent (client : Client) (before after : List Event)
    (closed : ((ofClient client).run before).client.closed = true) :
    ((ofClient client).run before).Silent ((ofClient client).run (before ++ after)) ∧
    ∀ (request : Request) (course : Client.Course), course ≠ .withdrawn →
      let later := ((ofClient client).run (before ++ after)).client
      (later.call request course).2 = later ∧
      (request.InRange →
        (later.call request course).1 = .error (.error (.closed client.address))) ∧
      (¬ request.InRange → ∃ fault,
        (later.call request course).1 = .error (.error (.invalidArgument fault))) := by
  have silent : ((ofClient client).run before).Silent
      ((ofClient client).run (before ++ after)) := by
    simp only [run, List.foldl_append]
    exact silent_run closed after
  refine ⟨silent, ?_⟩
  intro request course turn
  by_cases inRange : request.InRange
  · have refused := Client.prepare_of_closed silent.closed inRange
    rw [address_run] at refused
    have called := Client.call_of_prepare_error refused turn
    exact ⟨congrArg Prod.snd called, fun _ => congrArg Prod.fst called,
      fun outside => absurd inRange outside⟩
  · obtain ⟨fault, refused⟩ :=
      ((ofClient client).run (before ++ after)).client.prepare_of_not_inRange inRange
    have called := Client.call_of_prepare_error refused turn
    exact ⟨congrArg Prod.snd called, fun inside => absurd inside inRange,
      fun _ => ⟨fault, congrArg Prod.fst called⟩⟩

/-- The response to a call that was given up comes late. It stays where it is, whether the next
call could have read it or asks for an offset that no frame can carry. -/
theorem run_closed_silent_late_response :
    let late : Reply := .send ⟨#[0, 0, 0, 1, 0, 0, 0, 0, 0, 0, 0, 0, 0, 0, 0, 0]⟩
    let closing := (ofClient { address := "gw:7000" }).run [.cut (.delete "/a") .stall .abandoned]
    let later := (ofClient { address := "gw:7000" }).run
      [.cut (.delete "/a") .stall .abandoned, .arrival late]
    closing.client.closed = true ∧ closing.Silent later ∧ later.client.stream.pending = late.octets ∧
      (later.client.call (.delete "/b") (.answered .stall)).1 =
        .error (.error (.closed "gw:7000")) ∧
      ∃ fault, (later.client.call (.truncateFile "/b" 0x8000000000000000) (.answered late)).1 =
        .error (.error (.invalidArgument fault)) := by
  have silent := run_closed_silent { address := "gw:7000" } [.cut (.delete "/a") .stall .abandoned]
    [.arrival (.send ⟨#[0, 0, 0, 1, 0, 0, 0, 0, 0, 0, 0, 0, 0, 0, 0, 0]⟩)] rfl
  refine ⟨rfl, silent.1, rfl, ?_, ?_⟩
  · exact (silent.2 (.delete "/b") (.answered .stall) (fun same => nomatch same)).2.1 trivial
  · refine (silent.2 (.truncateFile "/b" 0x8000000000000000) (.answered _)
      (fun same => nomatch same)).2.2 ?_
    decide

end FileGateway.Session
