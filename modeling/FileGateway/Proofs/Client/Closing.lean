import FileGateway.Proofs.Client.Admission

/-! An open client is closed by a call exactly if the call fails fatally or is cancelled in
its exchange. Errors arise in four places, and only those of the exchange itself can be
fatal: refused arguments, refused frames and refused content of a response never are. -/
namespace FileGateway

/-- A reading that finds no fault with the octet stream, whatever else it refuses. -/
def Trusting {α : Type} (read : Except MessageError α) : Prop :=
  ∀ error, read = .error error → error.isFraming = false

namespace Trusting
variable {α β : Type}

theorem ok (value : α) : Trusting (.ok value) :=
  fun _ refused => nomatch refused

theorem error {error : MessageError} (harmless : error.isFraming = false) :
    Trusting (α := α) (.error error) := by
  intro other refused
  cases refused
  exact harmless

theorem bind {read : Except MessageError α} {next : α → Except MessageError β}
    (first : Trusting read) (second : ∀ value, Trusting (next value)) :
    Trusting (read >>= next) := by
  cases read with
  | error error => exact Trusting.error (first error rfl)
  | ok value => exact second value

theorem map {read : Except MessageError α} (first : Trusting read) (next : α → β) :
    Trusting (read.map next) := by
  cases read with
  | error error => exact Trusting.error (first error rfl)
  | ok value => exact ok (next value)

theorem mapM {read : α → Except MessageError β} (each : ∀ value, Trusting (read value))
    (values : List α) : Trusting (values.mapM read) := by
  induction values with
  | nil => exact ok []
  | cons value rest ih =>
    rw [List.mapM_cons]
    exact bind (each value) (fun _ => bind ih (fun _ => ok _))

theorem checkWidth (width : Nat) (field : ByteArray) : Trusting (Field.checkWidth width field) := by
  rw [Field.checkWidth]
  split
  · exact ok ()
  · exact error rfl

theorem toText (field : ByteArray) : Trusting (Field.toText field) := by
  rw [Field.toText]
  cases Utf8.decode field with
  | error fault => exact error rfl
  | ok text => exact ok text

theorem singleField (response : Frame.Response) : Trusting response.singleField := by
  rw [Frame.Response.singleField]
  split
  · exact ok _
  · exact error rfl

theorem texts (response : Frame.Response) : Trusting response.texts :=
  mapM toText response.fields

theorem openedHandle (path : String) (response : Frame.Response) :
    Trusting (Request.openedHandle path response) :=
  bind (singleField response) (fun field =>
    bind (bind (checkWidth 8 field) (fun _ => ok _)) (fun _ => ok _))

/-- No request finds fault with the stream once a response was accepted. -/
theorem interpret (request : Request) (response : Frame.Response) :
    Trusting (request.interpret response) := by
  cases request with
  | getStat path =>
    exact bind (singleField response) (fun field => bind (checkWidth _ field) (fun _ => ok _))
  | readDirectoryEntries path => exact bind (texts response) (fun _ => ok _)
  | listExtendedAttr path => exact texts response
  | getFileHandle path flags => exact openedHandle path response
  | createNewFile path mode => exact openedHandle path response
  | readFileData handle offset length =>
    refine bind (singleField response) (fun data => ?_)
    by_cases overlong : length.toNat < data.size
    · simp only [overlong]
      exact error rfl
    · simp only [overlong]
      exact ok data
  | writeFileData handle offset data => exact ok _
  | getExtendedAttr path name =>
    simp only [Request.interpret]
    split
    · exact ok none
    · exact map (singleField response) some
  | _ => exact ok ()

end Trusting

/-- The errors that leave the connection usable: the gateway refused the operation, its
answer does not fit the request, or nothing was sent. -/
inductive GatewayError.Harmless : GatewayError → Prop where
  | remote (address path op code description) :
    Harmless (.protocol address path (.remote op code description))
  | fieldCount (address path op expected actual) :
    Harmless (.protocol address path (.fieldCount op expected actual))
  | fieldWidth (address path expected actual) :
    Harmless (.protocol address path (.fieldWidth expected actual))
  | invalidField (address path fault) : Harmless (.protocol address path (.invalidField fault))
  | tooLarge (address path size limit) : Harmless (.protocol address path (.tooLarge size limit))
  | invalidArgument (fault) : Harmless (.invalidArgument fault)

theorem GatewayError.Harmless.not_isFatal {error : GatewayError} (harmless : error.Harmless) :
    error.isFatal = false := by
  cases harmless <;> rfl

namespace Client

/-- Before its exchange a call of an open client meets no fatal error. -/
theorem not_isFatal_of_prepare {client : Client} (opened : client.closed = false)
    {request : Request} {error : GatewayError} (refused : client.prepare request = .error error) :
    error.isFatal = false := by
  by_cases inRange : request.InRange
  · rw [prepare_of_open opened inRange, Frame.encodeRequest_eq] at refused
    by_cases excess : Frame.maxPayload < Frame.payloadSize request.fields
    · rw [if_pos excess] at refused
      cases refused
      rfl
    · rw [if_neg excess] at refused
      contradiction
  · obtain ⟨fault, given⟩ := client.prepare_of_not_inRange inRange
    cases given.symm.trans refused
    rfl

/-- The failure of an exchange closes the client by its own kind alone. -/
theorem closed_conclude_iff {client : Client} (opened : client.closed = false)
    (request : Request) :
    (client.conclude request).2.closed = true ↔
      ∃ failure, (client.conclude request).1 = .error failure ∧ failure.closes = true := by
  rw [conclude]
  split
  · simp only [opened, Bool.false_or, Except.error.injEq, exists_eq_left']
  · rename_i response stream read
    simp only [opened, Bool.false_eq_true, false_iff, not_exists, not_and, Bool.not_eq_true]
    intro failure given
    cases answered : request.interpret response with
    | ok answer =>
      rw [answered] at given
      contradiction
    | error error =>
      rw [answered] at given
      cases given
      exact Trusting.interpret request response error answered

theorem closed_perform_iff {client : Client} (opened : client.closed = false) {request : Request}
    {frame : ByteArray} (prepared : client.prepare request = .ok frame) (reply : Reply) :
    (client.perform request reply).2.closed = true ↔
      ∃ failure, (client.perform request reply).1 = .error failure ∧ failure.closes = true := by
  simp only [perform, prepared]
  let received : Client := { client with stream := client.stream.receive reply }
  have stillOpen : received.closed = false := opened
  exact closed_conclude_iff stillOpen request

theorem closed_interrupt_iff {client : Client} {request : Request}
    {frame : ByteArray} (prepared : client.prepare request = .ok frame) (reply : Reply)
    (interruption : Interruption) :
    (client.interrupt request reply interruption).2.closed = true ↔
      ∃ failure, (client.interrupt request reply interruption).1 = .error failure ∧
        failure.closes = true := by
  rw [interrupt, prepared]
  simp only [Except.error.injEq, exists_eq_left']

/-- A call that begins its exchange. -/
theorem closed_call_of_begins {client : Client} (opened : client.closed = false)
    {request : Request} {course : Course} (begins : client.Begins request course) :
    (client.call request course).2.closed = true ↔
      ∃ failure, (client.call request course).1 = .error failure ∧ failure.closes = true := by
  obtain ⟨turn, frame, prepared⟩ := begins
  cases course with
  | answered reply => exact closed_perform_iff opened prepared reply
  | cut reply interruption => exact closed_interrupt_iff prepared reply interruption
  | withdrawn => exact absurd rfl turn

/-- A call that does not begin its exchange leaves the client as it was. -/
theorem call_of_not_begins {client : Client} (opened : client.closed = false)
    {request : Request} {course : Course} (idle : ¬ client.Begins request course) :
    (client.call request course).2 = client ∧
      ∀ error, (client.call request course).1 = .error (.error error) → error.isFatal = false := by
  by_cases turn : course = .withdrawn
  · subst turn
    exact ⟨rfl, fun _ given => nomatch given⟩
  · cases prepared : client.prepare request with
    | ok frame => exact absurd ⟨turn, frame, prepared⟩ idle
    | error error =>
      rw [call_of_prepare_error prepared turn]
      refine ⟨rfl, ?_⟩
      rintro _ ⟨⟩
      exact not_isFatal_of_prepare opened prepared

/-- An open client is closed by a call exactly if the call gives a fatal error or was
cancelled after its exchange had begun, and the harmless errors leave it open. -/
theorem closed_call_iff {client : Client} (opened : client.closed = false) (request : Request)
    (course : Course) :
    ((client.call request course).2.closed = true ↔
      (∃ error, (client.call request course).1 = .error (.error error) ∧ error.isFatal = true) ∨
        (client.call request course).1 = .error .cancelled ∧ client.Begins request course) ∧
    ∀ error : GatewayError, error.Harmless →
      (client.call request course).1 = .error (.error error) →
      (client.call request course).2.closed = false := by
  by_cases begins : client.Begins request course
  · have exchange := closed_call_of_begins opened begins
    constructor
    · rw [exchange]
      constructor
      · rintro ⟨failure, given, closes⟩
        cases failure with
        | error error => exact .inl ⟨error, given, closes⟩
        | cancelled => exact .inr ⟨given, begins⟩
      · rintro (⟨error, given, fatal⟩ | ⟨given, _⟩)
        · exact ⟨.error error, given, fatal⟩
        · exact ⟨.cancelled, given, rfl⟩
    · intro error harmless given
      rw [Bool.eq_false_iff, ne_eq, exchange]
      rintro ⟨failure, same, closes⟩
      cases given.symm.trans same
      rw [Failure.closes, harmless.not_isFatal] at closes
      contradiction
  · obtain ⟨unchanged, harmless⟩ := call_of_not_begins opened begins
    rw [unchanged, opened]
    refine ⟨?_, fun _ _ _ => rfl⟩
    simp only [Bool.false_eq_true, false_iff, not_or, not_exists, not_and]
    refine ⟨fun error given => ?_, fun _ => begins⟩
    rw [harmless error given]
    exact Bool.false_ne_true

/-- A record of three octets is refused, and the next response can still be read. -/
theorem closed_call_iff_narrow_record :
    let client : Client := { address := "gw:7000" }
    let course : Course := .answered (.send ⟨#[0, 0, 0, 0, 0, 0, 0, 0, 0, 0, 0, 7, 0, 0, 0, 1,
      0, 0, 0, 3, 1, 2, 3, 0]⟩)
    client.closed = false ∧
      (client.call (.getStat "/a") course).1 =
        .error (.error (.protocol "gw:7000" (some "/a") (.fieldWidth 80 3))) ∧
      (client.call (.getStat "/a") course).2.closed = false :=
  ⟨rfl, rfl, (closed_call_iff rfl (.getStat "/a") _).2 _ (.fieldWidth ..) rfl⟩

end Client
end FileGateway
