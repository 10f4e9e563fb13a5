import FileGateway.Proofs.Client.Session
import FileGateway.Proofs.Frame.Request

/-! Which requests a client writes. Its checks stand in a fixed order: the arguments, then
whether the client is closed, then the size of the payload. -/
namespace FileGateway

/-- An offset or a length that travels as a signed word is not above the greatest of them,
and a read asks for no more than one field can hold. -/
def Request.InRange : Request → Prop
  | readFileData _ offset length =>
    length.toNat ≤ Frame.maxField ∧ (offset.toNat : Int) ≤ Int64.maxValue.toInt
  | writeFileData _ offset _ | truncateFile _ offset =>
    (offset.toNat : Int) ≤ Int64.maxValue.toInt
  | getStat _ | delete _ | removeDirectory _ | rename .. | mkdir .. | readDirectoryEntries _
  | getFileHandle .. | createNewFile .. | flush _ | closeFileHandle _ | listExtendedAttr _
  | getExtendedAttr .. => True

namespace Request

theorem checkOffset_eq_ok_iff (offset : UInt64) :
    checkOffset offset = .ok () ↔ (offset.toNat : Int) ≤ Int64.maxValue.toInt := by
  have limit : Int64.maxValue.toInt = offsetLimit := rfl
  rw [checkOffset, limit, Int.ofNat_le]
  split
  · rename_i inside
    exact ⟨fun _ => inside, fun _ => rfl⟩
  · rename_i outside
    exact iff_of_false (by intro accepted; contradiction) outside

theorem checkArguments_eq_ok_iff (request : Request) :
    request.checkArguments = .ok () ↔ request.InRange := by
  cases request with
  | readFileData handle offset length =>
    simp only [checkArguments, InRange]
    by_cases overlong : Frame.maxField < length.toNat
    · rw [if_pos overlong]
      exact iff_of_false (by intro accepted; contradiction)
        (fun inside => absurd inside.1 (Nat.not_le.mpr overlong))
    · rw [if_neg overlong, checkOffset_eq_ok_iff]
      exact (and_iff_right (Nat.not_lt.mp overlong)).symm
  | writeFileData handle offset data => exact checkOffset_eq_ok_iff offset
  | truncateFile path length => exact checkOffset_eq_ok_iff length
  | _ => exact ⟨fun _ => trivial, fun _ => rfl⟩

instance (request : Request) : Decidable request.InRange :=
  decidable_of_iff _ request.checkArguments_eq_ok_iff

theorem exists_fault_of_not_inRange {request : Request} (outside : ¬ request.InRange) :
    ∃ fault, request.checkArguments = .error fault := by
  cases checked : request.checkArguments with
  | error fault => exact ⟨fault, rfl⟩
  | ok _ => exact absurd (request.checkArguments_eq_ok_iff.mp checked) outside

end Request

namespace Client

/-- What it takes for a client to write a request. -/
structure Admits (client : Client) (request : Request) : Prop where
  opened : client.closed = false
  inRange : request.InRange
  fits : Frame.payloadSize request.fields ≤ Frame.maxPayload

/-- Arguments are refused first, whatever else is wrong. -/
theorem prepare_of_not_inRange (client : Client) {request : Request}
    (outside : ¬ request.InRange) :
    ∃ fault, client.prepare request = .error (.invalidArgument fault) := by
  obtain ⟨fault, refused⟩ := Request.exists_fault_of_not_inRange outside
  exact ⟨fault, by rw [prepare, refused]; rfl⟩

theorem prepare_of_closed {client : Client} (closed : client.closed = true) {request : Request}
    (inRange : request.InRange) :
    client.prepare request = .error (.closed client.address) := by
  rw [prepare, request.checkArguments_eq_ok_iff.mpr inRange, if_pos closed]
  rfl

theorem prepare_of_open {client : Client} (opened : client.closed = false) {request : Request}
    (inRange : request.InRange) :
    client.prepare request = (Frame.encodeRequest request.opcode request.fields).mapError
      (.protocol client.address (some request.path)) := by
  rw [prepare, request.checkArguments_eq_ok_iff.mpr inRange,
    if_neg (Bool.eq_false_iff.mp opened)]
  rfl

theorem prepare_eq_ok_iff {client : Client} {request : Request} {frame : ByteArray} :
    client.prepare request = .ok frame ↔
      client.Admits request ∧ Frame.encodeRequest request.opcode request.fields = .ok frame := by
  constructor
  · intro prepared
    have opened := open_of_prepare prepared
    have written := encodeRequest_of_prepare prepared
    refine ⟨⟨opened, ?_, (Frame.encodeRequest_eq_ok_iff.mp written).1⟩, written⟩
    by_contra outside
    obtain ⟨fault, refused⟩ := client.prepare_of_not_inRange outside
    rw [refused] at prepared
    contradiction
  · rintro ⟨admitted, written⟩
    rw [prepare_of_open admitted.opened admitted.inRange, written]
    rfl

/-- Nothing else keeps a request from being written. -/
theorem Admits.exists_prepare {client : Client} {request : Request}
    (admitted : client.Admits request) : ∃ frame, client.prepare request = .ok frame :=
  ⟨_, prepare_eq_ok_iff.mpr ⟨admitted, Frame.encodeRequest_eq_ok_iff.mpr ⟨admitted.fits, rfl⟩⟩⟩

theorem exists_error_of_not_admits {client : Client} {request : Request}
    (refused : ¬ client.Admits request) : ∃ error, client.prepare request = .error error := by
  cases prepared : client.prepare request with
  | error error => exact ⟨error, rfl⟩
  | ok frame => exact absurd (prepare_eq_ok_iff.mp prepared).1 refused

/-- A call that is refused before its exchange leaves the client as it was. -/
theorem call_of_prepare_error {client : Client} {request : Request} {error : GatewayError}
    (refused : client.prepare request = .error error) {course : Course}
    (turn : course ≠ .withdrawn) :
    client.call request course = (.error (.error error), client) := by
  cases course with
  | answered reply => simp only [call, perform, refused]
  | cut reply interruption => simp only [call, interrupt, refused]
  | withdrawn => exact absurd rfl turn

end Client

namespace Session

/-- A refused call leaves the whole session as it was. -/
theorem step_of_prepare_error {session : Session} {event : Event} {request : Request}
    (asked : event.request? = some request) {error : GatewayError}
    (refused : session.client.prepare request = .error error) :
    session.step event = session := by
  cases event with
  | call other reply =>
    cases asked
    simp only [step, record, refused]
  | cut other reply interruption =>
    cases asked
    simp only [step, record, refused]
  | arrival reply => contradiction
  | close => contradiction

/-- A call that is admitted is one exchange more. -/
theorem exchanges_step_of_prepare {session : Session} {event : Event} {request : Request}
    (asked : event.request? = some request) {frame : ByteArray}
    (prepared : session.client.prepare request = .ok frame) :
    ∃ outcome, (session.step event).exchanges =
      session.exchanges ++ [⟨request, frame, outcome⟩] := by
  cases event with
  | call other reply =>
    cases asked
    simp only [step, record, prepared]
    exact ⟨_, rfl⟩
  | cut other reply interruption =>
    cases asked
    simp only [step, record, prepared]
    exact ⟨_, rfl⟩
  | arrival reply => contradiction
  | close => contradiction

/-- Outside of calls nothing is written. -/
theorem exchanges_step_of_idle (session : Session) {event : Event}
    (idle : event.request? = none) : (session.step event).exchanges = session.exchanges := by
  cases event with
  | call request reply => contradiction
  | cut request reply interruption => contradiction
  | arrival reply => rfl
  | close => rfl

end Session
end FileGateway
