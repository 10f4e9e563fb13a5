import FileGateway.Proofs.Client.Admission
import FileGateway.Proofs.Client.RoundTrip
import FileGateway.Proofs.FileStat.Layout
import FileGateway.Proofs.Frame.Field

/-! What a caller is given for a written response, one operation at a time. A negative return code
fails the call, but a missing attribute is an answer. Otherwise the fields decide: which of
them make an answer, what the answer is, and why others are refused. Whatever is given, the
client stays open and the octets behind the response are left to the next call. -/
namespace FileGateway

/-! ## Reading one field, and reading texts -/

namespace Frame.Response

/-- Why `read` gives nothing for the fields of a response that is to have one field: there is some
other number of them, or the one field is not accepted. -/
def OneFieldMisfit (op : Opcode) (fields : List ByteArray) (accepted : ByteArray → Prop)
    (fault : ByteArray → MessageError) (error : MessageError) : Prop :=
  (fields.length ≠ 1 ∧ error = .fieldCount op 1 fields.length) ∨
    ∃ field, fields = [field] ∧ ¬ accepted field ∧ error = fault field

theorem singleField_of_length_ne {response : Response} (other : response.fields.length ≠ 1) :
    response.singleField = .error (.fieldCount response.op 1 response.fields.length) := by
  rw [singleField]
  split
  · rename_i field single
    rw [single] at other
    contradiction
  · rfl

/-- A response of one field that `read` accepts, or of fields that are refused for a reason. -/
theorem singleField_bind_cases {α : Type} (read : ByteArray → Except MessageError α)
    (accepted : ByteArray → Prop) (fault : ByteArray → MessageError) (op : Opcode)
    (returnCode : Int32) (fields : List ByteArray)
    (reads : ∀ field, accepted field → ∃ value, read field = .ok value)
    (refuses : ∀ field, ¬ accepted field → read field = .error (fault field)) :
    (∃ field value, fields = [field] ∧ accepted field ∧ read field = .ok value ∧
      (singleField ⟨op, returnCode, fields⟩ >>= read) = .ok value) ∨
    (¬ ∃ field, fields = [field] ∧ accepted field) ∧ ∃ error,
      (singleField ⟨op, returnCode, fields⟩ >>= read) = .error error ∧
      OneFieldMisfit op fields accepted fault error := by
  by_cases single : fields.length = 1
  · obtain ⟨field, rfl⟩ := List.length_eq_one_iff.mp single
    have first : singleField ⟨op, returnCode, [field]⟩ = .ok field := rfl
    rw [first]
    by_cases fits : accepted field
    · obtain ⟨value, accepts⟩ := reads field fits
      exact .inl ⟨field, value, rfl, fits, accepts, accepts⟩
    · refine .inr ⟨?_, fault field, refuses field fits, .inr ⟨field, rfl, fits, rfl⟩⟩
      rintro ⟨other, same, fitsOther⟩
      cases same
      exact fits fitsOther
  · refine .inr ⟨?_, .fieldCount op 1 fields.length, ?_, .inl ⟨single, rfl⟩⟩
    · rintro ⟨field, rfl, _⟩
      exact single rfl
    · have refused : singleField ⟨op, returnCode, fields⟩ =
          .error (.fieldCount op 1 fields.length) := singleField_of_length_ne single
      rw [refused]
      rfl

/-- The first field that is not well-formed text is the one that is reported. -/
def TextMisfit (fields : List ByteArray) (error : MessageError) : Prop :=
  ∃ before field after, fields = before ++ field :: after ∧
    (∀ other ∈ before, other.IsValidUTF8) ∧ ¬ field.IsValidUTF8 ∧
    error = .invalidField (.notText (Utf8.faultFrom field 0))

/-- Fields are all texts and read as such, or the first that is none is reported. -/
theorem texts_cases (fields : List ByteArray) :
    (∃ names : List String, fields = names.map Field.ofText ∧
      fields.mapM Field.toText = .ok names) ∨
    ∃ error, fields.mapM Field.toText = .error error ∧ TextMisfit fields error := by
  induction fields with
  | nil => exact .inl ⟨[], rfl, rfl⟩
  | cons field rest ih =>
    rw [List.mapM_cons]
    by_cases valid : field.IsValidUTF8
    · obtain ⟨name, rfl⟩ := Field.exists_ofText_iff.mpr valid
      rw [Field.toText_eq_ok_iff.mpr rfl]
      rcases ih with ⟨names, rfl, all⟩ | ⟨error, refused, before, broken, after, rfl, valids, last⟩
      · exact .inl ⟨name :: names, rfl, by rw [all]; rfl⟩
      · refine .inr ⟨error, by rw [refused]; rfl, Field.ofText name :: before, broken, after, rfl,
          ?_, last⟩
        exact List.forall_mem_cons.mpr ⟨valid, valids⟩
    · rw [Field.toText_of_not_valid valid]
      exact .inr ⟨_, rfl, [], field, rest, rfl, by simp, valid, rfl⟩

theorem TextMisfit.not_valid {fields : List ByteArray} {error : MessageError}
    (misfit : TextMisfit fields error) : ¬ ∀ field ∈ fields, field.IsValidUTF8 := by
  obtain ⟨before, field, after, rfl, _, broken, _⟩ := misfit
  intro valids
  exact broken (valids field (by simp))

theorem valid_of_ofText (names : List String) :
    ∀ field ∈ names.map Field.ofText, field.IsValidUTF8 := by
  simp only [List.mem_map]
  rintro field ⟨name, _, rfl⟩
  exact name.isValidUTF8

end Frame.Response

/-! ## Answers -/

namespace Request
open Frame.Response (OneFieldMisfit TextMisfit)

/-- The fields that a response without failure must have for the request to be answered. -/
def Readable (fields : List ByteArray) : Request → Prop
  | getStat _ => ∃ field, fields = [field] ∧ field.size = FileStat.width
  | getFileHandle .. | createNewFile .. => ∃ field, fields = [field] ∧ field.size = 8
  | readDirectoryEntries _ | listExtendedAttr _ => ∀ field ∈ fields, field.IsValidUTF8
  | readFileData _ _ length => ∃ field, fields = [field] ∧ field.size ≤ length.toNat
  | getExtendedAttr .. => fields.length ≤ 1
  | writeFileData .. | delete _ | removeDirectory _ | rename .. | mkdir .. | flush _
  | closeFileHandle _ | truncateFile .. => True

/-- The answer that the return code and the fields of a response hold. Names stand in the order of
the response, and a directory does not list itself and its parent. -/
def Reads (returnCode : Int32) (fields : List ByteArray) : (request : Request) →
    request.Answer → Prop
  | getStat _, stat => ∃ field, fields = [field] ∧ FileStat.decode field = .ok stat
  | getFileHandle path _, handle | createNewFile path _, handle =>
    handle.path = path ∧ ∃ field, fields = [field] ∧ Field.toHandle field = .ok handle.id
  | readDirectoryEntries _, names => ∃ listed : List String, fields = listed.map Field.ofText ∧
    names = listed.filter (fun name => name ≠ "." ∧ name ≠ "..")
  | listExtendedAttr _, names => fields = List.map Field.ofText names
  | readFileData .., data => fields = [data]
  | getExtendedAttr .., value => fields = Option.toList value
  | writeFileData .., count => Int.ofNat count = returnCode.toInt
  | delete _, _ | removeDirectory _, _ | rename .., _ | mkdir .., _ | flush _, _
  | closeFileHandle _, _ | truncateFile .., _ => True

/-- Why the fields of a response without failure are refused. -/
def Misfit (fields : List ByteArray) : Request → MessageError → Prop
  | getStat _ => OneFieldMisfit .getStat fields (·.size = FileStat.width)
    (fun field => .fieldWidth FileStat.width field.size)
  | getFileHandle .. => OneFieldMisfit .getFileHandle fields (·.size = 8)
    (fun field => .fieldWidth 8 field.size)
  | createNewFile .. => OneFieldMisfit .createNewFile fields (·.size = 8)
    (fun field => .fieldWidth 8 field.size)
  | readFileData _ _ length => OneFieldMisfit .readFileData fields (·.size ≤ length.toNat)
    (fun field => .invalidField (.overlongRead length.toNat field.size))
  | readDirectoryEntries _ | listExtendedAttr _ => TextMisfit fields
  | getExtendedAttr .. => (· = .fieldCount .getExtendedAttr 1 fields.length)
  | writeFileData .. | delete _ | removeDirectory _ | rename .. | mkdir .. | flush _
  | closeFileHandle _ | truncateFile .. => fun _ => False

/-- The answer that an attribute does not exist. -/
def IsMissing : (request : Request) → request.Answer → Prop
  | getExtendedAttr .., value => value = none
  | _, _ => False

/-- A missing attribute is an answer, and no failure. -/
def Forgives (request : Request) (returnCode : Int32) : Prop :=
  request.opcode = .getExtendedAttr ∧ (returnCode = -61 ∨ returnCode = -93)

/-- What a request is given for a response with this return code and these fields. -/
structure Gives (request : Request) (returnCode : Int32) (fields : List ByteArray)
    (given : Except MessageError request.Answer) : Prop where
  failure : returnCode < 0 → ¬ request.Forgives returnCode →
    given = .error (.remote request.opcode returnCode (ErrorNumber.describe returnCode))
  missing : request.Forgives returnCode → ∃ answer, given = .ok answer ∧ request.IsMissing answer
  answered : 0 ≤ returnCode → ((∃ answer, given = .ok answer) ↔ request.Readable fields)
  answer : 0 ≤ returnCode → ∀ answer, given = .ok answer → request.Reads returnCode fields answer
  refusal : 0 ≤ returnCode → ∀ error, given = .error error → request.Misfit fields error

variable {returnCode : Int32} {fields : List ByteArray}

/-- The fields have an answer, which they hold, or they are refused for a reason. -/
def Settles (request : Request) (returnCode : Int32) (fields : List ByteArray)
    (given : Except MessageError request.Answer) : Prop :=
  (∃ answer, given = .ok answer ∧ request.Readable fields ∧
      request.Reads returnCode fields answer) ∨
    ∃ error, given = .error error ∧ ¬ request.Readable fields ∧ request.Misfit fields error

theorem Settles.answered {request : Request} {given : Except MessageError request.Answer}
    (settled : request.Settles returnCode fields given) :
    (∃ answer, given = .ok answer) ↔ request.Readable fields := by
  rcases settled with ⟨answer, rfl, readable, _⟩ | ⟨error, rfl, unreadable, _⟩
  · exact ⟨fun _ => readable, fun _ => ⟨answer, rfl⟩⟩
  · refine ⟨?_, fun readable => absurd readable unreadable⟩
    rintro ⟨answer, same⟩
    contradiction

theorem Settles.reads {request : Request} {answer : request.Answer}
    (settled : request.Settles returnCode fields (.ok answer)) :
    request.Reads returnCode fields answer := by
  rcases settled with ⟨other, same, _, reads⟩ | ⟨error, same, _, _⟩
  · cases same
    exact reads
  · contradiction

theorem Settles.misfit {request : Request} {error : MessageError}
    (settled : request.Settles returnCode fields (.error error)) :
    request.Misfit fields error := by
  rcases settled with ⟨answer, same, _, _⟩ | ⟨other, same, _, misfit⟩
  · contradiction
  · cases same
    exact misfit

theorem openedHandle_cases (path : String) (op : Opcode) (returnCode : Int32)
    (fields : List ByteArray) :
    (∃ handle, openedHandle path ⟨op, returnCode, fields⟩ = .ok handle ∧
      (∃ field, fields = [field] ∧ field.size = 8) ∧ handle.path = path ∧
      ∃ field, fields = [field] ∧ Field.toHandle field = .ok handle.id) ∨
    ∃ error, openedHandle path ⟨op, returnCode, fields⟩ = .error error ∧
      (¬ ∃ field, fields = [field] ∧ field.size = 8) ∧
      OneFieldMisfit op fields (·.size = 8) (fun field => .fieldWidth 8 field.size) error := by
  rcases Frame.Response.singleField_bind_cases
    (fun field => do return FileHandle.mk path (← Field.toHandle field))
    (·.size = 8) (fun field => .fieldWidth 8 field.size) op returnCode fields
    (fun field size => ⟨_, by rw [Field.toHandle_of_size size]; rfl⟩)
    (fun field size => by rw [Field.toHandle_of_ne size]; rfl) with
    ⟨field, handle, rfl, size, read, given⟩ | ⟨unreadable, error, given, misfit⟩
  · rw [Field.toHandle_of_size size] at read
    cases read
    exact .inl ⟨_, given, ⟨field, rfl, size⟩, rfl, field, rfl, Field.toHandle_of_size size⟩
  · exact .inr ⟨error, given, unreadable, misfit⟩

/-- The one field of the response to a read. -/
def checkedRead (length : UInt32) (data : ByteArray) : Except MessageError ByteArray := do
  if length.toNat < data.size then
    throw (.invalidField (.overlongRead length.toNat data.size))
  return data

theorem checkedRead_of_le {length : UInt32} {data : ByteArray} (fits : data.size ≤ length.toNat) :
    checkedRead length data = .ok data := by
  rw [checkedRead, if_neg (Nat.not_lt.mpr fits)]
  rfl

theorem checkedRead_of_lt {length : UInt32} {data : ByteArray} (overlong : length.toNat < data.size) :
    checkedRead length data =
      .error (.invalidField (.overlongRead length.toNat data.size)) := by
  rw [checkedRead, if_pos overlong]
  rfl

/-- Every response without failure is settled by its fields. -/
theorem settles_interpret (request : Request) (success : 0 ≤ returnCode)
    (fields : List ByteArray) :
    request.Settles returnCode fields
      (request.interpret ⟨request.opcode, returnCode, fields⟩) := by
  cases request with
  | getStat path =>
    rcases Frame.Response.singleField_bind_cases FileStat.decode (·.size = FileStat.width)
      (fun field => .fieldWidth FileStat.width field.size) .getStat returnCode fields
      (fun _ => FileStat.exists_decode) (fun _ => FileStat.decode_of_ne) with
      ⟨field, stat, rfl, size, read, given⟩ | ⟨unreadable, error, given, misfit⟩
    · exact .inl ⟨stat, given, ⟨field, rfl, size⟩, field, rfl, read⟩
    · exact .inr ⟨error, given, unreadable, misfit⟩
  | getFileHandle path flags => exact openedHandle_cases path .getFileHandle returnCode fields
  | createNewFile path mode => exact openedHandle_cases path .createNewFile returnCode fields
  | readFileData handle offset length =>
    rcases Frame.Response.singleField_bind_cases (checkedRead length) (·.size ≤ length.toNat)
      (fun field => .invalidField (.overlongRead length.toNat field.size)) .readFileData
      returnCode fields (fun field fits => ⟨field, checkedRead_of_le fits⟩)
      (fun field overlong => checkedRead_of_lt (Nat.not_le.mp overlong)) with
      ⟨field, data, rfl, fits, read, given⟩ | ⟨unreadable, error, given, misfit⟩
    · cases (checkedRead_of_le fits).symm.trans read
      exact .inl ⟨field, given, ⟨field, rfl, fits⟩, rfl⟩
    · exact .inr ⟨error, given, unreadable, misfit⟩
  | readDirectoryEntries path =>
    rcases Frame.Response.texts_cases fields with ⟨names, rfl, read⟩ | ⟨error, refused, misfit⟩
    · refine .inl ⟨_, ?_, Frame.Response.valid_of_ofText names, names, rfl, rfl⟩
      simp only [interpret, Frame.Response.texts, read]
      rfl
    · refine .inr ⟨error, ?_, misfit.not_valid, misfit⟩
      simp only [interpret, Frame.Response.texts, refused]
      rfl
  | listExtendedAttr path =>
    rcases Frame.Response.texts_cases fields with ⟨names, rfl, read⟩ | ⟨error, refused, misfit⟩
    · exact .inl ⟨names, read, Frame.Response.valid_of_ofText names, rfl⟩
    · exact .inr ⟨error, refused, misfit.not_valid, misfit⟩
  | getExtendedAttr path name =>
    match fields with
    | [] => exact .inl ⟨none, rfl, Nat.zero_le 1, rfl⟩
    | [field] => exact .inl ⟨some field, rfl, Nat.le_refl 1, rfl⟩
    | first :: second :: rest =>
      refine .inr ⟨_, rfl, ?_, rfl⟩
      simp [Readable]
  | writeFileData handle offset data =>
    refine .inl ⟨_, rfl, trivial, ?_⟩
    rw [Int32.le_iff_toInt_le, Int32.toInt_zero] at success
    exact Int.toNat_of_nonneg success
  | _ => exact .inl ⟨(), rfl, trivial, trivial⟩

/-- A missing attribute is answered without the fields of the response. -/
theorem isMissing_interpret {request : Request} (asked : request.opcode = .getExtendedAttr)
    (returnCode : Int32) : ∃ answer,
      request.interpret ⟨.getExtendedAttr, returnCode, []⟩ = .ok answer ∧
        request.IsMissing answer := by
  cases request with
  | getExtendedAttr path name => exact ⟨none, rfl, rfl⟩
  | _ => contradiction

/-- The return code is judged first, and then the fields are read. -/
theorem gives_judge (request : Request) (returnCode : Int32) (fields : List ByteArray) :
    request.Gives returnCode fields
      (Frame.judge request.opcode returnCode fields >>= request.interpret) := by
  by_cases success : 0 ≤ returnCode
  · have nonnegative := Int32.not_lt.mpr success
    have judged : (Frame.judge request.opcode returnCode fields >>= request.interpret) =
        request.interpret ⟨request.opcode, returnCode, fields⟩ := by
      rw [Frame.judge, if_pos success]
      rfl
    have settled := settles_interpret request success fields
    rw [judged]
    refine ⟨fun negative => absurd negative nonnegative, ?_, fun _ => settled.answered, ?_, ?_⟩
    · rintro ⟨_, rfl | rfl⟩
      · contradiction
      · contradiction
    · intro _ answer given
      rw [given] at settled
      exact settled.reads
    · intro _ error given
      rw [given] at settled
      exact settled.misfit
  · have negative : returnCode < 0 := Int32.not_le.mp success
    have exempt : request.opcode = .getExtendedAttr ∧ ErrorNumber.isMissingAttribute returnCode ↔
        request.Forgives returnCode := by
      rw [Forgives, ErrorNumber.isMissingAttribute_iff negative]
    refine ⟨fun _ unforgiven => ?_, fun forgiven => ?_, fun success' => absurd success' success,
      fun success' => absurd success' success, fun success' => absurd success' success⟩
    · rw [Frame.judge, if_neg success, if_neg (mt exempt.mp unforgiven)]
      rfl
    · rw [Frame.judge, if_neg success, if_pos (exempt.mpr forgiven), forgiven.1]
      exact isMissing_interpret forgiven.1 returnCode

end Request

namespace Client

/-- A client that finds a written response in its stream takes it off, and stays as open as it
was. -/
theorem conclude_written {client : Client} {request : Request} {returnCode : Int32}
    {fields : List ByteArray} {frame : ByteArray}
    (written : Frame.encodeResponse request.opcode returnCode fields = .ok frame)
    (rest : ByteArray) (ended : Bool) (found : client.stream = ⟨frame ++ rest, ended⟩) :
    client.conclude request =
      ((Frame.judge request.opcode returnCode fields >>= request.interpret).mapError
        (fun error => .error (.protocol client.address (some request.path) error)),
        { client with stream := ⟨rest, ended⟩ }) := by
  rw [conclude, roundTrip, found, Stream.takeResponse_written written]
  cases judged : Frame.judge request.opcode returnCode fields with
  | ok response => rfl
  | error error =>
    have harmless := Frame.isFraming_of_judge_error judged
    simp only [Except.mapError, responseFailure, Failure.closes, GatewayError.isFatal, harmless,
      Bool.or_false]
    rfl

/-- A call of an open client whose arguments pass its checks, when a written response comes first
in what is pending and what comes in reply. It gives what the response says for the
operation, an error with the client's address and the request's path, and it leaves the
client open behind the response. -/
theorem perform_gives {client : Client} {request : Request} (admitted : client.Admits request)
    {returnCode : Int32} {fields : List ByteArray} {frame : ByteArray}
    (written : Frame.encodeResponse request.opcode returnCode fields = .ok frame)
    (reply : Reply) (rest : ByteArray)
    (arrived : client.stream.pending ++ client.stream.arriving reply = frame ++ rest) :
    ∃ given : Except MessageError request.Answer,
      client.perform request reply =
        (given.mapError (fun error =>
          .error (.protocol client.address (some request.path) error)),
          { client with stream := { client.stream.receive reply with pending := rest } }) ∧
      request.Gives returnCode fields given := by
  obtain ⟨sent, prepared⟩ := admitted.exists_prepare
  have pending := (client.stream.pending_receive reply).trans arrived
  refine ⟨_, ?_, request.gives_judge returnCode fields⟩
  rw [perform, prepared]
  exact conclude_written written rest (client.stream.receive reply).ended (by rw [← pending])

/-- A directory lists itself, one entry and its parent, and an octet of the next response comes
too. -/
theorem perform_gives_listing :
    let client : Client := { address := "gw:7000" }
    let request : Request := .readDirectoryEntries "/d"
    let reply : Reply := .send ⟨#[0, 0, 0, 5, 0, 0, 0, 0, 0, 0, 0, 16, 0, 0, 0, 3, 0, 0, 0, 1, 46,
      0, 0, 0, 1, 97, 0, 0, 0, 2, 46, 46, 9]⟩
    client.Admits request ∧ (client.perform request reply).2.closed = false ∧
      (client.perform request reply).2.stream.pending = ⟨#[9]⟩ ∧
      ∃ names, (client.perform request reply).1 = .ok names ∧
        request.Reads 0 ([".", "a", ".."].map Field.ofText) names := by
  have admitted : Client.Admits { address := "gw:7000" } (.readDirectoryEntries "/d") :=
    ⟨rfl, trivial, by decide⟩
  have written : Frame.encodeResponse .readDirectoryEntries 0
      ([".", "a", ".."].map Field.ofText) = .ok ⟨#[0, 0, 0, 5, 0, 0, 0, 0, 0, 0, 0, 16, 0, 0, 0, 3,
        0, 0, 0, 1, 46, 0, 0, 0, 1, 97, 0, 0, 0, 2, 46, 46]⟩ := rfl
  obtain ⟨given, performed, gives⟩ := perform_gives admitted written (.send ⟨#[0, 0, 0, 5, 0, 0,
    0, 0, 0, 0, 0, 16, 0, 0, 0, 3, 0, 0, 0, 1, 46, 0, 0, 0, 1, 97, 0, 0, 0, 2, 46, 46, 9]⟩) ⟨#[9]⟩ rfl
  obtain ⟨names, rfl⟩ := (gives.answered (by decide)).mpr (Frame.Response.valid_of_ofText _)
  exact ⟨admitted, by rw [performed], by rw [performed], names, by rw [performed]; rfl,
    gives.answer (by decide) names rfl⟩

end Client
end FileGateway
