import FileGateway.Proofs.Client.Admission
import FileGateway.Proofs.Frame.Field
import FileGateway.Proofs.Network.Calls

/-! A request travels in one frame, and the frame says all of it: a gateway reads back the
operation, and in their order the arguments that the caller gave. So no two requests are
written as the same frame. -/
namespace FileGateway

/-- An argument of a request as its caller gives it. -/
inductive Argument where
  | text (content : String)
  | handle (id : UInt64)
  /-- A place in a file, or the length that it is cut to. -/
  | offset (octet : UInt64)
  /-- A mode, a set of flags, or the length of a read. -/
  | word (value : UInt32)
  | data (octets : ByteArray)

namespace Argument

inductive Kind where
  | text
  | handle
  | offset
  | word
  | data
  deriving DecidableEq

def kind : Argument → Kind
  | text _ => .text
  | handle _ => .handle
  | offset _ => .offset
  | word _ => .word
  | data _ => .data

/-- Reading the field gives the argument back. An offset is read as a signed word of the same
value. -/
def ReadFrom : Argument → ByteArray → Prop
  | text content, field => Field.toText field = .ok content
  | handle id, field => Field.toHandle field = .ok id
  | offset octet, field => ∃ read, Field.toOffset field = .ok read ∧ read.toInt = octet.toNat
  | word value, field => Field.toLength field = .ok value
  | data octets, field => field = octets

/-- A field holds one argument of each kind at most. -/
theorem ReadFrom.unique {first second : Argument} (alike : first.kind = second.kind)
    {field : ByteArray} (one : first.ReadFrom field) (two : second.ReadFrom field) :
    first = second := by
  cases first with
  | text content =>
    cases second with
    | text other => exact congrArg text (Except.ok.inj (one.symm.trans two))
    | _ => contradiction
  | handle id =>
    cases second with
    | handle other => exact congrArg handle (Except.ok.inj (one.symm.trans two))
    | _ => contradiction
  | offset octet =>
    cases second with
    | offset other =>
      obtain ⟨read, first, value⟩ := one
      obtain ⟨again, second, same⟩ := two
      cases first.symm.trans second
      exact congrArg offset (UInt64.toNat_inj.mp (Int.ofNat_inj.mp (value.symm.trans same)))
    | _ => contradiction
  | word value =>
    cases second with
    | word other => exact congrArg word (Except.ok.inj (one.symm.trans two))
    | _ => contradiction
  | data octets =>
    cases second with
    | data others => exact congrArg data (one.symm.trans two)
    | _ => contradiction

/-- Fields hold one list of arguments of given kinds at most. -/
theorem readFrom_unique {first second : List Argument} {fields : List ByteArray}
    (alike : first.map kind = second.map kind) (one : List.Forall₂ ReadFrom first fields)
    (two : List.Forall₂ ReadFrom second fields) : first = second := by
  induction one generalizing second with
  | nil => exact (List.map_eq_nil_iff.mp alike.symm).symm
  | cons read _ ih =>
    cases two with
    | cons again others =>
      simp only [List.map_cons, List.cons.injEq] at alike
      rw [read.unique alike.1 again, ih alike.2 others]

end Argument

/-- The arguments that the requests for an operation have. -/
def Opcode.argumentKinds : Opcode → List Argument.Kind
  | getStat | delete | removeDirectory | readDirectoryEntries | listExtendedAttr => [.text]
  | rename | getExtendedAttr => [.text, .text]
  | mkdir | getFileHandle | createNewFile => [.text, .word]
  | readFileData => [.text, .handle, .offset, .word]
  | writeFileData => [.text, .handle, .offset, .data]
  | flush | closeFileHandle => [.text, .handle]
  | truncateFile => [.text, .offset]

namespace Request

/-- The arguments of a request in the order of its fields. -/
def arguments : Request → List Argument
  | getStat path | delete path | removeDirectory path | readDirectoryEntries path
  | listExtendedAttr path => [.text path]
  | rename source target => [.text source, .text target]
  | mkdir path word | getFileHandle path word | createNewFile path word =>
    [.text path, .word word]
  | readFileData handle offset length =>
    [.text handle.path, .handle handle.id, .offset offset, .word length]
  | writeFileData handle offset data =>
    [.text handle.path, .handle handle.id, .offset offset, .data data]
  | flush handle | closeFileHandle handle => [.text handle.path, .handle handle.id]
  | truncateFile path length => [.text path, .offset length]
  | getExtendedAttr path name => [.text path, .text name]

theorem kinds_arguments (request : Request) :
    request.arguments.map Argument.kind = request.opcode.argumentKinds := by
  cases request <;> rfl

/-- The request for an operation with given arguments. -/
def ofArguments? : Opcode → List Argument → Option Request
  | .getStat, [.text path] => some (.getStat path)
  | .delete, [.text path] => some (.delete path)
  | .removeDirectory, [.text path] => some (.removeDirectory path)
  | .rename, [.text source, .text target] => some (.rename source target)
  | .mkdir, [.text path, .word mode] => some (.mkdir path mode)
  | .readDirectoryEntries, [.text path] => some (.readDirectoryEntries path)
  | .getFileHandle, [.text path, .word flags] => some (.getFileHandle path flags)
  | .createNewFile, [.text path, .word mode] => some (.createNewFile path mode)
  | .readFileData, [.text path, .handle id, .offset offset, .word length] =>
    some (.readFileData ⟨path, id⟩ offset length)
  | .writeFileData, [.text path, .handle id, .offset offset, .data octets] =>
    some (.writeFileData ⟨path, id⟩ offset octets)
  | .flush, [.text path, .handle id] => some (.flush ⟨path, id⟩)
  | .closeFileHandle, [.text path, .handle id] => some (.closeFileHandle ⟨path, id⟩)
  | .truncateFile, [.text path, .offset length] => some (.truncateFile path length)
  | .listExtendedAttr, [.text path] => some (.listExtendedAttr path)
  | .getExtendedAttr, [.text path, .text name] => some (.getExtendedAttr path name)
  | _, _ => none

theorem ofArguments?_arguments (request : Request) :
    ofArguments? request.opcode request.arguments = some request := by
  cases request <;> rfl

/-! ## Fields -/

theorem readFrom_ofText (content : String) :
    (Argument.text content).ReadFrom (Field.ofText content) :=
  Field.toText_eq_ok_iff.mpr rfl

theorem readFrom_ofHandle (id : UInt64) : (Argument.handle id).ReadFrom (Field.ofHandle id) :=
  Field.toHandle_eq_ok_iff.mpr rfl

theorem readFrom_ofOffset {octet : UInt64} (inRange : (octet.toNat : Int) ≤ Int64.maxValue.toInt) :
    (Argument.offset octet).ReadFrom (Field.ofOffset octet.toInt64) := by
  refine ⟨octet.toInt64, Field.toOffset_ofOffset _, ?_⟩
  rw [Int64.toInt_maxValue] at inRange
  have word : octet.toInt64 = Int64.ofNat octet.toNat := by
    rw [← UInt64.toInt64_ofNat', UInt64.ofNat_toNat]
  rw [word, Int64.toInt_ofNat_of_lt (by omega)]

theorem readFrom_ofLength (value : UInt32) : (Argument.word value).ReadFrom (Field.ofLength value) :=
  Field.toLength_ofLength value

theorem readFrom_fields {request : Request} (inRange : request.InRange) :
    List.Forall₂ Argument.ReadFrom request.arguments request.fields := by
  cases request with
  | getStat path | delete path | removeDirectory path | readDirectoryEntries path
  | listExtendedAttr path => exact .cons (readFrom_ofText _) .nil
  | rename source target | getExtendedAttr source target =>
    exact .cons (readFrom_ofText _) (.cons (readFrom_ofText _) .nil)
  | mkdir path word | getFileHandle path word | createNewFile path word =>
    exact .cons (readFrom_ofText _) (.cons (readFrom_ofLength _) .nil)
  | readFileData handle offset length =>
    exact .cons (readFrom_ofText _) (.cons (readFrom_ofHandle _)
      (.cons (readFrom_ofOffset inRange.2) (.cons (readFrom_ofLength _) .nil)))
  | writeFileData handle offset data =>
    exact .cons (readFrom_ofText _) (.cons (readFrom_ofHandle _)
      (.cons (readFrom_ofOffset inRange) (.cons rfl .nil)))
  | flush handle | closeFileHandle handle =>
    exact .cons (readFrom_ofText _) (.cons (readFrom_ofHandle _) .nil)
  | truncateFile path length =>
    exact .cons (readFrom_ofText _) (.cons (readFrom_ofOffset inRange) .nil)

/-! ## Frames -/

/-- A gateway that reads the frame finds the request's own operation, and recovers the arguments
from the fields. -/
def CarriedBy (request : Request) (frame : ByteArray) : Prop :=
  ∃ fields, Frame.decodeRequest frame = .ok (request.opcode, fields) ∧
    List.Forall₂ Argument.ReadFrom request.arguments fields

theorem carriedBy_of_prepare {client : Client} {request : Request} {frame : ByteArray}
    (prepared : client.prepare request = .ok frame) : request.CarriedBy frame := by
  obtain ⟨admitted, written⟩ := Client.prepare_eq_ok_iff.mp prepared
  exact ⟨request.fields, Frame.decodeRequest_of_encodeRequest written,
    readFrom_fields admitted.inRange⟩

/-- No frame carries two requests. -/
theorem CarriedBy.unique {first second : Request} {frame : ByteArray}
    (one : first.CarriedBy frame) (two : second.CarriedBy frame) : first = second := by
  obtain ⟨fields, read, recovered⟩ := one
  obtain ⟨others, again, recoveredAgain⟩ := two
  rw [read, Except.ok.injEq, Prod.mk.injEq] at again
  obtain ⟨operation, rfl⟩ := again
  have alike : first.arguments.map Argument.kind = second.arguments.map Argument.kind := by
    rw [kinds_arguments, kinds_arguments, operation]
  have arguments := Argument.readFrom_unique alike recovered recoveredAgain
  apply Option.some.inj
  rw [← ofArguments?_arguments first, ← ofArguments?_arguments second, operation, arguments]

end Request

namespace Session

/-- Every frame that was written carries the request it was written for. -/
def Carried (session : Session) : Prop :=
  ∀ exchange ∈ session.exchanges, exchange.request.CarriedBy exchange.frame

theorem carried_step {session : Session} (carried : session.Carried) (event : Event) :
    (session.step event).Carried := by
  intro exchange member
  cases asked : event.request? with
  | none =>
    rw [exchanges_step_of_idle session asked] at member
    exact carried exchange member
  | some request =>
    cases prepared : session.client.prepare request with
    | error error =>
      rw [step_of_prepare_error asked prepared] at member
      exact carried exchange member
    | ok frame =>
      obtain ⟨outcome, written⟩ := exchanges_step_of_prepare asked prepared
      rw [written, List.mem_append, List.mem_singleton] at member
      rcases member with member | rfl
      · exact carried exchange member
      · exact Request.carriedBy_of_prepare prepared

theorem carried_run {session : Session} (carried : session.Carried) (events : List Event) :
    (session.run events).Carried := by
  induction events generalizing session with
  | nil => exact carried
  | cons event rest ih => exact ih (carried_step carried event)

theorem carried_ofClient (client : Client) : (ofClient client).Carried :=
  fun _ member => nomatch member

/-- A call writes a request exactly if the client is open, the arguments are in range and the
payload is within the limit. It then writes one frame, which carries the request, and its
gateway receives one request unless it has ended the stream. Over all sessions, frames
that are equal carry one request. -/
theorem written_requests_exact :
    (∀ (session : Session) (event : Event) (request : Request), event.request? = some request →
      (session.client.Admits request → ∃ frame outcome,
        (session.step event).exchanges = session.exchanges ++ [⟨request, frame, outcome⟩] ∧
        request.CarriedBy frame) ∧
      (¬ session.client.Admits request →
        (session.step event).exchanges = session.exchanges)) ∧
    (∀ (network : Network) (id : ClientId) (request : Request),
      ((network.client id).Admits request → (network.client id).stream.ended = false →
        ∃ frame, (network.perform id request).2.history = network.history ++
            [.request (Network.gatewayName (network.client id).address) frame] ∧
          request.CarriedBy frame) ∧
      (¬ (network.client id).Admits request → (network.perform id request).2 = network)) ∧
    (∀ (client other : Client) (events others : List Event),
      ∀ one ∈ ((ofClient client).run events).exchanges,
      ∀ two ∈ ((ofClient other).run others).exchanges,
      one.frame = two.frame → one.request = two.request) := by
  refine ⟨?_, ?_, ?_⟩
  · intro session event request asked
    constructor
    · intro admitted
      obtain ⟨frame, prepared⟩ := admitted.exists_prepare
      obtain ⟨outcome, written⟩ := exchanges_step_of_prepare asked prepared
      exact ⟨frame, outcome, written, Request.carriedBy_of_prepare prepared⟩
    · intro refused
      obtain ⟨error, prepared⟩ := Client.exists_error_of_not_admits refused
      rw [step_of_prepare_error asked prepared]
  · intro network id request
    constructor
    · intro admitted reached
      obtain ⟨frame, prepared⟩ := admitted.exists_prepare
      exact ⟨frame, Network.history_perform prepared reached,
        Request.carriedBy_of_prepare prepared⟩
    · intro refused
      obtain ⟨error, prepared⟩ := Client.exists_error_of_not_admits refused
      rw [Network.perform_of_prepare_error prepared]
  · intro client other events others one first two second same
    have carried := carried_run (carried_ofClient client) events one first
    have again := carried_run (carried_ofClient other) others two second
    rw [same] at carried
    exact carried.unique again

/-- The greatest offset of all is written, and read back as it is. -/
theorem written_requests_exact_greatest_offset :
    let session := ofClient { address := "gw:7000" }
    let request : Request := .truncateFile "/a" 0x7FFFFFFFFFFFFFFF
    session.client.Admits request ∧ ∃ frame outcome,
      (session.step (.call request .stall)).exchanges = [⟨request, frame, outcome⟩] ∧
      request.CarriedBy frame := by
  have admitted : Client.Admits { address := "gw:7000" }
      (.truncateFile "/a" 0x7FFFFFFFFFFFFFFF) := ⟨rfl, by decide, by decide⟩
  exact ⟨admitted, (written_requests_exact.1 (ofClient { address := "gw:7000" })
    (.call (.truncateFile "/a" 0x7FFFFFFFFFFFFFFF) .stall) _ rfl).1 admitted⟩

end Session
end FileGateway
