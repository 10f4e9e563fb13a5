import FileGateway.Client.Session
import FileGateway.Proofs.Network.Stream

/-! A client that is open has lost no place: what it has read of its stream is one whole
response for each request that was written, in the order of the requests, and each
caller was given what its own response says. -/
namespace FileGateway

/-- What a call gives when `frame` is the response to its request. -/
def Request.outcome (request : Request) (address : String) (frame : ByteArray) :
    Except Failure request.Answer :=
  (Frame.decodeResponse frame request.opcode >>= request.interpret).mapError
    (fun error => .error (.protocol address (some request.path) error))

namespace Client

theorem closes_responseFailure (client : Client) (path : String) (fault : Stream.ResponseFault) :
    (client.responseFailure path fault).closes = fault.losesPlace := by
  cases fault with
  | short shortage => cases shortage <;> rfl
  | message error => rfl

theorem open_of_prepare {client : Client} {request : Request} {frame : ByteArray}
    (prepared : client.prepare request = .ok frame) : client.closed = false := by
  cases closed : client.closed with
  | false => rfl
  | true =>
    simp only [prepare, closed, bind, Except.bind, throw, throwThe, MonadExceptOf.throw] at prepared
    split at prepared <;> contradiction

theorem encodeRequest_of_prepare {client : Client} {request : Request} {frame : ByteArray}
    (prepared : client.prepare request = .ok frame) :
    Frame.encodeRequest request.opcode request.fields = .ok frame := by
  have opened := open_of_prepare prepared
  simp only [prepare, opened, bind, Except.bind] at prepared
  split at prepared
  · contradiction
  cases written : Frame.encodeRequest request.opcode request.fields with
  | error error =>
    rw [written] at prepared
    contradiction
  | ok bytes =>
    rw [written] at prepared
    cases prepared
    rfl

theorem conclude_eq_takeResponse (client : Client) (request : Request) :
    client.conclude request =
      match client.stream.takeResponse request.opcode with
      | (.error fault, stream) =>
        let failure := client.responseFailure request.path fault
        (.error failure, { client with stream, closed := client.closed || failure.closes })
      | (.ok response, stream) =>
        ((request.interpret response).mapError (fun error =>
          client.responseFailure request.path (.message error)), { client with stream }) := by
  rw [conclude, roundTrip]
  cases client.stream.takeResponse request.opcode with
  | mk result stream => cases result <;> rfl

/-- A client that stays open has read one response, which alone decides what is given. -/
theorem conclude_open {client next : Client} {request : Request}
    {outcome : Except Failure request.Answer}
    (concluded : client.conclude request = (outcome, next)) (opened : next.closed = false) :
    ∃ frame, client.stream.pending = frame ++ next.stream.pending ∧
      Stream.IsResponse request.opcode frame ∧
      outcome = request.outcome client.address frame := by
  rw [conclude_eq_takeResponse] at concluded
  split at concluded
  · rename_i fault stream read
    cases concluded
    have kept : fault.losesPlace = false := by
      rw [← client.closes_responseFailure request.path]
      exact (Bool.or_eq_false_iff.mp opened).2
    obtain ⟨frame, pending, _, whole, decoded⟩ := Stream.takeResponse_frame read
      (fun other same => Except.error.inj same ▸ kept)
    refine ⟨frame, pending, whole, ?_⟩
    rw [Request.outcome]
    cases judged : Frame.decodeResponse frame request.opcode with
    | ok response =>
      rw [judged] at decoded
      contradiction
    | error error =>
      rw [judged] at decoded
      cases decoded
      rfl
  · rename_i response stream read
    cases concluded
    obtain ⟨frame, pending, _, whole, decoded⟩ := Stream.takeResponse_frame read
      (fun other same => by contradiction)
    refine ⟨frame, pending, whole, ?_⟩
    rw [Request.outcome]
    cases judged : Frame.decodeResponse frame request.opcode with
    | ok other =>
      rw [judged] at decoded
      cases decoded
      rfl
    | error error =>
      rw [judged] at decoded
      contradiction

theorem address_conclude (client : Client) (request : Request) :
    (client.conclude request).2.address = client.address := by
  rw [conclude]
  split <;> rfl

/-- The whole call of a client that stays open: of what was pending or came in reply, one
response was read. -/
theorem perform_open {client next : Client} {request : Request} {reply : Reply}
    {frame : ByteArray} {outcome : Except Failure request.Answer}
    (prepared : client.prepare request = .ok frame)
    (performed : client.perform request reply = (outcome, next)) (opened : next.closed = false) :
    ∃ response,
      client.stream.pending ++ client.stream.arriving reply = response ++ next.stream.pending ∧
      Stream.IsResponse request.opcode response ∧
      outcome = request.outcome client.address response := by
  rw [perform, prepared] at performed
  obtain ⟨response, pending, whole, alone⟩ := conclude_open performed opened
  exact ⟨response, (client.stream.pending_receive reply).symm.trans pending, whole, alone⟩

theorem address_perform (client : Client) (request : Request) (reply : Reply) :
    (client.perform request reply).2.address = client.address := by
  rw [perform]
  split
  · rfl
  · exact address_conclude _ request

theorem address_interrupt (client : Client) (request : Request) (reply : Reply)
    (interruption : Interruption) :
    (client.interrupt request reply interruption).2.address = client.address := by
  rw [interrupt]
  split <;> rfl

theorem closed_interrupt {client : Client} {request : Request} {frame : ByteArray}
    (prepared : client.prepare request = .ok frame) (reply : Reply)
    (interruption : Interruption) :
    (client.interrupt request reply interruption).2.closed = true := by
  rw [interrupt, prepared]
  cases interruption with
  | abandoned => rfl
  | fault fault => rfl

end Client

namespace Session

/-- The exchange carried its request, and `frame` is a whole response that alone decided
what its caller was given. -/
structure Answers (address : String) (exchange : Exchange) (frame : ByteArray) : Prop where
  written :
    Frame.encodeRequest exchange.request.opcode exchange.request.fields = .ok exchange.frame
  whole : Stream.IsResponse exchange.request.opcode frame
  outcome : exchange.outcome = exchange.request.outcome address frame

def joined (frames : List ByteArray) : ByteArray :=
  frames.foldr (fun frame rest => frame ++ rest) ByteArray.empty

theorem joined_concat (frames : List ByteArray) (last : ByteArray) :
    joined (frames ++ [last]) = joined frames ++ last := by
  induction frames with
  | nil => exact ByteArray.append_empty.trans ByteArray.empty_append.symm
  | cons frame rest ih =>
    change frame ++ joined (rest ++ [last]) = frame ++ joined rest ++ last
    rw [ih, ByteArray.append_assoc]

/-- While the client is open, what it has read are the responses to its requests. -/
def InStep (session : Session) : Prop :=
  session.client.closed = false → ∃ frames,
    session.received = joined frames ++ session.client.stream.pending ∧
      List.Forall₂ (Answers session.client.address) session.exchanges frames

theorem inStep_ofClient (client : Client) : (ofClient client).InStep :=
  fun _ => ⟨[], ByteArray.empty_append.symm, .nil⟩

theorem inStep_call {session : Session} (synchronised : session.InStep) (request : Request)
    (reply : Reply) : (session.step (.call request reply)).InStep := by
  simp only [step, record]
  cases prepared : session.client.prepare request with
  | error error => exact synchronised
  | ok written =>
    have kept := session.client.address_perform request reply
    cases performed : session.client.perform request reply with
    | mk outcome next =>
      intro opened
      replace kept : next.address = session.client.address := by rwa [performed] at kept
      obtain ⟨frames, received, answered⟩ := synchronised (Client.open_of_prepare prepared)
      obtain ⟨frame, pending, whole, alone⟩ := Client.perform_open prepared performed opened
      refine ⟨frames ++ [frame], ?_, ?_⟩
      · simp only [received, joined_concat, ByteArray.append_assoc, pending]
      · have last : Answers session.client.address ⟨request, written, outcome⟩ frame :=
          ⟨Client.encodeRequest_of_prepare prepared, whole, alone⟩
        rw [kept]
        exact List.rel_append answered (.cons last .nil)

theorem inStep_cut {session : Session} (synchronised : session.InStep) (request : Request)
    (reply : Reply) (interruption : Interruption) :
    (session.step (.cut request reply interruption)).InStep := by
  simp only [step, record]
  cases prepared : session.client.prepare request with
  | error error => exact synchronised
  | ok written =>
    intro opened
    simp only [Client.closed_interrupt prepared] at opened
    contradiction

theorem inStep_step {session : Session} (synchronised : session.InStep) (event : Event) :
    (session.step event).InStep := by
  cases event with
  | call request reply => exact inStep_call synchronised request reply
  | cut request reply interruption => exact inStep_cut synchronised request reply interruption
  | arrival reply =>
    intro opened
    obtain ⟨frames, received, answered⟩ := synchronised opened
    refine ⟨frames, ?_, answered⟩
    simp only [step, Stream.pending_receive, received, ByteArray.append_assoc]
  | close =>
    intro opened
    contradiction

theorem inStep_run {session : Session} (synchronised : session.InStep) (events : List Event) :
    (session.run events).InStep := by
  -- The invariant says nothing of a closed client, which no event opens again.
  induction events generalizing session with
  | nil => exact synchronised
  | cons event rest ih => exact ih (inStep_step synchronised event)

theorem address_record (session : Session) (request : Request) (reply : Reply)
    {given : Except Failure request.Answer × Client}
    (kept : given.2.address = session.client.address) :
    (session.record request reply given).client.address = session.client.address := by
  rw [record]
  split
  · rfl
  · exact kept

theorem address_step (session : Session) (event : Event) :
    (session.step event).client.address = session.client.address := by
  cases event with
  | call request reply =>
    exact session.address_record request reply (session.client.address_perform request reply)
  | cut request reply interruption =>
    exact session.address_record request reply
      (session.client.address_interrupt request reply interruption)
  | arrival reply => rfl
  | close => rfl

theorem address_run (session : Session) (events : List Event) :
    (session.run events).client.address = session.client.address := by
  induction events generalizing session with
  | nil => rfl
  | cons event rest ih => exact (ih (session.step event)).trans (session.address_step event)

/-- While a client is open, the octets that it has read are one whole response for each
request that was written, in the order of the requests, and the outcome of each call is
determined by its request and the response in its own place. -/
theorem run_synchronised (client : Client) (events : List Event)
    (opened : ((ofClient client).run events).client.closed = false) :
    ∃ frames : List ByteArray,
      ((ofClient client).run events).received =
        joined frames ++ ((ofClient client).run events).client.stream.pending ∧
      List.Forall₂ (Answers client.address) ((ofClient client).run events).exchanges frames := by
  obtain ⟨frames, received, answered⟩ := inStep_run (inStep_ofClient client) events opened
  rw [address_run] at answered
  exact ⟨frames, received, answered⟩

/-- The response to the second request, and an octet behind it, come with the refusal of
the first. -/
theorem run_synchronised_response_ahead :
    let session := (ofClient { address := "gw:7000" }).run
      [.call (.delete "/a") (.send ⟨#[0, 0, 0, 1, 255, 255, 255, 254, 0, 0, 0, 0, 0, 0, 0, 0,
          0, 0, 0, 3, 0, 0, 0, 0, 0, 0, 0, 0, 0, 0, 0, 0, 9]⟩),
        .call (.rename "/a" "/b") .stall]
    session.client.closed = false ∧ session.client.stream.pending = ⟨#[9]⟩ ∧
      ∃ frames : List ByteArray,
        session.received = joined frames ++ session.client.stream.pending ∧
        List.Forall₂ (Answers "gw:7000") session.exchanges frames :=
  ⟨rfl, rfl, run_synchronised { address := "gw:7000" } _ rfl⟩

end Session
end FileGateway
