import FileGateway.CommandLine
import FileGateway.Proofs.Monitor.Locations

/-! What commands come to. A command prints nothing before it finishes. One that fails leaves at
most log records, and a question to all hosts fails for its arguments alone: whatever the gateways
do, it is answered by every host in turn. -/
namespace FileGateway

namespace CommandLine

/-- Whether a command asks all hosts. -/
def Command.isMonitored : Command → Bool
  | attributes .. | blocks .. => true
  | stat _ | list _ => false

/-- A line that a host begins. -/
def entryLine (host shown : String) : String := host ++ ": " ++ shown

/-- The hub that a command begins with. -/
def Arguments.hub (arguments : Arguments) (network : Network) : Hub :=
  ⟨.ofSettings arguments.settings, network⟩

/-- The monitor of all hosts. -/
def Arguments.monitor (arguments : Arguments) : Monitor :=
  ⟨arguments.settings.hosts, .ofSettings arguments.settings⟩

/-- No call of a command waits for an answer for ever. -/
def Answered (arguments : Arguments) (network : Network) : Prop :=
  let hub := arguments.hub network
  let hosts := arguments.settings.hosts
  match arguments.command with
  | .stat path => ∀ host ∈ hosts.head?, ∀ id next, hub.client 0 host = (.ok id, next) →
    (next.network.perform id (.getStat path)).1 ≠ .error .cancelled
  | .list path => ∀ host ∈ hosts.head?, ∀ id next, hub.client 0 host = (.ok id, next) →
    (next.network.perform id (.readDirectoryEntries path)).1 ≠ .error .cancelled
  | .attributes path (some name) =>
    .error .cancelled ∉ (Hub.askEach 0 (.attributeValue path name) hub hosts).1
  | .attributes path none =>
    .error .cancelled ∉ (Hub.askEach 0 (.attributeNames path) hub hosts).1
  | .blocks path start length => .error .cancelled ∉ arguments.monitor.statOutcomes hub 0 path ∧
    ((Monitor.outline arguments.settings start (length.getD maxOffset)
        (arguments.monitor.knownLength hub 0 path)).isEmpty = false →
      .error .cancelled ∉ arguments.monitor.bitmapOutcomes hub 0 path)

/-- What is in the log once a command has failed after its first host was connected. -/
inductive FirstHostLog (settings : Settings) (host : String) (error : CommandError) :
    List LogRecord → Prop where
  | kept {address : String} (resolved : settings.resolve host = .ok address) :
      FirstHostLog settings host error [.connected address, .registered address]
  /-- The connection did not survive the failure. -/
  | dropped {address path : String} {op : Opcode} {cause : GatewayError}
      (resolved : settings.resolve host = .ok address) (same : error = .gateway cause) :
      FirstHostLog settings host error
        [.connected address, .registered address, .dropped address op path cause]

variable {arguments : Arguments} {network : Network} {memory : Nat}

theorem run_of_cons {first : String} {rest : List String}
    (listed : Address.splitList arguments.hosts = first :: rest) :
    (run memory arguments network).1 =
      (execute memory (arguments.hub network) 0 first arguments.command).1 := by
  have hosts : arguments.settings.hosts = first :: rest := listed
  rw [run, hosts]
  rfl

/-- Without a host there is nothing to run. -/
theorem run_of_nil (empty : Address.splitList arguments.hosts = []) :
    (run memory arguments network).1 = { ending := .failed .noHostsGiven } := by
  have hosts : arguments.settings.hosts = [] := empty
  rw [run, hosts]

/-- What holds of a report on all hosts, whatever they did. -/
structure Report.Unfailing (report : Report) : Prop where
  unfailed : ∀ error, report.ending ≠ .failed error
  late : report.ending ≠ .finished → report.lines = []

section ToAllHosts
variable {α : Type} (monitor : Monitor) (hub : Hub) (now : Nat)

theorem unfailing_reportAnswers (question : Question α) (render : α → String) :
    (reportAnswers monitor hub now question render).1.Unfailing := by
  rw [reportAnswers]
  cases monitor.survey hub now question.query with
  | mk answers next =>
    cases answers with
    | none => exact ⟨nofun, fun _ => rfl⟩
    | some answers => exact ⟨nofun, fun unfinished => absurd rfl unfinished⟩

theorem unfailing_reportBlocks (memory : Nat) (path : String) (start : UInt64)
    (length : Option UInt64) :
    (reportBlocks monitor hub memory now path start length).1.Unfailing := by
  rw [reportBlocks]
  split
  · rename_i halt _ _ _
    cases halt <;> exact ⟨nofun, fun _ => rfl⟩
  · exact ⟨nofun, fun unfinished => absurd rfl unfinished⟩

end ToAllHosts

/-- A report on all hosts is kept from them by a refusal of the monitor only. -/
theorem reportMonitor_failed_iff {hub : Hub} {report : Monitor → Report × Hub}
    (unfailing : ∀ monitor, (report monitor).1.Unfailing) :
    (∃ error, (reportMonitor hub report).1.ending = .failed error) ↔
      ∃ error, Monitor.ofSettings hub.pool.settings = .error error := by
  rw [reportMonitor]
  cases built : Monitor.ofSettings hub.pool.settings with
  | error error => exact ⟨fun _ => ⟨error, rfl⟩, fun _ => ⟨.gateway error, rfl⟩⟩
  | ok monitor =>
    exact ⟨fun ⟨error, failed⟩ => absurd failed ((unfailing monitor).unfailed error), nofun⟩

/-- A question to all hosts never fails once there is a monitor. -/
theorem exists_report_of_isMonitored (memory : Nat) (hub : Hub) (now : Nat) (first : String)
    {command : Command} (monitored : command.isMonitored = true) :
    ∃ report : Monitor → Report × Hub,
      execute memory hub now first command = reportMonitor hub report ∧
        ∀ monitor, (report monitor).1.Unfailing := by
  cases command with
  | stat path | list path => contradiction
  | attributes path name =>
    cases name with
    | none => exact ⟨_, rfl, fun monitor => unfailing_reportAnswers monitor hub now _ _⟩
    | some name => exact ⟨_, rfl, fun monitor => unfailing_reportAnswers monitor hub now _ _⟩
  | blocks path start length =>
    exact ⟨_, rfl, fun monitor => unfailing_reportBlocks monitor hub now memory path start length⟩

theorem lines_callFirst_of_unfinished {hub : Hub} {now : Nat} {host : String} {request : Request}
    {lines : request.Answer → List String}
    (unfinished : (callFirst hub now host request lines).1.ending ≠ .finished) :
    (callFirst hub now host request lines).1.lines = [] := by
  rw [callFirst] at unfinished ⊢
  split
  · rfl
  · split
    · rename_i failure _ _
      cases failure <;> rfl
    · rename_i given _ _ _ answered
      simp only [given, answered] at unfinished
      exact absurd rfl unfinished

theorem lines_reportMonitor_of_unfinished {hub : Hub} {report : Monitor → Report × Hub}
    (unfailing : ∀ monitor, (report monitor).1.Unfailing)
    (unfinished : (reportMonitor hub report).1.ending ≠ .finished) :
    (reportMonitor hub report).1.lines = [] := by
  rw [reportMonitor] at unfinished ⊢
  split
  · rfl
  · rename_i monitor built
    rw [built] at unfinished
    exact (unfailing monitor).late unfinished

/-- A report on all hosts that fails has been kept from them, so that no log is written. -/
theorem log_reportMonitor_of_failed {hub : Hub} {report : Monitor → Report × Hub}
    (unfailing : ∀ monitor, (report monitor).1.Unfailing) {error : CommandError}
    (failed : (reportMonitor hub report).1.ending = .failed error) :
    (reportMonitor hub report).1.log = [] := by
  rw [reportMonitor] at failed ⊢
  split
  · rfl
  · rename_i monitor built
    rw [built] at failed
    exact absurd failed ((unfailing monitor).unfailed error)

/-- A command that does not finish prints nothing. -/
theorem lines_execute_of_unfinished {hub : Hub} {now : Nat} {first : String} {command : Command}
    (unfinished : (execute memory hub now first command).1.ending ≠ .finished) :
    (execute memory hub now first command).1.lines = [] := by
  by_cases monitored : command.isMonitored = true
  · obtain ⟨report, same, unfailing⟩ :=
      exists_report_of_isMonitored memory hub now first monitored
    rw [same] at unfinished ⊢
    exact lines_reportMonitor_of_unfinished unfailing unfinished
  · cases command with
    | stat path | list path => exact lines_callFirst_of_unfinished unfinished
    | attributes path name | blocks path start length => exact absurd rfl monitored

theorem output_run_of_unfinished
    (unfinished : (run memory arguments network).1.ending ≠ .finished) :
    (run memory arguments network).1.output =
      (run memory arguments network).1.log.map LogRecord.message := by
  have quiet : (run memory arguments network).1.lines = [] := by
    cases listed : Address.splitList arguments.hosts with
    | nil => rw [run_of_nil listed]
    | cons first rest =>
      rw [run_of_cons listed] at unfinished ⊢
      exact lines_execute_of_unfinished unfinished
  rw [Report.output, quiet, List.append_nil]

/-- The client that a command asks is a new one. -/
theorem client_hub {host : String} {id : ClientId} {next : Hub}
    (given : (arguments.hub network).client 0 host = (.ok id, next)) :
    id = network.clients.size ∧
      arguments.settings.resolve host = .ok (next.network.client id).address := by
  have empty : ∀ address, (Pool.ofSettings arguments.settings).live network 0 address =
      (none, .ofSettings arguments.settings) := fun _ => rfl
  rw [Hub.client, Pool.get] at given
  simp only [Arguments.hub, empty] at given
  cases resolved : (Pool.ofSettings arguments.settings).settings.resolve host with
  | error error =>
    rw [resolved] at given
    cases given
  | ok address =>
    simp only [resolved] at given
    cases routed : network.route (Network.gatewayName address) with
    | error fault =>
      rw [Pool.connect_of_route_error routed] at given
      cases given
    | ok route =>
      rw [Pool.connect_of_route_ok routed] at given
      cases given
      refine ⟨rfl, resolved.trans ?_⟩
      rw [Network.client_connect_self routed]

/-- A call warns of nothing but of the failure that it ends in. -/
theorem ofCall_eq_nil_or {network after : Network} {id : ClientId} {request : Request}
    {error : GatewayError} (failed : network.perform id request = (.error (.error error), after)) :
    Log.ofCall network id request = [] ∨
      Log.ofCall network id request =
        [.dropped (network.client id).address request.opcode request.path error] := by
  rw [Log.ofCall]
  simp only [failed]
  split
  · exact .inr rfl
  · exact .inl rfl

theorem log_callFirst_of_failed {host : String} {request : Request}
    {lines : request.Answer → List String} {error : CommandError}
    (failed : (callFirst (arguments.hub network) 0 host request lines).1.ending = .failed error) :
    let log := (callFirst (arguments.hub network) 0 host request lines).1.log
    log = [] ∨ FirstHostLog arguments.settings host error log := by
  rw [callFirst] at failed ⊢
  split
  · exact .inl rfl
  · rename_i id next given
    right
    obtain ⟨fresh, resolved⟩ := client_hub given
    have connected : Log.ofClient (arguments.hub network).network next.network id =
        [.connected (next.network.client id).address,
          .registered (next.network.client id).address] :=
      if_neg (fresh ▸ Nat.lt_irrefl _)
    simp only [given] at failed
    split
    · rename_i failure after answered
      simp only [answered] at failed
      cases failure with
      | cancelled => cases failed
      | error cause =>
        cases failed
        rcases ofCall_eq_nil_or answered with silent | warned
        · simp only [connected, silent]
          exact .kept resolved
        · simp only [connected, warned]
          exact .dropped resolved rfl
    · rename_i answered
      simp only [answered] at failed
      cases failed

/-- A command that fails has connected to nothing, or to the first host only. -/
theorem log_run_of_failed {error : CommandError}
    (failed : (run memory arguments network).1.ending = .failed error) :
    (run memory arguments network).1.log = [] ∨ arguments.command.isMonitored = false ∧
      ∃ first ∈ (Address.splitList arguments.hosts).head?,
        FirstHostLog arguments.settings first error (run memory arguments network).1.log := by
  cases listed : Address.splitList arguments.hosts with
  | nil => exact .inl (congrArg Report.log (run_of_nil listed))
  | cons first rest =>
    rw [run_of_cons listed] at failed ⊢
    by_cases monitored : arguments.command.isMonitored = true
    · obtain ⟨report, same, unfailing⟩ :=
        exists_report_of_isMonitored memory (arguments.hub network) 0 first monitored
      rw [same] at failed ⊢
      exact .inl (log_reportMonitor_of_failed unfailing failed)
    · have single := Bool.eq_false_iff.mpr monitored
      cases command : arguments.command with
      | stat path | list path =>
        rw [command] at failed
        exact (log_callFirst_of_failed failed).imp_right fun log => ⟨rfl, first, rfl, log⟩
      | attributes path name | blocks path start length => rw [command] at single; cases single

/-- A question to all hosts fails just when there is no monitor of them. -/
theorem run_failed_iff (monitored : arguments.command.isMonitored = true) :
    (∃ error, (run memory arguments network).1.ending = .failed error) ↔
      Address.splitList arguments.hosts = [] ∨ arguments.blockSize = 0 ∨
        ∃ host ∈ Address.splitList arguments.hosts, ∃ error,
          arguments.settings.resolve host = .error error := by
  cases listed : Address.splitList arguments.hosts with
  | nil =>
    rw [run_of_nil listed]
    exact ⟨fun _ => .inl rfl, fun _ => ⟨_, rfl⟩⟩
  | cons first rest =>
    obtain ⟨report, same, unfailing⟩ :=
      exists_report_of_isMonitored memory (arguments.hub network) 0 first monitored
    rw [run_of_cons listed, same, reportMonitor_failed_iff unfailing, ← listed]
    exact Monitor.exists_ofHosts_eq_error_iff

/-- What all hosts answered is printed with one line for each of them in their order. -/
theorem reportAnswers_of_come {α : Type} (monitor : Monitor) {hub : Hub} {now : Nat}
    (question : Question α)
    (come : .error .cancelled ∉ (Hub.askEach now question.query hub monitor.hosts).1)
    (render : α → String) :
    let report := (reportAnswers monitor hub now question render).1
    report.ending = .finished ∧ ∃ shown : List String, shown.length = monitor.hosts.length ∧
      report.lines = List.zipWith entryLine monitor.hosts shown := by
  intro report
  have surveyed := Monitor.survey_eq_askEach come
  refine ⟨?_, (Hub.askEach now question.query hub monitor.hosts).1.map (fun outcome =>
    (outcome.toOption.join.map render).getD "-"), ?_, ?_⟩
  · simp only [report, reportAnswers, surveyed]
    rfl
  · rw [List.length_map, Hub.length_askEach]
  · simp only [report, reportAnswers, surveyed, Report.ofAnswers, List.map_zipWith,
      List.zipWith_map_right]
    congr
    funext host outcome
    rw [answerLine, HostAnswer.ofOutcome, entryLine]
    cases outcome.toOption.join <;> rfl

/-- A question that does not fail goes to the monitor of all hosts. -/
theorem reportMonitor_of_not_failed {hub : Hub} {report : Monitor → Report × Hub}
    (accepted : ∀ error, (reportMonitor hub report).1.ending ≠ .failed error) :
    reportMonitor hub report =
      report ⟨hub.pool.settings.hosts, .ofSettings hub.pool.settings⟩ := by
  rw [reportMonitor] at accepted ⊢
  cases built : Monitor.ofSettings hub.pool.settings with
  | error error =>
    rw [built] at accepted
    exact absurd rfl (accepted _)
  | ok monitor => rw [Monitor.eq_of_ofHosts built]

/-- A command that does not fail has a first host. -/
theorem run_of_not_failed
    (accepted : ∀ error, (run memory arguments network).1.ending ≠ .failed error) :
    ∃ first, first ∈ arguments.settings.hosts.head? ∧ (run memory arguments network).1 =
      (execute memory (arguments.hub network) 0 first arguments.command).1 := by
  cases listed : Address.splitList arguments.hosts with
  | nil =>
    rw [run_of_nil listed] at accepted
    exact absurd rfl (accepted _)
  | cons first rest =>
    refine ⟨first, ?_, run_of_cons listed⟩
    have hosts : arguments.settings.hosts = first :: rest := listed
    rw [hosts]
    rfl

theorem run_attributes {path : String} {name : Option String}
    (command : arguments.command = .attributes path name) (answered : Answered arguments network)
    (accepted : ∀ error, (run memory arguments network).1.ending ≠ .failed error) :
    let report := (run memory arguments network).1
    let hosts := Address.splitList arguments.hosts
    report.ending = .finished ∧ ∃ shown : List String, shown.length = hosts.length ∧
      report.lines = List.zipWith entryLine hosts shown := by
  intro report hosts
  obtain ⟨first, _, same⟩ := run_of_not_failed accepted
  rw [same, command] at accepted
  rw [show report = _ from same, command]
  rw [Answered, command] at answered
  cases name with
  | none =>
    rw [execute] at accepted ⊢
    rw [reportMonitor_of_not_failed accepted]
    exact reportAnswers_of_come arguments.monitor (.attributeNames path) answered _
  | some name =>
    rw [execute] at accepted ⊢
    rw [reportMonitor_of_not_failed accepted]
    exact reportAnswers_of_come arguments.monitor (.attributeValue path name) answered _

/-- How a command ends that lists locations. -/
def Ending.ofCollected : Except AllocationFault (List BlockLocation) → Ending
  | .ok _ => .finished
  | .error fault => .crashed fault

theorem ending_reportBlocks {monitor : Monitor} {hub : Hub} {now : Nat} {path : String}
    {start : UInt64} {length : Option UInt64} {placement : Placement}
    (placed : (monitor.place hub now path start (length.getD maxOffset)).1 = some placement) :
    (reportBlocks monitor hub memory now path start length).1.ending =
      .ofCollected (placement.collect memory) := by
  have given := Monitor.blockLocations_fst placed memory
  rw [reportBlocks]
  cases located : monitor.blockLocations hub memory now path start (length.getD maxOffset) with
  | mk outcome next =>
    rw [located] at given
    obtain rfl : outcome = (placement.collect memory).mapError .crashed := given
    cases placement.collect memory <;> rfl

theorem run_blocks {path : String} {start : UInt64} {length : Option UInt64}
    (command : arguments.command = .blocks path start length)
    (answered : Answered arguments network)
    (accepted : ∀ error, (run memory arguments network).1.ending ≠ .failed error) :
    ∃ placement,
      (arguments.monitor.place (arguments.hub network) 0 path start
        (length.getD maxOffset)).1 = some placement ∧
      (run memory arguments network).1.ending = .ofCollected (placement.collect memory) := by
  obtain ⟨first, _, same⟩ := run_of_not_failed accepted
  rw [same, command] at accepted ⊢
  rw [Answered, command] at answered
  obtain ⟨statsCome, bitmapsCome⟩ := answered
  have placed : (arguments.monitor.place (arguments.hub network) 0 path start
      (length.getD maxOffset)).1 = some _ :=
    Monitor.place_fst rfl statsCome bitmapsCome
  refine ⟨_, placed, ?_⟩
  rw [execute] at accepted ⊢
  rw [reportMonitor_of_not_failed accepted]
  exact ending_reportBlocks placed

/-- Unless a call waits for ever, a command that asks one host finishes or fails. -/
theorem ending_callFirst {hub : Hub} {now : Nat} {host : String} {request : Request}
    {lines : request.Answer → List String}
    (answered : ∀ id next, hub.client now host = (.ok id, next) →
      (next.network.perform id request).1 ≠ .error .cancelled) :
    (callFirst hub now host request lines).1.ending = .finished ∨
      ∃ error, (callFirst hub now host request lines).1.ending = .failed error := by
  rw [callFirst]
  split
  · exact .inr ⟨_, rfl⟩
  · rename_i id next connected
    split
    · rename_i failure network asked
      have come := answered id next connected
      rw [asked] at come
      cases failure with
      | cancelled => exact absurd rfl come
      | error error => exact .inr ⟨_, rfl⟩
    · exact .inl rfl

theorem ending_run_of_single (answered : Answered arguments network)
    (single : arguments.command.isMonitored = false) :
    (run memory arguments network).1.ending = .finished ∨
      ∃ error, (run memory arguments network).1.ending = .failed error := by
  by_cases accepted : ∀ error, (run memory arguments network).1.ending ≠ .failed error
  · obtain ⟨first, head, same⟩ := run_of_not_failed accepted
    rw [same]
    rw [Answered] at answered
    cases command : arguments.command with
    | stat path | list path =>
      rw [command] at answered
      exact ending_callFirst (answered first head)
    | attributes path name | blocks path start length => rw [command] at single; cases single
  · exact .inr (not_forall_not.mp accepted)

theorem ending_run_ne_gaveUp (answered : Answered arguments network) :
    (run memory arguments network).1.ending ≠ .gaveUp := by
  by_cases accepted : ∀ error, (run memory arguments network).1.ending ≠ .failed error
  · cases command : arguments.command with
    | stat path | list path =>
      have single : arguments.command.isMonitored = false := by rw [command]; rfl
      rcases ending_run_of_single answered single with finished | ⟨error, failed⟩
      · rw [finished]
        nofun
      · exact absurd failed (accepted error)
    | attributes path name =>
      obtain ⟨finished, -⟩ := run_attributes command answered accepted
      rw [finished]
      nofun
    | blocks path start length =>
      obtain ⟨placement, _, ends⟩ := run_blocks command answered accepted
      rw [ends]
      cases placement.collect memory <;> nofun
  · obtain ⟨error, failed⟩ := not_forall_not.mp accepted
    rw [failed]
    nofun

/-- If no call waits for ever, a command comes to an end, and unless it finishes, standard output
holds log records only. If it fails, they are about the first host, and there are none if all hosts
were to be asked. A question to one host finishes or fails. A question to all hosts fails just
for its hosts or its block size. If it does not, each host has one line about attributes, in the
order of the list, and the same goes for any way in which a fan-out to them can go; the blocks
end in whether there is a list for them, whatever was answered. -/
theorem run_outcomes {arguments : Arguments} {network : Network} (memory : Nat)
    (answered : Answered arguments network) :
    let report := (run memory arguments network).1
    let hosts := Address.splitList arguments.hosts
    report.ending ≠ .gaveUp ∧
    (report.ending ≠ .finished → report.output = report.log.map LogRecord.message) ∧
    (∀ error, report.ending = .failed error →
      report.log = [] ∨ arguments.command.isMonitored = false ∧
        ∃ first ∈ hosts.head?, FirstHostLog arguments.settings first error report.log) ∧
    (arguments.command.isMonitored = false →
      report.ending = .finished ∨ ∃ error, report.ending = .failed error) ∧
    (arguments.command.isMonitored = true →
      ((∃ error, report.ending = .failed error) ↔
        hosts = [] ∨ arguments.blockSize = 0 ∨
          ∃ host ∈ hosts, ∃ error, arguments.settings.resolve host = .error error)) ∧
    ((∀ error, report.ending ≠ .failed error) →
      (∀ path name, arguments.command = .attributes path name →
        report.ending = .finished ∧ ∃ shown : List String, shown.length = hosts.length ∧
          report.lines = List.zipWith entryLine hosts shown) ∧
      (∀ path start length, arguments.command = .blocks path start length →
        ∃ placement,
          (arguments.monitor.place (arguments.hub network) 0 path start
            (length.getD maxOffset)).1 = some placement ∧
          report.ending = .ofCollected (placement.collect memory))) ∧
    (∀ (α : Type) (question : Question α) moves state,
      (FanOut.State.start (arguments.hub network) 0 hosts).play question moves = some state →
        state.answers.map HostAnswer.host = hosts) := by
  intro report hosts
  refine ⟨ending_run_ne_gaveUp answered, output_run_of_unfinished, fun _ => log_run_of_failed,
    ending_run_of_single answered, run_failed_iff, ?_, ?_⟩
  · intro accepted
    refine ⟨?_, ?_⟩
    · exact fun path name command => run_attributes command answered accepted
    · exact fun path start length command => run_blocks command answered accepted
  · intro α question moves state played
    rw [FanOut.State.map_host_answers, FanOut.State.map_host_play played, FanOut.State.start,
      List.map_map]
    exact List.map_id hosts

/-- Two hosts, the second without a port. -/
def attributeOfTwo : Arguments := ⟨"a:1, b", 2, 4, .attributes "/f" (some "k")⟩

/-- A network with a route to the second of them. -/
def routeToSecond : Network where
  gateways := [("b:2", ⟨[.send ⟨#[0, 0, 0, 14, 0, 0, 0, 0, 0, 0, 0, 5, 0, 0, 0, 1,
    0, 0, 0, 1, 120]⟩], true⟩)]

theorem run_outcomes_one_route :
    (run 0 attributeOfTwo routeToSecond).1.ending = .finished ∧
      ∃ shown : List String, shown.length = 2 ∧
        (run 0 attributeOfTwo routeToSecond).1.lines =
          List.zipWith entryLine ["a:1", "b"] shown := by
  have answered : Answered attributeOfTwo routeToSecond := by
    show .error .cancelled ∉ (Hub.askEach 0 (.attributeValue "/f" "k")
      (attributeOfTwo.hub routeToSecond) attributeOfTwo.settings.hosts).1
    decide +kernel
  have accepted : (run 0 attributeOfTwo routeToSecond).1.ending = .finished := by decide +kernel
  obtain ⟨-, -, -, -, -, printed, -⟩ := run_outcomes 0 answered
  exact (printed (fun _ => by rw [accepted]; nofun)).1 "/f" (some "k") rfl

/-- A question to one host. -/
def statOfFirst : Arguments := ⟨"a:1", 9090, 4194304, .stat "/f"⟩

/-- A network with a gateway that ends the stream once it is asked. -/
def hangingUp : Network where
  gateways := [("a:1", ⟨[], true⟩)]

/-- A question for the blocks of a file up to its end. -/
def blocksToEnd : Arguments := ⟨"a:1", 9090, 1, .blocks "/f" 0 none⟩

/-- A command that fails may have written to the log, which is on standard output. And where no host
gives the length of a file, its end is taken to be the greatest offset: no list holds its blocks
of one byte, and no address space of 47 bits a list of its blocks of the default size. -/
theorem output_of_failed_or_crashed :
    (Answered statOfFirst hangingUp ∧
      (run 0 statOfFirst hangingUp).1.ending =
        .failed (.gateway (.io "a:1" .endOfStream)) ∧
      (run 0 statOfFirst hangingUp).1.output ≠ []) ∧
    Answered blocksToEnd {} ∧
      (∃ monitor, Monitor.ofSettings blocksToEnd.settings = .ok monitor) ∧
      (∀ memory, (run memory blocksToEnd {}).1.ending = .crashed .capacityOverflow) ∧
      (run 0x800000000000 { blocksToEnd with blockSize := 4194304 } {}).1.ending =
        .crashed (.outOfMemory 175921860444160) := by
  refine ⟨⟨?_, by decide +kernel, by decide +kernel⟩, ?_, ?_, ?_, by decide +kernel⟩
  · intro host first id next given
    cases first
    cases given
    have failed : (((statOfFirst.hub hangingUp).client 0 "a:1").2.network.perform 0
        (.getStat "/f")).1 = .error (.error (.io "a:1" .endOfStream)) := rfl
    exact fun cancelled => nomatch failed.symm.trans cancelled
  · have stats : blocksToEnd.monitor.statOutcomes (blocksToEnd.hub {}) 0 "/f" =
        [.error (.error (.connect "a:1" .refused))] := rfl
    have bitmaps : blocksToEnd.monitor.bitmapOutcomes (blocksToEnd.hub {}) 0 "/f" =
        [.error (.error (.connect "a:1" .refused))] := rfl
    refine ⟨?_, fun _ => ?_⟩
    · simp [stats]
    · simp [bitmaps]
  · exact ⟨_, rfl⟩
  · intro memory
    rfl

end CommandLine
end FileGateway
