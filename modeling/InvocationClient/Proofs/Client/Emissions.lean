import InvocationClient.Proofs.Client.Plan
import InvocationClient.Proofs.Client.Requests

/-! # Emissions of a session

What the commands of a session emit, whatever becomes of it in the end. The records of a turn are
those that the client's logger makes of its emissions. There are three kinds of exchanges to look at:
polls, requests that expect a status, and restore reports.
-/

namespace InvocationClient

/-- What is emitted on the way of an exchange: before the request, by the transport, and when the
outcome is settled. -/
def Exchange.emissions {α : Type} (t : Transport) (x : Exchange α) : List Entry :=
  x.before ++ (t.execute x.request).entries ++ (x.settle (t.execute x.request).outcome).entries

namespace Plan

def emissions (t : Transport) : Plan → List Entry
  | exchange x => x.emissions t
  | settled _ => []
  | closing => []

def leaves (t : Transport) : Plan → Transport
  | exchange x => (t.execute x.request).transport
  | settled _ => t
  | closing => t.close

/-- The outcome that a plan gets for its request, if it makes one. -/
def outcome? (t : Transport) : Plan → Option Outcome
  | exchange x => some (t.execute x.request).outcome
  | settled _ => none
  | closing => none

end Plan

namespace Client

/-- The exchanges that commands are planned as. -/
inductive Planned (c : Client) : Command → Exchange Value → Prop where
  | poll : Planned c .poll (c.poll.map .invocation)
  | expecting {cmd : Command} {r : Request} {status : Int} {before : List Entry} :
      r.body = cmd.body? → status = okStatus ∨ status = acceptedStatus →
      before = [] ∨ (∃ report, before = causeDropped report) →
      Planned c cmd ((c.expecting r status before).map fun _ => .nothing)
  | restoring {payload : ByteArray} {errorType : Option String} :
      Planned c (.reportRestoreError payload errorType)
        ((c.reportRestoreError payload errorType).map .status)

def emissions (c : Client) (t : Transport) : List Command → List (List Entry)
  | [] => []
  | cmd :: cmds => (c.plan cmd).emissions t :: c.emissions ((c.plan cmd).leaves t) cmds

variable {c : Client} {registry : Registry} {t : Transport}

theorem plan_of_named {report : ErrorReport} {id : String} (hi : report.requestId = some id)
    (hn : id ≠ "") : c.plan (.reportError report) =
      .exchange ((c.expecting (c.postError (Path.error id) report) acceptedStatus
        (causeDropped report)).map fun _ => .nothing) := by
  rw [plan, reportError_of_named hi hn]

theorem planned_of_exchange {cmd : Command} {x : Exchange Value} (h : c.plan cmd = .exchange x) :
    Planned c cmd x := by
  cases cmd with
  | poll => cases h; exact .poll
  | reportSuccess id payload => cases h; exact .expecting rfl (.inl rfl) (.inl rfl)
  | reportError report =>
    rcases named_or_unnamed report with ⟨id, hi, hn⟩ | hu
    · rw [plan_of_named hi hn] at h
      cases h
      exact .expecting rfl (.inr rfl) (.inr ⟨report, rfl⟩)
    · rw [plan, reportError_of_unnamed hu] at h
      cases h
  | reportInitError payload errorType => cases h; exact .expecting rfl (.inr rfl) (.inl rfl)
  | pollRestore => cases h; exact .expecting rfl (.inl rfl) (.inl rfl)
  | reportRestoreError payload errorType => cases h; exact .restoring
  | close | enter | exit => cases h

/-- What is settled without a request: a report without a name is refused, and a client is
entered. -/
theorem settled_cases {cmd : Command} {result : Except Failure Value}
    (h : c.plan cmd = .settled result) :
    result = .error .requestIdRequired ∨ result = .ok .client := by
  cases cmd with
  | reportError report =>
    rcases named_or_unnamed report with ⟨id, hi, hn⟩ | hu
    · rw [plan_of_named hi hn] at h
      cases h
    · rw [plan, reportError_of_unnamed hu] at h
      cases h
      exact .inl rfl
  | enter => cases h; exact .inr rfl
  | poll | reportSuccess | reportInitError | pollRestore | reportRestoreError | close | exit =>
    cases h

theorem records_perform (cmd : Command) :
    (c.perform registry t cmd).records =
      c.logger.recordAll registry ((c.plan cmd).emissions t) := by
  rw [perform_eq_run]
  cases c.plan cmd with
  | exchange x => rfl
  | settled result => rfl
  | closing => rfl

theorem transport_perform_eq (cmd : Command) :
    (c.perform registry t cmd).transport = (c.plan cmd).leaves t := by
  rw [perform_eq_run]
  cases c.plan cmd with
  | exchange x => rfl
  | settled result => rfl
  | closing => rfl

theorem records_session (cmds : List Command) :
    (c.session registry t cmds).map (·.records) =
      (c.emissions t cmds).map (c.logger.recordAll registry) := by
  induction cmds generalizing t with
  | nil => rfl
  | cons cmd cmds ih =>
    rw [session, emissions, List.map_cons, List.map_cons, records_perform, transport_perform_eq, ih]

end Client

end InvocationClient
