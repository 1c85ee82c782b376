import InvocationClient.Client.Session
import InvocationClient.Handler

/-! # The runtime loop

A runtime polls for an invocation, hands it to its handler and reports what came of it, until a
poll fails. A handler that cannot be loaded is reported instead.
-/

namespace InvocationClient

/-- Where a runtime is deployed: the modules its handler may be in, and the places that a failure
comes through there. -/
structure Deployment where
  homes : List Handler.Home := []
  trace : Failure → List Frame := fun _ => []

namespace Loop

structure Run where
  result : Except Failure Unit
  sent : List Sent := []
  records : List Record := []
  output : String := ""
  /-- None if there was no client. -/
  transport : Option Transport

def Run.after {α : Type} (turn : Turn α) (run : Run) : Run :=
  { run with sent := turn.sent ++ run.sent, records := turn.records ++ run.records }

def endsRun (f : Failure) : Bool :=
  match f.error? with
  | some e => match e.problem with
    | .nextInvocation _ _ => true
    | .missingMetadata _ => true
    | _ => false
  | none => false

def farewell (f : Failure) : String :=
  "→ Poll failed, exiting: " ++ f.message ++ "\n"

def stop (f : Failure) (t : Transport) : Run :=
  if endsRun f then { result := .ok (), output := farewell f, transport := some t.close }
  else { result := .error f, transport := some t }

def answer (c : Client) (registry : Registry) (trace : Failure → List Frame) (handler : Handler)
    (i : Invocation) (t : Transport) : Turn Unit :=
  match handler i with
  | .ok payload => c.carryOut registry t (c.reportSuccess i.id payload)
  | .error f => c.carryOut? registry t (c.reportError (.ofFailure f (trace f) (some i.id)))

theorem pending_answer_le (c : Client) (registry : Registry) (trace : Failure → List Frame)
    (handler : Handler) (i : Invocation) (t : Transport) :
    (answer c registry trace handler i t).transport.pending ≤ t.pending := by
  unfold answer
  split
  · exact c.pending_carryOut_le ..
  · exact c.pending_carryOut?_le ..

def serve (c : Client) (registry : Registry) (trace : Failure → List Frame) (handler : Handler)
    (t : Transport) : Run :=
  let polled := c.carryOut registry t c.poll
  match _polled : polled.result with
  | .error f => .after polled (stop f polled.transport)
  | .ok i =>
    let answered := answer c registry trace handler i polled.transport
    match answered.result with
    | .error f =>
      .after polled (.after answered { result := .error f, transport := some answered.transport })
    | .ok () =>
      .after polled (.after answered (serve c registry trace handler answered.transport))
  termination_by t.pending
  decreasing_by
    exact Nat.lt_of_le_of_lt (pending_answer_le ..) (Client.pending_poll_lt _polled)

def giveUp (c : Client) (registry : Registry) (trace : Failure → List Frame) (f : Failure)
    (t : Transport) : Run :=
  let report := ErrorReport.ofFailure f (trace f) none
  let turn := c.carryOut registry t (c.reportInitError report.payload report.errorType)
  match turn.result with
  | .error e => .after turn { result := .error e, transport := some turn.transport }
  | .ok () => .after turn { result := .error f, transport := some turn.transport.close }

/-- Runs a client over a transport with what loading its handler came to. -/
def runLoaded (c : Client) (registry : Registry) (trace : Failure → List Frame)
    (loaded : Except Failure Handler) (t : Transport) : Run :=
  match loaded with
  | .error f => giveUp c registry trace f t
  | .ok handler => serve c registry trace handler t

def run (c : Client) (registry : Registry) (deployment : Deployment) (default : Handler)
    (spec : Option String) (t : Transport) : Run :=
  runLoaded c registry deployment.trace
    ((Handler.load deployment.homes default spec).mapError .unloadable) t

/-- Makes a client as the environment says and runs it over its own HTTP connection. -/
def start (env : Environment) (version : String) (seconds : Float) (deployment : Deployment)
    (replies : List Http.Reply) : Run :=
  let opening := Client.openFrom env {} env version {}
  match opening.result with
  | .error f => { result := .error f, records := opening.records, transport := none }
  | .ok c =>
    let run := run c opening.registry deployment (Handler.echo Json.depthLimit seconds)
      (Association.get? Environment.handlerVariable env) (c.connect replies)
    { run with records := opening.records ++ run.records }

end Loop

end InvocationClient
