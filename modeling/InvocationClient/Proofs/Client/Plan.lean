import InvocationClient.Client.Session

/-! # Plans

What a command amounts to before it is carried out: an exchange over the transport, a result that
needs none, or closing the transport. A session carries out the plans of its commands.
-/

namespace InvocationClient

def Exchange.map {α β : Type} (f : α → β) (x : Exchange α) : Exchange β where
  request := x.request
  before := x.before
  settle o := { result := (x.settle o).result.map f, entries := (x.settle o).entries }

inductive Plan where
  | exchange (x : Exchange Value)
  | settled (result : Except Failure Value)
  | closing

/-- Carries out a plan, an exchange as `carry` does. -/
def Plan.run (carry : Transport → Exchange Value → Turn Value) (t : Transport) :
    Plan → Turn Value
  | exchange x => carry t x
  | settled result => { result, transport := t }
  | closing => { result := .ok .nothing, transport := t.close }

namespace Client

/-- An error without a name is refused, so that it comes to no exchange. -/
def plan (c : Client) : Command → Plan
  | .poll => .exchange (c.poll.map .invocation)
  | .reportSuccess id payload => .exchange ((c.reportSuccess id payload).map fun _ => .nothing)
  | .reportError report =>
    match c.reportError report with
    | .error f => .settled (.error f)
    | .ok x => .exchange (x.map fun _ => .nothing)
  | .reportInitError payload errorType =>
    .exchange ((c.reportInitError payload errorType).map fun _ => .nothing)
  | .pollRestore => .exchange (c.pollRestore.map fun _ => .nothing)
  | .reportRestoreError payload errorType =>
    .exchange ((c.reportRestoreError payload errorType).map .status)
  | .close => .closing
  | .enter => .settled (.ok .client)
  | .exit => .closing

def runPlans (c : Client) (carry : Transport → Exchange Value → Turn Value) (t : Transport) :
    List Command → List (Turn Value)
  | [] => []
  | cmd :: cmds =>
    let turn := (c.plan cmd).run carry t
    turn :: c.runPlans carry turn.transport cmds

variable {c : Client} {registry : Registry} {t : Transport}

theorem perform_eq_run (cmd : Command) :
    c.perform registry t cmd = (c.plan cmd).run (c.carryOut registry) t := by
  cases cmd with
  | reportError report =>
    rw [perform, plan]
    cases c.reportError report with
    | error f => rfl
    | ok x => rfl
  | _ => rfl

theorem session_eq_runPlans (cmds : List Command) :
    c.session registry t cmds = c.runPlans (c.carryOut registry) t cmds := by
  induction cmds generalizing t with
  | nil => rfl
  | cons cmd cmds ih => rw [session, runPlans, perform_eq_run, ih]

/-- The logger has no part in what is planned. -/
theorem plan_logger (logger : Logger) (cmd : Command) :
    ({ c with logger } : Client).plan cmd = c.plan cmd := by
  cases cmd <;> rfl

end Client

end InvocationClient
