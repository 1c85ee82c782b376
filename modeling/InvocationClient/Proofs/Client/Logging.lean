import InvocationClient.Proofs.Client.Plan
import InvocationClient.Proofs.Client.Settlement
import InvocationClient.Proofs.Log.Emission

/-! # Logging apart

A session with every emission in its place, where what is raised out of an emission would end the
operation. Through a logger it is the session itself. What it sends and comes to does not depend on
the logger.
-/

namespace InvocationClient

variable {α : Type} {registry : Registry} {t : Transport} {escaped : Failure}

/-- Over HTTP a request is announced before it is sent, and its answer before it is handed on. What
is raised by an announcement is `escaped`. -/
def Http.Connection.executeStepwise (emit : Emitter) (escaped : Failure) (c : Connection)
    (r : Request) : Turn Response :=
  let announced := emit (sending r (c.url r))
  if announced.raised then
    { result := .error escaped, records := announced.records, transport := .http c }
  else match c.refusal? r with
    | some f => { result := .error f, records := announced.records, transport := .http c }
    | none =>
      let received := c.receive r c.next
      let answered := emit.emitAll received.2
      { result := if answered.raised then .error escaped else received.1
        sent := [.http (c.call r)]
        records := announced.records ++ answered.records
        transport := .http { c with replies := c.replies.tail } }

def Transport.executeStepwise (emit : Emitter) (escaped : Failure) (t : Transport) (r : Request) :
    Turn Response :=
  match t with
  | injected replies =>
    { result := replies.head?.getD exhausted
      sent := [.direct r]
      transport := injected replies.tail }
  | http c => c.executeStepwise emit escaped r

/-- An operation logs before its request is made, and again before it ends in its result. -/
def Exchange.stepwise (emit : Emitter) (escaped : Failure) (t : Transport) (x : Exchange α) :
    Turn α :=
  let begun := emit.emitAll x.before
  if begun.raised then { result := .error escaped, records := begun.records, transport := t }
  else
    let turn := t.executeStepwise emit escaped x.request
    let settled := x.settle turn.result
    let ended := emit.emitAll settled.entries
    { result := if ended.raised then .error escaped else settled.result
      sent := turn.sent
      records := begun.records ++ turn.records ++ ended.records
      transport := turn.transport }

theorem Http.Connection.executeStepwise_emitter (l : Logger) (c : Connection) (r : Request) :
    c.executeStepwise (l.emitter registry) escaped r =
      { result := (c.execute r).outcome
        sent := (c.execute r).calls.map .http
        records := l.recordAll registry (c.execute r).entries
        transport := .http (c.execute r).connection } := by
  simp only [executeStepwise, execute, Logger.emitter_eq, Logger.emitAll_emitter]
  cases c.refusal? r with
  | some f => simp [Logger.recordAll]
  | none => simp [Logger.recordAll]

theorem Transport.executeStepwise_emitter (l : Logger) (t : Transport) (r : Request) :
    t.executeStepwise (l.emitter registry) escaped r =
      { result := (t.execute r).outcome
        sent := (t.execute r).sent
        records := l.recordAll registry (t.execute r).entries
        transport := (t.execute r).transport } := by
  cases t with
  | injected replies => rfl
  | http c => exact c.executeStepwise_emitter l r

namespace Client

variable {c : Client}

/-- A logger lets an exchange take its course. -/
theorem stepwise_emitter (c : Client) (x : Exchange α) :
    x.stepwise (c.logger.emitter registry) escaped t = c.carryOut registry t x := by
  simp [Exchange.stepwise, carryOut, Transport.executeStepwise_emitter, Logger.emitAll_emitter]

/-- A session with every emission in its place. -/
def sessionStepwise (c : Client) (emit : Emitter) (escaped : Failure) (t : Transport)
    (cmds : List Command) : List (Turn Value) :=
  c.runPlans (fun t x => x.stepwise emit escaped t) t cmds

theorem sessionStepwise_emitter (c : Client) (cmds : List Command) :
    c.sessionStepwise (c.logger.emitter registry) escaped t cmds = c.session registry t cmds := by
  have hc : (fun (t : Transport) (x : Exchange Value) =>
      x.stepwise (c.logger.emitter registry) escaped t) = c.carryOut registry :=
    funext fun _ => funext fun x => c.stepwise_emitter x
  rw [sessionStepwise, session_eq_runPlans, hc]

/-- Where an emission can raise, nothing may be sent for it. -/
example (thrown : Thrown) :
    (sample.sessionStepwise (fun _ => { raised := true }) (.foreign thrown) (sample.connect [])
      [.poll]).map (fun turn => (turn.result, turn.sent)) = [(.error (.foreign thrown), [])] := rfl

end Client

def Turn.silent (turn : Turn α) : Turn α := { turn with records := [] }

namespace Client

theorem silent_carryOut (c : Client) (logger : Logger) (registry registry' : Registry)
    (t : Transport) (x : Exchange α) :
    (({ c with logger } : Client).carryOut registry' t x).silent =
      (c.carryOut registry t x).silent := rfl

theorem silent_perform (c : Client) (logger : Logger) (registry registry' : Registry)
    (t : Transport) (cmd : Command) :
    (({ c with logger } : Client).perform registry' t cmd).silent =
      (c.perform registry t cmd).silent := by
  rw [perform_eq_run, perform_eq_run, plan_logger]
  cases c.plan cmd with
  | exchange x => exact silent_carryOut c logger registry registry' t x
  | settled result => rfl
  | closing => rfl

/-- What one logger makes of a turn does not reach the next turn. -/
theorem silent_session (c : Client) (logger : Logger) (registry registry' : Registry)
    (t : Transport) (cmds : List Command) :
    (({ c with logger } : Client).session registry' t cmds).map Turn.silent =
      (c.session registry t cmds).map Turn.silent := by
  induction cmds generalizing t with
  | nil => rfl
  | cons cmd cmds ih =>
    have hp := silent_perform c logger registry registry' t cmd
    have ht : (({ c with logger } : Client).perform registry' t cmd).transport =
        (c.perform registry t cmd).transport := congrArg (fun turn => turn.transport) hp
    rw [session, session, List.map_cons, List.map_cons, hp, ht, ih]

/-- What is logged, and where to, leaves what a client is made of as it is. -/
theorem make_logging (registry registry' : Registry) (process process' : Environment)
    (version : String) (options : Options) (target target' : LogTarget)
    (level level' : Option Level) (given : Option String) :
    (∃ f, (make registry process version { options with logger := target, logLevel := level }
          given).result = .error f ∧
        (make registry' process' version { options with logger := target', logLevel := level' }
          given).result = .error f) ∨
      ∃ c logger, (make registry process version { options with logger := target, logLevel := level }
            given).result = .ok c ∧
        (make registry' process' version { options with logger := target', logLevel := level' }
          given).result = .ok { c with logger } := by
  unfold make
  cases Endpoint.parse given with
  | error f => exact .inl ⟨f, rfl, rfl⟩
  | ok endpoint => exact .inr ⟨_, _, rfl, rfl⟩

/-- Two clients that were given the same, except for their loggers and levels, are both refused for
one reason, or go through every session alike: they send the same and come to the same, over an
injected transport and over HTTP. Whatever the sinks raise on the way has no part in it. -/
theorem session_unaffected_by_logging (registry registry' : Registry)
    (process process' : Environment) (version : String) (options : Options)
    (target target' : LogTarget) (level level' : Option Level) (given : Option String) :
    let made := (make registry process version
      { options with logger := target, logLevel := level } given).result
    let made' := (make registry' process' version
      { options with logger := target', logLevel := level' } given).result
    (∃ f, made = .error f ∧ made' = .error f) ∨
      ∃ c c', made = .ok c ∧ made' = .ok c' ∧
        ∀ (r r' : Registry) (escaped escaped' : Failure) (cmds : List Command),
          (∀ replies,
            (c.sessionStepwise (c.logger.emitter r) escaped (.injected replies) cmds).map
                Turn.silent =
              (c'.sessionStepwise (c'.logger.emitter r') escaped' (.injected replies) cmds).map
                Turn.silent) ∧
          (∀ replies,
            (c.sessionStepwise (c.logger.emitter r) escaped (c.connect replies) cmds).map
                Turn.silent =
              (c'.sessionStepwise (c'.logger.emitter r') escaped' (c'.connect replies) cmds).map
                Turn.silent) ∧
          ∀ t, c.sessionStepwise (c.logger.emitter r) escaped t cmds = c.session r t cmds ∧
            c'.sessionStepwise (c'.logger.emitter r') escaped' t cmds = c'.session r' t cmds := by
  intro made made'
  rcases make_logging registry registry' process process' version options target target' level
    level' given with hf | ⟨c, logger, hc, hc'⟩
  · exact .inl hf
  · refine .inr ⟨c, _, hc, hc', fun r r' escaped escaped' cmds => ⟨fun replies => ?_,
      fun replies => ?_, fun t => ⟨c.sessionStepwise_emitter cmds, sessionStepwise_emitter _ cmds⟩⟩⟩
    · rw [sessionStepwise_emitter, sessionStepwise_emitter]
      exact (silent_session c logger r r' _ cmds).symm
    · rw [sessionStepwise_emitter, sessionStepwise_emitter]
      exact (silent_session c logger r r' _ cmds).symm

end Client

end InvocationClient
