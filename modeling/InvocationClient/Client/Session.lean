import InvocationClient.Client.Operations

/-! # Sessions

A client's operations carried out over a transport, one after the other.
-/

namespace InvocationClient

/-- What an operation comes to: its result, the requests made, what was logged, and the transport
as it was left. -/
structure Turn (α : Type) where
  result : Except Failure α
  sent : List Sent := []
  records : List Record := []
  transport : Transport

namespace Turn

variable {α β : Type}

def map (f : α → β) (t : Turn α) : Turn β :=
  { t with result := t.result.map f }

end Turn

inductive Command where
  | poll
  | reportSuccess (id : String) (payload : ByteArray)
  | reportError (report : ErrorReport)
  | reportInitError (payload : ByteArray) (errorType : Option String)
  | pollRestore
  | reportRestoreError (payload : ByteArray) (errorType : Option String)
  | close
  | enter
  | exit

/-- A report of an error before its name and its cause are encoded. -/
structure RawReport where
  payload : ByteArray
  requestId : Option (List Text.CodePoint) := none
  errorType : Option String := none
  errorCause : Option (List Text.CodePoint) := none

namespace RawReport

def encoded (ps : List Text.CodePoint) : Except Failure String :=
  (Text.Utf8.text ps).mapError .unencodable

def report (r : RawReport) : Except Failure ErrorReport :=
  match r.requestId with
  | none => .error .requestIdRequired
  | some [] => .error .requestIdRequired
  | some id => do
    let id ← encoded id
    let cause ← r.errorCause.mapM encoded
    return {
      payload := r.payload
      requestId := some id
      errorType := r.errorType
      errorCause := cause }

end RawReport

/-- A command as it is called for. A surrogate may stand on its own in what has to be encoded. -/
inductive Call where
  | poll
  | reportSuccess (id : List Text.CodePoint) (payload : ByteArray)
  | reportError (r : RawReport)
  | reportInitError (payload : ByteArray) (errorType : Option String)
  | pollRestore
  | reportRestoreError (payload : ByteArray) (errorType : Option String)
  | close
  | enter
  | exit

def Call.command : Call → Except Failure Command
  | poll => .ok .poll
  | reportSuccess id payload => (RawReport.encoded id).map (.reportSuccess · payload)
  | reportError r => r.report.map .reportError
  | reportInitError payload errorType => .ok (.reportInitError payload errorType)
  | pollRestore => .ok .pollRestore
  | reportRestoreError payload errorType => .ok (.reportRestoreError payload errorType)
  | close => .ok .close
  | enter => .ok .enter
  | exit => .ok .exit

inductive Value where
  | nothing
  | invocation (i : Invocation)
  | status (n : Int)
  | client

namespace Client

variable {α : Type}

/-- Makes the request of an exchange, once, and logs through the client's logger. -/
def carryOut (c : Client) (registry : Registry) (t : Transport) (x : Exchange α) : Turn α :=
  let transfer := t.execute x.request
  let settled := x.settle transfer.outcome
  { result := settled.result
    sent := transfer.sent
    records := c.logger.recordAll registry (x.before ++ transfer.entries ++ settled.entries)
    transport := transfer.transport }

/-- An operation that may be refused before any request is made. -/
def carryOut? (c : Client) (registry : Registry) (t : Transport) (x : Except Failure (Exchange α)) :
    Turn α :=
  match x with
  | .error f => { result := .error f, transport := t }
  | .ok x => c.carryOut registry t x

/-- Leaving a client closes it, as closing does; entering it does nothing. -/
def perform (c : Client) (registry : Registry) (t : Transport) : Command → Turn Value
  | .poll => (c.carryOut registry t c.poll).map .invocation
  | .reportSuccess id payload =>
    (c.carryOut registry t (c.reportSuccess id payload)).map fun _ => .nothing
  | .reportError r => (c.carryOut? registry t (c.reportError r)).map fun _ => .nothing
  | .reportInitError payload errorType =>
    (c.carryOut registry t (c.reportInitError payload errorType)).map fun _ => .nothing
  | .pollRestore => (c.carryOut registry t c.pollRestore).map fun _ => .nothing
  | .reportRestoreError payload errorType =>
    (c.carryOut registry t (c.reportRestoreError payload errorType)).map .status
  | .close => { result := .ok .nothing, transport := t.close }
  | .enter => { result := .ok .client, transport := t }
  | .exit => { result := .ok .nothing, transport := t.close }

/-- Carries out commands one after the other, whatever becomes of each. -/
def session (c : Client) (registry : Registry) (t : Transport) : List Command → List (Turn Value)
  | [] => []
  | cmd :: cmds =>
    let turn := c.perform registry t cmd
    turn :: c.session registry turn.transport cmds

/-- A call that comes to no command makes no request. -/
def answer (c : Client) (registry : Registry) (t : Transport) (call : Call) : Turn Value :=
  match call.command with
  | .ok cmd => c.perform registry t cmd
  | .error f => { result := .error f, transport := t }

def answerAll (c : Client) (registry : Registry) (t : Transport) : List Call → List (Turn Value)
  | [] => []
  | call :: calls =>
    let turn := c.answer registry t call
    turn :: c.answerAll registry turn.transport calls

theorem pending_carryOut_le (c : Client) (registry : Registry) (t : Transport) (x : Exchange α) :
    (c.carryOut registry t x).transport.pending ≤ t.pending :=
  t.pending_execute_le x.request

theorem pending_carryOut?_le (c : Client) (registry : Registry) (t : Transport)
    (x : Except Failure (Exchange α)) :
    (c.carryOut? registry t x).transport.pending ≤ t.pending := by
  cases x with
  | error f => exact Nat.le_refl _
  | ok x => exact c.pending_carryOut_le registry t x

/-- A poll that yields an invocation takes one of the replies. -/
theorem pending_poll_lt {c : Client} {registry : Registry} {t : Transport} {i : Invocation}
    (h : (c.carryOut registry t c.poll).result = .ok i) :
    (c.carryOut registry t c.poll).transport.pending < t.pending := by
  cases ho : (t.execute c.poll.request).outcome with
  | ok response => exact Transport.pending_execute_lt ho
  | error f =>
    have h : (c.poll.settle (t.execute c.poll.request).outcome).result = .ok i := h
    rw [ho] at h
    simp only [poll] at h
    split at h <;> simp [pollBroken] at h

end Client

end InvocationClient
