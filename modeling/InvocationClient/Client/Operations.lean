import InvocationClient.Client.Basic
import InvocationClient.Report
import InvocationClient.Text.Encoding

/-! # Operations

The requests of the runtime API, and what each of them answers to every outcome. None is repeated.
-/

namespace InvocationClient

namespace Path

def nextInvocation : String := "/2018-06-01/runtime/invocation/next"

def ofInvocation (id action : String) : String :=
  "/2018-06-01/runtime/invocation/" ++ Text.Percent.encode id ++ "/" ++ action

def response (id : String) : String := ofInvocation id "response"

def error (id : String) : String := ofInvocation id "error"

def initError : String := "/2018-06-01/runtime/init/error"

def restoreNext : String := "/2018-06-01/runtime/restore/next"

def restoreError : String := "/2018-06-01/runtime/restore/error"

end Path

namespace Client

def okStatus : Int := 200

def acceptedStatus : Int := 202

def get (c : Client) (path : String) (timeout : Float) : Request where
  method := "GET"
  path := path
  headers := [("User-Agent", c.userAgent)]
  timeout := some timeout

def post (c : Client) (path : String) (extra : Fields) (body : ByteArray) : Request where
  method := "POST"
  path := path
  headers := ("User-Agent", c.userAgent) :: extra
  body := some body
  timeout := some c.requestTimeout

def logged (level : Level) (template : String) (arguments : List Argument) : Entry where
  level := level
  message := ⟨template, arguments⟩

def pollBroken (url : String) (e : ClientError) (cause : Failure) : Settled Invocation where
  result := .error (.because ⟨.nextInvocation url none, e.context⟩ cause)
  entries := [logged .error "Next invocation poll failed: %s" [.text e.message]]

/-- The poll was answered with another status. A status that cannot be written is not told of. -/
def pollRefused (url : String) (status : Int) : Settled Invocation where
  result := .error <|
    match Number.Writable.ofInt? status with
    | some status =>
      .because ⟨.nextInvocation url (some status), .absent⟩ (.client ⟨.report url status, .absent⟩)
    | none => .unwritableInteger
  entries := [logged .error "Next invocation poll returned status=%d" [.number status]]

def pollAnswered (response : Response) : Settled Invocation :=
  match Metadata.extract response.headers (some response.body) with
  | .error f => { result := .error f }
  | .ok i =>
    { result := .ok i
      entries := [logged .debug "Received invocation id=%s bytes=%d deadline=%d"
        [.text i.id, .number i.content.size, .number i.deadline]] }

/-- The transport's own error behind a failure; others pass through the client as they are. -/
def transportError? (f : Failure) : Option ClientError :=
  match f.error? with
  | some e => match e.problem with
    | .transport _ => some e
    | _ => none
  | none => none

def poll (c : Client) : Exchange Invocation where
  request := c.get Path.nextInvocation c.pollTimeout
  settle
    | .error f =>
      match transportError? f with
      | some e => pollBroken (c.baseUrl ++ Path.nextInvocation) e f
      | none => { result := .error f }
    | .ok response =>
      if response.status = okStatus then pollAnswered response
      else pollRefused (c.baseUrl ++ Path.nextInvocation) response.status

/-- A request that failed on its way, told with the request it was. -/
def sendFailed {α : Type} (c : Client) (r : Request) (f : Failure) : Settled α :=
  match transportError? f with
  | some e =>
    { result := .error (.because
        ⟨.transport (r.method ++ " " ++ c.baseUrl ++ r.path ++ " failed: " ++ e.message), e.context⟩ f)
      entries := [logged .error "%s %s failed: %s" [.text r.method, .text r.path, .text e.message]] }
  | none => { result := .error f }

/-- A report was answered with another status, which has to be written to be told of. -/
def reportRefused (url : String) (response : Response) : Failure :=
  match Number.Writable.ofInt? response.status with
  | some status => .client ⟨.report url status, .bytes response.body⟩
  | none => .unwritableInteger

/-- Any status but the expected one is a failure. -/
def expect (c : Client) (path : String) (expected : Int) (response : Response) : Settled Unit :=
  if response.status = expected then { result := .ok () }
  else
    { result := .error (reportRefused (c.baseUrl ++ path) response)
      entries := [logged .warn "%s returned status=%d, expected %d"
        [.text (c.baseUrl ++ path), .number response.status, .number expected]] }

/-- An exchange that is over once it has been answered with the expected status. -/
def expecting (c : Client) (r : Request) (expected : Int) (before : List Entry) :
    Exchange Unit where
  request := r
  before := before
  settle
    | .error f => c.sendFailed r f
    | .ok response => c.expect r.path expected response

def reportSuccess (c : Client) (id : String) (payload : ByteArray) : Exchange Unit :=
  c.expecting (c.post (Path.response id) [] payload) okStatus []

def contentType : String × String := ("Content-Type", "application/json")

def typeHeader : String := "Lambda-Runtime-Function-Error-Type"

def causeHeader : String := "Lambda-Runtime-Function-XRay-Error-Cause"

/-- The header fields of an error report; an empty type is not sent. -/
def errorFields (r : ErrorReport) : Fields :=
  contentType ::
    ((r.errorType.filter (· ≠ "")).toList.map fun t => (typeHeader, t)) ++
    (r.sendableCause.toList.map fun cause => (causeHeader, cause))

def postError (c : Client) (path : String) (r : ErrorReport) : Request :=
  c.post path (errorFields r) r.payload

/-- A cause that is not sent is mentioned. -/
def causeDropped (r : ErrorReport) : List Entry :=
  if r.errorCause.isSome && r.sendableCause.isNone then
    [logged .debug "Dropping X-Ray error cause over header size limit" []]
  else []

/-- Reports the failure of an invocation, which has to be named. -/
def reportError (c : Client) (r : ErrorReport) : Except Failure (Exchange Unit) :=
  match r.requestId with
  | none => .error .requestIdRequired
  | some id =>
    if id = "" then .error .requestIdRequired
    else .ok (c.expecting (c.postError (Path.error id) r) acceptedStatus (causeDropped r))

def reportInitError (c : Client) (payload : ByteArray) (errorType : Option String) :
    Exchange Unit :=
  c.expecting (c.postError Path.initError { payload, errorType }) acceptedStatus []

/-- Waits until the runtime is restored from a snapshot. -/
def pollRestore (c : Client) : Exchange Unit :=
  c.expecting (c.get Path.restoreNext c.requestTimeout) okStatus []

/-- Reports that restoring failed. The caller judges the status of the answer. -/
def reportRestoreError (c : Client) (payload : ByteArray) (errorType : Option String) :
    Exchange Int :=
  let r := c.postError Path.restoreError { payload, errorType }
  { request := r
    settle
      | .error f => c.sendFailed r f
      | .ok response =>
        { result := .ok response.status
          entries := if response.status = acceptedStatus then []
            else [logged .warn "Restore error report returned status=%d" [.number response.status]] } }

end Client

end InvocationClient
