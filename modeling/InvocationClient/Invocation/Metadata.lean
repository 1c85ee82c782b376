import InvocationClient.Invocation.Basic
import InvocationClient.Text.Case

/-! # Invocation metadata

The header fields of a response that describe an invocation. Names are compared in lower case, the
last value of a field counts, and all fields are looked at before one is missed.
-/

namespace InvocationClient

/-- Header fields in their order; a name may occur more than once. -/
abbrev Fields := List (String × String)

namespace Metadata

inductive Field where
  | requestId
  | functionArn
  | deadline
  | traceId
  | clientContext
  | cognitoIdentity
  deriving DecidableEq, Repr

namespace Field

def header : Field → String
  | requestId => "Lambda-Runtime-Aws-Request-Id"
  | functionArn => "Lambda-Runtime-Invoked-Function-Arn"
  | deadline => "Lambda-Runtime-Deadline-Ms"
  | traceId => "Lambda-Runtime-Trace-Id"
  | clientContext => "Lambda-Runtime-Client-Context"
  | cognitoIdentity => "Lambda-Runtime-Cognito-Identity"

def all : List Field :=
  [requestId, functionArn, deadline, traceId, clientContext, cognitoIdentity]

theorem mem_all (f : Field) : f ∈ all := by
  cases f <;> decide

def ofName? (name : String) : Option Field :=
  let name := Text.lower name
  all.find? fun f => Text.lower f.header = name

end Field

structure Found where
  requestId : Option String := none
  functionArn : Option String := none
  deadline : Option String := none
  traceId : Option String := none
  clientContext : Option String := none
  cognitoIdentity : Option String := none
  deriving DecidableEq, Repr

namespace Found

def set (found : Found) (f : Field) (value : String) : Found :=
  match f with
  | .requestId => { found with requestId := some value }
  | .functionArn => { found with functionArn := some value }
  | .deadline => { found with deadline := some value }
  | .traceId => { found with traceId := some value }
  | .clientContext => { found with clientContext := some value }
  | .cognitoIdentity => { found with cognitoIdentity := some value }

def get? (found : Found) : Field → Option String
  | .requestId => found.requestId
  | .functionArn => found.functionArn
  | .deadline => found.deadline
  | .traceId => found.traceId
  | .clientContext => found.clientContext
  | .cognitoIdentity => found.cognitoIdentity

theorem get?_set (found : Found) (f g : Field) (value : String) :
    (found.set f value).get? g = if f = g then some value else found.get? g := by
  cases f <;> cases g <;> rfl

def take (found : Found) (header : String × String) : Found :=
  match Field.ofName? header.1 with
  | some f => found.set f header.2
  | none => found

end Found

def scan (fields : Fields) : Found :=
  fields.foldl Found.take {}

def missing (f : Field) (context : Context) : Failure :=
  .client ⟨.missingMetadata f.header, context⟩

def extract (fields : Fields) (body : Option ByteArray) : Except Failure Invocation := do
  let found := scan fields
  match found.requestId with
  | none => throw (missing .requestId .absent)
  | some id =>
    match found.functionArn with
    | none => throw (missing .functionArn (.text id))
    | some arn =>
      let deadline ← Deadline.parse found.deadline
      return {
        id
        functionArn := arn
        deadline
        traceId := found.traceId
        clientContext := found.clientContext
        cognitoIdentity := found.cognitoIdentity
        content := body.getD .empty }

end Metadata

end InvocationClient
