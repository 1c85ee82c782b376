import InvocationClient.Domain.Fault
import InvocationClient.Handler.Reference
import InvocationClient.Json.Document
import InvocationClient.Json.Printer
import InvocationClient.Text.Encoding
import InvocationClient.Url.Basic

/-! # Failures

What an operation can end with instead of a result. The client's own errors carry a context and,
when they stand for another failure, that failure as their cause.
-/

namespace InvocationClient

/-- What an error is about, apart from its message: a text, a body, or any other data. -/
inductive Context where
  | absent
  | text (s : String)
  | bytes (b : ByteArray)
  | data (v : Json)

inductive Problem where
  | general (message : String)
  | invalidEndpoint (message : String)
  | missingMetadata (field : String)
  | transport (message : String)
  | nextInvocation (endpoint : String) (status : Option Number.Writable)
  | report (endpoint : String) (status : Number.Writable)
  deriving DecidableEq, Repr

namespace Problem

def kind : Problem → String
  | general _ => "RuntimeClientError"
  | invalidEndpoint _ => "InvalidEndpoint"
  | missingMetadata _ => "MissingMetadata"
  | transport _ => "TransportError"
  | nextInvocation _ _ => "NextInvocationFailed"
  | report _ _ => "ReportFailed"

def message : Problem → String
  | general m => m
  | invalidEndpoint m => m
  | missingMetadata field => field ++ " absent from next invocation response"
  | transport m => m
  | nextInvocation endpoint none => "Failed to get next invocation from " ++ endpoint
  | nextInvocation endpoint (some status) =>
    "Failed to get next invocation from " ++ endpoint ++ ": status " ++ status.repr
  | report endpoint status => endpoint ++ " Response code: '" ++ status.repr ++ "'"

end Problem

structure ClientError where
  problem : Problem
  context : Context := .absent

namespace ClientError

def message (e : ClientError) : String := e.problem.message

end ClientError

/-- An exception from outside this library. -/
structure Thrown where
  kind : String
  text : String
  deriving DecidableEq, Repr

namespace Thrown

/-- No argument gives an empty text and several are listed in parentheses. One is the text itself,
but a missing key is quoted. -/
def ofArguments (kind : String) : List String → Thrown
  | [] => ⟨kind, ""⟩
  | [a] => ⟨kind, if kind = "KeyError" then Text.quoted a else a⟩
  | a :: b :: as => ⟨kind, Text.quotedTuple (a :: b :: as)⟩

end Thrown

inductive Failure where
  | client (error : ClientError)
  | because (error : ClientError) (cause : Failure)
  | tooManyDigits (digits : Nat)
  | unwritableInteger
  | tooDeep (step : Json.Descent)
  | unreadableClock (reading : Number.NotFinite)
  | requestIdRequired
  | connectionClosed
  | invalidUrl (fault : Url.Fault)
  | invalidName (fault : Domain.Fault)
  | unknownUrlType (url : String)
  | unencodable (e : Text.EncodingError)
  | undecodable (e : Text.DecodingError)
  | malformed (m : Json.Malformed)
  | unloadable (e : LoadError)
  | notCallable (type : String)
  | foreign (thrown : Thrown)

namespace Failure

def ofRead : Json.ReadError → Failure
  | .undecodable e => undecodable e
  | .malformed m => malformed m
  | .tooManyDigits digits => tooManyDigits digits
  | .tooDeep step => tooDeep step

def error? : Failure → Option ClientError
  | client e => some e
  | because e _ => some e
  | _ => none

def cause? : Failure → Option Failure
  | because _ cause => some cause
  | _ => none

def kind : Failure → String
  | client e => e.problem.kind
  | because e _ => e.problem.kind
  | tooManyDigits _ => "ValueError"
  | unwritableInteger => "ValueError"
  | tooDeep _ => "RecursionError"
  | unreadableClock .nan => "ValueError"
  | unreadableClock .infinity => "OverflowError"
  | requestIdRequired => "ValueError"
  | connectionClosed => "RuntimeError"
  | invalidUrl _ => "InvalidURL"
  | invalidName fault => fault.kind
  | unknownUrlType _ => "ValueError"
  | unencodable _ => "UnicodeEncodeError"
  | undecodable _ => "UnicodeDecodeError"
  | malformed _ => "JSONDecodeError"
  | unloadable e => e.kind
  | notCallable _ => "TypeError"
  | foreign t => t.kind

def limitAdvice : String :=
  "use sys.set_int_max_str_digits() to increase the limit"

def limitComplaint : String :=
  "Exceeds the limit (" ++ toString Number.digitLimit ++ " digits) for integer string conversion"

def message : Failure → String
  | client e => e.message
  | because e _ => e.message
  | tooManyDigits digits =>
    limitComplaint ++ ": value has " ++ toString digits ++ " digits; " ++ limitAdvice
  | unwritableInteger => limitComplaint ++ "; " ++ limitAdvice
  | tooDeep step => step.message
  | unreadableClock reading => reading.message
  | requestIdRequired => "request_id is required to report an invocation error"
  | connectionClosed => "Cannot send a request, as the client has been closed."
  | invalidUrl fault => fault.message
  | invalidName fault => fault.message
  | unknownUrlType url => "unknown url type: " ++ Text.quoted url
  | unencodable e => e.message
  | undecodable e => e.message
  | malformed m => m.message
  | unloadable e => e.message
  | notCallable type => "'" ++ type ++ "' object is not callable"
  | foreign t => t.text

end Failure

end InvocationClient
