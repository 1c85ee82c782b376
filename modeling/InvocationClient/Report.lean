import InvocationClient.Failure
import InvocationClient.Text.Width

/-! # Error reports

What is told to the runtime API about a failure: a document, and separately its type and cause. The
document lists the places through which the failure came, outermost first. A place that calls itself
over and over is shown three times and then counted.
-/

namespace InvocationClient

/-- A place in a program, with the line of its file if that is known. -/
structure Frame where
  file : String
  line : Int
  function : String
  source : Option String := none
  /-- Where the expression that failed ends. -/
  lastLine : Option Int := none
  /-- The bytes that its two lines have before it and before its end. -/
  columns : Option (Nat × Nat) := none
  /-- The characters that it has before its operator and before the end of that, if it has one. -/
  operator : Option (Nat × Nat) := none
  deriving DecidableEq, Repr

namespace Frame

def samePlace (f g : Frame) : Bool :=
  f.file = g.file && f.line = g.line && f.function = g.function

def withoutFinalNewlines (s : String) : String :=
  String.ofList (Text.trimEnd (· = '\n') s.toList)

/-- How many characters of a line begin within its first bytes. -/
def charactersIn : List Char → Nat → Nat
  | [], _ => 0
  | _, 0 => 0
  | c :: cs, bytes + 1 => charactersIn cs (bytes + 1 - c.utf8Size) + 1

/-- The characters of a line from which the failed part goes and to which. If it goes on below, that
is to the end of the line. -/
def extent? (f : Frame) (line : List Char) : Option (Nat × Nat) :=
  f.columns.map fun columns =>
    (charactersIn line columns.1,
      if f.lastLine = some f.line then charactersIn line columns.2
      else (Text.trimEnd Text.isBlank line).length)

/-- Only on one line is an operator told apart. -/
def operator? (f : Frame) : Option (Nat × Nat) :=
  if f.lastLine = some f.line then f.operator else none

/-- A part of a line underlined, with its operator told apart; `blanks` of the line are not shown. -/
def underlined (line : List Char) (blanks : Nat) (extent : Nat × Nat)
    (operator : Option (Nat × Nat)) : List Char :=
  let first := Text.width line extent.1 + 1
  let last := Text.width line extent.2 + 1
  List.replicate (first - blanks) ' ' ++
    match operator with
    | none => List.replicate (last - first) '^'
    | some (left, right) =>
      let part := (line.take extent.2).drop extent.1
      List.replicate (Text.width part left) '~' ++
        List.replicate (Text.width part right - Text.width part left) '^' ++
        List.replicate (last - first - Text.width part right) '~'

/-- What is underlined below the text: nothing if all of that would be underlined alike. -/
def underline? (f : Frame) (line : List Char) : Option (List Char) :=
  match f.extent? line with
  | none => none
  | some extent =>
    let shown := (Text.trimChars line).length
    if extent.2 - extent.1 < shown || f.operator?.any (fun o => o.1 < o.2) then
      some (underlined line (line.length - shown) extent f.operator?)
    else none

/-- The line below that of the text, indented as that is. -/
def row (f : Frame) (line : List Char) : String :=
  match f.underline? line with
  | none => ""
  | some marks => "\n    " ++ String.ofList marks

/-- One line for the place, and more for its text unless that is blank. -/
def entry (f : Frame) : String :=
  let place := "  File \"" ++ f.file ++ "\", line " ++ f.line.repr ++ ", in " ++ f.function
  let line := (f.source.getD "").toList
  let text := Text.trimChars line
  withoutFinalNewlines <|
    if text.isEmpty then place
    else place ++ "\n    " ++ String.ofList text ++ f.row line

end Frame

namespace Trace

def shown : Nat := 3

def repetition (count : Nat) : String :=
  "  [Previous line repeated " ++ toString count ++ " more " ++
    (if count = 1 then "time" else "times") ++ "]"

def closeRun (count : Nat) : List String :=
  if shown < count then [repetition (count - shown)] else []

/-- The entries from some frame on, when `count` frames like `last` have just gone by. -/
def entriesFrom (last : Frame) (count : Nat) : List Frame → List String
  | [] => closeRun count
  | f :: fs =>
    if last.samePlace f then
      if count < shown then f.entry :: entriesFrom f (count + 1) fs
      else entriesFrom f (count + 1) fs
    else closeRun count ++ f.entry :: entriesFrom f 1 fs

def entries : List Frame → List String
  | [] => []
  | f :: fs => f.entry :: entriesFrom f 1 fs

end Trace

structure ErrorReport where
  payload : ByteArray
  requestId : Option String := none
  errorType : Option String := none
  errorCause : Option String := none

namespace ErrorReport

/-- A cause has to be shorter than this, in bytes of UTF-8, to be sent in a header. -/
def causeLimit : Nat := 1024 * 1024

def sendableCause (r : ErrorReport) : Option String :=
  match r.errorCause with
  | none => none
  | some cause => if cause.utf8ByteSize < causeLimit then some cause else none

def document (message kind : String) (trace : List Frame) : Json :=
  .record [
    ("errorMessage", .text message),
    ("errorType", .text kind),
    ("stackTrace", .array ((Trace.entries trace).map .text))]

def ofFailure (failure : Failure) (trace : List Frame) (requestId : Option String) :
    ErrorReport where
  payload := (document failure.message failure.kind trace).render.toUTF8
  requestId := requestId
  errorType := some failure.kind

@[simp] theorem requestId_ofFailure (failure : Failure) (trace : List Frame)
    (requestId : Option String) : (ofFailure failure trace requestId).requestId = requestId := rfl

end ErrorReport

end InvocationClient
