import InvocationClient.Invocation.Basic

/-! # Handlers

What a runtime calls for each invocation. Unless it is told of another, it echoes the event.
-/

namespace InvocationClient

abbrev Handler := Invocation → Except Failure ByteArray

namespace Handler

/-- The event that an invocation carries; none means an empty object. -/
def event (limit : Nat) (content : ByteArray) : Except Failure Json :=
  if content.size = 0 then .ok (.object [])
  else (Json.readBytes limit content.data.toList).mapError .ofRead

def echoDocument (event : Json) (remaining : Int) : Json :=
  .record [("echo", event), ("remaining_ms", .integer remaining)]

/-- Answers with the event and the time that is left. The event and the answer may nest as deep as
`limit`; `seconds` is what the clock shows. -/
def echo (limit : Nat) (seconds : Float) : Handler := fun i => do
  let event ← event limit i.content
  let remaining ← i.remainingAt seconds
  let document := echoDocument event remaining
  if limit < document.depth then throw (.tooDeep .write)
  else if Number.isWritable remaining then return document.render.toUTF8
  else throw .unwritableInteger

/-- What a name in a module stands for: a handler, or a value of some type that is none. -/
inductive Binding where
  | handler (h : Handler)
  | value (type : String)

def Binding.call : Binding → Handler
  | handler h => h
  | value type => fun _ => .error (.notCallable type)

structure Home where
  name : String
  bindings : List (String × Binding)

def find (homes : List Home) (r : Reference) : Except LoadError Handler :=
  match r.check (homes.map (·.name)) with
  | .error e => .error e
  | .ok () =>
    match (homes.find? (·.name = r.home)).bind fun m => Association.get? r.name m.bindings with
    | some binding => .ok binding.call
    | none => .error (.missingAttribute r.home r.name)

def load (homes : List Home) (default : Handler) (spec : Option String) :
    Except LoadError Handler :=
  match spec with
  | none => .ok default
  | some spec => if spec = "" then .ok default else find homes (.ofSpec spec)

end Handler

end InvocationClient
