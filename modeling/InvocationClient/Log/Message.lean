import InvocationClient.Log.Directive
import InvocationClient.Log.Level

/-! # Log messages

A message is a template with arguments. Its directives take one argument after the other; formatting
fails if there are too few or too many.
-/

namespace InvocationClient

structure Message where
  template : String
  arguments : List Argument := []
  deriving DecidableEq, Repr

namespace Message

/-- Fills the arguments into a template, in the middle of a directive or between two. -/
def fill : Option (Directive.Stage × Directive) → List Char → List Argument →
    Except Unformatted (List Char)
  | none, [], [] => .ok []
  | none, [], _ :: _ => .error .failed
  | some _, [], _ => .error .failed
  | none, c :: cs, args =>
    if c = '%' then fill (some (.first, {})) cs args else (fill none cs args).map (c :: ·)
  | some (stage, d), c :: cs, args =>
    match d.read c args stage with
    | .more stage d args => fill (some (stage, d)) cs args
    | .shown text args => (fill none cs args).map (text ++ ·)
    | .bad e => .error e

def format (m : Message) : Except Unformatted String :=
  (fill none m.template.toList m.arguments).map String.ofList

/-- Without arguments the template is not looked into. -/
def formatIfNeeded (m : Message) : Except Unformatted String :=
  if m.arguments.isEmpty then .ok m.template else m.format

def format? (m : Message) : Option String := m.format.toOption

def formatIfNeeded? (m : Message) : Option String := m.formatIfNeeded.toOption

end Message

/-- A message that a part of the program emits: `scope` names the child loggers, outermost first,
below the program's logger. -/
structure Entry where
  scope : List String := []
  level : Level
  message : Message
  deriving DecidableEq, Repr

end InvocationClient
