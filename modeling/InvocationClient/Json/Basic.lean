import InvocationClient.Text.CodePoint

/-! # JSON values

Integers and doubles are kept apart. Strings may hold lone surrogates, and the members of an object
keep their order.

There are only so many levels for what is done within each other. An array or object takes one where
it is read or written, and so does each step of some other work that reading leads to. The levels
that are left to a document are its limit.
-/

namespace InvocationClient

inductive Json where
  | null
  | bool (b : Bool)
  | integer (n : Int)
  | double (x : Float)
  | string (s : List Text.CodePoint)
  | array (items : List Json)
  | object (members : List (List Text.CodePoint × Json))

namespace Json

def text (s : String) : Json :=
  .string (Text.codePoints s)

def record (members : List (String × Json)) : Json :=
  .object (members.map fun m => (Text.codePoints m.1, m.2))

mutual

/-- How many arrays and objects lie within each other. -/
def depth : Json → Nat
  | array items => itemsDepth items + 1
  | object members => membersDepth members + 1
  | _ => 0

def itemsDepth : List Json → Nat
  | [] => 0
  | v :: vs => max (depth v) (itemsDepth vs)

def membersDepth : List (List Text.CodePoint × Json) → Nat
  | [] => 0
  | (_, v) :: ms => max (depth v) (membersDepth ms)

end

/-- The levels that a runtime leaves to what its handler reads and writes. -/
def depthLimit : Nat := 990

/-- A step that takes a level. -/
inductive Descent where
  | readArray
  | readObject
  | write
  | call
  | enter
  deriving DecidableEq, Repr

namespace Descent

/-- What the step is for; entering what was called is for nothing else. -/
def purpose? : Descent → Option String
  | readArray => some "decoding a JSON array from a unicode string"
  | readObject => some "decoding a JSON object from a unicode string"
  | write => some "encoding a JSON object"
  | call => some "calling a Python object"
  | enter => none

def message (step : Descent) : String :=
  "maximum recursion depth exceeded" ++ (step.purpose?.map (" while " ++ ·)).getD ""

/-- The steps of putting a complaint together: a call, and another within what it enters. -/
def ofComplaint : List Descent := [call, enter, call]

def beyond? (steps : List Descent) (room : Nat) : Option Descent := steps[room]?

end Descent

end Json

end InvocationClient
