import InvocationClient.Failure

/-! # Invocations

One unit of work: who is to be called, with what, and until when. The text of a deadline is an
optional sign and decimal digits. Any other text means that no deadline is known.
-/

namespace InvocationClient

structure Invocation where
  id : String
  functionArn : String
  /-- Milliseconds since the epoch; zero if unknown. -/
  deadline : Int := 0
  traceId : Option String := none
  clientContext : Option String := none
  cognitoIdentity : Option String := none
  content : ByteArray := .empty

/-- Whole milliseconds on a clock that shows seconds, cut off towards zero. -/
def clockMilliseconds (seconds : Float) : Except Failure Int :=
  (Number.truncate (seconds * 1000.0)).mapError .unreadableClock

namespace Invocation

/-- Milliseconds left at the time `now`; zero once the deadline has passed or if it is unknown. -/
def remaining (i : Invocation) (now : Int) : Int :=
  if i.deadline = 0 then 0 else max (i.deadline - now) 0

/-- The clock is looked at only if there is a deadline. -/
def remainingAt (i : Invocation) (seconds : Float) : Except Failure Int :=
  if i.deadline = 0 then .ok 0 else (clockMilliseconds seconds).map i.remaining

end Invocation

namespace Deadline

def split? (cs : List Char) : Option (Bool × List Char) :=
  let unsigned := if cs.head? = some '+' ∨ cs.head? = some '-' then cs.tail else cs
  if !unsigned.isEmpty && unsigned.all Char.isDigit then
    some (cs.head? = some '-', unsigned)
  else none

/-- Digits past the limit are a failure, not an unknown deadline. -/
def parse : Option String → Except Failure Int
  | none => .ok 0
  | some raw =>
    match split? raw.toList with
    | none => .ok 0
    | some (negative, digits) =>
      match Number.readDigits? digits with
      | none => .error (.tooManyDigits digits.length)
      | some n => .ok (if negative then -n else n)

end Deadline

end InvocationClient
