import InvocationClient.Failure
import InvocationClient.Text.Class
import InvocationClient.Text.Split

/-! # Endpoints

The address of the runtime API, `host:port`. The last colon ends the host, so an IPv6 address may
stand bare; a URL shows it in brackets.
-/

namespace InvocationClient

structure Endpoint where
  host : String
  port : Nat
  deriving DecidableEq, Repr

namespace Endpoint

inductive Rejection where
  | unset
  | notHostPort (given : String)
  | unbalancedBrackets (host : String)
  | portNotNumeric (port : String)
  | portOutOfRange (port : Nat)
  deriving DecidableEq, Repr

def Rejection.message : Rejection → String
  | unset => "Runtime API endpoint is not set"
  | notHostPort given => "Runtime API endpoint " ++ Text.quoted given ++ " is not host:port"
  | unbalancedBrackets host => "Runtime API host " ++ Text.quoted host ++ " has unbalanced brackets"
  | portNotNumeric port => "Runtime API port " ++ Text.quoted port ++ " is not numeric"
  | portOutOfRange port => "Runtime API port " ++ toString port ++ " is out of range"

/-- The context of a rejection is the text as it was given. -/
def reject (given : String) (why : Rejection) : Failure :=
  .client ⟨.invalidEndpoint why.message, .text given⟩

def isBalanced (host : List Char) : Bool :=
  (host.head? == some '[') == (host.getLast? == some ']')

theorem isBalanced_iff {host : List Char} :
    isBalanced host = true ↔ (host.head? = some '[' ↔ host.getLast? = some ']') := by
  rw [isBalanced, beq_iff_eq, Bool.eq_iff_iff, beq_iff_eq, beq_iff_eq]

def isNumeric (cs : List Char) : Bool :=
  !cs.isEmpty && cs.all Char.isDigit

theorem isNumeric_iff {cs : List Char} :
    isNumeric cs = true ↔ cs ≠ [] ∧ ∀ d ∈ cs, d.isDigit = true := by
  simp [isNumeric]

/-- Reads the two parts of an endpoint; `given` is all of it. -/
def ofParts (given : String) (host port : List Char) : Except Failure Endpoint :=
  if !isBalanced host then .error (reject given (.unbalancedBrackets (String.ofList host)))
  else if !isNumeric port then .error (reject given (.portNotNumeric (String.ofList port)))
  else match Number.readDigits? port with
    | none => .error (.tooManyDigits port.length)
    | some n =>
      if 0 < n ∧ n < 65536 then .ok ⟨String.ofList host, n⟩
      else .error (reject given (.portOutOfRange n))

def parse : Option String → Except Failure Endpoint
  | none => .error (.client ⟨.invalidEndpoint Rejection.unset.message, .absent⟩)
  | some given =>
    if given = "" then .error (reject given .unset)
    else match Text.splitLast? (· = ':') (Text.trimChars given.toList) with
      | none => .error (reject given (.notHostPort given))
      | some (host, port) =>
        if host.isEmpty then .error (reject given (.notHostPort given))
        else ofParts given host port

def urlHost (host : String) : String :=
  if host.toList.contains ':' && host.toList.head? != some '[' then "[" ++ host ++ "]" else host

def baseUrl (e : Endpoint) : String :=
  "http://" ++ urlHost e.host ++ ":" ++ toString e.port

end Endpoint

end InvocationClient
