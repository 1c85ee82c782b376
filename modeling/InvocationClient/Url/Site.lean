import InvocationClient.Domain.Name
import InvocationClient.Text.Class
import InvocationClient.Text.Case
import InvocationClient.Text.Encoding
import InvocationClient.Url.Address
import InvocationClient.Url.Basic

/-! # Sites

The host and the port that a URL leads to. A URL with a host or a port that cannot be read is
refused, and so is a relative one whose path would be taken for something else.
-/

namespace InvocationClient.Url

open Text

/-- The host of a URL in the form in which it is looked up, and its port as it is written. -/
structure Site where
  host : List Char
  port : List Char
  deriving DecidableEq, Repr

/-- Besides the unreserved characters a name may hold these as they are. -/
def hostMarks : List Char := "!$&'()*+,;=\"`\x7b\x7d%|\\".toList

def nameChar (c : Char) : List Char :=
  if hostMarks.contains c then [c] else Percent.encodeByte (UInt8.ofNat c.toNat)

def isBracketed (host : List Char) : Bool :=
  host.head? = some '[' && host.getLast? = some ']'

/-- An address stays as it is and a name becomes one in lower case and in ASCII. Four numbers are
always an address, and so is what stands in brackets. -/
def resolve (host : List Char) : Except Fault (List Char) :=
  let given := String.ofList host
  if host.isEmpty then .ok []
  else if isDotted host then if isAddress4 host then .ok host else .error (.address4 given)
  else if isBracketed host then
    if isAddress6 host.tail.dropLast then .ok host else .error (.address6 given)
  else if host.all Ascii.isAscii then .ok ((host.map Char.toLower).flatMap nameChar)
  else (Domain.toAscii (host.flatMap lowerChar)).mapError fun _ => .name given

/-- A whole number of any size and sign, with blanks around it and single underscores between its
digits; or nothing. -/
def isPort (cs : List Char) : Bool :=
  let number := trimChars cs
  let unsigned :=
    if number.head? = some '+' || number.head? = some '-' then number.tail else number
  let groups := pieces (· = '_') unsigned
  cs.isEmpty || (groups.all (fun ds => !ds.isEmpty && ds.all isDecimal) &&
    groups.flatten.length ≤ Number.digitLimit)

example : isPort [] ∧ isPort "9001".toList ∧ isPort " -1_0".toList ∧ !isPort "9001x".toList ∧
    !isPort "1__0".toList ∧ !isPort "+".toList := by
  decide +kernel

/-- The path of a URL without a scheme and a site must not begin like either of them. -/
def pathFault? (u : Url) : Option Fault :=
  let isPathOnly := u.scheme.isEmpty && u.host.isEmpty && u.port.isEmpty &&
    ((u.authority.bind (·.userinfo)).getD []).isEmpty
  if !isPathOnly then none
  else if ['/', '/'].isPrefixOf u.path then some .doubleSlash
  else if u.path.head? = some ':' then some .leadingColon
  else none

/-- A relative URL leads to no site, but its components have to be sound too. -/
def site? (u : Url) : Except Fault (Option Site) := do
  let host ← resolve u.host
  if !isPort u.port then throw (.port (String.ofList u.port))
  match pathFault? u with
  | some f => throw f
  | none => return if u.isRelative then none else some ⟨host, u.port⟩

def lengthLimit : Nat := 65536

def textFault? (cs : List Char) : Option Fault :=
  if lengthLimit < cs.length then some .tooLong
  else match cs.findIdx? Ascii.isControl with
    | some place => cs[place]?.map (.control · place)
    | none => none

def check (s : String) : Except Fault (Option Site) :=
  match textFault? s.toList with
  | some f => .error f
  | none => (ofString s).site?

example : (check "http://h:9001x" matches .error (.port "9001x")) ∧
    (check "http://1.2.3.456/p" matches .error (.address4 "1.2.3.456")) ∧
    (check "http://[a:b]:9" matches .error (.address6 "[a:b]")) ∧
    (check "http://H:9/p" matches .ok (some ⟨['h'], ['9']⟩)) ∧ (check "/p" matches .ok none) := by
  decide +kernel

namespace Site

def nameFault? (s : Site) : Option Domain.Fault :=
  if Domain.Label.mark.isPrefixOf s.host then
    match Domain.ofAscii s.host with
    | .error f => some f
    | .ok _ => none
  else none

def header (s : Site) : List Char :=
  s.host ++ (if s.port.isEmpty then [] else ':' :: s.port)

end Site

end InvocationClient.Url
