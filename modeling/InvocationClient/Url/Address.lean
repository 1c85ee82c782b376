import InvocationClient.Number.Integer
import InvocationClient.Text.Split

/-! # Addresses

The two kinds of Internet addresses that can stand for a host.
-/

namespace InvocationClient.Url

open Text

/-- A number below 256 without needless zeros in front. -/
def isOctet (cs : List Char) : Bool :=
  !cs.isEmpty && cs.length ≤ 3 && cs.all Char.isDigit && (cs.head? ≠ some '0' || cs.length = 1) &&
    Number.ofDigits cs < 256

/-- Four numbers set apart by dots, whatever their size: what looks like an IPv4 address. -/
def isDotted (cs : List Char) : Bool :=
  let numbers := pieces (· = '.') cs
  numbers.length = 4 && numbers.all fun ds => !ds.isEmpty && ds.all Char.isDigit

def isAddress4 (cs : List Char) : Bool :=
  let numbers := pieces (· = '.') cs
  numbers.length = 4 && numbers.all isOctet

example : isAddress4 "255.0.10.1".toList ∧ !isAddress4 "256.0.0.1".toList ∧
    !isAddress4 "01.2.3.4".toList ∧ !isAddress4 "1.2.3".toList := by
  decide +kernel

def isHexDigit (c : Char) : Bool :=
  c.isDigit || ('a' ≤ c && c ≤ 'f') || ('A' ≤ c && c ≤ 'F')

def isGroup (cs : List Char) : Bool :=
  !cs.isEmpty && cs.length ≤ 4 && cs.all isHexDigit

/-- How many groups stand in a stretch of an IPv6 address. At the end of the address an IPv4 address
may stand for two. -/
def groups? (isEnd : Bool) (cs : List Char) : Option Nat :=
  let gs := pieces (· = ':') cs
  if cs.isEmpty then some 0
  else if gs.all isGroup then some gs.length
  else if isEnd && gs.dropLast.all isGroup && gs.getLast?.any isAddress4 then some (gs.length + 1)
  else none

/-- Splits at the first double colon, which stands for groups of zeros. -/
def splitGap? : List Char → Option (List Char × List Char)
  | ':' :: ':' :: cs => some ([], cs)
  | c :: cs => (splitGap? cs).map fun (left, right) => (c :: left, right)
  | [] => none

/-- Behind a percent sign an address may name the zone that it is valid in. -/
def isZone (cs : List Char) : Bool := !cs.isEmpty && !cs.contains '%'

def isAddress6 (cs : List Char) : Bool :=
  let (address, zone) := match splitFirst? (· = '%') cs with
    | some (address, zone) => (address, some zone)
    | none => (cs, none)
  zone.all isZone &&
    match splitGap? address with
    | none => groups? true address = some 8
    | some (left, right) =>
      match groups? false left, groups? true right with
      | some m, some n => m + n < 8
      | _, _ => false

example : isAddress6 "::".toList ∧ isAddress6 "1:2:3:4:5:6:1.2.3.4".toList ∧
    isAddress6 "fe80::1%eth0".toList ∧ isAddress6 "1:2:3:4:5:6:7::".toList := by
  decide +kernel

example : !isAddress6 "1::2::3".toList ∧ !isAddress6 ":::".toList ∧ !isAddress6 "::12345".toList ∧
    !isAddress6 "1.2.3.4::".toList ∧ !isAddress6 "1:2:3:4::5:6:7:8".toList := by
  decide +kernel

end InvocationClient.Url
