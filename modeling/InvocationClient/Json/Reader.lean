import InvocationClient.Association
import InvocationClient.Json.Basic
import InvocationClient.Number.Decimal
import InvocationClient.Number.Integer

/-! # Reading JSON

A document is read from its code points. Beyond the standard, `NaN`, `Infinity` and `-Infinity`
are numbers and lone surrogates may be escaped. A repeated name keeps its first place and its last
value. Integers keep all their digits, up to the digit limit. Readers are told the levels that are
left at their place.
-/

namespace InvocationClient.Json

open Text Number

inductive Complaint where
  | value
  | name
  | colon
  | comma
  | extra
  | unterminated
  | control
  | escape
  | unicodeEscape
  deriving DecidableEq, Repr

def Complaint.message : Complaint → String
  | value => "Expecting value"
  | name => "Expecting property name enclosed in double quotes"
  | colon => "Expecting ':' delimiter"
  | comma => "Expecting ',' delimiter"
  | extra => "Extra data"
  | unterminated => "Unterminated string starting at"
  | control => "Invalid control character at"
  | escape => "Invalid \\escape"
  | unicodeEscape => "Invalid \\uXXXX escape"

/-- Why reading stopped; `left` counts the code points from the place of the fault to the end. -/
inductive Fault where
  | malformed (complaint : Complaint) (left : Nat)
  | tooManyDigits (digits : Nat)
  | tooDeep (step : Descent)
  deriving DecidableEq, Repr

abbrev Reading (α : Type) := Except Fault (α × List CodePoint)

/-- Complains of what follows. A complaint is put together at the place of the fault. -/
def fail {α : Type} (room : Nat) (complaint : Complaint) (rest : List CodePoint) : Reading α :=
  match Descent.beyond? Descent.ofComplaint room with
  | some step => .error (.tooDeep step)
  | none => .error (.malformed complaint rest.length)

def noValue {α : Type} (rest : List CodePoint) : Reading α :=
  .error (.malformed .value rest.length)

def is (c : Char) (p : CodePoint) : Bool := p.val == c.toNat

def isSpace (p : CodePoint) : Bool := is ' ' p || is '\t' p || is '\n' p || is '\r' p

def skip (s : List CodePoint) : List CodePoint := s.dropWhile isSpace

def isDigit (p : CodePoint) : Bool := 48 ≤ p.val && p.val ≤ 57

def hexValue? (p : CodePoint) : Option Nat :=
  if isDigit p then some (p.val - 48)
  else if 97 ≤ p.val && p.val ≤ 102 then some (p.val - 87)
  else if 65 ≤ p.val && p.val ≤ 70 then some (p.val - 55)
  else none

/-- Value of four hexadecimal digits. -/
def unit? (a b c d : CodePoint) : Option CodePoint := do
  let a ← hexValue? a
  let b ← hexValue? b
  let c ← hexValue? c
  let d ← hexValue? d
  return CodePoint.ofNat (((a * 16 + b) * 16 + c) * 16 + d)

def shortEscape? (p : CodePoint) : Option CodePoint :=
  if is '"' p || is '\\' p || is '/' p then some p
  else if is 'b' p then some (CodePoint.ofChar '\x08')
  else if is 'f' p then some (CodePoint.ofChar '\x0c')
  else if is 'n' p then some (CodePoint.ofChar '\n')
  else if is 'r' p then some (CodePoint.ofChar '\r')
  else if is 't' p then some (CodePoint.ofChar '\t')
  else none

/-- Puts an escaped code unit behind `done`. A low surrogate joins an escaped high one. -/
def pushUnit (afterHigh : Bool) (done : List CodePoint) (u : CodePoint) : List CodePoint :=
  match done with
  | high :: before => if afterHigh && u.isLowSurrogate then high.joined u :: before else u :: done
  | [] => [u]

/-- Reads a string from behind its opening quote; `opened` is the text from that quote on. The code
points so far are `done`, last first; `afterHigh` tells that the last one is an escaped high
surrogate that has joined nothing yet. -/
def readString (room : Nat) (opened : List CodePoint) (afterHigh : Bool) (done : List CodePoint) :
    List CodePoint → Reading (List CodePoint)
  | [] => fail room .unterminated opened
  | p :: rest =>
    if is '"' p then .ok (done.reverse, rest)
    else if is '\\' p then
      match rest with
      | [] => fail room .unterminated opened
      | e :: rest =>
        if is 'u' e then
          match rest with
          | a :: b :: c :: d :: tail =>
            match unit? a b c d, tail.isEmpty with
            | some u, false =>
              readString room opened (u.isHighSurrogate) (pushUnit afterHigh done u) tail
            | _, _ => fail room .unicodeEscape (e :: a :: b :: c :: d :: tail)
          | short => fail room .unicodeEscape (e :: short)
        else match shortEscape? e with
          | some q => readString room opened false (q :: done) rest
          | none => fail room .escape (p :: e :: rest)
    else if p.val < 0x20 then fail room .control (p :: rest)
    else readString room opened false (p :: done) rest

def readQuoted (room : Nat) (s : List CodePoint) : Reading (List CodePoint) :=
  readString room s false [] s.tail

def digitChars (s : List CodePoint) : List Char :=
  s.map fun p => Char.ofNat p.val

def splitFraction (s : List CodePoint) : List CodePoint × List CodePoint :=
  match s with
  | p :: rest =>
    if is '.' p && !(rest.takeWhile isDigit).isEmpty then rest.span isDigit else ([], s)
  | [] => ([], [])

def splitExponent? (s : List CodePoint) : Option (Bool × List CodePoint × List CodePoint) :=
  match s with
  | e :: rest =>
    let negative := rest.head?.any (is '-')
    let unsigned := if rest.head?.any (fun p => is '-' p || is '+' p) then rest.tail else rest
    if (is 'e' e || is 'E' e) && !(unsigned.takeWhile isDigit).isEmpty then
      some (negative, unsigned.span isDigit)
    else none
  | [] => none

def splitWhole (s : List CodePoint) : List CodePoint × List CodePoint :=
  match s with
  | p :: rest => if is '0' p then ([p], rest) else s.span isDigit
  | [] => ([], [])

/-- Reads a number; it is an integer if it has neither fraction nor exponent. -/
def readNumber (s : List CodePoint) : Reading Json :=
  let negative := s.head?.any (is '-')
  let (whole, rest) := splitWhole (if negative then s.tail else s)
  if whole.isEmpty then noValue s
  else
    let (fraction, rest) := splitFraction rest
    let digits := ofDigits (digitChars (whole ++ fraction))
    match splitExponent? rest with
    | some (minus, exponent, rest) =>
      let e : Int := ofDigits (digitChars exponent)
      .ok (.double (readDecimal negative digits ((if minus then -e else e) - fraction.length)), rest)
    | none =>
      if !fraction.isEmpty then
        .ok (.double (readDecimal negative digits (-fraction.length)), rest)
      else match readDigits? (digitChars whole) with
        | some n => .ok (.integer (if negative then -n else n), rest)
        | none => .error (.tooManyDigits whole.length)

def afterWord? (w : String) (s : List CodePoint) : Option (List CodePoint) :=
  if (codePoints w).isPrefixOf s then some (s.drop w.length) else none

def readWord? (words : List (String × Json)) (s : List CodePoint) : Option (Json × List CodePoint) :=
  words.findSome? fun w => (afterWord? w.1 s).map (w.2, ·)

def words : List (String × Json) :=
  [("null", .null), ("true", .bool true), ("false", .bool false)]

def numberWords : List (String × Json) :=
  [("NaN", .double (0.0 / 0.0)), ("Infinity", .double (1.0 / 0.0)),
    ("-Infinity", .double (-1.0 / 0.0))]

/-- Reads a word or a number. The number that a word stands for is fetched by a call. -/
def readScalar (room : Nat) (s : List CodePoint) : Reading Json :=
  match readWord? words s with
  | some reading => .ok reading
  | none =>
    match readWord? numberWords s with
    | some reading =>
      match Descent.beyond? [.call] room with
      | some step => .error (.tooDeep step)
      | none => .ok reading
    | none => readNumber s

mutual

/-- Reads a value within which containers may nest `room` deep; twice the length of the text and
one is fuel enough. -/
def readValue : (fuel room : Nat) → List CodePoint → Reading Json
  | 0, _, s => noValue s
  | _ + 1, _, [] => noValue []
  | fuel + 1, room, p :: rest =>
    if is '"' p then (readQuoted room (p :: rest)).map fun r => (.string r.1, r.2)
    else if is '[' p then
      match room with
      | 0 => .error (.tooDeep .readArray)
      | room + 1 =>
        match skip rest with
        | [] => readItems fuel room [] []
        | q :: rest =>
          if is ']' q then .ok (.array [], rest) else readItems fuel room [] (q :: rest)
    else if is '\x7b' p then
      match room with
      | 0 => .error (.tooDeep .readObject)
      | room + 1 =>
        match skip rest with
        | [] => readMembers fuel room [] []
        | q :: rest =>
          if is '\x7d' q then .ok (.object [], rest) else readMembers fuel room [] (q :: rest)
    else readScalar room (p :: rest)

/-- Reads the items of an array from one of them on; those before it are `done`, last first. -/
def readItems : (fuel room : Nat) → (done : List Json) → List CodePoint → Reading Json
  | 0, _, _, s => noValue s
  | fuel + 1, room, done, s =>
    match readValue fuel room s with
    | .error e => .error e
    | .ok (v, rest) =>
      match skip rest with
      | [] => fail room .comma []
      | p :: rest =>
        if is ']' p then .ok (.array (v :: done).reverse, rest)
        else if is ',' p then readItems fuel room (v :: done) (skip rest)
        else fail room .comma (p :: rest)

def readMembers : (fuel room : Nat) → (done : List (List CodePoint × Json)) → List CodePoint →
    Reading Json
  | 0, _, _, s => noValue s
  | fuel + 1, room, done, s =>
    if !s.head?.any (is '"') then fail room .name s
    else match readQuoted room s with
      | .error e => .error e
      | .ok (k, rest) =>
        match skip rest with
        | [] => fail room .colon []
        | p :: rest =>
          if !is ':' p then fail room .colon (p :: rest)
          else match readValue fuel room (skip rest) with
            | .error e => .error e
            | .ok (v, rest) =>
              match skip rest with
              | [] => fail room .comma []
              | p :: rest =>
                if is '\x7d' p then .ok (.object (Association.put k v done), rest)
                else if is ',' p then readMembers fuel room (Association.put k v done) (skip rest)
                else fail room .comma (p :: rest)

end

def readDocument (limit : Nat) (s : List CodePoint) : Except Fault Json :=
  let s := skip s
  match readValue (2 * s.length + 1) limit s with
  | .error e => .error e
  | .ok (v, rest) =>
    match skip rest with
    | [] => .ok v
    | rest => .error (.malformed .extra rest.length)

/-- A complaint with its place: the offset from the start, and line and column from one on. -/
structure Malformed where
  complaint : Complaint
  offset : Nat
  line : Nat
  column : Nat
  deriving DecidableEq, Repr

namespace Malformed

/-- The place from which `left` code points remain of `s`. -/
def locate (s : List CodePoint) (complaint : Complaint) (left : Nat) : Malformed :=
  let before := s.take (s.length - left)
  { complaint
    offset := before.length
    line := before.countP (is '\n') + 1
    column := (before.reverse.takeWhile fun p => !is '\n' p).length + 1 }

def message (m : Malformed) : String :=
  m.complaint.message ++ ": line " ++ toString m.line ++ " column " ++ toString m.column ++
    " (char " ++ toString m.offset ++ ")"

end Malformed

end InvocationClient.Json
