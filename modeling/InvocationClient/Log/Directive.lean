import InvocationClient.Number.Integer
import InvocationClient.Number.Notation
import InvocationClient.Text.Quoted

/-! # Directives

What follows a percent sign in the template of a message: flags, a width, a precision and a letter
for the way in which the argument is shown. A star takes the width or the precision from the
arguments too.
-/

namespace InvocationClient

inductive Argument where
  | text (s : String)
  | number (n : Int)
  deriving DecidableEq, Repr

/-- Why there is no text: the template does not fit its arguments, or a surrogate on its own would have
come into it. -/
inductive Unformatted where
  | failed
  | surrogate
  deriving DecidableEq, Repr

structure Directive where
  left : Bool := false
  plus : Bool := false
  blank : Bool := false
  alternate : Bool := false
  zeros : Bool := false
  width : Nat := 0
  precision : Option Nat := none
  deriving DecidableEq, Repr

namespace Argument

/-- A number with too many digits has no text. -/
def numeral? (n : Int) : Option (List Char) :=
  if Number.isWritable n then some n.repr.toList else none

def text? : Argument → Option (List Char)
  | text s => some s.toList
  | number n => numeral? n

def quoted? : Argument → Option (List Char)
  | text s => some (Text.quotedChars s.toList)
  | number n => numeral? n

def ascii? (a : Argument) : Option (List Char) :=
  a.quoted?.map fun cs => cs.flatMap fun c => if c.toNat < 128 then [c] else Text.hexEscape c.toNat

end Argument

namespace Directive

def place (d : Directive) (text : List Char) : List Char :=
  let gap := List.replicate (d.width - text.length) ' '
  if d.left then text ++ gap else gap ++ text

def sign (d : Directive) (negative : Bool) : List Char :=
  if negative then ['-'] else if d.plus then ['+'] else if d.blank then [' '] else []

/-- Places a number within the width. Zeros that fill it up come behind the sign. -/
def placeNumber (d : Directive) (head digits : List Char) : List Char :=
  if d.zeros && !d.left then
    head ++ List.replicate (d.width - (head.length + digits.length)) '0' ++ digits
  else d.place (head ++ digits)

/-- The precision is the length at most. -/
def cut (d : Directive) (text : List Char) : List Char :=
  match d.precision with
  | some precision => text.take precision
  | none => text

def integerPrecisionLimit : Nat := 2147483644

/-- The precision is the number of digits at least. -/
def showInteger (d : Directive) (negative : Bool) (mark digits : List Char) : Option (List Char) :=
  let precision := d.precision.getD 0
  if integerPrecisionLimit < precision then none
  else
    some (d.placeNumber (d.sign negative ++ if d.alternate then mark else [])
      (List.replicate (precision - digits.length) '0' ++ digits))

def showDouble (d : Directive) (negative : Bool) (size : Nat) (style : Number.Notation) :
    Option (List Char) := do
  let m ← Number.nearestDouble? size
  some (d.placeNumber (d.sign negative) (style.write d.alternate (d.precision.getD 6) m))

/-- How a number is shown, by the letter. Only what is shown in decimal can have too many digits. -/
def showNumber? (d : Directive) (letter : Char) (n : Int) : Option (List Char) :=
  let size := n.natAbs
  let negative : Bool := n < 0
  match letter with
  | 'd' | 'i' | 'u' =>
    if Number.isWritable n then d.showInteger negative [] (Nat.toDigits 10 size) else none
  | 'o' => d.showInteger negative ['0', 'o'] (Nat.toDigits 8 size)
  | 'x' => d.showInteger negative ['0', 'x'] (Nat.toDigits 16 size)
  | 'X' => d.showInteger negative ['0', 'X'] ((Nat.toDigits 16 size).map Char.toUpper)
  | 'f' | 'F' => d.showDouble negative size .fixed
  | 'e' => d.showDouble negative size .scientific
  | 'E' => (d.showDouble negative size .scientific).map (·.map Char.toUpper)
  | 'g' => d.showDouble negative size .general
  | 'G' => (d.showDouble negative size .general).map (·.map Char.toUpper)
  | _ => none

def character (d : Directive) : Argument → Except Unformatted (List Char)
  | .text s =>
    match s.toList with
    | [c] => .ok (d.place [c])
    | _ => .error .failed
  | .number n =>
    if n < 0 ∨ 0x110000 ≤ n then .error .failed
    else if n.toNat.isValidChar then .ok (d.place [Char.ofNat n.toNat])
    else .error .surrogate

def orFailed (text : Option (List Char)) : Except Unformatted (List Char) :=
  match text with
  | some text => .ok text
  | none => .error .failed

def render (d : Directive) (letter : Char) (a : Argument) : Except Unformatted (List Char) :=
  match letter with
  | 's' => orFailed (a.text?.map fun text => d.place (d.cut text))
  | 'r' => orFailed (a.quoted?.map fun text => d.place (d.cut text))
  | 'a' => orFailed (a.ascii?.map fun text => d.place (d.cut text))
  | 'c' => d.character a
  | _ =>
    match a with
    | .text _ => .error .failed
    | .number n => orFailed (d.showNumber? letter n)

inductive Stage where
  | first
  | flag
  | width
  | point
  | precision
  | decimals
  | size
  | letter
  deriving DecidableEq, Repr

inductive Step where
  | more (stage : Stage) (d : Directive) (rest : List Argument)
  | shown (text : List Char) (rest : List Argument)
  | bad (e : Unformatted)

def readLetter (d : Directive) (c : Char) : List Argument → Step
  | [] => .bad .failed
  | a :: rest =>
    match d.render c a with
    | .ok text => .shown text rest
    | .error e => .bad e

def readSize (d : Directive) (c : Char) (args : List Argument) : Step :=
  if c = 'h' || c = 'l' || c = 'L' then .more .letter d args else d.readLetter c args

def readPoint (d : Directive) (c : Char) (args : List Argument) : Step :=
  if c = '.' then .more .precision { d with precision := some 0 } args else d.readSize c args

def widthLimit : Nat := 9223372036854775807

/-- A negative width puts the text on the left. The least of all is none. -/
def starWidth (d : Directive) : List Argument → Step
  | .number n :: rest =>
    if widthLimit < n ∨ n < -(widthLimit + 1 : Int) then .bad .failed
    else
      .more .point
        { d with
          left := d.left || n < 0
          width := if widthLimit < n.natAbs then 0 else n.natAbs } rest
  | _ => .bad .failed

/-- A negative precision is none of the digits. -/
def starPrecision (d : Directive) : List Argument → Step
  | .number n :: rest =>
    if Number.Notation.precisionLimit < n ∨ n < -(Number.Notation.precisionLimit + 1 : Int) then
      .bad .failed
    else .more .size { d with precision := some n.toNat } rest
  | _ => .bad .failed

def digit? (limit before : Nat) (c : Char) : Option Nat :=
  let n := 10 * before + (c.toNat - '0'.toNat)
  if limit < n then none else some n

def widthDigit (d : Directive) (c : Char) (args : List Argument) : Step :=
  match digit? widthLimit d.width c with
  | some n => .more .width { d with width := n } args
  | none => .bad .failed

def precisionDigit (d : Directive) (c : Char) (args : List Argument) : Step :=
  match digit? Number.Notation.precisionLimit (d.precision.getD 0) c with
  | some n => .more .decimals { d with precision := some n } args
  | none => .bad .failed

def readWidth (d : Directive) (c : Char) (args : List Argument) : Step :=
  if c = '*' then d.starWidth args
  else if c.isDigit then d.widthDigit c args
  else d.readPoint c args

def readFlag (d : Directive) (c : Char) (args : List Argument) : Step :=
  match c with
  | '-' => .more .flag { d with left := true } args
  | '+' => .more .flag { d with plus := true } args
  | ' ' => .more .flag { d with blank := true } args
  | '#' => .more .flag { d with alternate := true } args
  | '0' => .more .flag { d with zeros := true } args
  | _ => d.readWidth c args

/-- Reads one character. A second percent sign stands for itself. -/
def read (d : Directive) (c : Char) (args : List Argument) : Stage → Step
  | .first => if c = '%' then .shown ['%'] args else d.readFlag c args
  | .flag => d.readFlag c args
  | .width => if c.isDigit then d.widthDigit c args else d.readPoint c args
  | .point => d.readPoint c args
  | .precision =>
    if c = '*' then d.starPrecision args
    else if c.isDigit then d.precisionDigit c args
    else d.readSize c args
  | .decimals => if c.isDigit then d.precisionDigit c args else d.readSize c args
  | .size => d.readSize c args
  | .letter => d.readLetter c args

end Directive

end InvocationClient
