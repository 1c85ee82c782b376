import InvocationClient.Text.CodePoint
import InvocationClient.Text.Printable

/-! # Quoted text

A text as a diagnostic shows it: between quotes, with everything unprintable escaped.
-/

namespace InvocationClient.Text

def hexDigit (n : Nat) : Char :=
  if n < 10 then Char.ofNat (48 + n) else Char.ofNat (87 + n)

def hexDigits : (width : Nat) → (n : Nat) → List Char
  | 0, _ => []
  | width + 1, n => hexDigits width (n / 16) ++ [hexDigit (n % 16)]

/-- A code point as two, four or eight hexadecimal digits, as many as it needs. -/
def hexEscape (code : Nat) : List Char :=
  if code < 0x100 then '\\' :: 'x' :: hexDigits 2 code
  else if code < 0x10000 then '\\' :: 'u' :: hexDigits 4 code
  else '\\' :: 'U' :: hexDigits 8 code

/-- The double quote encloses a text only if that saves escaping a single quote. -/
def quoteFor (cs : List Char) : Char :=
  if cs.contains '\'' && !cs.contains '"' then '"' else '\''

/-- Short escapes first, then hexadecimal digits for what else is unprintable. -/
def quotedChar (quote c : Char) : List Char :=
  if c = quote || c = '\\' then ['\\', c]
  else if c = '\n' then ['\\', 'n']
  else if c = '\r' then ['\\', 'r']
  else if c = '\t' then ['\\', 't']
  else if isPrintable c.toNat then [c]
  else hexEscape c.toNat

def quotedChars (cs : List Char) : List Char :=
  quoteFor cs :: cs.flatMap (quotedChar (quoteFor cs)) ++ [quoteFor cs]

def quoted (s : String) : String :=
  String.ofList (quotedChars s.toList)

example : quoted "it's" = "\"it's\"" ∧ quoted "a'\"" = "'a\\'\"'" := by decide +kernel

example : quoted "\\\n\x7f\u00ad\u2028é😀" = "'\\\\\\n\\x7f\\xad\\u2028é😀'" := by
  decide +kernel

/-- Code points are shown as the characters they are; a surrogate on its own is escaped. -/
def quotedPoints (ps : List CodePoint) : String :=
  let quote := quoteFor (ps.filterMap CodePoint.toChar?)
  let shown := ps.flatMap fun p => match p.toChar? with
    | some c => quotedChar quote c
    | none => hexEscape p.val
  String.ofList (quote :: shown ++ [quote])

example : quotedPoints [0x61, 0xd800, 0xe9] = "'a\\ud800é'" := by decide +kernel

/-- Several texts are shown in parentheses; a single one keeps a comma behind it. -/
def quotedTuple : List String → String
  | [s] => "(" ++ quoted s ++ ",)"
  | ss => "(" ++ String.intercalate ", " (ss.map quoted) ++ ")"

end InvocationClient.Text
