import InvocationClient.Json.Basic
import InvocationClient.Number.Decimal
import InvocationClient.Text.Quoted

/-! # Writing JSON

A value on one line, in printable ASCII: a space follows each comma and colon, and all that is not
printable ASCII is escaped, above U+FFFF as two surrogates.
-/

namespace InvocationClient.Json

open Text Number

def escapeUnit (n : Nat) : List Char :=
  '\\' :: 'u' :: hexDigits 4 n

def escape (p : CodePoint) : List Char :=
  if p.val = 0x22 then ['\\', '"']
  else if p.val = 0x5c then ['\\', '\\']
  else if p.val = 0x0a then ['\\', 'n']
  else if p.val = 0x0d then ['\\', 'r']
  else if p.val = 0x09 then ['\\', 't']
  else if p.val = 0x0c then ['\\', 'f']
  else if p.val = 0x08 then ['\\', 'b']
  else if 0x20 ≤ p.val ∧ p.val < 0x7f then [Char.ofNat p.val]
  else if p.val < 0x10000 then escapeUnit p.val
  else
    escapeUnit (0xd800 + (p.val - 0x10000) / 0x400) ++
      escapeUnit (0xdc00 + (p.val - 0x10000) % 0x400)

/-- Delete is escaped, the tilde before it is not. -/
example : escape 0x7f = "\\u007f".toList ∧ escape 0x7e = ['~'] := by decide +kernel

example : escape 0x1f600 = "\\ud83d\\ude00".toList := by decide +kernel

def quote (s : List CodePoint) : List Char :=
  '"' :: s.flatMap escape ++ ['"']

/-- Doubles outside the finite ones have names that JSON does not know. -/
def spelling : Spelling := ⟨"NaN", "Infinity"⟩

mutual

def chars : Json → List Char
  | null => "null".toList
  | bool true => "true".toList
  | bool false => "false".toList
  | integer n => n.repr.toList
  | double x => (writeParts spelling (.ofFloat x)).toList
  | string s => quote s
  | array items => '[' :: itemChars items
  | object members => '\x7b' :: memberChars members

/-- The items with the closing bracket. -/
def itemChars : List Json → List Char
  | [] => [']']
  | [v] => chars v ++ [']']
  | v :: vs => chars v ++ ',' :: ' ' :: itemChars vs

def memberChars : List (List CodePoint × Json) → List Char
  | [] => ['\x7d']
  | [(k, v)] => quote k ++ ':' :: ' ' :: chars v ++ ['\x7d']
  | (k, v) :: ms => quote k ++ ':' :: ' ' :: chars v ++ ',' :: ' ' :: memberChars ms

end

def render (v : Json) : String :=
  String.ofList (chars v)

end InvocationClient.Json
