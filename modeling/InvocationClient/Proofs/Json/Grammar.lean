import InvocationClient.Json.Basic
import InvocationClient.Number.Integer
import InvocationClient.Proofs.Json.Members
import InvocationClient.Text.Quoted

/-! # The grammar of documents

How values are written by anyone: with white space around each of them and around each name, with any
escapes in strings, with names that are given more than once. Numbers with a fraction or an exponent
are left out, and so are escapes that come to a lone surrogate. So every value that is denoted is
exact.
-/

namespace InvocationClient.Json

open Text

def points (cs : List Char) : List CodePoint := cs.map CodePoint.ofChar

@[simp] theorem points_nil : points [] = [] := rfl

@[simp] theorem points_cons (c : Char) (cs : List Char) :
    points (c :: cs) = CodePoint.ofChar c :: points cs := rfl

@[simp] theorem points_append (cs ds : List Char) : points (cs ++ ds) = points cs ++ points ds :=
  List.map_append

/-- Code points that are characters, so that there is no surrogate among them. -/
def Scalars (s : List CodePoint) : Prop := ∀ p ∈ s, p.val.isValidChar

theorem scalars_points (cs : List Char) : Scalars (points cs) :=
  List.forall_mem_map.mpr fun c _ => c.valid

theorem scalars_codePoints (s : String) : Scalars (codePoints s) := scalars_points s.toList

/-- Values that hold neither doubles nor surrogates. -/
inductive Exact : Json → Prop where
  | null : Exact .null
  | bool (b : Bool) : Exact (.bool b)
  | integer (n : Int) : Exact (.integer n)
  | string {s : List CodePoint} : Scalars s → Exact (.string s)
  | array {items : List Json} : (∀ v ∈ items, Exact v) → Exact (.array items)
  | object {members : List (List CodePoint × Json)} : (∀ m ∈ members, Scalars m.1) →
      (∀ m ∈ members, Exact m.2) → Exact (.object members)

section Strings

inductive HexDigit : Char → Nat → Prop where
  | lower {n : Nat} : n < 16 → HexDigit (hexDigit n) n
  | upper {n : Nat} : n < 16 → HexDigit (hexDigit n).toUpper n

inductive EscapedUnit : List Char → Nat → Prop where
  | digits {a b c d : Char} {i j k l : Nat} : HexDigit a i → HexDigit b j → HexDigit c k →
      HexDigit d l → EscapedUnit ['\\', 'u', a, b, c, d] (((i * 16 + j) * 16 + k) * 16 + l)

def shortEscapes : List (Char × Char) :=
  [('"', '"'), ('\\', '\\'), ('/', '/'), ('b', '\x08'), ('f', '\x0c'), ('n', '\n'), ('r', '\r'),
    ('t', '\t')]

/-- The forms that a character of a string can have. -/
inductive StandsFor : List Char → Char → Prop where
  | itself {c : Char} : c ≠ '"' → c ≠ '\\' → 0x20 ≤ c.toNat → StandsFor [c] c
  | short {e c : Char} : (e, c) ∈ shortEscapes → StandsFor ['\\', e] c
  | unit {cs : List Char} {c : Char} : EscapedUnit cs c.toNat → StandsFor cs c
  | pair {cs ds : List Char} {high low : Nat} {c : Char} : EscapedUnit cs high →
      EscapedUnit ds low → 0xd800 ≤ high ∧ high < 0xdc00 → 0xdc00 ≤ low ∧ low < 0xe000 →
      c.toNat = 0x10000 + (high - 0xd800) * 0x400 + (low - 0xdc00) → StandsFor (cs ++ ds) c

/-- A string with its quotes, whose characters are written one by one. -/
inductive Quotes : List Char → List Char → Prop where
  | quoted {pieces : List (List Char × Char)} : (∀ piece ∈ pieces, StandsFor piece.1 piece.2) →
      Quotes ('"' :: ((pieces.map Prod.fst).flatten ++ ['"'])) (pieces.map Prod.snd)

end Strings

def Spaces (cs : List Char) : Prop := ∀ c ∈ cs, c ∈ [' ', '\t', '\n', '\r']

/-- Decimal digits that do not begin with a zero, unless there is no other. -/
inductive Whole : List Char → Prop where
  | zero : Whole ['0']
  | digits {d : Char} {ds : List Char} : d.isDigit = true → d ≠ '0' →
      (∀ c ∈ ds, c.isDigit = true) → Whole (d :: ds)

/-- A name with space around it. -/
inductive Names : List Char → List Char → Prop where
  | padded {before cs behind name : List Char} : Spaces before → Quotes cs name → Spaces behind →
      Names (before ++ cs ++ behind) name

structure Member where
  nameText : List Char
  name : List Char
  valueText : List Char
  value : Json

namespace Member

def text (m : Member) : List Char := m.nameText ++ ':' :: m.valueText

def entry (m : Member) : List CodePoint × Json := (points m.name, m.value)

end Member

def commaSeparated (texts : List (List Char)) : List Char := [','].intercalate texts

/-- A text denotes a value. -/
inductive Denotes : List Char → Json → Prop where
  | null : Denotes "null".toList .null
  | bool (b : Bool) : Denotes (toString b).toList (.bool b)
  | natural {ds : List Char} : Whole ds → Denotes ds (.integer (Number.ofDigits ds))
  | negative {ds : List Char} : Whole ds → Denotes ('-' :: ds) (.integer (-Number.ofDigits ds))
  | string {cs s : List Char} : Quotes cs s → Denotes cs (.string (points s))
  | emptyArray {ws : List Char} : Spaces ws → Denotes ('[' :: (ws ++ [']'])) (.array [])
  | array {items : List (List Char × Json)} : items ≠ [] → (∀ m ∈ items, Denotes m.1 m.2) →
      Denotes ('[' :: (commaSeparated (items.map Prod.fst) ++ [']'])) (.array (items.map Prod.snd))
  | emptyObject {ws : List Char} : Spaces ws → Denotes ('\x7b' :: (ws ++ ['\x7d'])) (.object [])
  | object {members : List Member} {merged : List (List CodePoint × Json)} : members ≠ [] →
      (∀ m ∈ members, Names m.nameText m.name) → (∀ m ∈ members, Denotes m.valueText m.value) →
      Association.Merges (members.map Member.entry) merged →
      Denotes ('\x7b' :: (commaSeparated (members.map Member.text) ++ ['\x7d'])) (.object merged)
  | padded {before cs behind : List Char} {v : Json} : Spaces before → Denotes cs v →
      Spaces behind → Denotes (before ++ cs ++ behind) v

theorem Denotes.exact {cs : List Char} {v : Json} (h : Denotes cs v) : Exact v := by
  induction h with
  | null => exact .null
  | bool b => exact .bool b
  | natural => exact .integer _
  | negative => exact .integer _
  | string => exact .string (scalars_points _)
  | emptyArray => exact .array (List.forall_mem_nil _)
  | array _ _ ih => exact .array (List.forall_mem_map.mpr ih)
  | emptyObject => exact .object (List.forall_mem_nil _) (List.forall_mem_nil _)
  | @object members merged _ _ _ hmerges ih =>
    have hm : ∀ e ∈ merged, Scalars e.1 ∧ Exact e.2 := by
      intro e he
      obtain ⟨m, hm, rfl⟩ := List.mem_map.mp (hmerges.mem he)
      exact ⟨scalars_points m.name, ih m hm⟩
    exact .object (fun e he => (hm e he).1) fun e he => (hm e he).2
  | padded _ _ _ ih => exact ih

end InvocationClient.Json
