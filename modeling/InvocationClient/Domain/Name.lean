import InvocationClient.Domain.Direction
import InvocationClient.Domain.Fault
import InvocationClient.Domain.Joining
import InvocationClient.Domain.Permitted
import InvocationClient.Domain.Script
import InvocationClient.Text.Composition
import InvocationClient.Text.Encoding
import InvocationClient.Text.Mark
import InvocationClient.Text.Punycode

/-! # Domain names

Names of hosts in any script, and the names in ASCII that stand for them: which labels are valid by
the rules for internationalized domain names of 2008, and how they are written in ASCII.
-/

namespace InvocationClient.Domain

open Text

namespace Label

/-! ## Characters in their places -/

def zeroWidthNonJoiner : Nat := 0x200c

def zeroWidthJoiner : Nat := 0x200d

/-- What is later than Unicode 14.0 has no name there, nor have the Tangut ideographs. -/
def isNameless (code : Nat) : Bool :=
  Direction.ofCode code = .unassigned || (0x17000 ≤ code && code ≤ 0x187f7) ||
    (0x18d00 ≤ code && code ≤ 0x18d08)

def joins (ways : List Joining) (ps : List CodePoint) : Bool :=
  match ps.dropWhile fun p => Joining.ofCode? p.val = some .transparent with
  | [] => false
  | p :: _ => (Joining.ofCode? p.val).any ways.contains

/-- A joiner stands behind a cancelled vowel; a non-joiner may also stand between letters that would
be joined. Neither stands right behind a character without a name. -/
def isJoinerInPlace (code : Nat) (before behind : List CodePoint) : Bool :=
  before.head?.any (combiningClass ·.val = virama) ||
    (code = zeroWidthNonJoiner && !before.head?.any (isNameless ·.val) &&
      joins [.next, .both] before && joins [.previous, .both] behind)

def arabicDigits : CodeRange := (0x660, 0x669)

def persianDigits : CodeRange := (0x6f0, 0x6f9)

def middleDot : Nat := 0xb7

def greekNumeralSign : Nat := 0x375

def hebrewMarks : CodeRange := (0x5f3, 0x5f4)

def katakanaMiddleDot : Nat := 0x30fb

def isContextual (code : Nat) : Bool :=
  code = middleDot || code = greekNumeralSign || hebrewMarks.covers code ||
    code = katakanaMiddleDot || arabicDigits.covers code || persianDigits.covers code

/-- A middle dot stands between two letters `l`. A Greek numeral sign goes before a Greek letter and
a Hebrew mark behind a Hebrew one, a Katakana middle dot goes with Japanese, and digits of the two
Arabic kinds do not go together. -/
def isInPlace (code : Nat) (before behind : List CodePoint) : Bool :=
  let others := before ++ behind
  if code = middleDot then
    before.head?.any (·.val = 0x6c) && behind.head?.any (·.val = 0x6c)
  else if code = greekNumeralSign then behind.head?.any (isGreek ·.val)
  else if hebrewMarks.covers code then before.head?.any (isHebrew ·.val)
  else if code = katakanaMiddleDot then others.any (isJapanese ·.val)
  else if arabicDigits.covers code then !others.any (persianDigits.covers ·.val)
  else !others.any (arabicDigits.covers ·.val)

/-- Checks one code point; `before` begins with the one right before it. -/
def checkPlace (label : Label) (before : List CodePoint) (p : CodePoint)
    (behind : List CodePoint) : Except Fault Unit :=
  if isPermitted p.val then .ok ()
  else if p.val = zeroWidthNonJoiner || p.val = zeroWidthJoiner then
    if isJoinerInPlace p.val before behind then .ok ()
    else .error (.misplacedJoiner label before.length p)
  else if isContextual p.val then
    if isInPlace p.val before behind then .ok () else .error (.misplaced label before.length p)
  else .error (.forbidden label before.length p)

def checkPlaces (label : Label) (before : List CodePoint) : List CodePoint → Except Fault Unit
  | [] => .ok ()
  | p :: behind => do
    checkPlace label before p behind
    checkPlaces label (p :: before) behind

/-! ## Directions -/

def isRightward (d : Direction) : Bool := [.right, .arabic, .arabicNumber].contains d

/-- Checks a label that begins on the right; `numbers` is the kind of its digits. -/
def checkRightward (numbers : Option Direction) (place : Nat) : List Direction → Except Fault Unit
  | [] => .ok ()
  | d :: ds =>
    if d = .left then .error (.againstRight place)
    else if d = .number || d = .arabicNumber then
      if numbers.all (· = d) then checkRightward (some d) (place + 1) ds else .error .mixedNumbers
    else checkRightward numbers (place + 1) ds

def endsWell (ds : List Direction) : Bool :=
  (ds.reverse.dropWhile (· = .mark)).head?.any
    [.right, .arabic, .number, .arabicNumber].contains

/-- A label with anything written from right to left cannot begin with a letter that is written from
left to right. -/
def checkDirections (label : Label) : Except Fault Unit :=
  let ds := label.map fun p => Direction.ofCode p.val
  match ds.findIdx? (· = .unassigned) with
  | some place => .error (.unknownDirection label place)
  | none =>
    match ds.findIdx? isRightward, ds.head? with
    | none, _ => .ok ()
    | some _, some .right | some _, some .arabic => do
      checkRightward none 0 ds
      if endsWell ds then .ok () else .error .undirectedEnd
    | some place, some .left => .error (.againstLeft place)
    | some _, _ => .error (.undirectedStart label)

/-! ## Whole labels -/

def isHyphen (p : CodePoint) : Bool := p.val = 0x2d

/-- Two hyphens behind the second character are left to labels in ASCII that stand for others. -/
def check (label : Label) : Except Fault Unit := do
  if label.isEmpty then throw .emptyLabel
  if !isComposed (label.map (·.val)) then throw .notComposed
  let inner := (label.drop 2).take 2
  if inner.length = 2 && inner.all isHyphen then throw .innerHyphens
  if label.head?.any isHyphen || label.getLast?.any isHyphen then throw .outerHyphen
  if label.head?.any (isMark ·.val) then throw .leadingMark
  checkPlaces label [] label
  checkDirections label

def mark : List Char := "xn--".toList

def ofAscii (cs : List Char) : Except Fault Label := do
  let cs := cs.map Char.toLower
  if mark.isPrefixOf cs then
    let encoded := cs.drop mark.length
    if encoded.isEmpty then throw .nothingEncoded
    if encoded.getLast? = some '-' then throw .hyphenAtEnd
    match Punycode.decode? encoded with
    | none => throw .undecodable
    | some label =>
      check label
      return label
  else
    let label : Label := cs.map .ofChar
    check label
    return label

def lengthLimit : Nat := 63

/-- A label in ASCII stays as it is, if it is valid. -/
def toAscii (cs : List Char) : Except Fault (List Char) := do
  let written ←
    if cs.all Ascii.isAscii then do
      discard (ofAscii cs)
      pure cs
    else do
      let label : Label := cs.map .ofChar
      check label
      pure (mark ++ Punycode.encode label)
  if written.length ≤ lengthLimit then return written else throw .labelTooLong

end Label

def isDot (c : Char) : Bool := ['.', '。', '．', '｡'].contains c

/-- The labels, and whether the name ends with a dot, behind which there is no label. -/
def splitLabels (name : List Char) : List (List Char) × Bool :=
  let labels := pieces isDot name
  if labels.getLast? = some [] then (labels.dropLast, true) else (labels, false)

/-- In characters, without a dot at the end. -/
def lengthLimit : Nat := 253

def ofAscii (name : List Char) : Except Fault (List Label) := do
  if lengthLimit + 1 < name.length then throw .nameTooLong
  if name.isEmpty then throw .emptyName
  (splitLabels name).1.mapM Label.ofAscii

def toAscii (name : List Char) : Except Fault (List Char) := do
  if lengthLimit + 1 < name.length then throw .nameTooLong
  if name.isEmpty then throw .emptyName
  let (labels, hasFinalDot) := splitLabels name
  let written ← labels.mapM Label.toAscii
  let text := List.intercalate ['.'] written ++ (if hasFinalDot then ['.'] else [])
  if text.length ≤ (if hasFinalDot then lengthLimit + 1 else lengthLimit) then return text
  else throw .nameTooLong

example : splitLabels "a.b。".toList = ([['a'], ['b']], true) := by decide +kernel

example : (toAscii ['ü']).toOption = some "xn--tda".toList := by decide +kernel

end InvocationClient.Domain
