import InvocationClient.Text.Quoted
import InvocationClient.Text.CodePoint

/-! # Decoding bytes

UTF-8, UTF-16 and UTF-32 read strictly: the first byte sequence that stands for nothing is
reported with its place. Surrogates can be let through; then a text of code points results.
-/

namespace InvocationClient.Text

inductive Undecodable where
  | invalidStart
  | invalidContinuation
  | unexpectedEnd
  | truncated
  | outOfRange
  deriving DecidableEq, Repr

namespace Undecodable

def reason : Undecodable → String
  | invalidStart => "invalid start byte"
  | invalidContinuation => "invalid continuation byte"
  | unexpectedEnd => "unexpected end of data"
  | truncated => "truncated data"
  | outOfRange => "code point not in range(0x110000)"

end Undecodable

/-- Where decoding stopped: `width` bytes from `start` on, the first of them `byte`. -/
structure DecodingError where
  encoding : String
  byte : UInt8
  start : Nat
  width : Nat
  fault : Undecodable
  deriving DecidableEq, Repr

namespace DecodingError

/-- A single bad byte is shown, of several only the places are told. -/
def message (e : DecodingError) : String :=
  let place :=
    if e.width = 1 then
      "byte 0x" ++ String.ofList (hexDigits 2 e.byte.toNat) ++ " in position " ++ toString e.start
    else
      "bytes in position " ++ toString e.start ++ "-" ++ toString (e.start + e.width - 1)
  "'" ++ e.encoding ++ "' codec can't decode " ++ place ++ ": " ++ e.fault.reason

end DecodingError

namespace Utf8

/-- The first code point of a byte sequence with the number of further bytes it takes, or a fault
with the number of bytes at fault. -/
abbrev Step := Except (Undecodable × Nat) (CodePoint × Nat)

def isContinuation (b : UInt8) : Bool := b &&& 0xc0 == 0x80

/-- The second byte also keeps out overlong forms, surrogates and what lies above U+10FFFF. -/
def fitsSecond (lead second : UInt8) : Bool :=
  isContinuation second &&
    (lead != 0xe0 || 0xa0 ≤ second) && (lead != 0xed || second < 0xa0) &&
    (lead != 0xf0 || 0x90 ≤ second) && (lead != 0xf4 || second < 0x90)

def low6 (b : UInt8) : Nat := b.toNat % 64

/-- The second byte of a three-byte form may lie in the surrogates' range if those are allowed. -/
def isSurrogateForm (lead second third : UInt8) : Bool :=
  lead == 0xed && isContinuation second && isContinuation third && 0xa0 ≤ second

def step2 (lead : UInt8) : List UInt8 → Step
  | [] => .error (.unexpectedEnd, 1)
  | b :: _ =>
    if isContinuation b then .ok (CodePoint.ofNat (lead.toNat % 32 * 64 + low6 b), 1)
    else .error (.invalidContinuation, 1)

def step3 (surrogates : Bool) (lead : UInt8) : List UInt8 → Step
  | [] => .error (.unexpectedEnd, 1)
  | [b] => if fitsSecond lead b then .error (.unexpectedEnd, 2) else .error (.invalidContinuation, 1)
  | b :: c :: _ =>
    let point : CodePoint := CodePoint.ofNat (lead.toNat % 16 * 4096 + low6 b * 64 + low6 c)
    if surrogates && isSurrogateForm lead b c then .ok (point, 2)
    else if !fitsSecond lead b then .error (.invalidContinuation, 1)
    else if !isContinuation c then .error (.invalidContinuation, 2)
    else .ok (point, 2)

def step4 (lead : UInt8) : List UInt8 → Step
  | [] => .error (.unexpectedEnd, 1)
  | b :: rest =>
    if !fitsSecond lead b then .error (.invalidContinuation, 1)
    else match rest with
      | [] => .error (.unexpectedEnd, 2)
      | c :: rest =>
        if !isContinuation c then .error (.invalidContinuation, 2)
        else match rest with
          | [] => .error (.unexpectedEnd, 3)
          | d :: _ =>
            if !isContinuation d then .error (.invalidContinuation, 3)
            else .ok (CodePoint.ofNat (lead.toNat % 8 * 262144 + low6 b * 4096 + low6 c * 64 + low6 d), 3)

/-- The lead byte tells how many bytes follow; `c0`, `c1` and all from `f5` on lead nothing. -/
def step (surrogates : Bool) (lead : UInt8) (rest : List UInt8) : Step :=
  if lead < 0x80 then .ok (CodePoint.ofNat lead.toNat, 0)
  else if lead < 0xc2 then .error (.invalidStart, 1)
  else if lead < 0xe0 then step2 lead rest
  else if lead < 0xf0 then step3 surrogates lead rest
  else if lead < 0xf5 then step4 lead rest
  else .error (.invalidStart, 1)

/-- Decodes from the byte at place `start` on, behind the code points `done`, last first. -/
def decodeFrom (surrogates : Bool) (start : Nat) (done : List CodePoint) :
    List UInt8 → Except DecodingError (List CodePoint)
  | [] => .ok done.reverse
  | lead :: rest =>
    match step surrogates lead rest with
    | .ok (p, more) => decodeFrom surrogates (start + 1 + more) (p :: done) (rest.drop more)
    | .error (fault, width) => .error ⟨"utf-8", lead, start, width, fault⟩
  termination_by bytes => bytes.length
  decreasing_by simp only [List.length_drop, List.length_cons]; omega

def decode (surrogates : Bool) (bytes : List UInt8) : Except DecodingError (List CodePoint) :=
  decodeFrom surrogates 0 [] bytes

def decodeString (bytes : List UInt8) : Except DecodingError String :=
  (decode false bytes).map fun ps => String.ofList (ps.map fun p => Char.ofNat p.val)

end Utf8

inductive Endian where
  | little
  | big
  deriving DecidableEq, Repr

namespace Endian

def suffix : Endian → String
  | little => "le"
  | big => "be"

def value (e : Endian) (bytes : List UInt8) : Nat :=
  match e with
  | little => bytes.foldr (fun b n => n * 256 + b.toNat) 0
  | big => bytes.foldl (fun n b => n * 256 + b.toNat) 0

end Endian

namespace Utf16

/-- The code units; a byte left over at the end is an error. -/
def units (e : Endian) (start : Nat) (done : List Nat) :
    List UInt8 → Except DecodingError (List Nat)
  | [] => .ok done.reverse
  | [b] => .error ⟨"utf-16-" ++ e.suffix, b, start, 1, .truncated⟩
  | b :: c :: rest => units e (start + 2) (e.value [b, c] :: done) rest

/-- Joins each high surrogate with a low one right behind it. -/
def joinPairs : (done : List CodePoint) → List Nat → List CodePoint
  | done, [] => done.reverse
  | done, [u] => (CodePoint.ofNat u :: done).reverse
  | done, u :: v :: rest =>
    let p : CodePoint := CodePoint.ofNat u
    let q : CodePoint := CodePoint.ofNat v
    if p.isHighSurrogate && q.isLowSurrogate then joinPairs (p.joined q :: done) rest
    else joinPairs (p :: done) (v :: rest)

/-- Lone surrogates are let through; `start` is the place of the first byte. -/
def decode (e : Endian) (start : Nat) (bytes : List UInt8) :
    Except DecodingError (List CodePoint) :=
  (units e start [] bytes).map (joinPairs [])

end Utf16

namespace Utf32

def decodeFrom (e : Endian) (start : Nat) (done : List CodePoint) :
    List UInt8 → Except DecodingError (List CodePoint)
  | a :: b :: c :: d :: rest =>
    let n := e.value [a, b, c, d]
    if h : n < 0x110000 then decodeFrom e (start + 4) (⟨n, h⟩ :: done) rest
    else .error ⟨"utf-32-" ++ e.suffix, a, start, 4, .outOfRange⟩
  | [] => .ok done.reverse
  | a :: rest => .error ⟨"utf-32-" ++ e.suffix, a, start, rest.length + 1, .truncated⟩

def decode (e : Endian) (start : Nat) (bytes : List UInt8) :
    Except DecodingError (List CodePoint) :=
  decodeFrom e start [] bytes

end Utf32

end InvocationClient.Text
