import InvocationClient.Json.Reader
import InvocationClient.Text.Decoding

/-! # JSON documents as bytes

A document is in UTF-8, UTF-16 or UTF-32, as its byte order mark or else the zeros among its first
bytes tell.
-/

namespace InvocationClient.Json

open Text

inductive Encoding where
  | utf8
  | utf16 (e : Endian)
  | utf32 (e : Endian)
  deriving DecidableEq, Repr

/-- Encoding, and length of the byte order mark if there is one. -/
def markOf? : List UInt8 → Option (Encoding × Nat)
  | 0x00 :: 0x00 :: 0xfe :: 0xff :: _ => some (.utf32 .big, 4)
  | 0xff :: 0xfe :: 0x00 :: 0x00 :: _ => some (.utf32 .little, 4)
  | 0xfe :: 0xff :: _ => some (.utf16 .big, 2)
  | 0xff :: 0xfe :: _ => some (.utf16 .little, 2)
  | 0xef :: 0xbb :: 0xbf :: _ => some (.utf8, 3)
  | _ => none

/-- A document begins with two ASCII characters, or is one, so its zeros tell the encoding. -/
def encodingOfZeros : List UInt8 → Encoding
  | a :: b :: c :: d :: _ =>
    if a = 0 then if b = 0 then .utf32 .big else .utf16 .big
    else if b = 0 then if c = 0 ∧ d = 0 then .utf32 .little else .utf16 .little
    else .utf8
  | [a, b] => if a = 0 then .utf16 .big else if b = 0 then .utf16 .little else .utf8
  | _ => .utf8

/-- Places in a UTF-8 document are counted from behind its mark, in the others from the mark. -/
def decode (bytes : List UInt8) : Except DecodingError (List CodePoint) :=
  let (encoding, mark) := (markOf? bytes).getD (encodingOfZeros bytes, 0)
  match encoding with
  | .utf8 => Utf8.decode true (bytes.drop mark)
  | .utf16 e => Utf16.decode e mark (bytes.drop mark)
  | .utf32 e => Utf32.decode e mark (bytes.drop mark)

inductive ReadError where
  | undecodable (e : DecodingError)
  | malformed (m : Malformed)
  | tooManyDigits (digits : Nat)
  | tooDeep (step : Descent)
  deriving DecidableEq, Repr

def ReadError.ofFault (s : List CodePoint) : Fault → ReadError
  | .malformed complaint left => .malformed (.locate s complaint left)
  | .tooManyDigits digits => .tooManyDigits digits
  | .tooDeep step => .tooDeep step

def read (limit : Nat) (s : List CodePoint) : Except ReadError Json :=
  (readDocument limit s).mapError (.ofFault s)

def readBytes (limit : Nat) (bytes : List UInt8) : Except ReadError Json :=
  match decode bytes with
  | .ok s => read limit s
  | .error e => .error (.undecodable e)

end InvocationClient.Json
