import InvocationClient.Transport.Http

/-! # Recordings

Replies written down as JSON, one object each: the `status`, `headers` and `body` of an answer, or
the kind of a failure as `fail` with its `message`.
-/

namespace InvocationClient.Http.Recording

def member? (name : String) : Json → Option Json
  | .object members => Association.get? (Text.codePoints name) members
  | _ => none

def text? : Json → Option String
  | .string s => Text.ofCodePoints? s
  | _ => none

def utf8 (s : String) : List UInt8 := s.toUTF8.data.toList

def header? : Json → Option (List UInt8 × List UInt8)
  | .array [name, value] => do return (utf8 (← text? name), utf8 (← text? value))
  | _ => none

def headers? : Option Json → Option (List (List UInt8 × List UInt8))
  | none => some []
  | some (.array hs) => hs.mapM header?
  | some _ => none

def textOr (default : String) : Option Json → Option String
  | none => some default
  | some v => text? v

def reply? (j : Json) : Option Reply :=
  match member? "fail" j with
  | some kind => do return .fault ⟨← text? kind, ← textOr "" (member? "message" j)⟩
  | none =>
    match member? "status" j with
    | some (.integer status) => do
      let headers ← headers? (member? "headers" j)
      let body ← textOr "" (member? "body" j)
      return .answer { status, headers, body := body.toUTF8 }
    | _ => none

def ofLine? (line : String) : Option Reply :=
  match Json.read Json.depthLimit (Text.codePoints line) with
  | .ok j => reply? j
  | .error _ => none

end InvocationClient.Http.Recording
