import InvocationClient.Exchange
import InvocationClient.Text.Decoding
import InvocationClient.Text.Case
import InvocationClient.Url.Site

/-! # HTTP transport

Requests over HTTP. Failures of the exchange come back as transport errors; all else that goes
wrong is passed through.
-/

namespace InvocationClient.Http

open Text

inductive Nature where
  | timeout
  | request
  | other
  deriving DecidableEq, Repr

namespace Nature

def timeouts : List String :=
  ["ConnectTimeout", "PoolTimeout", "ReadTimeout", "TimeoutException", "WriteTimeout"]

def requestErrors : List String :=
  ["CloseError", "ConnectError", "DecodingError", "LocalProtocolError", "NetworkError",
    "ProtocolError", "ProxyError", "ReadError", "RemoteProtocolError", "RequestError",
    "TooManyRedirects", "TransportError", "UnsupportedProtocol", "WriteError"]

def ofKind (kind : String) : Nature :=
  if timeouts.contains kind then timeout
  else if requestErrors.contains kind then request
  else other

end Nature

structure Answer where
  status : Int
  headers : List (List UInt8 × List UInt8) := []
  body : ByteArray := .empty

inductive Reply where
  | answer (a : Answer)
  | fault (thrown : Thrown)

structure Call where
  method : String
  url : String
  headers : List (String × List UInt8)
  body : ByteArray
  timeout : Float

structure Connection where
  baseUrl : String
  timeout : Float
  /-- Whether closing the transport closes the connection. -/
  owned : Bool
  closings : Nat := 0
  replies : List Reply := []

namespace Connection

def withoutFinalSlashes (url : String) : String :=
  String.ofList (trimEnd (· = '/') url.toList)

def ofUrl (url : String) (timeout : Float) (owned : Bool) (replies : List Reply) :
    Connection where
  baseUrl := withoutFinalSlashes url
  timeout := timeout
  owned := owned
  replies := replies

def isClosed (c : Connection) : Bool := 0 < c.closings

def close (c : Connection) : Connection :=
  if c.owned then { c with closings := c.closings + 1 } else c

def url (c : Connection) (r : Request) : String := c.baseUrl ++ r.path

/-- A relative URL goes out as the path that it is. -/
def call (c : Connection) (r : Request) : Call where
  method := upper r.method
  url :=
    let u := Url.ofString (c.url r)
    if u.isRelative then String.ofList u.rooted else c.url r
  headers := r.headers.map fun h => (h.1, h.2.toUTF8.data.toList)
  body := r.body.getD .empty
  timeout := r.timeout.getD c.timeout

/-- A request names the site that it goes to, unless it has a field for that already. -/
def siteFault? (fields : Fields) (site : Url.Site) : Option Failure :=
  if fields.any fun h => lower h.1 = "host" then none
  else match site.nameFault? with
    | some f => some (.invalidName f)
    | none => (Ascii.fault? site.host).map .unencodable

/-- Why a request is not sent: its URL has to be sound, the names of its header fields and of its
site have to be in ASCII, and the connection has to be open. -/
def refusal? (c : Connection) (r : Request) : Option Failure :=
  match Url.check (c.url r) with
  | .error f => some (.invalidUrl f)
  | .ok site =>
    (r.headers.findSome? fun h => (Ascii.fault? h.1.toList).map .unencodable) <|>
      site.bind (siteFault? r.headers) <|>
      if c.isClosed then some .connectionClosed else none

def exhausted : Reply := .fault ⟨"ConnectError", "script exhausted"⟩

def next (c : Connection) : Reply := c.replies.head?.getD exhausted

end Connection

def lowerByte (b : UInt8) : UInt8 :=
  if 65 ≤ b && b ≤ 90 then b + 32 else b

def latin1 (bytes : List UInt8) : String :=
  String.ofList (bytes.map fun b => Char.ofNat b.toNat)

/-- Reads header fields as UTF-8 if all of them are that, else as Latin-1. Names come in lower
case. -/
def decodeFields (headers : List (List UInt8 × List UInt8)) : Fields :=
  let texts := headers.mapM fun h => do
    return (← Utf8.decodeString (h.1.map lowerByte), ← Utf8.decodeString h.2)
  match texts with
  | .ok fields => fields
  | .error _ => headers.map fun h => (latin1 (h.1.map lowerByte), latin1 h.2)

def translate (method url : String) (timeout : Float) (t : Thrown) : Failure :=
  match Nature.ofKind t.kind with
  | .timeout =>
    .because ⟨.transport ("HTTP " ++ method ++ " " ++ url ++ " timed out after " ++
      Number.writeFloat timeout ++ "s"), .text url⟩ (.foreign t)
  | .request =>
    .because ⟨.transport ("Cannot reach " ++ url ++ ": " ++ t.text), .text url⟩ (.foreign t)
  | .other => .foreign t

/-- Messages of the transport go through the logger's child `http`. -/
def entry (template : String) (arguments : List Argument) : Entry where
  scope := ["http"]
  level := .debug
  message := ⟨template, arguments⟩

def sending (r : Request) (url : String) : Entry :=
  entry "HTTP %s %s bytes=%d" [.text r.method, .text url, .number (r.body.getD .empty).size]

def received (url : String) (a : Answer) : Entry :=
  entry "HTTP <- %s status=%s bytes=%d" [.text url, .number a.status, .number a.body.size]

/-- What a reply to a request comes to, and what is logged about it. An answer from a URL that is
only a path cannot be used. -/
def Connection.receive (c : Connection) (r : Request) : Reply → Outcome × List Entry
  | .answer a =>
    if (Url.ofString (c.url r)).isRelative then (.error (.unknownUrlType (c.call r).url), [])
    else (.ok ⟨a.status, decodeFields a.headers, a.body⟩, [received (c.url r) a])
  | .fault t => (.error (translate r.method (c.url r) (c.call r).timeout t), [])

structure Trip where
  outcome : Outcome
  calls : List Call
  entries : List Entry
  connection : Connection

/-- A request that is refused takes no reply. -/
def Connection.execute (c : Connection) (r : Request) : Trip :=
  match c.refusal? r with
  | some f => ⟨.error f, [], [sending r (c.url r)], c⟩
  | none =>
    let (outcome, entries) := c.receive r c.next
    ⟨outcome, [c.call r], sending r (c.url r) :: entries, { c with replies := c.replies.tail }⟩

end InvocationClient.Http
