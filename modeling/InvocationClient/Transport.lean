import InvocationClient.Transport.Http

/-! # Transports

A client sends its requests over a transport that it was given, or over an HTTP connection of its
own. Either holds the replies that are still to come.
-/

namespace InvocationClient

inductive Transport where
  | injected (replies : List Outcome)
  | http (connection : Http.Connection)

/-- A request as the transport was given it, or as it went over HTTP. -/
inductive Sent where
  | direct (request : Request)
  | http (call : Http.Call)

structure Transfer where
  outcome : Outcome
  sent : List Sent
  entries : List Entry := []
  transport : Transport

namespace Transport

def exhausted : Outcome := .error (.client ⟨.transport "script exhausted", .absent⟩)

def execute (t : Transport) (r : Request) : Transfer :=
  match t with
  | injected replies =>
    { outcome := replies.head?.getD exhausted
      sent := [.direct r]
      transport := injected replies.tail }
  | http c =>
    let trip := c.execute r
    { outcome := trip.outcome
      sent := trip.calls.map .http
      entries := trip.entries
      transport := http trip.connection }

def pending : Transport → Nat
  | injected replies => replies.length
  | http c => c.replies.length

def close : Transport → Transport
  | injected replies => injected replies
  | http c => http c.close

def isClosed : Transport → Bool
  | injected _ => false
  | http c => c.isClosed

theorem pending_execute_le (t : Transport) (r : Request) :
    (t.execute r).transport.pending ≤ t.pending := by
  cases t with
  | injected replies => simp [execute, pending]
  | http c =>
    simp only [execute, pending, Http.Connection.execute]
    split <;> simp

/-- A response takes one of the replies. -/
theorem pending_execute_lt {t : Transport} {r : Request} {response : Response}
    (h : (t.execute r).outcome = .ok response) :
    (t.execute r).transport.pending < t.pending := by
  cases t with
  | injected replies =>
    cases replies with
    | nil => simp [execute, exhausted] at h
    | cons o os => simp [execute, pending]
  | http c =>
    simp only [execute, pending, Http.Connection.execute] at h ⊢
    split at h
    · simp at h
    · cases hr : c.replies with
      | nil => simp [Http.Connection.next, Http.Connection.exhausted, Http.Connection.receive, hr] at h
      | cons o os => simp

end Transport

end InvocationClient
