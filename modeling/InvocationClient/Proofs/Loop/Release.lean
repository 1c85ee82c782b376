import InvocationClient.Proofs.Loop.Protocol
import InvocationClient.Proofs.Transport.Conveyance

/-! # The release of the connection

A run closes its client at most once. It does so when a poll ends it and when a handler that cannot
be loaded has been reported. A failure that gets past a run gets past the closing too, so that the
connection is left open.
-/

namespace InvocationClient

namespace Transport

variable {t : Transport} {n : Nat}

/-- A connection of the client's own that has been closed `n` times. -/
inductive Released (n : Nat) : Transport → Prop where
  | http {connection : Http.Connection} : connection.owned = true → connection.closings = n →
      Released n (.http connection)

theorem released_connect (c : Client) (replies : List Http.Reply) :
    (c.connect replies).Released 0 := .http rfl rfl

theorem Released.execute (h : t.Released n) (r : Request) : (t.execute r).transport.Released n := by
  cases h with
  | @http connection ho hn =>
    simp only [Transport.execute, Http.Connection.execute]
    cases connection.refusal? r with
    | some f => exact .http ho hn
    | none => exact .http ho hn

theorem Released.close (h : t.Released n) : t.close.Released (n + 1) := by
  obtain ⟨ho, hn⟩ := h
  simp only [Transport.close, Http.Connection.close, if_pos ho]
  exact .http ho (congrArg (· + 1) hn)

end Transport

namespace Loop

open Client

variable {c : Client} {registry : Registry} {trace : Failure → List Frame} {handler : Handler}
  {t : Transport} {f : Failure} {n : Nat} {run : Run} {orderly : Prop}

/-- A run that closes its connection once more if it ends in good order, and else leaves it as
often closed as it was. -/
inductive Leaves (n : Nat) (run : Run) (orderly : Prop) : Prop where
  | closed {u : Transport} : orderly → run.transport = some u → u.Released (n + 1) →
      Leaves n run orderly
  | unclosed {u : Transport} : ¬ orderly → run.transport = some u → u.Released n →
      Leaves n run orderly

theorem Leaves.after {α : Type} (h : Leaves n run orderly) (turn : Turn α) :
    Leaves n (run.after turn) orderly := by
  cases h with
  | closed ho ht hu => exact .closed ho ht hu
  | unclosed ho ht hu => exact .unclosed ho ht hu

theorem leaves_stop (h : t.Released n) (f : Failure) :
    Leaves n (stop f t) ((stop f t).result = .ok ()) := by
  by_cases he : endsRun f = true
  · rw [stop, if_pos he]
    exact .closed rfl rfl h.close
  · rw [stop, if_neg he]
    exact .unclosed (by rintro ⟨⟩) rfl h

theorem released_answer (h : t.Released n) (i : Invocation) :
    (answer c registry trace handler i t).transport.Released n := by
  rcases answer_due_or_unnamed c registry trace handler i t with
    ⟨r, status, -, hm⟩ | ⟨f, -, -, ha⟩
  · rw [hm.transport]
    exact h.execute r
  · rw [ha]
    exact h

/-- Rounds leave the closings alone, whatever comes back. What counts is how the run ends. -/
theorem leaves_serve (c : Client) (registry : Registry) (trace : Failure → List Frame)
    (handler : Handler) (h : t.Released n) :
    Leaves n (serve c registry trace handler t)
      ((serve c registry trace handler t).result = .ok ()) := by
  induction t using serve.induct c registry trace handler with
  | case1 t polled f hf =>
    rw [serve_of_poll_error rfl hf]
    exact (leaves_stop (h.execute _) f).after _
  | case2 t polled i hi answered f hf =>
    rw [serve_of_answer_error rfl hi rfl hf]
    exact .unclosed (by rintro ⟨⟩) rfl (released_answer (h.execute _) i)
  | case3 t polled i hi answered hf ih =>
    rw [serve_of_answer_ok rfl hi rfl hf]
    exact ((ih (released_answer (h.execute _) i)).after _).after _

theorem leaves_giveUp (c : Client) (registry : Registry) (trace : Failure → List Frame)
    (f : Failure) (h : t.Released n) :
    Leaves n (giveUp c registry trace f t)
      (Accepts acceptedStatus (t.execute (initReport c trace f)).outcome) := by
  have hu := h.execute (initReport c trace f)
  simp only [giveUp, reportInitError_eq]
  split
  · next e he =>
    have hn : ¬ Accepts acceptedStatus (t.execute (initReport c trace f)).outcome := fun ha => by
      cases he.symm.trans (expecting_eq_ok_iff.mpr ha)
    exact .unclosed hn rfl hu
  · next ho => exact .closed (expecting_eq_ok_iff.mp ho) rfl hu.close

/-- How a run ends with its client closed: without a failure, or with that of loading its handler
once it has been reported. -/
def Orderly (c : Client) (registry : Registry) (trace : Failure → List Frame)
    (loaded : Except Failure Handler) (t : Transport) : Prop :=
  match loaded with
  | .ok handler => (serve c registry trace handler t).result = .ok ()
  | .error f => Accepts acceptedStatus (t.execute (initReport c trace f)).outcome

theorem leaves_runLoaded (c : Client) (registry : Registry) (trace : Failure → List Frame)
    (loaded : Except Failure Handler) (h : t.Released n) :
    Leaves n (runLoaded c registry trace loaded t) (Orderly c registry trace loaded t) := by
  cases loaded with
  | ok handler => exact leaves_serve c registry trace handler h
  | error f => exact leaves_giveUp c registry trace f h

/-- The connection that a client makes is closed once by a run that ends in good order, and never by
another. -/
theorem runLoaded_closes_iff (c : Client) (registry : Registry) (trace : Failure → List Frame)
    (loaded : Except Failure Handler) (replies : List Http.Reply) :
    ∃ connection, (runLoaded c registry trace loaded (c.connect replies)).transport =
        some (.http connection) ∧ connection.owned = true ∧ connection.closings ≤ 1 ∧
      (connection.closings = 1 ↔ Orderly c registry trace loaded (c.connect replies)) := by
  cases leaves_runLoaded c registry trace loaded (Transport.released_connect c replies) with
  | closed ho ht hu =>
    obtain ⟨hw, hn⟩ := hu
    exact ⟨_, ht, hw, Nat.le_of_eq hn, iff_of_true hn ho⟩
  | unclosed ho ht hu =>
    obtain ⟨hw, hn⟩ := hu
    exact ⟨_, ht, hw, by omega, iff_of_false (by omega) ho⟩

theorem status_of_accepts {connection : Http.Connection} {r : Request} {status : Int}
    {a : Http.Answer} (hn : connection.next = .answer a)
    (h : Accepts status ((Transport.http connection).execute r).outcome) : a.status = status := by
  obtain ⟨response, ho, rfl⟩ := h
  have hg := Http.Connection.outcome_of_gives ⟨hn, response, ho⟩
  exact congrArg Response.status (Except.ok.inj (hg.symm.trans ho))

/-- The report of a handler that cannot be loaded is answered by an error of the endpoint. -/
theorem unreleased_of_refused_report :
    ∃ connection, (runLoaded sample {} (fun _ => []) (.error (.unloadable (.unknownModule "missing")))
        (sample.connect [.answer { status := 500 }])).transport = some (.http connection) ∧
      connection.owned = true ∧ connection.closings = 0 := by
  cases leaves_giveUp sample {} (fun _ => []) (.unloadable (.unknownModule "missing"))
    (Transport.released_connect sample [.answer { status := 500 }]) with
  | closed ha => exact absurd (status_of_accepts rfl ha) (by decide)
  | unclosed ho ht hu =>
    obtain ⟨hw, hn⟩ := hu
    exact ⟨_, ht, hw, hn⟩

end Loop

end InvocationClient
