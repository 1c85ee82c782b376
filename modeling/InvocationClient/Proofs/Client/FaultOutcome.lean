import InvocationClient.Proofs.Client.Confidential
import InvocationClient.Proofs.Client.Destination
import InvocationClient.Proofs.Client.Emissions
import InvocationClient.Proofs.Client.ReportOutcome
import InvocationClient.Proofs.Transport.Faults

/-! # What faults of the exchange come to

What is raised in an exchange over HTTP is told twice: as an error of the transport, and as the
failure of the operation that was under way, which has that error as its cause. Both name the URL as
it was put together. What is no request error goes through both as it is.
-/

namespace InvocationClient.Client

open Http (Connection Translates)
open Http.Nature (IsA)

variable {c : Client} {registry : Registry} {t : Transport} {cmd : Command} {x : Exchange Value}
  {method path url : String} {timeout : Float} {thrown : Thrown} {e : Endpoint}

/-- What a command comes to if `thrown` is raised in its exchange with `url`. -/
inductive Tells (cmd : Command) (method url : String) (timeout : Float) (thrown : Thrown) :
    Except Failure Value → Prop where
  | poll {e : ClientError} : cmd = .poll → Translates method url timeout thrown e →
      Tells cmd method url timeout thrown
        (.error (.because ⟨.nextInvocation url none, .text url⟩ (.because e (.foreign thrown))))
  | other {e : ClientError} : cmd ≠ .poll → Translates method url timeout thrown e →
      Tells cmd method url timeout thrown
        (.error (.because
          ⟨.transport (method ++ " " ++ url ++ " failed: " ++ e.message), .text url⟩
          (.because e (.foreign thrown))))
  | passed : ¬ IsA thrown.kind "RequestError" →
      Tells cmd method url timeout thrown (.error (.foreign thrown))

theorem Tells.unique {result result' : Except Failure Value}
    (h : Tells cmd method url timeout thrown result)
    (h' : Tells cmd method url timeout thrown result') : result = result' := by
  cases h with
  | poll hp he =>
    cases h' with
    | poll _ he' => rw [he.unique he']
    | other hn _ => exact absurd hp hn
    | passed hn => exact absurd he.isA_request hn
  | other hn he =>
    cases h' with
    | poll hp _ => exact absurd hp hn
    | other _ he' => rw [he.unique he']
    | passed hn => exact absurd he.isA_request hn
  | passed hn =>
    cases h' with
    | poll _ he => exact absurd he.isA_request hn
    | other _ he => exact absurd he.isA_request hn
    | passed => rfl

theorem request_of_plan (h : c.plan cmd = .exchange x) :
    (∀ f ∈ x.request.headers, IsPlainName f.1) ∧ x.request.timeout = some (c.patience cmd) := by
  have ha : ∀ extra : Fields, (∀ f ∈ extra, IsPlainName f.1) →
      ∀ f ∈ ("User-Agent", c.userAgent) :: extra, IsPlainName f.1 := fun extra he =>
    List.forall_mem_cons.mpr ⟨isPlainName_agent, he⟩
  cases cmd with
  | reportError report =>
    rcases named_or_unnamed report with ⟨id, hi, hn⟩ | hu
    · rw [plan_of_named hi hn] at h
      cases h
      exact ⟨ha _ (isPlainName_errorFields report), rfl⟩
    · rw [plan, reportError_of_unnamed hu] at h
      cases h
  | poll | reportSuccess | pollRestore =>
    cases h
    exact ⟨ha [] (List.forall_mem_nil _), rfl⟩
  | reportInitError | reportRestoreError =>
    cases h
    exact ⟨ha _ (isPlainName_errorFields _), rfl⟩
  | close | enter | exit => cases h

theorem tells_settle (h : c.plan cmd = .exchange x) (hl : cmd.Line method path) :
    Tells cmd method (c.baseUrl ++ path) timeout thrown
      (x.settle (.error (Http.translate method (c.baseUrl ++ path) timeout thrown))).result := by
  rcases Http.translate_cases method (c.baseUrl ++ path) timeout thrown with
    ⟨e, he, ht⟩ | ⟨hn, ht⟩
  · rw [ht]
    rcases poll_or_reports hl with ⟨rfl, rfl⟩ | ⟨status?, hr⟩
    · cases h
      have hp := poll_result_of_transportError (c := c)
        (transportError?_eq_some_iff.mpr ⟨rfl, _, he.problem⟩ :
          transportError? (.because e (.foreign thrown)) = some e)
      rw [he.context] at hp
      change Tells _ _ _ _ _ ((c.poll.settle _).result.map Value.invocation)
      rw [hp]
      exact .poll rfl he
    · obtain ⟨x', hx, hs⟩ := c.exists_plan_of_reports hr
      cases h.symm.trans hx
      rw [(hs _).unique (.broken rfl he.problem), he.context]
      exact .other hr.ne_poll he
  · rw [ht]
    rcases poll_or_reports hl with ⟨rfl, rfl⟩ | ⟨status?, hr⟩
    · cases h
      change Tells _ _ _ _ _ ((c.poll.settle (.error (.foreign thrown))).result.map Value.invocation)
      rw [poll_result_of_other rfl]
      exact .passed hn
    · obtain ⟨x', hx, hs⟩ := c.exists_plan_of_reports hr
      cases h.symm.trans hx
      rw [(hs _).unique (.passed (by rintro e message ⟨⟩))]
      exact .passed hn

def after (c : Client) (t : Transport) (cmds : List Command) : Transport :=
  cmds.foldl (fun t cmd => (c.plan cmd).leaves t) t

/-- A turn depends on what came before it through the transport that is left. -/
theorem session_getElem?_after (c : Client) (registry : Registry) (t : Transport)
    (cmds : List Command) (k : Nat) :
    (c.session registry t cmds)[k]? =
      cmds[k]?.map (c.perform registry (c.after t (cmds.take k))) := by
  induction cmds generalizing t k with
  | nil => rfl
  | cons cmd cmds ih =>
    cases k with
    | zero => rfl
    | succ k =>
      rw [session, List.getElem?_cons_succ, transport_perform_eq, ih, List.take_succ_cons,
        List.getElem?_cons_succ]
      rfl

theorem after_leadsTo (h : t.LeadsTo e) (cmds : List Command) : (c.after t cmds).LeadsTo e := by
  induction cmds generalizing t with
  | nil => exact h
  | cons cmd cmds ih =>
    have hp : (c.perform {} t cmd).transport.LeadsTo e := perform_leadsTo h cmd
    rw [transport_perform_eq] at hp
    exact ih hp

theorem exists_plan_of_line (c : Client) (h : cmd.Line method path) :
    ∃ x, c.plan cmd = .exchange x := by
  rcases poll_or_reports h with ⟨rfl, -⟩ | ⟨status?, hr⟩
  · exact ⟨_, rfl⟩
  · obtain ⟨x, hx, -⟩ := c.exists_plan_of_reports hr
    exact ⟨x, hx⟩

theorem tells_perform {connection : Connection} (registry : Registry)
    (hb : connection.baseUrl = c.baseUrl) (hl : cmd.Line method path)
    (ht : connection.Takes (c.baseUrl ++ path)) (hn : connection.next = .fault thrown) :
    Tells cmd method (c.baseUrl ++ path) (c.patience cmd) thrown
      (c.perform registry (.http connection) cmd).result := by
  obtain ⟨x, h⟩ := c.exists_plan_of_line hl
  obtain ⟨rfl, rfl⟩ := (line_of_plan h).unique hl
  have hu : connection.url x.request = c.baseUrl ++ x.request.path := by
    rw [Connection.url, hb]
  obtain ⟨hp, hw⟩ := request_of_plan h
  have ho := Connection.outcome_of_fault (hu ▸ ht) hp hn
  rw [hu, hw, Option.getD_some] at ho
  rw [perform_result_of_plan registry (.http connection) h, Transport.execute, ho]
  exact tells_settle h hl

/-- Over a connection to the endpoint of the client, the fault of an exchange is told in the same way
wherever in a session it occurs: with the URL as it was put together, and for a timeout with the
timeout of the command. -/
theorem fault_told_iff (c : Client) (registry : Registry) (ht : t.LeadsTo c.endpoint)
    (cmds : List Command) (k : Nat) (hk : cmds[k]? = some cmd)
    (hl : cmd.Line method path) {connection : Connection}
    (hc : c.after t (cmds.take k) = .http connection)
    (hu : connection.Takes (c.baseUrl ++ path)) (hn : connection.next = .fault thrown) :
    ∃ turn, (c.session registry t cmds)[k]? = some turn ∧
      ∀ result, turn.result = result ↔
        Tells cmd method (c.baseUrl ++ path) (c.patience cmd) thrown result := by
  obtain ⟨connection', hc', hb⟩ := after_leadsTo (c := c) ht (cmds.take k)
  cases hc.symm.trans hc'
  have hs := tells_perform registry hb hl hu hn
  refine ⟨_, by rw [session_getElem?_after, hk, Option.map_some, hc], fun result => ?_⟩
  constructor
  · rintro rfl
    exact hs
  · exact hs.unique

section Samples

/-- A client that does not wait for invocations, and not for long for anything else. -/
def impatient : Client := { sample with pollTimeout := 0.0, requestTimeout := 2.5 }

/-- Its connection when that many timeouts are still to come. -/
def slow (n : Nat) : Connection :=
  .ofUrl impatient.baseUrl 2.5 true (List.replicate n (.fault ⟨"ReadTimeout", "too slow"⟩))

theorem slow_takes (n : Nat) : (slow n).Takes (impatient.baseUrl ++ Path.nextInvocation) ∧
    (slow n).Takes (impatient.baseUrl ++ Path.restoreNext) :=
  ⟨⟨rfl, some ⟨"127.0.0.1".toList, "9001".toList⟩, by decide +kernel, rfl⟩,
    ⟨rfl, some ⟨"127.0.0.1".toList, "9001".toList⟩, by decide +kernel, rfl⟩⟩

theorem after_slow : impatient.after (.http (slow 2)) [.poll] = .http (slow 1) := rfl

theorem slow_leadsTo (n : Nat) : Transport.LeadsTo (.http (slow n)) impatient.endpoint :=
  ⟨slow n, rfl, rfl⟩

/-- Two timeouts, the one at once and the other later. Each is told with the time that was waited. -/
theorem fault_told_iff_impatient :
    (∃ turn, (impatient.session {} (.http (slow 2)) [.poll, .pollRestore])[0]? = some turn ∧
      ∃ e e', turn.result = .error (.because e' (.because e (.foreign ⟨"ReadTimeout", "too slow"⟩))) ∧
        e.message =
          "HTTP GET http://127.0.0.1:9001/2018-06-01/runtime/invocation/next timed out after 0.0s" ∧
        e'.problem =
          .nextInvocation "http://127.0.0.1:9001/2018-06-01/runtime/invocation/next" none) ∧
    ∃ turn, (impatient.session {} (.http (slow 2)) [.poll, .pollRestore])[1]? = some turn ∧
      ∃ e e', turn.result = .error (.because e' (.because e (.foreign ⟨"ReadTimeout", "too slow"⟩))) ∧
        e.message =
          "HTTP GET http://127.0.0.1:9001/2018-06-01/runtime/restore/next timed out after 2.5s" ∧
        e'.message = "GET http://127.0.0.1:9001/2018-06-01/runtime/restore/next failed: " ++
          "HTTP GET http://127.0.0.1:9001/2018-06-01/runtime/restore/next timed out after 2.5s" := by
  have hk : IsA "ReadTimeout" "TimeoutException" := .single (by decide)
  constructor
  · have h0 : Number.Shows 0.0 "0.0" := Number.shows_iff.mpr (by decide +kernel)
    obtain ⟨turn, hs, hr⟩ := fault_told_iff impatient {} (slow_leadsTo 2) [.poll, .pollRestore] 0 rfl
      .poll rfl (slow_takes 2).1 rfl
    refine ⟨turn, hs, _, _, (hr _).mpr (.poll rfl (.timeout hk h0)), ?_⟩
    decide +kernel
  · have h1 : Number.Shows 2.5 "2.5" := Number.shows_iff.mpr (by decide +kernel)
    obtain ⟨turn, hs, hr⟩ := fault_told_iff impatient {} (slow_leadsTo 2) [.poll, .pollRestore] 1 rfl
      .pollRestore after_slow (slow_takes 1).2 rfl
    refine ⟨turn, hs, _, _, (hr _).mpr (.other (by rintro ⟨⟩) (.timeout hk h1)), ?_⟩
    decide +kernel

end Samples

end InvocationClient.Client
