import InvocationClient.Proofs.Client.Emissions
import InvocationClient.Proofs.Client.PollOutcome

/-! # What reports come to

A report, and the poll that waits for a restore, is over once it has been answered with the status
that is due for it. Any other status is told with the URL and the body of the answer, unless it has
too many digits to be told. An error of the transport is told with the request that it has stopped.
The report of a failed restore takes any status, and gives it back.
-/

namespace InvocationClient

open Text.Percent (Names encode names_encode)

variable {cmd : Command} {method path : String} {status? : Option Int}

/-- The requests other than polls for invocations, each with its method, its path and the status
that is due for it, if one is. -/
inductive Reports : Command → String → String → Option Int → Prop where
  | success {id name : String} {payload : ByteArray} : Names name id →
      Reports (.reportSuccess id payload) "POST"
        ("/2018-06-01/runtime/invocation/" ++ name ++ "/response") (some 200)
  | failure {report : ErrorReport} {id name : String} : report.requestId = some id → id ≠ "" →
      Names name id →
      Reports (.reportError report) "POST"
        ("/2018-06-01/runtime/invocation/" ++ name ++ "/error") (some 202)
  | initFailure {payload : ByteArray} {errorType : Option String} :
      Reports (.reportInitError payload errorType) "POST" "/2018-06-01/runtime/init/error" (some 202)
  | restore : Reports .pollRestore "GET" "/2018-06-01/runtime/restore/next" (some 200)
  | restoreFailure {payload : ByteArray} {errorType : Option String} :
      Reports (.reportRestoreError payload errorType) "POST" "/2018-06-01/runtime/restore/error" none

theorem Reports.ne_poll {status? : Option Int} (h : Reports cmd method path status?) :
    cmd ≠ .poll := by
  rintro rfl
  cases h

/-- What a report to `url` comes to, if `status?` is due for it. -/
inductive ReportsTo (method url : String) (status? : Option Int) :
    Outcome → Except Failure Value → Prop where
  | accepted {response : Response} : status? = some response.status →
      ReportsTo method url status? (.ok response) (.ok .nothing)
  | told {response : Response} : status? = none →
      ReportsTo method url status? (.ok response) (.ok (.status response.status))
  | refused {response : Response} {due : Int} {status : Number.Writable} : status? = some due →
      response.status ≠ due → status.value = response.status →
      ReportsTo method url status? (.ok response)
        (.error (.client ⟨.report url status, .bytes response.body⟩))
  | untold {response : Response} {due : Int} : status? = some due → response.status ≠ due →
      4300 < (Nat.toDigits 10 response.status.natAbs).length →
      ReportsTo method url status? (.ok response) (.error .unwritableInteger)
  | broken {f : Failure} {e : ClientError} {message : String} : f.error? = some e →
      e.problem = .transport message →
      ReportsTo method url status? (.error f)
        (.error (.because
          ⟨.transport (method ++ " " ++ url ++ " failed: " ++ message), e.context⟩ f))
  | passed {f : Failure} :
      (∀ e message, f.error? = some e → e.problem ≠ .transport message) →
      ReportsTo method url status? (.error f) (.error f)

/-- Whether a failure tells that a report was answered with another status than the one due. -/
def IsReportFailure (f : Failure) : Prop :=
  ∃ e url status, f.error? = some e ∧ e.problem = .report url status

namespace ReportsTo

variable {url : String} {o : Outcome} {result result' : Except Failure Value} {response : Response}

theorem unique (h : ReportsTo method url status? o result)
    (h' : ReportsTo method url status? o result') : result = result' := by
  cases h with
  | accepted hs =>
    cases h' with
    | accepted => rfl
    | told hs' => cases hs.symm.trans hs'
    | refused hs' hn | untold hs' hn =>
      cases hs.symm.trans hs'
      exact absurd rfl hn
  | told hs =>
    cases h' with
    | told => rfl
    | accepted hs' | refused hs' | untold hs' => cases hs.symm.trans hs'
  | refused hs hn hv =>
    cases h' with
    | accepted hs' =>
      cases hs.symm.trans hs'
      exact absurd rfl hn
    | told hs' => cases hs.symm.trans hs'
    | refused _ _ hv' =>
      cases Number.Writable.ext (hv.trans hv'.symm)
      rfl
    | untold _ _ hw => exact absurd hw (Number.Writable.not_lt_length hv)
  | untold hs hn hw =>
    cases h' with
    | accepted hs' =>
      cases hs.symm.trans hs'
      exact absurd rfl hn
    | told hs' => cases hs.symm.trans hs'
    | refused _ _ hv => exact absurd hw (Number.Writable.not_lt_length hv)
    | untold => rfl
  | broken he hp =>
    cases h' with
    | broken he' hp' =>
      cases he.symm.trans he'
      cases hp.symm.trans hp'
      rfl
    | passed hn => exact absurd hp (hn _ _ he)
  | passed hn =>
    cases h' with
    | broken he hp => exact absurd hp (hn _ _ he)
    | passed => rfl

theorem ok_iff (h : ReportsTo method url status? (.ok response) result) :
    (∃ value, result = .ok value) ↔ ∀ status, status? = some status → response.status = status := by
  cases h with
  | accepted hs => simp [hs]
  | told hs => simp [hs]
  | refused hs hn => simp [hs, hn]
  | untold hs hn => simp [hs, hn]

/-- Nothing but the status of an answer makes a report fail as refused. -/
theorem isReportFailure_iff (h : ReportsTo method url status? o result) (ho : Client.Regular o) :
    (∃ f, result = .error f ∧ IsReportFailure f) ↔
      ∃ response status, o = .ok response ∧ status? = some status ∧ response.status ≠ status ∧
        (Nat.toDigits 10 response.status.natAbs).length ≤ 4300 := by
  cases h with
  | accepted hs =>
    refine iff_of_false (by simp) ?_
    rintro ⟨response, status, ⟨⟩, hs', hn, -⟩
    cases hs.symm.trans hs'
    exact hn rfl
  | told hs => exact iff_of_false (by simp) (by simp [hs])
  | refused hs hn hv =>
    exact iff_of_true ⟨_, rfl, _, _, _, rfl, rfl⟩
      ⟨_, _, rfl, hs, hn, Nat.not_lt.mp (Number.Writable.not_lt_length hv)⟩
  | untold hs hn hw =>
    refine iff_of_false (by rintro ⟨f, ⟨⟩, e, url, status, ⟨⟩, ⟨⟩⟩) ?_
    rintro ⟨response, status, ⟨⟩, -, -, hl⟩
    exact absurd hw (Nat.not_lt.mpr hl)
  | broken => exact iff_of_false (by rintro ⟨f, ⟨⟩, e, url, status, ⟨⟩, ⟨⟩⟩) (by simp)
  | passed hn =>
    cases ho with
    | broken he hp => exact absurd hp (hn _ _ he)

end ReportsTo

namespace Client

variable {α : Type} {c : Client} {o : Outcome}

theorem reportsTo_sendFailed (c : Client) (r : Request) (f : Failure) (g : α → Value) :
    ReportsTo r.method (c.baseUrl ++ r.path) status? (.error f)
      ((c.sendFailed r f : Settled α).result.map g) := by
  cases h : transportError? f with
  | none =>
    simp only [sendFailed, h]
    exact .passed (transportError?_eq_none_iff.mp h)
  | some e =>
    obtain ⟨he, message, hp⟩ := transportError?_eq_some_iff.mp h
    have hm : e.message = message := congrArg Problem.message hp
    have hu : r.method ++ " " ++ c.baseUrl ++ r.path = r.method ++ " " ++ (c.baseUrl ++ r.path) :=
      String.append_assoc
    simp only [sendFailed, h, hm, hu, Except.map]
    exact .broken he hp

theorem reportsTo_expecting (c : Client) (r : Request) (status : Int) (before : List Entry)
    (o : Outcome) :
    ReportsTo r.method (c.baseUrl ++ r.path) (some status) o
      (((c.expecting r status before).settle o).result.map fun _ => .nothing) := by
  cases o with
  | error f => exact reportsTo_sendFailed c r f _
  | ok response =>
    simp only [expecting, expect]
    split
    · next hs => exact .accepted (congrArg some hs.symm)
    · next hs =>
      cases hw : Number.isWritable response.status with
      | true =>
        rw [reportRefused_of_writable hw]
        exact .refused rfl hs rfl
      | false =>
        rw [reportRefused_of_untold hw]
        exact .untold rfl hs (Number.lt_length_of_not_isWritable hw)

theorem reportsTo_reportRestoreError (c : Client) (payload : ByteArray)
    (errorType : Option String) (o : Outcome) :
    ReportsTo "POST" (c.baseUrl ++ Path.restoreError) none o
      (((c.reportRestoreError payload errorType).settle o).result.map .status) := by
  cases o with
  | error f => exact reportsTo_sendFailed c (c.reportRestoreError payload errorType).request f _
  | ok response => exact .told rfl

theorem exists_plan_of_reports (c : Client) (h : Reports cmd method path status?) :
    ∃ x, c.plan cmd = .exchange x ∧
      ∀ o, ReportsTo method (c.baseUrl ++ path) status? o (x.settle o).result := by
  cases h with
  | @success id name payload hs =>
    rw [hs.eq_encode, ← Path.response_eq]
    exact ⟨_, rfl, c.reportsTo_expecting (c.post (Path.response id) [] payload) okStatus []⟩
  | @failure report id name hi hn hs =>
    rw [hs.eq_encode, ← Path.error_eq]
    exact ⟨_, plan_of_named hi hn, c.reportsTo_expecting (c.postError (Path.error id) report)
      acceptedStatus (causeDropped report)⟩
  | @initFailure payload errorType =>
    exact ⟨_, rfl, c.reportsTo_expecting (c.postError Path.initError { payload, errorType })
      acceptedStatus []⟩
  | restore =>
    exact ⟨_, rfl, c.reportsTo_expecting (c.get Path.restoreNext c.requestTimeout) okStatus []⟩
  | @restoreFailure payload errorType =>
    exact ⟨_, rfl, c.reportsTo_reportRestoreError payload errorType⟩

theorem poll_or_reports (h : cmd.Line method path) :
    (cmd = .poll ∧ path = Path.nextInvocation) ∨ ∃ status?, Reports cmd method path status? := by
  cases h with
  | poll => exact .inl ⟨rfl, rfl⟩
  | reportSuccess hs => exact .inr ⟨_, .success hs⟩
  | reportError hi hn hs => exact .inr ⟨_, .failure hi hn hs⟩
  | reportInitError => exact .inr ⟨_, .initFailure⟩
  | pollRestore => exact .inr ⟨_, .restore⟩
  | reportRestoreError => exact .inr ⟨_, .restoreFailure⟩

theorem perform_result_of_plan {x : Exchange Value} (registry : Registry) (t : Transport)
    (h : c.plan cmd = .exchange x) :
    (c.perform registry t cmd).result = (x.settle (t.execute x.request).outcome).result := by
  rw [perform_eq_run, h]
  rfl

/-- What a report comes to in a session is settled by the reply that it gets. It returns exactly if
no status is due for it or the answer has that status, and it fails as refused exactly if it is
answered with another one that can be told. -/
theorem report_result_iff (c : Client) (registry : Registry) (replies : List Outcome)
    (cmds : List Command) (k : Nat) (hk : cmds[k]? = some cmd)
    (hr : Reports cmd method path status?)
    (ho : replies[Command.taken (cmds.take k)]? = some o) :
    ∃ turn, (c.session registry (.injected replies) cmds)[k]? = some turn ∧
      (∀ result, turn.result = result ↔
        ReportsTo method (c.baseUrl ++ path) status? o result) ∧
      (∀ response, o = .ok response → ((∃ value, turn.result = .ok value) ↔
        ∀ status, status? = some status → response.status = status)) ∧
      (Regular o → ((∃ f, turn.result = .error f ∧ IsReportFailure f) ↔
        ∃ response status, o = .ok response ∧ status? = some status ∧ response.status ≠ status ∧
          (Nat.toDigits 10 response.status.natAbs).length ≤ 4300)) := by
  obtain ⟨x, hx, hs⟩ := c.exists_plan_of_reports hr
  have hh : (replies.drop (Command.taken (cmds.take k))).head?.getD Transport.exhausted = o := by
    rw [List.head?_drop, ho, Option.getD_some]
  have hp := perform_result_of_plan registry
    (.injected (replies.drop (Command.taken (cmds.take k)))) hx
  have ht : ReportsTo method (c.baseUrl ++ path) status? o
      (c.perform registry (.injected (replies.drop (Command.taken (cmds.take k)))) cmd).result := by
    rw [hp, Transport.execute, hh]
    exact hs o
  refine ⟨_, by rw [session_getElem?, hk, Option.map_some], ?_, ?_, ?_⟩
  · intro result
    constructor
    · rintro rfl
      exact ht
    · exact ht.unique
  · rintro response rfl
    exact ht.ok_iff
  · exact ht.isReportFailure_iff

/-- The failure of an invocation is reported, behind a report that named none and took no reply. It
is refused by the status that would have been due for an answer. -/
theorem report_result_iff_refused :
    ∃ turn, (sample.session {} (.injected [.ok { status := 200, body := "{}".toUTF8 }])
        [.reportError { payload := .empty },
          .reportError { payload := .empty, requestId := some "a/b" }])[1]? = some turn ∧
      turn.result = .error (.client ⟨.report
        "http://127.0.0.1:9001/2018-06-01/runtime/invocation/a%2Fb/error" ⟨200, by decide⟩,
          .bytes "{}".toUTF8⟩) := by
  have hs : Names "a%2Fb" "a/b" :=
    (by decide +kernel : encode "a/b" = "a%2Fb") ▸ names_encode "a/b"
  obtain ⟨turn, ht, hr, -, -⟩ := report_result_iff sample {}
    [.ok { status := 200, body := "{}".toUTF8 }]
    [.reportError { payload := .empty },
      .reportError { payload := .empty, requestId := some "a/b" }] 1
    rfl (.failure rfl (by decide) hs) rfl
  refine ⟨turn, ht, (hr _).mpr ?_⟩
  have hu : sample.baseUrl ++ ("/2018-06-01/runtime/invocation/" ++ "a%2Fb" ++ "/error") =
      "http://127.0.0.1:9001/2018-06-01/runtime/invocation/a%2Fb/error" := by decide +kernel
  rw [hu]
  exact .refused rfl (by decide) rfl

theorem perform_pollRestore_of_untold (c : Client) (registry : Registry) {response : Response}
    (hs : response.status ≠ okStatus) (hw : Number.isWritable response.status = false) :
    (c.perform registry (.injected [.ok response]) .pollRestore).result =
      .error .unwritableInteger := by
  have hr : ((c.pollRestore).settle (.ok response)).result = .error .unwritableInteger := by
    simp only [pollRestore, expecting, expect, if_neg hs, reportRefused_of_untold hw]
  exact congrArg (·.map fun _ => Value.nothing) hr

/-- A status with 4301 digits is not told of, and an answer to a name that is a surrogate on its own
does not return, whatever the status would have been. -/
theorem reports_unsettled :
    (∃ turn, (sample.session {} (.injected [.ok { status := Nat.pow 10 Number.digitLimit }])
        [.pollRestore])[0]? = some turn ∧
      turn.result = .error .unwritableInteger ∧
      ¬ ∃ f, turn.result = .error f ∧ IsReportFailure f) ∧
    ∃ turn, (sample.answerAll {} (.injected [.ok { status := 200 }])
        [.reportSuccess [0xd800] .empty])[0]? = some turn ∧
      ¬ ∃ value, turn.result = .ok value := by
  have hw : Number.isWritable (Nat.pow 10 Number.digitLimit) = false := Number.isWritable_pow
  have hs : (Nat.pow 10 Number.digitLimit : Int) ≠ okStatus := by
    intro h
    rw [h] at hw
    cases hw
  have hr : (sample.perform {} (.injected [.ok { status := Nat.pow 10 Number.digitLimit }])
      .pollRestore).result = .error .unwritableInteger :=
    perform_pollRestore_of_untold sample {} hs hw
  refine ⟨⟨_, rfl, hr, ?_⟩, _, rfl, ?_⟩
  · rw [hr]
    rintro ⟨f, ⟨⟩, e, url, status, ⟨⟩, -⟩
  · rintro ⟨value, ⟨⟩⟩

end Client

end InvocationClient
