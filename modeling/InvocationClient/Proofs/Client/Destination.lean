import InvocationClient.Proofs.Client.Path
import InvocationClient.Proofs.Client.Plan
import InvocationClient.Proofs.Client.Requests
import InvocationClient.Proofs.Endpoint.Rejection
import InvocationClient.Proofs.Text.Blank
import InvocationClient.Proofs.Url.Destination
import Mathlib.Data.List.Forall2

/-! # Destinations of requests

The requests of a client that has made its own HTTP connection go to the endpoint that was checked
when the client was made, and to the path that they are meant for, if the host of that endpoint is
plain. With any other host none of the URLs leads there. The path of a report is kept on its way
unless the name of its invocation is a dot segment.
-/

namespace InvocationClient

variable {e : Endpoint} {cmd : Command} {r : Request} {method path : String}

namespace Command

/-- Whatever the name of an invocation is, the path of its report holds it as one segment. -/
theorem isPlain_of_line (h : cmd.Line method path) : Path.IsPlain path := by
  cases cmd with
  | reportSuccess id payload =>
    obtain ⟨-, rfl⟩ := h.unique (line_response id payload)
    exact Path.isPlain_ofInvocation id (by decide)
  | reportError report =>
    obtain ⟨id, -, -, -, rfl⟩ := h.of_error
    exact Path.isPlain_ofInvocation id (by decide)
  | poll | reportInitError | pollRestore | reportRestoreError =>
    cases h
    exact ⟨by decide, by decide, by decide⟩
  | close | enter | exit => cases h

theorem upper_of_line (h : cmd.Line method path) : Text.upper method = method := by
  cases h <;> decide

end Command

namespace Http.Connection

variable {connection : Connection}

/-- A base URL ends in a digit of the port, so that it has no final slash to lose. -/
theorem withoutFinalSlashes_baseUrl (e : Endpoint) : withoutFinalSlashes e.baseUrl = e.baseUrl := by
  have hl : ∀ c ∈ e.baseUrl.toList.getLast?, decide (c = '/') = false := by
    intro c hc
    rw [Endpoint.baseUrl, String.toList_append] at hc
    have hd := Endpoint.isDigit_of_getLast? hc
    refine decide_eq_false ?_
    rintro rfl
    exact absurd hd (by decide)
  rw [withoutFinalSlashes, Text.trimEnd_of_getLast? hl, String.ofList_toList]

theorem call_url (he : e.Sound) (h : Url.ofString (connection.url r) = e.url path) :
    (connection.call r).url = connection.url r := by
  have hr : (Url.ofString (connection.url r)).isRelative ≠ true := by
    rw [h, Endpoint.isRelative_url he]
    decide
  exact if_neg hr

/-- The path of the URL, normalised as it goes out, is the one that was asked for. -/
def KeepsPath (connection : Connection) (r : Request) : Prop :=
  Url.removeDotSegments (Url.ofString (connection.url r)).path = r.path.toList

end Http.Connection

/-- An HTTP connection to an endpoint. -/
def Transport.LeadsTo (t : Transport) (e : Endpoint) : Prop :=
  ∃ connection, t = .http connection ∧ connection.baseUrl = e.baseUrl

namespace Client

variable {c : Client} {registry : Registry} {t : Transport}

theorem connect_leadsTo (c : Client) (replies : List Http.Reply) :
    (c.connect replies).LeadsTo c.endpoint :=
  ⟨_, rfl, Http.Connection.withoutFinalSlashes_baseUrl c.endpoint⟩

theorem line_of_plan {x : Exchange Value} (h : c.plan cmd = .exchange x) :
    cmd.Line x.request.method x.request.path := by
  cases cmd with
  | reportError report =>
    rcases named_or_unnamed report with ⟨id, hi, hn⟩ | hu
    · rw [plan, reportError_of_named hi hn] at h
      cases h
      exact Command.line_error hi hn
    · rw [plan, reportError_of_unnamed hu] at h
      cases h
  | reportSuccess id payload =>
    cases h
    exact Command.line_response id payload
  | poll => cases h; exact .poll
  | reportInitError payload errorType => cases h; exact .reportInitError
  | pollRestore => cases h; exact .pollRestore
  | reportRestoreError payload errorType => cases h; exact .reportRestoreError
  | close | enter | exit => cases h

/-- What a turn sends goes to the endpoint, with the method and the path of its command. -/
def SentTo (e : Endpoint) (cmd : Command) (turn : Turn Value) : Prop :=
  ∀ sent ∈ turn.sent, ∃ (call : Http.Call) (path : String), sent = .http call ∧
    cmd.Line call.method path ∧ Url.ofString call.url = e.url path

theorem ofString_url_iff {connection : Http.Connection} (hb : connection.baseUrl = e.baseUrl)
    (he : e.Sound) (hl : cmd.Line method r.path) :
    Url.ofString (connection.url r) = e.url r.path ↔ e.HasPlainHost := by
  obtain ⟨hs, hq, hf⟩ := Command.isPlain_of_line hl
  rw [Http.Connection.url, hb]
  exact Endpoint.ofString_baseUrl_append_iff he hs hq hf

theorem keepsPath_iff {connection : Http.Connection} (hb : connection.baseUrl = e.baseUrl)
    (he : e.Sound) (hp : e.HasPlainHost) (hl : cmd.Line method r.path) :
    connection.KeepsPath r ↔ Path.IsKept r.path := by
  have hu := (ofString_url_iff hb he hl).mpr hp
  rw [Http.Connection.KeepsPath, hu]
  rfl

theorem execute_leadsTo (ht : t.LeadsTo e) (r : Request) :
    (t.execute r).transport.LeadsTo e ∧
      ∀ sent ∈ (t.execute r).sent, ∃ connection, connection.baseUrl = e.baseUrl ∧
        sent = .http (Http.Connection.call connection r) := by
  obtain ⟨connection, rfl, hb⟩ := ht
  simp only [Transport.execute, Http.Connection.execute]
  cases connection.refusal? r with
  | some f =>
    refine ⟨⟨connection, rfl, hb⟩, ?_⟩
    intro sent hs
    cases hs
  | none =>
    refine ⟨⟨_, rfl, hb⟩, ?_⟩
    intro sent hs
    exact ⟨connection, hb, by simpa using hs⟩

theorem close_leadsTo (ht : t.LeadsTo e) : t.close.LeadsTo e := by
  obtain ⟨connection, rfl, hb⟩ := ht
  refine ⟨connection.close, rfl, ?_⟩
  rw [Http.Connection.close]
  split
  · exact hb
  · exact hb

theorem perform_leadsTo (ht : t.LeadsTo e) (cmd : Command) :
    (c.perform registry t cmd).transport.LeadsTo e := by
  rw [perform_eq_run]
  cases c.plan cmd with
  | exchange x => exact (execute_leadsTo ht x.request).1
  | settled result => exact ht
  | closing => exact close_leadsTo ht

theorem sentTo_perform (ht : t.LeadsTo e) (he : e.Sound) (hp : e.HasPlainHost)
    (cmd : Command) : SentTo e cmd (c.perform registry t cmd) := by
  rw [perform_eq_run]
  intro sent hs
  cases h : c.plan cmd with
  | exchange x =>
    rw [h] at hs
    obtain ⟨connection, hb, rfl⟩ := (execute_leadsTo ht x.request).2 sent hs
    have hl := line_of_plan h
    have hu := (ofString_url_iff hb he hl).mpr hp
    refine ⟨_, x.request.path, rfl, ?_, ?_⟩
    · rwa [Http.Connection.call, Command.upper_of_line hl]
    · rw [Http.Connection.call_url he hu, hu]
  | settled result =>
    rw [h] at hs
    cases hs
  | closing =>
    rw [h] at hs
    cases hs

theorem sentTo_session (ht : t.LeadsTo e) (he : e.Sound) (hp : e.HasPlainHost)
    (cmds : List Command) : List.Forall₂ (SentTo e) cmds (c.session registry t cmds) := by
  induction cmds generalizing t with
  | nil => exact .nil
  | cons cmd cmds ih =>
    exact .cons (sentTo_perform ht he hp cmd) (ih (perform_leadsTo ht cmd))

variable {process : Environment} {version : String} {options : Options} {given : Option String}

theorem parse_of_make (h : (make registry process version options given).result = .ok c) :
    Endpoint.parse given = .ok c.endpoint := by
  rw [← Endpoint.result_make registry process version options given, h]
  rfl

/-- The URL of a request over the client's own connection leads to the endpoint that was accepted,
and there to the path of the request, exactly if the host of the endpoint is plain. Then nothing
that is sent in a session goes anywhere else. -/
theorem urls_lead_to_endpoint
    (h : (make registry process version options given).result = .ok c)
    (replies : List Http.Reply) :
    Endpoint.parse given = .ok c.endpoint ∧
      ∃ connection, c.connect replies = .http connection ∧
        (∀ (cmd : Command) (r : Request), cmd.Line r.method r.path →
          (Url.ofString (connection.url r) = c.endpoint.url r.path ↔ c.endpoint.HasPlainHost)) ∧
        (c.endpoint.HasPlainHost → ∀ (registry' : Registry) (cmds : List Command),
          List.Forall₂ (SentTo c.endpoint) cmds
            (c.session registry' (c.connect replies) cmds)) := by
  have hg := parse_of_make h
  have he := Endpoint.sound_of_parse hg
  have ht := connect_leadsTo c replies
  obtain ⟨connection, hc, hb⟩ := connect_leadsTo c replies
  refine ⟨hg, connection, hc, ?_, ?_⟩
  · intro cmd r hl
    exact ofString_url_iff hb he hl
  · intro hp registry' cmds
    exact sentTo_session ht he hp cmds

def bare : Client := { sample with endpoint := ⟨"::1", 9001⟩ }

theorem urls_lead_to_endpoint_bare :
    (make {} [] "3.11.0" {} (some "::1:9001")).result = .ok bare ∧ bare.endpoint.HasPlainHost ∧
      ∃ connection, bare.connect [] = .http connection ∧
        Url.ofString (connection.url (bare.reportSuccess "a/b?c#d" .empty).request) =
          bare.endpoint.url (Path.response "a/b?c#d") := by
  have hm : (make {} [] "3.11.0" {} (some "::1:9001")).result = .ok bare := rfl
  have hp : bare.endpoint.HasPlainHost := by decide
  obtain ⟨-, connection, hc, hu, -⟩ := urls_lead_to_endpoint hm []
  exact ⟨hm, hp, connection, hc, (hu _ _ (Command.line_response _ .empty)).mpr hp⟩

def strayed : Client := { sample with endpoint := ⟨"localhost/x", 9001⟩ }

/-- A client is made for it, but what it asks for goes to another port and another path. -/
theorem poll_url_strayed :
    (make {} [] "3.11.0" {} (some "localhost/x:9001")).result = .ok strayed ∧
      ∃ connection, strayed.connect [] = .http connection ∧
        Url.ofString (connection.url strayed.poll.request) =
          { scheme := "http".toList
            authority := some { host := "localhost".toList }
            path := "/x:9001/2018-06-01/runtime/invocation/next".toList } ∧
        Url.ofString (connection.url strayed.poll.request) ≠
          strayed.endpoint.url Path.nextInvocation :=
  ⟨rfl, _, rfl, by decide +kernel, by decide +kernel⟩

/-- The reports of an invocation go to the two paths of its name. These are kept exactly if the name
is neither of the two dot segments, and over the client's own connection to a plain host they are
kept in the URLs too. -/
theorem reports_keep_path_iff
    (h : (make registry process version options given).result = .ok c) {id : String} (hn : id ≠ "")
    (payload : ByteArray) {report : ErrorReport} (hr : report.requestId = some id)
    (replies : List Http.Reply) :
    (c.reportSuccess id payload).request.path = Path.response id ∧
      (Path.IsKept (Path.response id) ↔ id ≠ "." ∧ id ≠ "..") ∧
      (Path.IsKept (Path.error id) ↔ id ≠ "." ∧ id ≠ "..") ∧
      ∃ x connection, c.reportError report = .ok x ∧ x.request.path = Path.error id ∧
        c.connect replies = .http connection ∧
        (c.endpoint.HasPlainHost →
          (connection.KeepsPath (c.reportSuccess id payload).request ↔ id ≠ "." ∧ id ≠ "..") ∧
          (connection.KeepsPath x.request ↔ id ≠ "." ∧ id ≠ "..")) := by
  have he := Endpoint.sound_of_parse (parse_of_make h)
  obtain ⟨connection, hc, hb⟩ := connect_leadsTo c replies
  have hresponse : Path.IsKept (Path.response id) ↔ id ≠ "." ∧ id ≠ ".." :=
    Path.isKept_ofInvocation_iff (by decide) (by decide)
  have herror : Path.IsKept (Path.error id) ↔ id ≠ "." ∧ id ≠ ".." :=
    Path.isKept_ofInvocation_iff (by decide) (by decide)
  refine ⟨rfl, hresponse, herror, _, connection, reportError_of_named hr hn, rfl, hc, ?_⟩
  intro hp
  constructor
  · rw [← hresponse]
    exact keepsPath_iff hb he hp (Command.line_response id payload)
  · rw [← herror]
    exact keepsPath_iff hb he hp (Command.line_error hr hn)

/-- A name that holds slashes and dot segments between them. -/
theorem reports_keep_path_nested :
    ∃ connection, sample.connect [] = .http connection ∧
      connection.KeepsPath (sample.reportSuccess "a/../b" .empty).request := by
  have hn : "a/../b" ≠ "" := by decide
  have hd : "a/../b" ≠ "." ∧ "a/../b" ≠ ".." := by decide
  have hr : ({ payload := .empty, requestId := some "a/../b" } : ErrorReport).requestId =
      some "a/../b" := rfl
  obtain ⟨-, -, -, _, connection, -, -, hc, hk⟩ := reports_keep_path_iff make_sample hn .empty hr []
  exact ⟨connection, hc, (hk (by decide)).1.mpr hd⟩

/-- The answer of the invocation `.` goes to a path that names no invocation. -/
theorem response_path_lost :
    (sample.reportSuccess "." .empty).request.path = "/2018-06-01/runtime/invocation/./response" ∧
      Url.removeDotSegments (sample.reportSuccess "." .empty).request.path.toList =
        "/2018-06-01/runtime/invocation/response".toList ∧
      ¬ Path.IsKept (sample.reportSuccess "." .empty).request.path ∧
      ∃ connection, sample.connect [] = .http connection ∧
        ¬ connection.KeepsPath (sample.reportSuccess "." .empty).request := by
  refine ⟨by decide +kernel, by decide +kernel, ?_, _, rfl, ?_⟩
  · unfold Path.IsKept
    decide +kernel
  · unfold Http.Connection.KeepsPath
    decide +kernel

end Client

end InvocationClient
