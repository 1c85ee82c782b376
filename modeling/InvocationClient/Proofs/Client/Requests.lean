import InvocationClient.Proofs.Client.Settlement
import InvocationClient.Proofs.Text.Percent

/-! # Requests of a session

A command makes one request or none, and which one depends on the command and on how the client was
made. In a session each command goes as it would alone: what came before it only decides which reply
it gets.
-/

namespace InvocationClient

open Text.Percent (Names encode names_encode)

variable {id name path method : String}

theorem Path.response_eq (id : String) :
    Path.response id = "/2018-06-01/runtime/invocation/" ++ encode id ++ "/response" :=
  String.append_assoc

theorem Path.error_eq (id : String) :
    Path.error id = "/2018-06-01/runtime/invocation/" ++ encode id ++ "/error" :=
  String.append_assoc

namespace Command

variable {cmd : Command} {report : ErrorReport}

/-- Method and path of the request that a command makes. Nothing is sent to open or close a client,
or to report the failure of an invocation without a name. -/
inductive Line : Command → String → String → Prop where
  | poll : Line .poll "GET" "/2018-06-01/runtime/invocation/next"
  | reportSuccess {id name : String} {payload : ByteArray} : Names name id →
      Line (.reportSuccess id payload) "POST"
        ("/2018-06-01/runtime/invocation/" ++ name ++ "/response")
  | reportError {report : ErrorReport} {id name : String} : report.requestId = some id → id ≠ "" →
      Names name id →
      Line (.reportError report) "POST" ("/2018-06-01/runtime/invocation/" ++ name ++ "/error")
  | reportInitError {payload : ByteArray} {errorType : Option String} :
      Line (.reportInitError payload errorType) "POST" "/2018-06-01/runtime/init/error"
  | pollRestore : Line .pollRestore "GET" "/2018-06-01/runtime/restore/next"
  | reportRestoreError {payload : ByteArray} {errorType : Option String} :
      Line (.reportRestoreError payload errorType) "POST" "/2018-06-01/runtime/restore/error"

theorem line_response (id : String) (payload : ByteArray) :
    Line (.reportSuccess id payload) "POST" (Path.response id) := by
  rw [Path.response_eq]
  exact .reportSuccess (names_encode id)

theorem line_error (hi : report.requestId = some id) (hn : id ≠ "") :
    Line (.reportError report) "POST" (Path.error id) := by
  rw [Path.error_eq]
  exact .reportError hi hn (names_encode id)

theorem Line.unique {method' path' : String} (h : Line cmd method path)
    (h' : Line cmd method' path') : method = method' ∧ path = path' := by
  cases h with
  | reportSuccess hn =>
    cases h' with
    | reportSuccess hn' => rw [hn.eq_encode, hn'.eq_encode]; exact ⟨rfl, rfl⟩
  | reportError hi _ hn =>
    cases h' with
    | reportError hi' _ hn' =>
      cases hi.symm.trans hi'
      rw [hn.eq_encode, hn'.eq_encode]
      exact ⟨rfl, rfl⟩
  | poll | reportInitError | pollRestore | reportRestoreError =>
    cases h'
    exact ⟨rfl, rfl⟩

theorem Line.of_error (h : Line (.reportError report) method path) :
    ∃ id, report.requestId = some id ∧ id ≠ "" ∧ method = "POST" ∧ path = Path.error id := by
  have h' := h
  cases h' with
  | reportError hi hn => exact ⟨_, hi, hn, h.unique (line_error hi hn)⟩

def asks : Command → Bool
  | reportError report => report.requestId.any (· ≠ "")
  | close => false
  | enter => false
  | exit => false
  | _ => true

theorem asks_of_named (hi : report.requestId = some id) (hn : id ≠ "") :
    (reportError report).asks = true := by
  simp [asks, hi, hn]

theorem asks_of_unnamed (h : report.requestId = none ∨ report.requestId = some "") :
    (reportError report).asks = false := by
  rcases h with h | h <;> simp [asks, h]

def body? : Command → Option ByteArray
  | reportSuccess _ payload => some payload
  | reportError report => some report.payload
  | reportInitError payload _ => some payload
  | reportRestoreError payload _ => some payload
  | _ => none

/-- How many replies some commands take. -/
def taken (cmds : List Command) : Nat := cmds.countP asks

theorem taken_cons (cmd : Command) (cmds : List Command) :
    taken (cmd :: cmds) = taken [cmd] + taken cmds := by
  simp [taken, List.countP_cons, Nat.add_comm]

end Command

namespace Client

variable {c : Client} {cmd : Command}

def patience (c : Client) : Command → Float
  | .poll => c.pollTimeout
  | _ => c.requestTimeout

def agentField : String := "User-Agent"

/-- The request of a command: its line, body and timeout, with the client's name in one field. -/
structure Asks (c : Client) (cmd : Command) (r : Request) : Prop where
  line : cmd.Line r.method r.path
  body : r.body = cmd.body?
  timeout : r.timeout = some (c.patience cmd)
  agent : r.headers.filter (fun h => h.1 = agentField) = [(agentField, c.userAgent)]

/-- One request if the command makes one, and else nothing. -/
def Sends (c : Client) (cmd : Command) (sent : List Sent) : Prop :=
  if cmd.asks then ∃ r, sent = [.direct r] ∧ Asks c cmd r else sent = []

theorem filter_errorFields (report : ErrorReport) :
    (errorFields report).filter (fun h => h.1 = agentField) = [] := by
  simp only [errorFields, List.filter_eq_nil_iff, List.mem_append, List.mem_cons, List.mem_map]
  rintro h ((rfl | ⟨_, -, rfl⟩) | ⟨_, -, rfl⟩) <;>
    simp [contentType, typeHeader, causeHeader, agentField]

theorem filter_post {path : String} {extra : Fields} {body : ByteArray}
    (h : extra.filter (fun h => h.1 = agentField) = []) :
    (c.post path extra body).headers.filter (fun h => h.1 = agentField) =
      [(agentField, c.userAgent)] := by
  change ((agentField, c.userAgent) :: extra).filter _ = _
  rw [List.filter_cons_of_pos (by simp), h]

section Names

variable {report : ErrorReport} {registry : Registry} {t : Transport}

theorem named_or_unnamed (report : ErrorReport) :
    (∃ id, report.requestId = some id ∧ id ≠ "") ∨
      (report.requestId = none ∨ report.requestId = some "") := by
  cases h : report.requestId with
  | none => exact .inr (.inl rfl)
  | some id =>
    by_cases hn : id = ""
    · exact .inr (.inr (congrArg some hn))
    · exact .inl ⟨id, rfl, hn⟩

theorem taken_of_named (h : report.requestId = some id) (hn : id ≠ "") :
    Command.taken [.reportError report] = 1 := by
  simp [Command.taken, Command.asks_of_named h hn]

theorem taken_of_unnamed (h : report.requestId = none ∨ report.requestId = some "") :
    Command.taken [.reportError report] = 0 := by
  simp [Command.taken, Command.asks_of_unnamed h]

theorem perform_of_named (h : report.requestId = some id) (hn : id ≠ "") :
    c.perform registry t (.reportError report) =
      (c.carryOut registry t (c.expecting (c.postError (Path.error id) report) acceptedStatus
        (causeDropped report))).map fun _ => .nothing := by
  rw [perform, reportError_of_named h hn, carryOut?]

theorem perform_of_unnamed (h : report.requestId = none ∨ report.requestId = some "") :
    c.perform registry t (.reportError report) =
      { result := .error .requestIdRequired, transport := t } := by
  rw [perform, reportError_of_unnamed h, carryOut?]
  rfl

end Names

section Turns

variable {registry : Registry} {replies : List Outcome}

theorem sends_perform (c : Client) (registry : Registry) (replies : List Outcome) (cmd : Command) :
    Sends c cmd (c.perform registry (.injected replies) cmd).sent := by
  cases cmd with
  | poll => exact ⟨_, rfl, .poll, rfl, rfl, rfl⟩
  | reportSuccess id payload =>
    exact ⟨_, rfl, Command.line_response id payload, rfl, rfl, filter_post rfl⟩
  | reportInitError payload errorType =>
    exact ⟨_, rfl, .reportInitError, rfl, rfl, filter_post (filter_errorFields _)⟩
  | pollRestore => exact ⟨_, rfl, .pollRestore, rfl, rfl, rfl⟩
  | reportRestoreError payload errorType =>
    exact ⟨_, rfl, .reportRestoreError, rfl, rfl, filter_post (filter_errorFields _)⟩
  | close => rfl
  | enter => rfl
  | exit => rfl
  | reportError report =>
    rcases named_or_unnamed report with ⟨id, hi, hn⟩ | h
    · rw [Sends, Command.asks_of_named hi hn, perform_of_named hi hn]
      exact ⟨_, rfl, Command.line_error hi hn, rfl, rfl, filter_post (filter_errorFields _)⟩
    · rw [Sends, Command.asks_of_unnamed h, perform_of_unnamed h]
      rfl

theorem transport_perform (c : Client) (registry : Registry) (replies : List Outcome)
    (cmd : Command) :
    (c.perform registry (.injected replies) cmd).transport =
      .injected (replies.drop (Command.taken [cmd])) := by
  cases cmd with
  | reportError report =>
    rcases named_or_unnamed report with ⟨id, hi, hn⟩ | h
    · rw [taken_of_named hi hn, perform_of_named hi hn, List.drop_one]
      rfl
    · rw [taken_of_unnamed h, perform_of_unnamed h]
      rfl
  | poll | reportSuccess | reportInitError | pollRestore | reportRestoreError =>
    exact congrArg Transport.injected List.drop_one.symm
  | close | enter | exit => rfl

theorem perform_alone (c : Client) (logger : Logger) (registry registry' : Registry)
    (replies : List Outcome) (cmd : Command) :
    (({ c with logger } : Client).perform registry'
          (.injected [replies.head?.getD Transport.exhausted]) cmd).result =
        (c.perform registry (.injected replies) cmd).result ∧
      (({ c with logger } : Client).perform registry'
          (.injected [replies.head?.getD Transport.exhausted]) cmd).sent =
        (c.perform registry (.injected replies) cmd).sent := by
  cases cmd with
  | reportError report =>
    rcases named_or_unnamed report with ⟨id, hi, hn⟩ | h
    · rw [perform_of_named hi hn, perform_of_named hi hn]
      exact ⟨rfl, rfl⟩
    · rw [perform_of_unnamed h, perform_of_unnamed h]
      exact ⟨rfl, rfl⟩
  | _ => exact ⟨rfl, rfl⟩

/-- A turn depends on what came before it through the replies that are left. -/
theorem session_getElem? (c : Client) (registry : Registry) (replies : List Outcome)
    (cmds : List Command) (k : Nat) :
    (c.session registry (.injected replies) cmds)[k]? =
      cmds[k]?.map
        (c.perform registry (.injected (replies.drop (Command.taken (cmds.take k))))) := by
  induction cmds generalizing replies k with
  | nil => rfl
  | cons cmd cmds ih =>
    cases k with
    | zero => rfl
    | succ k =>
      rw [session, List.getElem?_cons_succ, transport_perform, ih, List.drop_drop,
        List.take_succ_cons, Command.taken_cons cmd (cmds.take k), List.getElem?_cons_succ]

end Turns

theorem chooseUserAgent_ne_empty (given : Option String) (version : String) :
    chooseUserAgent given version ≠ "" := by
  have hd : defaultUserAgent version ≠ "" := by
    unfold defaultUserAgent
    intro h
    have hs := (String.append_eq_empty_iff.mp h).2
    simp at hs
  cases given with
  | none => exact hd
  | some agent =>
    rw [chooseUserAgent]
    split <;> assumption

theorem make_eq_ok {registry : Registry} {process : Environment} {version : String}
    {options : Options} {given : Option String}
    (h : (make registry process version options given).result = .ok c) :
    c.userAgent = chooseUserAgent options.userAgent version ∧ c.pollTimeout = options.pollTimeout ∧
      c.requestTimeout = options.requestTimeout := by
  unfold make at h
  split at h
  · cases h
  · cases h
    exact ⟨rfl, rfl, rfl⟩

end Client

end InvocationClient
