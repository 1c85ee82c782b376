import InvocationClient.Proofs.Client.Requests
import Mathlib.Data.List.TakeWhile

/-! # Calls

In what a call has to encode a surrogate may stand on its own, as in the texts of a command it cannot.
Such a call fails before a request is made, and any other is the call of a command. Each call gets the
replies that the requests made before it have left, and comes to what it would come to alone.
-/

namespace InvocationClient

open Text (CodePoint EncodingError codePoints)

namespace Text

variable {ps : List CodePoint} {s : String} {e : EncodingError}

theorem EncodingError.find?_eq_some_iff {α : Type} {codec reason : String} {fits : α → Bool}
    {code : α → Nat} {xs : List α} :
    find? codec reason fits code xs = some e ↔ ∃ before x run rest,
      xs = before ++ x :: (run ++ rest) ∧ (∀ y ∈ before, fits y = true) ∧ fits x = false ∧
        (∀ y ∈ run, fits y = false) ∧ (∀ y, rest.head? = some y → fits y = true) ∧
        e = ⟨codec, reason, code x, before.length, run.length + 1⟩ := by
  constructor
  · intro h
    unfold find? at h
    split at h
    · cases h
    · next x rest hx =>
      cases h
      refine ⟨xs.takeWhile fits, x, rest.takeWhile fun y => !fits y,
        rest.dropWhile fun y => !fits y, ?_, ?_, ?_, ?_, ?_, rfl⟩
      · rw [List.takeWhile_append_dropWhile, ← hx, List.takeWhile_append_dropWhile]
      · exact fun y => List.mem_takeWhile_imp
      · have hd := List.head?_dropWhile_not fits xs
        simpa [hx] using hd
      · intro y hy
        simpa using List.mem_takeWhile_imp hy
      · intro y hy
        have hd := List.head?_dropWhile_not (fun y => !fits y) rest
        simpa [hy] using hd
  · rintro ⟨before, x, run, rest, rfl, hb, hx, hr, ht, rfl⟩
    have hs : (run ++ rest).takeWhile (fun y => !fits y) = run :=
      takeWhile_append_stop (fun y hy => by simp [hr y hy]) (fun y hy => by simp [ht y hy])
    rw [find?, List.dropWhile_append_of_pos hb, List.takeWhile_append_of_pos hb]
    simp [hx, hs]

def CodePoint.IsSurrogate (p : CodePoint) : Prop := 0xd800 ≤ p.val ∧ p.val ≤ 0xdfff

theorem CodePoint.isValidChar_iff (p : CodePoint) : p.val.isValidChar ↔ ¬ p.IsSurrogate := by
  have hp := p.isLt
  rw [IsSurrogate, Nat.isValidChar]
  omega

/-- What code points are refused for: the first stretch of surrogates among them. -/
inductive Unencodable : List CodePoint → EncodingError → Prop where
  | stretch {before run rest : List CodePoint} {p : CodePoint} :
      (∀ q ∈ before, ¬ q.IsSurrogate) → (∀ q ∈ p :: run, q.IsSurrogate) →
      (∀ q, rest.head? = some q → ¬ q.IsSurrogate) →
      Unencodable (before ++ p :: (run ++ rest))
        ⟨"utf-8", "surrogates not allowed", p.val, before.length, run.length + 1⟩

theorem Unencodable.ne_nil (h : Unencodable ps e) : ps ≠ [] := by
  cases h
  simp

theorem Utf8.text_eq_error_iff : Utf8.text ps = .error e ↔ Unencodable ps e := by
  unfold Utf8.text
  constructor
  · intro h
    split at h
    · next e' he =>
      cases h
      obtain ⟨before, p, run, rest, rfl, hb, hp, hr, ht, rfl⟩ :=
        EncodingError.find?_eq_some_iff.mp he
      simp only [decide_eq_true_eq, decide_eq_false_iff_not, CodePoint.isValidChar_iff,
        not_not] at hb hp hr ht
      exact .stretch hb (List.forall_mem_cons.mpr ⟨hp, hr⟩) ht
    · cases h
  · rintro ⟨hb, hr, ht⟩
    obtain ⟨hp, hr⟩ := List.forall_mem_cons.mp hr
    rw [EncodingError.find?_eq_some_iff.mpr ⟨_, _, _, _, rfl, ?_, ?_, ?_, ?_, rfl⟩]
    all_goals
      simp only [decide_eq_true_eq, decide_eq_false_iff_not, CodePoint.isValidChar_iff, not_not]
      assumption

theorem codePoints_ofList (h : ∀ p ∈ ps, p.val.isValidChar) :
    codePoints (String.ofList (ps.filterMap CodePoint.toChar?)) = ps := by
  rw [codePoints, String.toList_ofList]
  induction ps with
  | nil => rfl
  | cons p ps ih =>
    obtain ⟨hp, hps⟩ := List.forall_mem_cons.mp h
    have hc : p.toChar? = some (Char.ofNat p.val) := if_pos hp
    rw [List.filterMap_cons_some hc, List.map_cons, CodePoint.ofChar_ofNat hp, ih hps]

theorem Utf8.text_eq_ok_iff : Utf8.text ps = .ok s ↔ ps = codePoints s := by
  unfold Utf8.text
  constructor
  · intro h
    split at h
    · cases h
    · next hn =>
      cases h
      rw [EncodingError.find?_eq_none_iff, List.all_eq_true] at hn
      exact (codePoints_ofList fun p hp => of_decide_eq_true (hn p hp)).symm
  · rintro rfl
    have hn : ∀ p ∈ codePoints s, p.val.isValidChar := by
      intro p hp
      obtain ⟨c, -, rfl⟩ := List.mem_map.mp hp
      exact c.valid
    rw [(EncodingError.find?_eq_none_iff _).mpr
      (List.all_eq_true.mpr fun p hp => decide_eq_true (hn p hp))]
    exact congrArg _ (codePoints_inj.mp (codePoints_ofList hn))

end Text

namespace RawReport

variable {ps : List CodePoint} {s : String} {f : Failure}

theorem encoded_eq_ok_iff : encoded ps = .ok s ↔ ps = codePoints s := by
  rw [← Text.Utf8.text_eq_ok_iff, encoded]
  cases Text.Utf8.text ps <;> simp [Except.mapError]

theorem encoded_eq_error_iff :
    encoded ps = .error f ↔ ∃ e, Text.Unencodable ps e ∧ f = .unencodable e := by
  simp only [← Text.Utf8.text_eq_error_iff, encoded]
  cases Text.Utf8.text ps <;> simp [Except.mapError, eq_comm]

end RawReport

def ErrorReport.raw (report : ErrorReport) : RawReport where
  payload := report.payload
  requestId := report.requestId.map codePoints
  errorType := report.errorType
  errorCause := report.errorCause.map codePoints

/-- The call of a command, with its texts as they are. -/
def Command.call : Command → Call
  | poll => .poll
  | reportSuccess id payload => .reportSuccess (codePoints id) payload
  | reportError report => .reportError report.raw
  | reportInitError payload errorType => .reportInitError payload errorType
  | pollRestore => .pollRestore
  | reportRestoreError payload errorType => .reportRestoreError payload errorType
  | close => .close
  | enter => .enter
  | exit => .exit

/-- What calls fail with before any request is made. -/
inductive Call.Fails : Call → Failure → Prop where
  | unnamed {r : RawReport} : r.requestId = none ∨ r.requestId = some [] →
      Fails (.reportError r) .requestIdRequired
  | answerName {id : List CodePoint} {payload : ByteArray} {e : EncodingError} :
      Text.Unencodable id e → Fails (.reportSuccess id payload) (.unencodable e)
  | errorName {r : RawReport} {id : List CodePoint} {e : EncodingError} :
      r.requestId = some id → Text.Unencodable id e → Fails (.reportError r) (.unencodable e)
  | cause {r : RawReport} {id : String} {cause : List CodePoint} {e : EncodingError} :
      r.requestId = some (codePoints id) → id ≠ "" → r.errorCause = some cause →
      Text.Unencodable cause e → Fails (.reportError r) (.unencodable e)

theorem Text.codePoints_eq_nil_iff {s : String} : codePoints s = [] ↔ s = "" := by
  rw [codePoints, List.map_eq_nil_iff, String.toList_eq_nil_iff]

section Reports

variable {report : ErrorReport} {r : RawReport} {ps : List CodePoint} {id : String} {f : Failure}

theorem RawReport.report_of_unnamed (h : r.requestId = none ∨ r.requestId = some []) :
    r.report = .error .requestIdRequired := by
  rcases h with h | h <;> simp [RawReport.report, h]

theorem RawReport.report_of_named (hi : r.requestId = some ps) (hn : ps ≠ []) :
    r.report = (encoded ps).bind fun id => (r.errorCause.mapM encoded).bind fun cause =>
      .ok ⟨r.payload, some id, r.errorType, cause⟩ := by
  obtain ⟨p, ps, rfl⟩ := List.exists_cons_of_ne_nil hn
  rw [RawReport.report, hi]
  rfl

theorem ErrorReport.report_raw (hi : report.requestId = some id) (hn : id ≠ "") :
    report.raw.report = .ok report := by
  obtain ⟨payload, requestId, errorType, errorCause⟩ := report
  obtain rfl : requestId = some id := hi
  have he (s : String) : RawReport.encoded (codePoints s) = .ok s :=
    RawReport.encoded_eq_ok_iff.mpr rfl
  rw [RawReport.report_of_named rfl (Text.codePoints_eq_nil_iff.not.mpr hn), he]
  cases errorCause with
  | none => rfl
  | some cause =>
    have hm : Option.mapM RawReport.encoded (some (codePoints cause)) = .ok (some cause) := by
      rw [Option.mapM_some, he]
      rfl
    simp only [raw, Option.map_some, hm]
    rfl

end Reports

namespace Call

variable {call : Call} {f : Failure}

theorem of_report (r : RawReport) :
    (∃ cmd : Command, reportError r = cmd.call) ∨ ∃ f, (reportError r).Fails f := by
  cases hi : r.requestId with
  | none => exact .inr ⟨_, .unnamed (.inl hi)⟩
  | some ps =>
    cases ht : Text.Utf8.text ps with
    | error e => exact .inr ⟨_, .errorName hi (Text.Utf8.text_eq_error_iff.mp ht)⟩
    | ok id =>
      obtain rfl := Text.Utf8.text_eq_ok_iff.mp ht
      by_cases hn : id = ""
      · exact .inr ⟨_, .unnamed (.inr (hi.trans (congrArg some (Text.codePoints_eq_nil_iff.mpr hn))))⟩
      cases hc : r.errorCause with
      | none =>
        refine .inl ⟨.reportError ⟨r.payload, some id, r.errorType, none⟩, ?_⟩
        rw [Command.call, ErrorReport.raw, Option.map_some, ← hi, Option.map_none, ← hc]
      | some qs =>
        cases hq : Text.Utf8.text qs with
        | error e => exact .inr ⟨_, .cause hi hn hc (Text.Utf8.text_eq_error_iff.mp hq)⟩
        | ok cause =>
          obtain rfl := Text.Utf8.text_eq_ok_iff.mp hq
          refine .inl ⟨.reportError ⟨r.payload, some id, r.errorType, some cause⟩, ?_⟩
          rw [Command.call, ErrorReport.raw, Option.map_some, ← hi, Option.map_some, ← hc]

theorem of_command_or_fails (call : Call) :
    (∃ cmd : Command, call = cmd.call) ∨ ∃ f, call.Fails f := by
  cases call with
  | poll => exact .inl ⟨.poll, rfl⟩
  | reportSuccess id payload =>
    cases h : Text.Utf8.text id with
    | error e => exact .inr ⟨_, .answerName (Text.Utf8.text_eq_error_iff.mp h)⟩
    | ok s =>
      obtain rfl := Text.Utf8.text_eq_ok_iff.mp h
      exact .inl ⟨.reportSuccess s payload, rfl⟩
  | reportError r =>
    exact of_report r
  | reportInitError payload errorType => exact .inl ⟨.reportInitError payload errorType, rfl⟩
  | pollRestore => exact .inl ⟨.pollRestore, rfl⟩
  | reportRestoreError payload errorType => exact .inl ⟨.reportRestoreError payload errorType, rfl⟩
  | close => exact .inl ⟨.close, rfl⟩
  | enter => exact .inl ⟨.enter, rfl⟩
  | exit => exact .inl ⟨.exit, rfl⟩

theorem command_of_fails (h : call.Fails f) : call.command = .error f := by
  cases h with
  | unnamed hn => rw [command, RawReport.report_of_unnamed hn]; rfl
  | answerName he =>
    rw [command, RawReport.encoded_eq_error_iff.mpr ⟨_, he, rfl⟩]
    rfl
  | errorName hi he =>
    rw [command, RawReport.report_of_named hi he.ne_nil,
      RawReport.encoded_eq_error_iff.mpr ⟨_, he, rfl⟩]
    rfl
  | cause hi hn hc he =>
    rw [command, RawReport.report_of_named hi (Text.codePoints_eq_nil_iff.not.mpr hn),
      RawReport.encoded_eq_ok_iff.mpr rfl, hc, Option.mapM_some,
      RawReport.encoded_eq_error_iff.mpr ⟨_, he, rfl⟩]
    rfl

end Call

namespace Client

variable {c : Client} {registry : Registry} {t : Transport} {call : Call} {f : Failure}

theorem answer_call (cmd : Command) : c.answer registry t cmd.call = c.perform registry t cmd := by
  cases cmd with
  | reportSuccess id payload =>
    rw [answer, Command.call, Call.command, RawReport.encoded_eq_ok_iff.mpr rfl]
    rfl
  | reportError report =>
    rcases named_or_unnamed report with ⟨id, hi, hn⟩ | hu
    · rw [answer, Command.call, Call.command, ErrorReport.report_raw hi hn]
      rfl
    · have hr : report.raw.requestId = none ∨ report.raw.requestId = some [] := by
        rcases hu with hu | hu
        · exact .inl (congrArg (Option.map codePoints) hu)
        · exact .inr (congrArg (Option.map codePoints) hu)
      rw [perform_of_unnamed hu, answer, Command.call, Call.command,
        RawReport.report_of_unnamed hr]
      rfl
  | _ => rfl

theorem answer_of_fails (h : call.Fails f) :
    c.answer registry t call = { result := .error f, transport := t } := by
  rw [answer, Call.command_of_fails h]

theorem length_of_sends {cmd : Command} {sent : List Sent} (h : Sends c cmd sent) :
    sent.length = Command.taken [cmd] := by
  rw [Sends] at h
  split at h
  · next ha =>
    obtain ⟨r, rfl, -⟩ := h
    simp [Command.taken, ha]
  · next ha => simp [Command.taken, ha, h]

/-- One step: the requests that a call makes take as many replies. -/
theorem transport_answer (c : Client) (registry : Registry) (replies : List Outcome) (call : Call) :
    (c.answer registry (.injected replies) call).transport =
      .injected (replies.drop (c.answer registry (.injected replies) call).sent.length) := by
  rcases call.of_command_or_fails with ⟨cmd, rfl⟩ | ⟨f, hf⟩
  · rw [answer_call, transport_perform, length_of_sends (c.sends_perform registry replies cmd)]
  · rw [answer_of_fails hf]
    rfl

theorem answer_alone (c : Client) (logger : Logger) (registry registry' : Registry)
    (replies : List Outcome) (call : Call) :
    (({ c with logger } : Client).answer registry'
          (.injected [replies.head?.getD Transport.exhausted]) call).result =
        (c.answer registry (.injected replies) call).result ∧
      (({ c with logger } : Client).answer registry'
          (.injected [replies.head?.getD Transport.exhausted]) call).sent =
        (c.answer registry (.injected replies) call).sent := by
  rcases call.of_command_or_fails with ⟨cmd, rfl⟩ | ⟨f, hf⟩
  · rw [answer_call, answer_call]
    exact c.perform_alone logger registry registry' replies cmd
  · rw [answer_of_fails hf, answer_of_fails hf]
    exact ⟨rfl, rfl⟩

def requests (turns : List (Turn Value)) : Nat := (turns.flatMap (·.sent)).length

theorem requests_cons (turn : Turn Value) (turns : List (Turn Value)) :
    requests (turn :: turns) = turn.sent.length + requests turns := by
  rw [requests, List.flatMap_cons, List.length_append, requests]

/-- A call depends on what came before it through the replies that are left. -/
theorem answerAll_getElem? (c : Client) (registry : Registry) (replies : List Outcome)
    (calls : List Call) (k : Nat) :
    (c.answerAll registry (.injected replies) calls)[k]? =
      calls[k]?.map (c.answer registry (.injected (replies.drop
        (requests ((c.answerAll registry (.injected replies) calls).take k))))) := by
  induction calls generalizing replies k with
  | nil => rfl
  | cons call calls ih =>
    cases k with
    | zero => rfl
    | succ k =>
      rw [answerAll, List.getElem?_cons_succ, List.getElem?_cons_succ, List.take_succ_cons,
        requests_cons, ← List.drop_drop, transport_answer, ih]

theorem chooseUserAgent_eq (given : Option String) (version : String) :
    chooseUserAgent given version = (given.filter (· ≠ "")).getD
      ("aws-lambda-python/" ++ version ++ "-lambda-runtime-client/0.1.0") := by
  cases given with
  | none => rfl
  | some agent =>
    rw [chooseUserAgent, Option.filter_some]
    by_cases h : agent = ""
    · rw [if_pos h, if_neg (by simp [h])]
      rfl
    · rw [if_neg h, if_pos (by simp [h])]
      rfl

/-- A call fails before any request is made, or it makes what its command asks for: at most one
request, under the name that the client was given. It comes to what it would come to alone with the
reply that it gets. -/
theorem call_turn {registry : Registry} {process : Environment} {version : String}
    {options : Options} {given : Option String}
    (h : (make registry process version options given).result = .ok c) (registry' : Registry)
    (replies : List Outcome) (calls : List Call) (k : Nat) (call : Call)
    (hk : calls[k]? = some call) :
    (c.userAgent = (options.userAgent.filter (· ≠ "")).getD
        ("aws-lambda-python/" ++ version ++ "-lambda-runtime-client/0.1.0") ∧
      c.userAgent ≠ "" ∧ c.pollTimeout = options.pollTimeout ∧
      c.requestTimeout = options.requestTimeout) ∧
    ((∃ cmd : Command, call = cmd.call) ∨ ∃ f, call.Fails f) ∧
    ∃ turn, (c.answerAll registry' (.injected replies) calls)[k]? = some turn ∧
      (∀ cmd : Command, call = cmd.call → Sends c cmd turn.sent) ∧
      (∀ f, call.Fails f → turn.result = .error f ∧ turn.sent = []) ∧
      ∀ (logger : Logger) (registry'' : Registry),
        let made := requests ((c.answerAll registry' (.injected replies) calls).take k)
        let reply := replies[made]?.getD Transport.exhausted
        let alone := ({ c with logger } : Client).answer registry'' (.injected [reply]) call
        alone.result = turn.result ∧ alone.sent = turn.sent := by
  obtain ⟨ha, hp, hr⟩ := make_eq_ok h
  refine ⟨⟨ha.trans (chooseUserAgent_eq ..), ha ▸ chooseUserAgent_ne_empty _ _, hp, hr⟩,
    call.of_command_or_fails, c.answer registry' (.injected (replies.drop
      (requests ((c.answerAll registry' (.injected replies) calls).take k)))) call, ?_, ?_, ?_, ?_⟩
  · rw [answerAll_getElem?, hk]
    rfl
  · rintro cmd rfl
    rw [answer_call]
    exact c.sends_perform registry' _ cmd
  · intro f hf
    rw [answer_of_fails hf]
    exact ⟨rfl, rfl⟩
  · intro logger registry''
    have hs := c.answer_alone logger registry' registry'' (replies.drop
      (requests ((c.answerAll registry' (.injected replies) calls).take k))) call
    rwa [List.head?_drop] at hs

/-- The calls that fail before the last one take no reply away from it. -/
theorem call_turn_restart :
    (make {} [] "3.11.0" {} (some "127.0.0.1:9001")).result = .ok sample ∧
    ∃ turn, (sample.answerAll {} (.injected [.ok { status := 500 }, .ok { status := 202 }])
        [.poll, .reportError { payload := .empty }, .reportSuccess [0xd800] .empty,
          .reportRestoreError .empty (some "E")])[3]? = some turn ∧
      Sends sample (.reportRestoreError .empty (some "E")) turn.sent ∧
      turn.result = (sample.answer {} (.injected [.ok { status := 202 }])
        (.reportRestoreError .empty (some "E"))).result := by
  obtain ⟨-, -, turn, ht, hs, -, ha⟩ := call_turn make_sample {}
    [.ok { status := 500 }, .ok { status := 202 }]
    [.poll, .reportError { payload := .empty }, .reportSuccess [0xd800] .empty,
      .reportRestoreError .empty (some "E")] 3 _ rfl
  exact ⟨make_sample, turn, ht, hs (.reportRestoreError .empty (some "E")) rfl,
    (ha sample.logger {}).1.symm⟩

/-- An answer to an invocation whose name is a surrogate on its own is not sent. -/
theorem unsent_of_surrogate :
    ∃ turn, (sample.answerAll {} (.injected [.ok { status := 200 }])
        [.reportSuccess [0xd800] .empty])[0]? = some turn ∧
      turn.result =
        .error (.unencodable ⟨"utf-8", "surrogates not allowed", 0xd800, 0, 1⟩) ∧
      turn.sent = [] :=
  ⟨_, rfl, rfl, rfl⟩

end Client

end InvocationClient
