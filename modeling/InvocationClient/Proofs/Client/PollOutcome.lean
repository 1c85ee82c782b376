import InvocationClient.Proofs.Client.Polling
import InvocationClient.Proofs.Client.Requests

/-! # What polls come to

An error of the transport and an answer with another status end a poll with one failure, which wraps
the error or tells the status, unless the status has too many digits to be told. What an expected
answer says comes out as it is read, and all else that goes wrong comes out as it is.
-/

namespace InvocationClient.Client

variable {c : Client} {o : Outcome} {f : Failure} {e : ClientError}

inductive PollsTo (url : String) : Outcome → Except Failure Invocation → Prop where
  | broken {f : Failure} {e : ClientError} {message : String} : f.error? = some e →
      e.problem = .transport message →
      PollsTo url (.error f) (.error (.because ⟨.nextInvocation url none, e.context⟩ f))
  | passed {f : Failure} :
      (∀ e message, f.error? = some e → e.problem ≠ .transport message) →
      PollsTo url (.error f) (.error f)
  | refused {response : Response} {status : Number.Writable} : status.value = response.status →
      response.status ≠ 200 →
      PollsTo url (.ok response)
        (.error (.because ⟨.nextInvocation url (some status), .absent⟩
          (.client ⟨.report url status, .absent⟩)))
  | untold {response : Response} : response.status ≠ 200 →
      4300 < (Nat.toDigits 10 response.status.natAbs).length →
      PollsTo url (.ok response) (.error .unwritableInteger)
  | answered {response : Response} : response.status = 200 →
      PollsTo url (.ok response) (Metadata.extract response.headers (some response.body))

def IsNextInvocation (e : ClientError) : Prop :=
  ∃ url status, e.problem = .nextInvocation url status

theorem transportError?_eq_none_iff :
    transportError? f = none ↔
      ∀ e message, f.error? = some e → e.problem ≠ .transport message := by
  rw [Option.eq_none_iff_forall_ne_some]
  constructor
  · intro h e message he hp
    exact h e (transportError?_eq_some_iff.mpr ⟨he, message, hp⟩)
  · intro h e he
    obtain ⟨he, message, hp⟩ := transportError?_eq_some_iff.mp he
    exact h e message he hp

theorem pollsTo_settle (c : Client) (o : Outcome) :
    PollsTo (c.baseUrl ++ Path.nextInvocation) o (c.poll.settle o).result := by
  cases o with
  | error f =>
    cases ht : transportError? f with
    | some e =>
      obtain ⟨he, message, hp⟩ := transportError?_eq_some_iff.mp ht
      rw [poll_result_of_transportError ht]
      exact .broken he hp
    | none =>
      rw [poll_result_of_other ht]
      exact .passed (transportError?_eq_none_iff.mp ht)
  | ok response =>
    by_cases hs : response.status = okStatus
    · rw [poll_result_of_answer hs]
      exact .answered hs
    · cases hw : Number.isWritable response.status with
      | true =>
        rw [poll_result_of_status hs hw]
        exact .refused rfl hs
      | false =>
        rw [poll_result_of_untold hs hw]
        exact .untold hs (Number.lt_length_of_not_isWritable hw)

theorem PollsTo.unique {url : String} {result result' : Except Failure Invocation}
    (h : PollsTo url o result) (h' : PollsTo url o result') : result = result' := by
  cases h with
  | broken he hp =>
    cases h' with
    | broken he' hp' =>
      cases he.symm.trans he'
      rfl
    | passed hn => exact absurd hp (hn _ _ he)
  | passed hn =>
    cases h' with
    | broken he hp => exact absurd hp (hn _ _ he)
    | passed => rfl
  | refused hv hs =>
    cases h' with
    | refused hv' =>
      cases Number.Writable.ext (hv.trans hv'.symm)
      rfl
    | untold _ hw => exact absurd hw (Number.Writable.not_lt_length hv)
    | answered hs' => exact absurd hs' hs
  | untold hs hw =>
    cases h' with
    | refused hv => exact absurd hw (Number.Writable.not_lt_length hv)
    | untold => rfl
    | answered hs' => exact absurd hs' hs
  | answered hs =>
    cases h' with
    | refused _ hs' => exact absurd hs hs'
    | untold hs' => exact absurd hs hs'
    | answered => rfl

theorem settle_poll_eq_iff {result : Except Failure Invocation} :
    (c.poll.settle o).result = result ↔ PollsTo (c.baseUrl ++ Path.nextInvocation) o result := by
  constructor
  · rintro rfl
    exact pollsTo_settle c o
  · exact (pollsTo_settle c o).unique

/-- Reading an answer has failures of its own. -/
theorem not_isNextInvocation_of_extract {fields : Fields} {body : Option ByteArray}
    (h : Metadata.extract fields body = .error f) (he : f.error? = some e) :
    ¬ IsNextInvocation e := by
  rintro ⟨url, status, hp⟩
  rcases Metadata.extract_eq_error_iff.mp h with
    ⟨-, rfl⟩ | ⟨id, -, -, rfl⟩ | ⟨id, arn, -, -, hd⟩
  · cases he
    cases hp
  · cases he
    cases hp
  · obtain ⟨text, negative, digits, -, -, -, rfl⟩ := Deadline.parse_eq_error_iff.mp hd
    cases he

theorem isNextInvocation_iff_of_answer {response : Response} :
    (∃ f e, (c.poll.settle (.ok response)).result = .error f ∧ f.error? = some e ∧
      IsNextInvocation e) ↔
      response.status ≠ 200 ∧ (Nat.toDigits 10 response.status.natAbs).length ≤ 4300 := by
  constructor
  · rintro ⟨f, e, hf, he, hn⟩
    by_cases hs : response.status = okStatus
    · rw [poll_result_of_answer hs] at hf
      exact absurd hn (not_isNextInvocation_of_extract hf he)
    · cases hw : Number.isWritable response.status with
      | true => exact ⟨hs, of_decide_eq_true hw⟩
      | false =>
        rw [poll_result_of_untold hs hw] at hf
        cases hf
        cases he
  · rintro ⟨hs, hw⟩
    exact ⟨_, _, poll_result_of_status hs (decide_eq_true hw), rfl, _, _, rfl⟩

theorem map_eq_map_iff {result result' : Except Failure Invocation} :
    result.map Value.invocation = result'.map Value.invocation ↔ result = result' := by
  cases result <;> cases result' <;> simp [Except.map]

theorem map_eq_error_iff {result : Except Failure Invocation} :
    result.map Value.invocation = .error f ↔ result = .error f := by
  cases result <;> simp [Except.map]

theorem perform_poll_result {replies : List Outcome} (registry : Registry)
    (h : replies.head? = some o) :
    (c.perform registry (.injected replies) .poll).result =
      (c.poll.settle o).result.map .invocation := by
  cases replies with
  | nil => cases h
  | cons reply replies =>
    cases h
    rfl

/-- What a poll comes to in a session is settled by the reply that it gets. Among the answers, those
with another status that can be told, and no others, end in telling that there is no next
invocation. -/
theorem poll_result_iff (c : Client) (registry : Registry) (replies : List Outcome)
    (cmds : List Command) (k : Nat) (hk : cmds[k]? = some .poll)
    (ho : replies[Command.taken (cmds.take k)]? = some o) :
    ∃ turn, (c.session registry (.injected replies) cmds)[k]? = some turn ∧
      (∀ result, turn.result = result.map .invocation ↔
        PollsTo (c.baseUrl ++ "/2018-06-01/runtime/invocation/next") o result) ∧
      ∀ response, o = .ok response →
        ((∃ f e, turn.result = .error f ∧ f.error? = some e ∧ IsNextInvocation e) ↔
          response.status ≠ 200 ∧ (Nat.toDigits 10 response.status.natAbs).length ≤ 4300) := by
  have hh : (replies.drop (Command.taken (cmds.take k))).head? = some o := by
    rw [List.head?_drop, ho]
  refine ⟨_, by rw [session_getElem?, hk, Option.map_some], ?_⟩
  rw [perform_poll_result registry hh]
  constructor
  · intro result
    rw [map_eq_map_iff]
    exact settle_poll_eq_iff
  · rintro response rfl
    simp only [map_eq_error_iff]
    exact isNextInvocation_iff_of_answer

/-- An answer with all that an invocation needs but another status is not taken for one, whatever
has been refused before. -/
theorem poll_result_iff_refused :
    ∃ turn, (sample.session {} (.injected [.ok { answerTo "7" "1500" with status := 500 }])
        [.reportError { payload := .empty }, .poll])[1]? = some turn ∧
      turn.result = .error (.because
        ⟨.nextInvocation "http://127.0.0.1:9001/2018-06-01/runtime/invocation/next"
          (some ⟨500, by decide⟩), .absent⟩
        (.client ⟨.report "http://127.0.0.1:9001/2018-06-01/runtime/invocation/next"
          ⟨500, by decide⟩, .absent⟩)) := by
  obtain ⟨turn, ht, hr, -⟩ := poll_result_iff sample {}
    [.ok { answerTo "7" "1500" with status := 500 }] [.reportError { payload := .empty }, .poll] 1
    rfl rfl
  exact ⟨turn, ht, (hr (.error _)).mpr (.refused rfl (by decide))⟩

/-- A status with 4301 digits is not told of, so that the poll fails in a way of its own. -/
theorem poll_untold_of_digits :
    ∃ turn, (sample.session {} (.injected [.ok { status := Nat.pow 10 Number.digitLimit }])
        [.poll])[0]? = some turn ∧
      turn.result = .error .unwritableInteger ∧
      ¬ ∃ f e, turn.result = .error f ∧ f.error? = some e ∧ IsNextInvocation e := by
  have hw : Number.isWritable (Nat.pow 10 Number.digitLimit) = false := Number.isWritable_pow
  have hs : (Nat.pow 10 Number.digitLimit : Int) ≠ okStatus := by
    intro h
    rw [h] at hw
    cases hw
  have hr : (sample.poll.settle (.ok { status := Nat.pow 10 Number.digitLimit })).result =
      .error .unwritableInteger := poll_result_of_untold hs hw
  refine ⟨_, rfl, ?_, ?_⟩
  · rw [perform_poll_result {} rfl, hr]
    rfl
  · rintro ⟨f, e, hf, he, -⟩
    rw [perform_poll_result {} rfl, hr] at hf
    cases hf
    cases he

end InvocationClient.Client
