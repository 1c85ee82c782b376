import InvocationClient.Proofs.Client.Destination

/-! # Paths of reports

Each invocation has two paths of its own, one for its answer and one for its failure. Its name can
be read back from them, whatever it is, and no other request goes there.
-/

namespace InvocationClient

open Text.Percent

variable {cmd : Command} {id : String}

/-- What is reported on an invocation. -/
inductive Verdict where
  | answered
  | failed
  deriving DecidableEq, Repr

namespace Verdict

def action : Verdict → String
  | answered => "response"
  | failed => "error"

variable {v v' : Verdict}

theorem slash_not_mem_action (v : Verdict) : '/' ∉ v.action.toList := by
  cases v <;> decide

theorem action_inj : v.action = v'.action ↔ v = v' := by
  cases v <;> cases v' <;> decide

end Verdict

/-- The invocation that a command reports on, with its verdict. A failure needs a name. -/
def Command.report? : Command → Option (String × Verdict)
  | .reportSuccess id _ => some (id, .answered)
  | .reportError report => (report.requestId.filter (· ≠ "")).map fun id => (id, .failed)
  | _ => none

namespace Client

variable {c : Client} {v : Verdict} {r : Request}

/-- The request that a command gives to the transport, whichever transport that is. -/
def Gives (c : Client) (cmd : Command) (r : Request) : Prop :=
  ∀ (registry : Registry) (t : Transport),
    (c.perform registry t cmd).sent = (t.execute r).sent ∧
      (c.perform registry t cmd).transport = (t.execute r).transport

theorem gives_of_plan {x : Exchange Value} (h : c.plan cmd = .exchange x) :
    Gives c cmd x.request := by
  intro registry t
  rw [perform_eq_run, h]
  exact ⟨rfl, rfl⟩

theorem exists_plan_of_report? (c : Client) (h : cmd.report? = some (id, v)) :
    ∃ x, c.plan cmd = .exchange x ∧ x.request.path = Path.ofInvocation id v.action := by
  cases cmd with
  | reportSuccess id payload =>
    cases h
    exact ⟨_, rfl, rfl⟩
  | reportError report =>
    obtain ⟨name, hf, he⟩ := Option.map_eq_some_iff.mp h
    cases he
    obtain ⟨hr, hn⟩ := Option.filter_eq_some_iff.mp hf
    refine ⟨_, by rw [plan, reportError_of_named hr (of_decide_eq_true hn)], rfl⟩
  | poll | reportInitError | pollRestore | reportRestoreError | close | enter | exit => cases h

end Client

namespace Path

/-- Where the requests go that are not about a single invocation. -/
def others : List String := [nextInvocation, initError, restoreNext, restoreError]

theorem count_of_mem_others {path : String} (h : path ∈ others) : path.toList.count '/' = 4 := by
  have ha : ∀ path ∈ others, path.toList.count '/' = 4 := by decide
  exact ha path h

theorem ofInvocation_ne_of_mem_others {path : String} (h : path ∈ others) (id : String)
    (v : Verdict) : ofInvocation id v.action ≠ path := by
  intro he
  have hi := count_ofInvocation id v.slash_not_mem_action
  rw [he, count_of_mem_others h] at hi
  cases hi

end Path

/-- The name of an invocation can be read back from its encoded form, which has no character but
plain ones and escapes. The path of a report holds it in this form, so that two reports go to one
path exactly if they are about one invocation and of one kind, and no other request goes there. -/
theorem report_paths_faithful :
    (∀ id : String, decode? (encode id) = some id ∧ Escaped (encode id).toList ∧
      ∀ c ∈ (encode id).toList, c ∉ ['/', '?', '#', '{', '}'] ∧ Text.isBlank c = false) ∧
    ∀ (c c' : Client) (cmd cmd' : Command) (id id' : String) (v v' : Verdict),
      cmd.report? = some (id, v) → cmd'.report? = some (id', v') →
      ∃ r r', c.Gives cmd r ∧ c'.Gives cmd' r' ∧
        r.path = "/2018-06-01/runtime/invocation/" ++ encode id ++ "/" ++ v.action ∧
        (r.path = r'.path ↔ id = id' ∧ v = v') ∧
        r.path.toList.count '/' = 5 ∧ ∀ path ∈ Path.others, r.path ≠ path := by
  refine ⟨fun id => ⟨decode?_encode id, escaped_encode id, fun c hc => ?_⟩, ?_⟩
  · have he := isEncoded_of_mem_encode hc
    refine ⟨fun hm => ?_, not_isBlank_of_isEncoded he⟩
    have ho : ∀ c ∈ ['/', '?', '#', '{', '}'], ¬ isEncoded c = true :=
      List.any_eq_false.mp (by decide)
    exact ho c hm he
  · intro c c' cmd cmd' id id' v v' h h'
    obtain ⟨x, hx, hp⟩ := c.exists_plan_of_report? h
    obtain ⟨x', hx', hp'⟩ := c'.exists_plan_of_report? h'
    refine ⟨x.request, x'.request, Client.gives_of_plan hx, Client.gives_of_plan hx', ?_⟩
    rw [hp, hp']
    refine ⟨rfl, ?_, Path.count_ofInvocation id v.slash_not_mem_action,
      fun path hm => Path.ofInvocation_ne_of_mem_others hm id v⟩
    rw [Path.ofInvocation_inj v.slash_not_mem_action v'.slash_not_mem_action, Verdict.action_inj]

/-- A name with a slash in it and one that looks like its encoded form. -/
theorem report_paths_faithful_escape :
    ∃ r r', Client.sample.Gives (.reportError { payload := .empty, requestId := some "a/b" }) r ∧
      Client.sample.Gives (.reportError { payload := .empty, requestId := some "a%2Fb" }) r' ∧
      r.path ≠ r'.path ∧ r.path ≠ Path.nextInvocation ∧ decode? (encode "a%2Fb") = some "a%2Fb" := by
  have hs : (Command.reportError { payload := .empty, requestId := some "a/b" }).report? =
      some ("a/b", .failed) := rfl
  have hf : (Command.reportError { payload := .empty, requestId := some "a%2Fb" }).report? =
      some ("a%2Fb", .failed) := rfl
  obtain ⟨he, hp⟩ := report_paths_faithful
  obtain ⟨r, r', hr, hr', -, hi, -, ho⟩ := hp Client.sample Client.sample _ _ _ _ _ _ hs hf
  refine ⟨r, r', hr, hr', fun h => ?_, ho _ (by simp [Path.others]), (he _).1⟩
  have hn := (hi.mp h).1
  revert hn
  decide

end InvocationClient
