import InvocationClient.Client.Basic
import InvocationClient.Proofs.Endpoint.Grammar
import InvocationClient.Proofs.Text.Blank

/-! # Rejected endpoints

A text is an endpoint or it is rejected, with itself as the context. The one exception is a text
that is written like an endpoint with more digits in its port than can be read. Making a client
fails for no other reason than its endpoint.
-/

namespace InvocationClient.Endpoint

variable {given : Option String} {host port : List Char} {n : Nat}

def contextOf : Option String → Context
  | none => .absent
  | some given => .text given

/-- The failure that a text that is no endpoint is documented to end with. -/
def IsRejection (given : Option String) (f : Failure) : Prop :=
  ∃ message, f = .client ⟨.invalidEndpoint message, contextOf given⟩

def Answered (given : Option String) : Except Failure Endpoint → Prop
  | .ok _ => True
  | .error f => IsRejection given f

/-- A text in the shape of an endpoint, with a port of `n` digits, more than can be read. -/
inductive Overlong : Option String → Nat → Prop where
  | port {given : String} {host port : List Char} : Written given host port →
      Number.digitLimit < port.length → Overlong (some given) port.length

theorem isRejection_reject (given : String) (why : Rejection) :
    IsRejection (some given) (reject given why) :=
  ⟨why.message, rfl⟩

theorem not_answered_tooManyDigits : ¬ Answered given (.error (.tooManyDigits n)) := by
  rintro ⟨message, h⟩
  cases h

theorem parse_of_overlong (h : Overlong given n) : parse given = .error (.tooManyDigits n) := by
  cases h with
  | port hw hl => rw [parse_of_written hw, Number.readDigits?, if_neg (Nat.not_le.mpr hl)]

theorem answered_or_overlong_of_written {given : String} (h : Written given host port) :
    Answered (some given) (parse (some given)) ∨ ∃ n, Overlong (some given) n := by
  by_cases hl : port.length ≤ Number.digitLimit
  · left
    rw [parse_of_written h, Number.readDigits?, if_pos hl]
    by_cases hr : 0 < Number.ofDigits port ∧ Number.ofDigits port < 65536
    · simp only [if_pos hr]
      trivial
    · simp only [if_neg hr]
      exact isRejection_reject given _
  · exact .inr ⟨_, .port h (Nat.not_le.mp hl)⟩

theorem answered_or_overlong (given : Option String) :
    Answered given (parse given) ∨ ∃ n, Overlong given n := by
  cases given with
  | none => exact .inl ⟨_, rfl⟩
  | some given =>
    rcases written_or_rejected given with ⟨host, port, hw⟩ | ⟨why, hr⟩
    · exact answered_or_overlong_of_written hw
    · rw [hr]
      exact .inl (isRejection_reject given why)

theorem result_make (registry : Registry) (process : Environment) (version : String)
    (options : Options) (given : Option String) :
    (Client.make registry process version options given).result.map (·.endpoint) = parse given := by
  unfold Client.make
  cases parse given with
  | error f => rfl
  | ok e => rfl

/-- Reading an endpoint ends as it is documented to exactly if the digits of the port are not too
many, and else with the failure that they come to. What it ends with is what making a client ends
with. -/
theorem parse_answered_iff (given : Option String) :
    (Answered given (parse given) ↔ ∀ n, ¬ Overlong given n) ∧
      (∀ n, parse given = .error (.tooManyDigits n) ↔ Overlong given n) ∧
      ∀ (registry : Registry) (process : Environment) (version : String) (options : Options),
        (Client.make registry process version options given).result.map (·.endpoint) =
          parse given := by
  refine ⟨⟨?_, ?_⟩, fun n => ⟨?_, parse_of_overlong⟩, fun registry process version options =>
    result_make registry process version options given⟩
  · intro ha n ho
    rw [parse_of_overlong ho] at ha
    exact not_answered_tooManyDigits ha
  · intro hn
    rcases answered_or_overlong given with ha | ⟨n, ho⟩
    · exact ha
    · exact absurd ho (hn n)
  · intro hp
    rcases answered_or_overlong given with ha | ⟨n', ho⟩
    · rw [hp] at ha
      exact absurd ha not_answered_tooManyDigits
    · rw [parse_of_overlong ho] at hp
      cases hp
      exact ho

section Samples

def withPortOf (n : Nat) : String := String.ofList ('h' :: ':' :: List.replicate n '1')

theorem written_withPortOf (h : 0 < n) : Written (withPortOf n) ['h'] (List.replicate n '1') where
  trimmed := by
    have hr : 'h' :: ':' :: List.replicate n '1' = ['h', ':'] ++ List.replicate n '1' := rfl
    rw [withPortOf, String.toList_ofList]
    refine Text.trimChars_of_trimsTo (Text.IsTrim.trimsTo ⟨?_, ?_⟩)
    · simp; decide
    · intro c hc
      rw [hr, List.getLast?_append, List.getLast?_replicate, if_neg (Nat.ne_of_gt h)] at hc
      cases hc
      decide
  named := by simp
  balanced := by decide
  numeric := by
    refine isNumeric_iff.mpr ⟨by simp; omega, fun d hd => ?_⟩
    rw [List.eq_of_mem_replicate hd]
    decide

theorem overlong_withPortOf (h : Number.digitLimit < n) : Overlong (some (withPortOf n)) n := by
  have hw := written_withPortOf (Nat.zero_lt_of_lt h)
  simpa using Overlong.port hw (by simpa using h)

/-- A port of 4301 digits is neither taken nor rejected. -/
theorem overlong_port_unanswered :
    parse (some (withPortOf 4301)) = .error (.tooManyDigits 4301) ∧
      ¬ Answered (some (withPortOf 4301)) (parse (some (withPortOf 4301))) := by
  have hp := parse_of_overlong (overlong_withPortOf (n := 4301) (by decide))
  rw [hp]
  exact ⟨rfl, not_answered_tooManyDigits⟩

end Samples

end InvocationClient.Endpoint
