import InvocationClient.Proofs.Json.Strings

/-! # What reading comes to

A reader that gives a value has come to it in one of a few ways, which what the text begins with
tells apart: a string, an array or object that is empty or is read from its first part on, or a word
or number. From each item of an array and each member of an object on, reading ends there or goes on
behind a comma.
-/

namespace InvocationClient.Json

open Text

variable {w : Json} {rest s : List CodePoint} {fuel room : Nat}

theorem fail_ne_ok {α : Type} {r : α × List CodePoint} {complaint : Complaint} :
    fail room complaint s ≠ .ok r := by
  unfold fail
  split <;> nofun

theorem readQuoted_of_readValue
    (h : readValue fuel room (CodePoint.ofChar '"' :: s) = .ok (w, rest)) :
    ∃ t, readQuoted room (CodePoint.ofChar '"' :: s) = .ok (t, rest) ∧ w = .string t := by
  have hq : is '"' (CodePoint.ofChar '"') = true := by decide
  cases fuel with
  | zero => cases h
  | succ f =>
    rw [readValue.eq_def] at h
    simp only [hq, if_true] at h
    cases hr : readQuoted room (CodePoint.ofChar '"' :: s) with
    | error e =>
      rw [hr] at h
      cases h
    | ok r =>
      rw [hr] at h
      cases h
      exact ⟨_, rfl, rfl⟩

/-- Behind an opening mark there is nothing but the closing one, or else the parts are read from the
first of them on. -/
theorem opened_cases (mark : Char) (empty : Json) (parts : List CodePoint → Reading Json)
    (h : (match skip s with
      | [] => parts []
      | q :: t => if is mark q then .ok (empty, t) else parts (q :: t)) = .ok (w, rest)) :
    skip s = CodePoint.ofChar mark :: rest ∧ w = empty ∨
      parts (skip s) = .ok (w, rest) ∧ (skip s).head? ≠ some (CodePoint.ofChar mark) := by
  split at h
  · next hs =>
    rw [hs]
    exact .inr ⟨h, nofun⟩
  next q t hs =>
  rw [hs]
  split at h
  · next hp =>
    cases h
    rw [is_iff.mp hp]
    exact .inl ⟨rfl, rfl⟩
  · next hp =>
    exact .inr ⟨h, fun he => hp (is_iff.mpr (Option.some.inj he))⟩

theorem readValue_array_cases
    (h : readValue fuel room (CodePoint.ofChar '[' :: s) = .ok (w, rest)) :
    skip s = CodePoint.ofChar ']' :: rest ∧ w = .array [] ∨
      ∃ f r, fuel = f + 1 ∧ room = r + 1 ∧ readItems f r [] (skip s) = .ok (w, rest) ∧
        (skip s).head? ≠ some (CodePoint.ofChar ']') := by
  have hq : is '"' (CodePoint.ofChar '[') = false := by decide
  have hb : is '[' (CodePoint.ofChar '[') = true := by decide
  cases fuel with
  | zero => cases h
  | succ f =>
    rw [readValue.eq_def] at h
    simp only [hq, hb, Bool.false_eq_true, if_false, if_true] at h
    cases room with
    | zero => cases h
    | succ r =>
      exact (opened_cases ']' (.array []) (readItems f r []) h).imp_right fun hi =>
        ⟨f, r, rfl, rfl, hi⟩

theorem readValue_object_cases
    (h : readValue fuel room (CodePoint.ofChar '\x7b' :: s) = .ok (w, rest)) :
    skip s = CodePoint.ofChar '\x7d' :: rest ∧ w = .object [] ∨
      ∃ f r, fuel = f + 1 ∧ room = r + 1 ∧ readMembers f r [] (skip s) = .ok (w, rest) ∧
        (skip s).head? ≠ some (CodePoint.ofChar '\x7d') := by
  have hq : is '"' (CodePoint.ofChar '\x7b') = false := by decide
  have ha : is '[' (CodePoint.ofChar '\x7b') = false := by decide
  have hb : is '\x7b' (CodePoint.ofChar '\x7b') = true := by decide
  cases fuel with
  | zero => cases h
  | succ f =>
    rw [readValue.eq_def] at h
    simp only [hq, ha, hb, Bool.false_eq_true, if_false, if_true] at h
    cases room with
    | zero => cases h
    | succ r =>
      exact (opened_cases '\x7d' (.object []) (readMembers f r []) h).imp_right fun hm =>
        ⟨f, r, rfl, rfl, hm⟩

theorem readScalar_of_readValue {p : CodePoint} (hq : is '"' p = false) (ha : is '[' p = false)
    (ho : is '\x7b' p = false) (h : readValue fuel room (p :: s) = .ok (w, rest)) :
    readScalar room (p :: s) = .ok (w, rest) := by
  cases fuel with
  | zero => cases h
  | succ f =>
    rw [readValue.eq_def] at h
    simpa only [hq, ha, ho, Bool.false_eq_true, if_false] using h

/-- What reading the items of an array from one of them on comes to, if it comes to a value. -/
inductive ItemStep (fuel room : Nat) (done : List Json) (s : List CodePoint) :
    Json → List CodePoint → Prop where
  | last {v : Json} {more rest : List CodePoint} : readValue fuel room s = .ok (v, more) →
      skip more = CodePoint.ofChar ']' :: rest →
      ItemStep fuel room done s (.array (v :: done).reverse) rest
  | next {v w : Json} {more after rest : List CodePoint} :
      readValue fuel room s = .ok (v, more) → skip more = CodePoint.ofChar ',' :: after →
      readItems fuel room (v :: done) (skip after) = .ok (w, rest) →
      ItemStep fuel room done s w rest

theorem exists_itemStep {done : List Json} (h : readItems fuel room done s = .ok (w, rest)) :
    ∃ f, fuel = f + 1 ∧ ItemStep f room done s w rest := by
  cases fuel with
  | zero => cases h
  | succ f =>
    refine ⟨f, rfl, ?_⟩
    rw [readItems] at h
    split at h
    · cases h
    next v more hv =>
    split at h
    · exact absurd h fail_ne_ok
    next p after hs =>
    split at h
    · next hp =>
      obtain rfl := is_iff.mp hp
      cases h
      exact .last hv hs
    split at h
    · next hp =>
      obtain rfl := is_iff.mp hp
      exact .next hv hs h
    · exact absurd h fail_ne_ok

/-- What reading the members of an object from one of them on comes to. -/
inductive MemberStep (fuel room : Nat) (done : List (List CodePoint × Json)) (s : List CodePoint) :
    Json → List CodePoint → Prop where
  | last {k : List CodePoint} {v : Json} {more after more' rest : List CodePoint} :
      readQuoted room s = .ok (k, more) → skip more = CodePoint.ofChar ':' :: after →
      readValue fuel room (skip after) = .ok (v, more') →
      skip more' = CodePoint.ofChar '\x7d' :: rest →
      MemberStep fuel room done s (.object (Association.put k v done)) rest
  | next {k : List CodePoint} {v w : Json} {more after more' after' rest : List CodePoint} :
      readQuoted room s = .ok (k, more) → skip more = CodePoint.ofChar ':' :: after →
      readValue fuel room (skip after) = .ok (v, more') →
      skip more' = CodePoint.ofChar ',' :: after' →
      readMembers fuel room (Association.put k v done) (skip after') = .ok (w, rest) →
      MemberStep fuel room done s w rest

theorem exists_memberStep {done : List (List CodePoint × Json)}
    (h : readMembers fuel room done s = .ok (w, rest)) :
    ∃ f, fuel = f + 1 ∧ MemberStep f room done s w rest := by
  cases fuel with
  | zero => cases h
  | succ f =>
    refine ⟨f, rfl, ?_⟩
    rw [readMembers] at h
    split at h
    · exact absurd h fail_ne_ok
    split at h
    · cases h
    next k more hk =>
    split at h
    · exact absurd h fail_ne_ok
    next p after hs =>
    split at h
    · exact absurd h fail_ne_ok
    next hp =>
    obtain rfl : p = CodePoint.ofChar ':' := is_iff.mp (by simpa using hp)
    split at h
    · cases h
    next v more' hv =>
    split at h
    · exact absurd h fail_ne_ok
    next q after' hs' =>
    split at h
    · next hq =>
      obtain rfl := is_iff.mp hq
      cases h
      exact .last hk hs hv hs'
    split at h
    · next hq =>
      obtain rfl := is_iff.mp hq
      exact .next hk hs hv hs' h
    · exact absurd h fail_ne_ok

end InvocationClient.Json
