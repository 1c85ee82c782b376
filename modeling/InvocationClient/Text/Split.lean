/-! # Splitting

Texts taken apart at separators, which belong to no piece.
-/

namespace InvocationClient.Text

variable {α : Type}

def splitFirst? (isSeparator : α → Bool) (as : List α) : Option (List α × List α) :=
  match as.dropWhile (!isSeparator ·) with
  | [] => none
  | _ :: behind => some (as.takeWhile (!isSeparator ·), behind)

def splitLast? (isSeparator : α → Bool) (as : List α) : Option (List α × List α) :=
  (splitFirst? isSeparator as.reverse).map fun (behind, before) => (before.reverse, behind.reverse)

/-- Splits at every separator, so that there is one piece more than there are separators. -/
def pieces (isSeparator : α → Bool) : List α → List (List α)
  | [] => [[]]
  | a :: as =>
    match isSeparator a, pieces isSeparator as with
    | true, ps => [] :: ps
    | false, [] => [[a]]
    | false, p :: ps => (a :: p) :: ps

theorem takeWhile_append_stop {p : α → Bool} {before behind : List α}
    (h : ∀ a ∈ before, p a = true) (hs : ∀ a, behind.head? = some a → p a = false) :
    (before ++ behind).takeWhile p = before := by
  rw [List.takeWhile_append_of_pos h]
  cases behind with
  | nil => simp
  | cons a as => simp [hs a rfl]

theorem dropWhile_append_stop {p : α → Bool} {before behind : List α}
    (h : ∀ a ∈ before, p a = true) (hs : ∀ a, behind.head? = some a → p a = false) :
    (before ++ behind).dropWhile p = behind := by
  rw [List.dropWhile_append_of_pos h]
  cases behind with
  | nil => simp
  | cons a as => simp [hs a rfl]

theorem not_isSeparator_of_not_mem [DecidableEq α] {as : List α} {a : α} (h : a ∉ as) :
    ∀ b ∈ as, decide (b = a) = false := by
  intro b hb
  refine decide_eq_false ?_
  rintro rfl
  exact h hb

theorem splitFirst?_append {isSeparator : α → Bool} {before behind : List α} {a : α}
    (h : ∀ b ∈ before, isSeparator b = false) (ha : isSeparator a = true) :
    splitFirst? isSeparator (before ++ a :: behind) = some (before, behind) := by
  have h' : ∀ b ∈ before, (!isSeparator b) = true := fun b hb => by simp [h b hb]
  simp [splitFirst?, List.dropWhile_append_of_pos h', List.takeWhile_append_of_pos h', ha]

theorem splitFirst?_eq_none {isSeparator : α → Bool} {as : List α}
    (h : ∀ a ∈ as, isSeparator a = false) : splitFirst? isSeparator as = none := by
  have h' : as.dropWhile (!isSeparator ·) = [] := by
    induction as with
    | nil => rfl
    | cons a as ih => simp_all
  simp [splitFirst?, h']

theorem eq_append_of_splitFirst? {isSeparator : α → Bool} {as before behind : List α}
    (h : splitFirst? isSeparator as = some (before, behind)) :
    ∃ a, isSeparator a = true ∧ as = before ++ a :: behind := by
  have hs : as.takeWhile (!isSeparator ·) ++ as.dropWhile (!isSeparator ·) = as :=
    List.takeWhile_append_dropWhile
  rw [splitFirst?] at h
  split at h
  · cases h
  · next a _ hd =>
    cases h
    refine ⟨a, ?_, by rw [← hd, hs]⟩
    have ha := List.head_dropWhile_not (!isSeparator ·) (l := as) (by simp [hd])
    simpa [hd] using ha

theorem splitLast?_append {isSeparator : α → Bool} {before behind : List α} {a : α}
    (h : ∀ b ∈ behind, isSeparator b = false) (ha : isSeparator a = true) :
    splitLast? isSeparator (before ++ a :: behind) = some (before, behind) := by
  have h' : ∀ b ∈ behind.reverse, isSeparator b = false := fun b hb => h b (List.mem_reverse.mp hb)
  have hr : (before ++ a :: behind).reverse = behind.reverse ++ a :: before.reverse := by simp
  rw [splitLast?, hr, splitFirst?_append h' ha]
  simp

theorem splitLast?_eq_none {isSeparator : α → Bool} {as : List α}
    (h : ∀ a ∈ as, isSeparator a = false) : splitLast? isSeparator as = none := by
  rw [splitLast?, splitFirst?_eq_none fun a ha => h a (List.mem_reverse.mp ha)]
  rfl

theorem eq_append_of_splitLast? {isSeparator : α → Bool} {as before behind : List α}
    (h : splitLast? isSeparator as = some (before, behind)) :
    ∃ a, isSeparator a = true ∧ as = before ++ a :: behind := by
  obtain ⟨⟨behind', before'⟩, hf, hp⟩ := Option.map_eq_some_iff.mp h
  cases hp
  obtain ⟨a, ha, hs⟩ := eq_append_of_splitFirst? hf
  exact ⟨a, ha, by rw [← List.reverse_reverse as, hs]; simp⟩

theorem not_isSeparator_of_splitFirst? {isSeparator : α → Bool} {as : List α}
    (h : splitFirst? isSeparator as = none) : ∀ a ∈ as, isSeparator a = false := by
  have hd : as.dropWhile (!isSeparator ·) = [] := by
    rw [splitFirst?] at h
    split at h
    · assumption
    · cases h
  intro a ha
  rw [← List.takeWhile_append_dropWhile (p := (!isSeparator ·)) (l := as), hd,
    List.append_nil] at ha
  simpa using List.all_eq_true.mp List.all_takeWhile a ha

theorem not_isSeparator_of_splitLast? {isSeparator : α → Bool} {as : List α}
    (h : splitLast? isSeparator as = none) : ∀ a ∈ as, isSeparator a = false := fun a ha =>
  not_isSeparator_of_splitFirst? (Option.map_eq_none_iff.mp h) a (List.mem_reverse.mpr ha)

end InvocationClient.Text
