import InvocationClient.Text.Split
import Mathlib.Data.List.TakeDrop

/-! # Dot segments

Section 5.2.4 of RFC 3986: a path is read segment by segment, the segments `.` are left out and each
segment `..` takes the one before it away. A path without such segments stays as it is, and any
other path gets shorter.
-/

namespace InvocationClient.Url

/-- Reads `input`; `output` holds the segments that are left so far with the slashes in front of
them, the last one first. -/
def removeDots (output : List (List Char)) : List Char → List (List Char)
  | [] => output
  | '.' :: '.' :: '/' :: rest => removeDots output rest
  | '.' :: '/' :: rest => removeDots output rest
  | '/' :: '.' :: '/' :: rest => removeDots output ('/' :: rest)
  | ['/', '.'] => removeDots output ['/']
  | '/' :: '.' :: '.' :: '/' :: rest => removeDots output.tail ('/' :: rest)
  | ['/', '.', '.'] => removeDots output.tail ['/']
  | ['.'] => output
  | ['.', '.'] => output
  | c :: rest =>
    removeDots ((c :: rest.takeWhile (· ≠ '/')) :: output) (rest.dropWhile (· ≠ '/'))
termination_by input => input.length
decreasing_by
  all_goals simp only [List.length_cons]
  all_goals try omega
  exact Nat.lt_succ_of_le (List.dropWhile_suffix _).length_le

def removeDotSegments (path : List Char) : List Char := (removeDots [] path).reverse.flatten

example : removeDotSegments "/a/b/c/./../../g".toList = "/a/g".toList ∧
    removeDotSegments "mid/content=5/../6".toList = "mid/6".toList := by
  decide +kernel

variable {output segments : List (List Char)} {segment : List Char}

def ofSegments (segments : List (List Char)) : List Char := segments.flatMap ('/' :: ·)

def IsDotSegment (segment : List Char) : Prop := segment = ['.'] ∨ segment = ['.', '.']

instance : DecidablePred IsDotSegment := fun segment =>
  inferInstanceAs (Decidable (segment = ['.'] ∨ segment = ['.', '.']))

theorem ofSegments_cons (segment : List Char) (segments : List (List Char)) :
    ofSegments (segment :: segments) = '/' :: (segment ++ ofSegments segments) := rfl

theorem ofSegments_cases (segments : List (List Char)) :
    ofSegments segments = [] ∨ ∃ rest, ofSegments segments = '/' :: rest := by
  cases segments with
  | nil => exact .inl rfl
  | cons segment segments => exact .inr ⟨_, ofSegments_cons segment segments⟩

theorem ne_slash_of_mem (h : '/' ∉ segment) : ∀ c ∈ segment, decide (c ≠ '/') = true := by
  intro c hc
  refine decide_eq_true ?_
  rintro rfl
  exact h hc

theorem eq_slash_of_head? (segments : List (List Char)) :
    ∀ c, (ofSegments segments).head? = some c → decide (c ≠ '/') = false := by
  intro c hc
  cases segments with
  | nil => cases hc
  | cons segment segments =>
    cases hc
    decide

theorem takeWhile_segment (h : '/' ∉ segment) (segments : List (List Char)) :
    (segment ++ ofSegments segments).takeWhile (· ≠ '/') = segment :=
  Text.takeWhile_append_stop (ne_slash_of_mem h) (eq_slash_of_head? segments)

theorem dropWhile_segment (h : '/' ∉ segment) (segments : List (List Char)) :
    (segment ++ ofSegments segments).dropWhile (· ≠ '/') = ofSegments segments :=
  Text.dropWhile_append_stop (ne_slash_of_mem h) (eq_slash_of_head? segments)

theorem ofSegments_inj {segments' : List (List Char)} (h : ∀ segment ∈ segments, '/' ∉ segment)
    (h' : ∀ segment ∈ segments', '/' ∉ segment) :
    ofSegments segments = ofSegments segments' ↔ segments = segments' := by
  constructor
  · intro he
    induction segments generalizing segments' with
    | nil =>
      cases segments' with
      | nil => rfl
      | cons segment' segments' => cases he
    | cons segment segments ih =>
      cases segments' with
      | nil => cases he
      | cons segment' segments' =>
        rw [List.forall_mem_cons] at h h'
        have hc : segment ++ ofSegments segments = segment' ++ ofSegments segments' :=
          (List.cons.inj he).2
        have hs := congrArg (List.takeWhile (· ≠ '/')) hc
        have hr := congrArg (List.dropWhile (· ≠ '/')) hc
        rw [takeWhile_segment h.1, takeWhile_segment h'.1] at hs
        rw [dropWhile_segment h.1, dropWhile_segment h'.1] at hr
        rw [hs, ih h.2 h'.2 hr]
  · rintro rfl
    rfl

theorem count_ofSegments (h : ∀ segment ∈ segments, '/' ∉ segment) :
    (ofSegments segments).count '/' = segments.length := by
  induction segments with
  | nil => rfl
  | cons segment segments ih =>
    rw [List.forall_mem_cons] at h
    rw [ofSegments_cons, List.count_cons_self, List.count_append, List.count_eq_zero.mpr h.1,
      ih h.2, Nat.zero_add, List.length_cons]

theorem removeDots_segment (h : '/' ∉ segment) (hd : ¬ IsDotSegment segment) :
    removeDots output ('/' :: (segment ++ ofSegments segments)) =
      removeDots (('/' :: segment) :: output) (ofSegments segments) := by
  have ht := takeWhile_segment h segments
  -- In the other cases of the recursion the segment would be a dot segment.
  have hne : ∀ input, IsDotSegment (input.takeWhile (· ≠ '/')) →
      segment ++ ofSegments segments = input → False := by
    rintro input hi rfl
    rw [ht] at hi
    exact hd hi
  rw [removeDots, ht, dropWhile_segment h]
  · simp
  · simp
  · exact fun rest _ => hne ('.' :: '/' :: rest) (.inl rfl)
  · exact fun _ => hne ['.'] (.inl rfl)
  · exact fun rest _ => hne ('.' :: '.' :: '/' :: rest) (.inr rfl)
  · exact fun _ => hne ['.', '.'] (.inr rfl)
  · simp
  · simp

theorem length_flatten_tail_le (output : List (List Char)) :
    output.tail.flatten.length ≤ output.flatten.length := by
  cases output with
  | nil => exact Nat.le_refl _
  | cons segment output => simp

theorem length_removeDots_le (output : List (List Char)) (input : List Char) :
    (removeDots output input).flatten.length ≤ output.flatten.length + input.length := by
  fun_induction removeDots output input with
  | case1 output => exact Nat.le_add_right ..
  | case2 output rest ih | case3 output rest ih | case4 output rest ih | case5 output ih =>
    simp only [List.length_cons] at ih ⊢
    omega
  | case6 output rest ih | case7 output ih =>
    have ht := length_flatten_tail_le output
    simp only [List.length_cons] at ih ⊢
    omega
  | case8 output | case9 output => exact Nat.le_add_right ..
  | case10 output c rest _ _ _ _ _ _ _ _ ih =>
    have hl : (rest.takeWhile (· ≠ '/')).length + (rest.dropWhile (· ≠ '/')).length =
        rest.length := by
      rw [← List.length_append, List.takeWhile_append_dropWhile]
    simp only [List.flatten_cons, List.length_append, List.length_cons] at ih ⊢
    omega

/-- The segment `.` leaves the slash that follows it, or its own. -/
theorem removeDots_dot (output segments : List (List Char)) :
    removeDots output ('/' :: '.' :: ofSegments segments) =
      removeDots output ('/' :: (ofSegments segments).tail) := by
  rcases ofSegments_cases segments with he | ⟨rest, he⟩
  · rw [he, removeDots]
    rfl
  · rw [he, removeDots]
    rfl

/-- The segment `..` leaves the slash too, and takes the last segment of the output away. -/
theorem removeDots_dots (output segments : List (List Char)) :
    removeDots output ('/' :: '.' :: '.' :: ofSegments segments) =
      removeDots output.tail ('/' :: (ofSegments segments).tail) := by
  rcases ofSegments_cases segments with he | ⟨rest, he⟩
  · rw [he, removeDots]
    rfl
  · rw [he, removeDots]
    rfl

theorem length_removeDots_dot_lt (hd : IsDotSegment segment) :
    (removeDots output ('/' :: (segment ++ ofSegments segments))).flatten.length <
      output.flatten.length + ('/' :: (segment ++ ofSegments segments)).length := by
  have ht : (ofSegments segments).tail.length ≤ (ofSegments segments).length := by
    rw [List.length_tail]
    exact Nat.sub_le ..
  rcases hd with rfl | rfl
  · have hl := length_removeDots_le output ('/' :: (ofSegments segments).tail)
    rw [List.singleton_append, removeDots_dot]
    simp only [List.length_cons] at hl ⊢
    omega
  · have hl := length_removeDots_le output.tail ('/' :: (ofSegments segments).tail)
    have ho := length_flatten_tail_le output
    rw [List.cons_append, List.singleton_append, removeDots_dots]
    simp only [List.length_cons] at hl ⊢
    omega

theorem removeDots_ofSegments (hs : ∀ segment ∈ segments, '/' ∉ segment)
    (hd : ∀ segment ∈ segments, ¬ IsDotSegment segment) :
    removeDots output (ofSegments segments) = (segments.map ('/' :: ·)).reverse ++ output := by
  induction segments generalizing output with
  | nil => rw [ofSegments, List.flatMap_nil, removeDots]; rfl
  | cons segment segments ih =>
    rw [List.forall_mem_cons] at hs hd
    rw [ofSegments_cons, removeDots_segment hs.1 hd.1, ih hs.2 hd.2]
    simp

theorem length_removeDots_lt (output : List (List Char)) (hs : ∀ segment ∈ segments, '/' ∉ segment)
    (hd : ∃ segment ∈ segments, IsDotSegment segment) :
    (removeDots output (ofSegments segments)).flatten.length <
      output.flatten.length + (ofSegments segments).length := by
  induction segments generalizing output with
  | nil => simp at hd
  | cons segment segments ih =>
    rw [List.forall_mem_cons] at hs
    rw [ofSegments_cons]
    by_cases h : IsDotSegment segment
    · exact length_removeDots_dot_lt h
    · have hl : ∃ segment ∈ segments, IsDotSegment segment := by
        obtain ⟨dots, hm, hdots⟩ := hd
        rcases List.mem_cons.mp hm with rfl | hm
        · exact absurd hdots h
        · exact ⟨dots, hm, hdots⟩
      have ih := ih (('/' :: segment) :: output) hs.2 hl
      rw [removeDots_segment hs.1 h]
      simp only [List.flatten_cons, List.length_append, List.length_cons] at ih ⊢
      omega

/-- A path is kept exactly if none of its segments is a dot segment. -/
theorem removeDotSegments_eq_self_iff (hs : ∀ segment ∈ segments, '/' ∉ segment) :
    removeDotSegments (ofSegments segments) = ofSegments segments ↔
      ∀ segment ∈ segments, ¬ IsDotSegment segment := by
  constructor
  · intro h segment hm hd
    have hl := length_removeDots_lt [] hs ⟨segment, hm, hd⟩
    have hr : (removeDotSegments (ofSegments segments)).length =
        (removeDots [] (ofSegments segments)).flatten.length := by
      simp [removeDotSegments, List.length_flatten, List.map_reverse, List.sum_reverse]
    rw [h] at hr
    simp only [List.flatten_nil, List.length_nil] at hl
    omega
  · intro hd
    rw [removeDotSegments, removeDots_ofSegments hs hd, List.append_nil, List.reverse_reverse]
    rfl

end InvocationClient.Url
