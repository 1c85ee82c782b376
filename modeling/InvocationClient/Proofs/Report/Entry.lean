import InvocationClient.Proofs.Text.Blank
import InvocationClient.Report
import Mathlib.Algebra.BigOperators.Group.List.Basic
import Mathlib.Algebra.GroupWithZero.Nat

/-! # Entries of a trace

A frame is shown by its place and, if there is one to see, by the text of its line. The part that
failed is underlined below that, unless it is all that is shown and has no operator to be told apart.
-/

namespace InvocationClient.Frame

open Text (TrimsTo isBlank trimChars trimEnd width)

/-- So many characters of a line begin within so many bytes. -/
structure Begin (line : List Char) (bytes n : Nat) : Prop where
  le : n ≤ line.length
  short : ∀ m < n, ((line.take m).map Char.utf8Size).sum < bytes
  long : n < line.length → bytes ≤ ((line.take n).map Char.utf8Size).sum

/-- The part of its line that a frame is about, from one character to another. It goes on to the end
of the text if it ends on another line. -/
inductive Covers (f : Frame) (line : List Char) : Nat × Nat → Prop where
  | within {first last i j : Nat} : f.columns = some (first, last) → f.lastLine = some f.line →
      Begin line first i → Begin line last j → Covers f line (i, j)
  | beyond {first last i : Nat} {text blanks : List Char} : f.columns = some (first, last) →
      f.lastLine ≠ some f.line → Begin line first i → line = text ++ blanks →
      (∀ c ∈ text.getLast?, isBlank c = false) → (∀ c ∈ blanks, isBlank c = true) →
      Covers f line (i, text.length)

/-- What stands below the text of a line, whose blanks in front are not shown. -/
inductive Marks (f : Frame) (line text : List Char) : String → Prop where
  | unplaced : f.columns = none → Marks f line text ""
  | needless {i j : Nat} : Covers f line (i, j) → text.length ≤ j - i →
      (∀ left right, f.operator = some (left, right) → f.lastLine = some f.line → right ≤ left) →
      Marks f line text ""
  | plain {i j : Nat} : Covers f line (i, j) → j - i < text.length →
      (f.operator = none ∨ f.lastLine ≠ some f.line) →
      Marks f line text ("\n    " ++ String.ofList
        (List.replicate (width line i + 1 - (line.length - text.length)) ' ' ++
          List.replicate (width line j - width line i) '^'))
  | operator {i j left right : Nat} {part : List Char} : Covers f line (i, j) →
      f.lastLine = some f.line → f.operator = some (left, right) →
      j - i < text.length ∨ left < right → part = (line.take j).drop i →
      Marks f line text ("\n    " ++ String.ofList
        (List.replicate (width line i + 1 - (line.length - text.length)) ' ' ++
          (List.replicate (width part left) '~' ++
            List.replicate (width part right - width part left) '^' ++
            List.replicate (width line j - width line i - width part right) '~')))

/-- The entry of a frame. A name that ends in new lines loses them if no text is shown. -/
inductive Shows (f : Frame) : String → Prop where
  | bare {entry newlines : List Char} : (∀ c ∈ (f.source.getD "").toList, isBlank c = true) →
      ("  File \"" ++ f.file ++ "\", line " ++ f.line.repr ++ ", in " ++ f.function).toList =
        entry ++ newlines →
      entry.getLast? ≠ some '\n' → (∀ c ∈ newlines, c = '\n') → Shows f (String.ofList entry)
  | text {line marks : String} {text : List Char} : f.source = some line →
      TrimsTo line.toList text → text ≠ [] → Marks f line.toList text marks →
      Shows f ("  File \"" ++ f.file ++ "\", line " ++ f.line.repr ++ ", in " ++ f.function ++
        "\n    " ++ String.ofList text ++ marks)

variable {f : Frame} {line text : List Char} {bytes n n' : Nat} {part : Nat × Nat}
  {marks entry : String}

theorem begin_charactersIn (line : List Char) (bytes : Nat) :
    Begin line bytes (charactersIn line bytes) := by
  induction line generalizing bytes with
  | nil => exact ⟨Nat.le_refl 0, by simp [charactersIn], by simp⟩
  | cons c cs ih =>
    cases bytes with
    | zero => exact ⟨Nat.zero_le _, by simp [charactersIn], fun _ => Nat.zero_le _⟩
    | succ bytes =>
      obtain ⟨hle, hs, hl⟩ := ih (bytes + 1 - c.utf8Size)
      refine ⟨Nat.succ_le_succ hle, ?_, ?_⟩
      · rintro (_ | m) hm
        · simp
        · have hm := hs m (Nat.lt_of_succ_lt_succ hm)
          simp only [List.take_succ_cons, List.map_cons, List.sum_cons]
          omega
      · intro hn
        have hn := hl (Nat.lt_of_succ_lt_succ hn)
        simp only [charactersIn, List.take_succ_cons, List.map_cons, List.sum_cons]
        omega

theorem Begin.le_of (h : Begin line bytes n) (h' : Begin line bytes n') : n ≤ n' := by
  rcases Nat.lt_or_ge n' n with hn | hn
  · exact absurd (h'.long (Nat.lt_of_lt_of_le hn h.le)) (Nat.not_le.mpr (h.short n' hn))
  · exact hn

theorem Begin.eq (h : Begin line bytes n) : n = charactersIn line bytes :=
  have hb := begin_charactersIn line bytes
  Nat.le_antisymm (h.le_of hb) (hb.le_of h)

theorem covers_iff : Covers f line part ↔ f.extent? line = some part := by
  constructor
  · intro h
    cases h with
    | within hc hl hi hj => simp only [extent?, hc, Option.map_some, if_pos hl, hi.eq, hj.eq]
    | beyond hc hl hi ht hb hn =>
      have he := Text.trimEnd_append_stop hb hn
      rw [← ht] at he
      simp only [extent?, hc, Option.map_some, if_neg hl, he, hi.eq]
  · intro h
    unfold extent? at h
    cases hc : f.columns with
    | none => simp [hc] at h
    | some columns =>
      rw [hc, Option.map_some, Option.some.injEq] at h
      subst h
      split
      · next hl => exact .within hc hl (begin_charactersIn ..) (begin_charactersIn ..)
      · next hl =>
        refine .beyond hc hl (begin_charactersIn ..)
          (Text.trimEnd_append_takeWhile isBlank line).symm
          (Text.not_of_getLast?_trimEnd isBlank line) ?_
        intro c hc
        exact List.all_eq_true.mp List.all_takeWhile c (List.mem_reverse.mp hc)

theorem covers_or_unplaced (f : Frame) (line : List Char) :
    f.columns = none ∨ ∃ part, Covers f line part := by
  cases hc : f.columns with
  | none => exact .inl rfl
  | some columns => exact .inr ⟨_, covers_iff.mpr (congrArg (Option.map _) hc)⟩

theorem extent?_eq_none_iff : f.extent? line = none ↔ f.columns = none := Option.map_eq_none_iff

theorem operator?_eq_none_iff :
    f.operator? = none ↔ f.operator = none ∨ f.lastLine ≠ some f.line := by
  unfold operator?
  split
  · next h => simp [h]
  · next h => simp [h]

theorem operator?_eq_some_iff {o : Nat × Nat} :
    f.operator? = some o ↔ f.lastLine = some f.line ∧ f.operator = some o := by
  unfold operator?
  split
  · next h => simp [h]
  · next h => simp [h]

section Rows

/-- Whether the underlined part or the operator in it says more than the text. -/
def IsTelling (f : Frame) (text : List Char) (part : Nat × Nat) : Prop :=
  part.2 - part.1 < text.length ∨ ∃ o, f.operator? = some o ∧ o.1 < o.2

theorem row_of_unplaced (h : f.columns = none) : f.row line = "" := by
  simp only [row, underline?, extent?_eq_none_iff.mpr h]

theorem row_of_telling (h : Covers f line part) (ht : f.IsTelling (trimChars line) part) :
    f.row line = "\n    " ++ String.ofList
      (underlined line (line.length - (trimChars line).length) part f.operator?) := by
  have hc : (decide (part.2 - part.1 < (trimChars line).length) ||
      f.operator?.any fun o => o.1 < o.2) = true := by
    simpa [IsTelling, Option.any_eq_true] using ht
  simp only [row, underline?, covers_iff.mp h, if_pos hc]

theorem row_of_not_telling (h : Covers f line part) (ht : ¬ f.IsTelling (trimChars line) part) :
    f.row line = "" := by
  have hc : ¬ (decide (part.2 - part.1 < (trimChars line).length) ||
      f.operator?.any fun o => o.1 < o.2) = true := by
    simpa [IsTelling, Option.any_eq_true] using ht
  simp only [row, underline?, covers_iff.mp h, if_neg hc]

theorem underlined_eq (line : List Char) (blanks i j : Nat) :
    underlined line blanks (i, j) none =
      List.replicate (width line i + 1 - blanks) ' ' ++
        List.replicate (width line j - width line i) '^' := by
  rw [underlined, Nat.add_sub_add_right]

theorem underlined_operator_eq (line : List Char) (blanks i j left right : Nat) :
    underlined line blanks (i, j) (some (left, right)) =
      List.replicate (width line i + 1 - blanks) ' ' ++
        (List.replicate (width ((line.take j).drop i) left) '~' ++
          List.replicate
            (width ((line.take j).drop i) right - width ((line.take j).drop i) left) '^' ++
          List.replicate
            (width line j - width line i - width ((line.take j).drop i) right) '~') := by
  rw [underlined, Nat.add_sub_add_right]

theorem marks_row (f : Frame) (line : List Char) : Marks f line (trimChars line) (f.row line) := by
  rcases covers_or_unplaced f line with hc | ⟨⟨i, j⟩, hc⟩
  · rw [row_of_unplaced hc]
    exact .unplaced hc
  by_cases ht : f.IsTelling (trimChars line) (i, j)
  · rw [row_of_telling hc ht]
    cases ho : f.operator? with
    | none =>
      rw [underlined_eq]
      exact .plain hc (ht.resolve_right (by simp [ho])) (operator?_eq_none_iff.mp ho)
    | some o =>
      obtain ⟨hl, hf⟩ := operator?_eq_some_iff.mp ho
      rw [underlined_operator_eq]
      exact .operator hc hl hf (by simpa [IsTelling, ho] using ht) rfl
  · rw [row_of_not_telling hc ht]
    obtain ⟨hn, ho⟩ := not_or.mp ht
    refine .needless hc (Nat.not_lt.mp hn) fun left right hf hl => Nat.not_lt.mp fun hr => ho ?_
    exact ⟨(left, right), operator?_eq_some_iff.mpr ⟨hl, hf⟩, hr⟩

theorem Marks.eq_row (h : Marks f line (trimChars line) marks) : marks = f.row line := by
  cases h with
  | unplaced hc => rw [row_of_unplaced hc]
  | needless hc hn ho =>
    rw [row_of_not_telling hc]
    rintro (ht | ⟨⟨left, right⟩, hf, hr⟩)
    · exact Nat.not_lt.mpr hn ht
    · obtain ⟨hl, hf⟩ := operator?_eq_some_iff.mp hf
      exact Nat.not_lt.mpr (ho left right hf hl) hr
  | plain hc ht hn =>
    rw [row_of_telling hc (.inl ht), operator?_eq_none_iff.mpr hn, underlined_eq]
  | operator hc hl hf ht hp =>
    have ho := operator?_eq_some_iff.mpr ⟨hl, hf⟩
    rw [row_of_telling hc (ht.imp_right fun hr => ⟨_, ho, hr⟩), ho, underlined_operator_eq, hp]

theorem getLast?_append_ne {xs ys : List Char} {c : Char} (hx : xs.getLast? ≠ some c)
    (hy : ys.getLast? ≠ some c) : (xs ++ ys).getLast? ≠ some c := by
  rw [List.getLast?_append]
  cases h : ys.getLast? with
  | none => simpa using hx
  | some d => simpa [h] using hy

theorem not_mem_underlined (line : List Char) (part : Nat × Nat) (blanks : Nat)
    (operator : Option (Nat × Nat)) :
    '\n' ∉ underlined line blanks part operator := by
  cases operator with
  | none => simp [underlined]
  | some o => simp [underlined]

theorem getLast?_row_ne (f : Frame) (line : List Char) :
    (f.row line).toList.getLast? ≠ some '\n' := by
  rcases covers_or_unplaced f line with hc | ⟨part, hc⟩
  · rw [row_of_unplaced hc]
    simp
  by_cases ht : f.IsTelling (trimChars line) part
  · rw [row_of_telling hc ht, String.toList_append]
    have hs : "\n    ".toList.getLast? ≠ some '\n' := by simp
    have hn := not_mem_underlined line part (line.length - (trimChars line).length) f.operator?
    refine getLast?_append_ne hs fun hl => ?_
    rw [String.toList_ofList] at hl
    exact hn (List.mem_of_getLast? hl)
  · rw [row_of_not_telling hc ht]
    simp

end Rows

section Entries

theorem withoutFinalNewlines_append {core newlines : List Char} (hl : core.getLast? ≠ some '\n')
    (hn : ∀ c ∈ newlines, c = '\n') :
    Text.trimEnd (· = '\n') (core ++ newlines) = core := by
  refine Text.trimEnd_append_stop (fun c hc => ?_) fun c hc => decide_eq_true (hn c hc)
  rw [Option.mem_def] at hc
  exact decide_eq_false fun h => hl (h ▸ hc)

theorem withoutFinalNewlines_of_getLast? {s : String} (h : s.toList.getLast? ≠ some '\n') :
    withoutFinalNewlines s = s := by
  have ht := withoutFinalNewlines_append h (List.forall_mem_nil _)
  rw [List.append_nil] at ht
  rw [withoutFinalNewlines, ht, String.ofList_toList]

theorem trimChars_eq_nil_iff : trimChars line = [] ↔ ∀ c ∈ line, isBlank c = true := by
  rw [Text.trimChars_eq_iff]
  constructor
  · intro h
    obtain @⟨before, -, behind, hb, -, ha⟩ := h
    rw [List.append_nil]
    exact List.forall_mem_append.mpr ⟨hb, ha⟩
  · intro h
    have ht : TrimsTo (line ++ [] ++ []) [] := .padded h ⟨by simp, by simp⟩ (by simp)
    rwa [List.append_nil, List.append_nil] at ht

def placed (f : Frame) : String :=
  "  File \"" ++ f.file ++ "\", line " ++ f.line.repr ++ ", in " ++ f.function

theorem entry_of_blank (h : ∀ c ∈ (f.source.getD "").toList, isBlank c = true) :
    f.entry = withoutFinalNewlines f.placed := by
  simp only [entry, trimChars_eq_nil_iff.mpr h, List.isEmpty_nil, if_true]
  rfl

theorem entry_of_text {line : String} (hs : f.source = some line)
    (ht : trimChars line.toList ≠ []) :
    f.entry = f.placed ++ "\n    " ++ String.ofList (trimChars line.toList) ++
      f.row line.toList := by
  have hl : (f.placed ++ "\n    " ++ String.ofList (trimChars line.toList) ++
      f.row line.toList).toList.getLast? ≠ some '\n' := by
    rw [String.toList_append]
    refine getLast?_append_ne ?_ (getLast?_row_ne f _)
    rw [String.toList_append, String.toList_ofList]
    refine getLast?_append_ne ?_ fun he => ?_
    · rw [String.toList_append, List.getLast?_append]
      simp
    · have hb := (Text.isTrim_trimChars line.toList).last _ he
      revert hb
      decide
  rw [← withoutFinalNewlines_of_getLast? hl]
  simp only [entry, hs, Option.getD_some, List.isEmpty_iff, ht, if_false]
  rfl

theorem shows_entry (f : Frame) : Shows f f.entry := by
  by_cases hb : ∀ c ∈ (f.source.getD "").toList, isBlank c = true
  · rw [entry_of_blank hb, withoutFinalNewlines]
    refine .bare hb (Text.trimEnd_append_takeWhile (· = '\n') f.placed.toList).symm ?_ ?_
    · intro hl
      have hn := Text.not_of_getLast?_trimEnd (· = '\n') _ _ hl
      simp at hn
    · intro c hc
      have hn := List.all_eq_true.mp List.all_takeWhile c (List.mem_reverse.mp hc)
      exact of_decide_eq_true hn
  · cases hs : f.source with
    | none => simp [hs] at hb
    | some line =>
      have ht : trimChars line.toList ≠ [] := by
        rw [hs, Option.getD_some] at hb
        exact fun he => hb (trimChars_eq_nil_iff.mp he)
      rw [entry_of_text hs ht]
      exact .text hs (Text.trimsTo_trimChars _) ht (marks_row f _)

theorem Shows.eq_entry (h : Shows f entry) : entry = f.entry := by
  cases h with
  | bare hb hp hl hn =>
    rw [entry_of_blank hb, withoutFinalNewlines, placed, hp, withoutFinalNewlines_append hl hn]
  | text hs ht hn hm =>
    obtain rfl := Text.trimChars_of_trimsTo ht
    rw [entry_of_text hs hn, hm.eq_row]
    rfl

theorem Shows.getLast?_ne (h : Shows f entry) : entry.toList.getLast? ≠ some '\n' := by
  rw [h.eq_entry, Frame.entry, withoutFinalNewlines, String.toList_ofList]
  intro hl
  have hn := Text.not_of_getLast?_trimEnd (· = '\n') _ _ hl
  simp at hn

end Entries

end InvocationClient.Frame
