import InvocationClient.Text.Class
import InvocationClient.Text.Split

/-! # Trimming

What is left of a text once it is trimmed: the one stretch of it that neither begins nor ends with a
blank and has only blanks around it.
-/

namespace InvocationClient.Text

variable {cs core before behind : List Char}

structure IsTrim (cs : List Char) : Prop where
  head : ∀ c ∈ cs.head?, isBlank c = false
  last : ∀ c ∈ cs.getLast?, isBlank c = false

/-- A text comes to what is left of it without some blanks at its ends. -/
inductive TrimsTo : List Char → List Char → Prop where
  | padded {before core behind : List Char} : (∀ c ∈ before, isBlank c = true) → IsTrim core →
      (∀ c ∈ behind, isBlank c = true) → TrimsTo (before ++ core ++ behind) core

theorem TrimsTo.isTrim (h : TrimsTo cs core) : IsTrim core := by
  cases h
  assumption

theorem TrimsTo.pad (hb : ∀ c ∈ before, isBlank c = true) (h : TrimsTo cs core)
    (ha : ∀ c ∈ behind, isBlank c = true) : TrimsTo (before ++ cs ++ behind) core := by
  cases h with
  | @padded before' _ behind' hb' hc ha' =>
    have ht : TrimsTo (before ++ before' ++ core ++ (behind' ++ behind)) core :=
      .padded (List.forall_mem_append.mpr ⟨hb, hb'⟩) hc (List.forall_mem_append.mpr ⟨ha', ha⟩)
    simpa only [List.append_assoc] using ht

theorem IsTrim.trimsTo (h : IsTrim cs) : TrimsTo cs cs := by
  have ht : TrimsTo ([] ++ cs ++ []) cs := .padded (by simp) h (by simp)
  rwa [List.nil_append, List.append_nil] at ht

theorem not_isBlank_of_bounds {c : Char} (h : 33 ≤ c.toNat ∧ c.toNat ≤ 126) :
    isBlank c = false := by
  simp only [isBlank, Bool.or_eq_false_iff, Bool.and_eq_false_iff, decide_eq_false_iff_not]
  omega

theorem not_isBlank_of_isDigit {c : Char} (h : c.isDigit = true) : isBlank c = false := by
  have hd : 48 ≤ c.toNat ∧ c.toNat ≤ 57 := Char.isDigit_iff_toNat.mp h
  exact not_isBlank_of_bounds (by omega)

section Ends

variable {p : Char → Bool}

theorem not_of_head?_dropWhile (p : Char → Bool) (cs : List Char) :
    ∀ c ∈ (cs.dropWhile p).head?, p c = false := by
  intro c hc
  have hd := List.head?_dropWhile_not p cs
  rwa [Option.mem_def.mp hc] at hd

theorem not_of_getLast?_trimEnd (p : Char → Bool) (cs : List Char) :
    ∀ c ∈ (trimEnd p cs).getLast?, p c = false := by
  rw [trimEnd, List.getLast?_reverse]
  exact not_of_head?_dropWhile p cs.reverse

theorem trimEnd_append_takeWhile (p : Char → Bool) (cs : List Char) :
    trimEnd p cs ++ (cs.reverse.takeWhile p).reverse = cs := by
  rw [trimEnd, ← List.reverse_append, List.takeWhile_append_dropWhile, List.reverse_reverse]

theorem head?_trimEnd (h : ∀ c ∈ cs.head?, p c = false) :
    ∀ c ∈ (trimEnd p cs).head?, p c = false := by
  intro c hc
  apply h
  rw [← trimEnd_append_takeWhile p cs, List.head?_append, Option.mem_def.mp hc]
  rfl

theorem trimEnd_append_stop (h : ∀ c ∈ core.getLast?, p c = false)
    (hb : ∀ c ∈ behind, p c = true) : trimEnd p (core ++ behind) = core := by
  rw [trimEnd, List.reverse_append, dropWhile_append_stop, List.reverse_reverse]
  · intro c hc
    exact hb c (List.mem_reverse.mp hc)
  · intro c hc
    rw [List.head?_reverse] at hc
    exact h c hc

theorem trimEnd_of_getLast? (h : ∀ c ∈ cs.getLast?, p c = false) : trimEnd p cs = cs := by
  have ht : trimEnd p (cs ++ []) = cs := trimEnd_append_stop h (by simp)
  rwa [List.append_nil] at ht

end Ends

theorem isTrim_trimChars (cs : List Char) : IsTrim (trimChars cs) where
  head := head?_trimEnd (not_of_head?_dropWhile isBlank cs)
  last := not_of_getLast?_trimEnd isBlank _

theorem trimsTo_trimChars (cs : List Char) : TrimsTo cs (trimChars cs) := by
  have hc : cs.takeWhile isBlank ++ trimChars cs ++
      ((cs.dropWhile isBlank).reverse.takeWhile isBlank).reverse = cs := by
    rw [List.append_assoc, trimChars, trimEnd_append_takeWhile, List.takeWhile_append_dropWhile]
  have hb : ∀ cs : List Char, ∀ c ∈ cs.takeWhile isBlank, isBlank c = true := fun _ =>
    List.all_eq_true.mp List.all_takeWhile
  have ht := TrimsTo.padded (hb cs) (isTrim_trimChars cs) fun c hm =>
    hb (cs.dropWhile isBlank).reverse c (List.mem_reverse.mp hm)
  rwa [hc] at ht

theorem trimChars_of_trimsTo (h : TrimsTo cs core) : trimChars cs = core := by
  cases h with
  | @padded before _ behind hb hc ha =>
    rw [trimChars]
    cases core with
    | nil =>
      have hn : ∀ c ∈ before ++ behind, isBlank c = true := fun c hm =>
        (List.mem_append.mp hm).elim (hb c) (ha c)
      have hd : (before ++ behind ++ []).dropWhile isBlank = [] := dropWhile_append_stop hn (by simp)
      rw [List.append_nil] at hd ⊢
      rw [hd]
      rfl
    | cons c core =>
      rw [List.append_assoc, dropWhile_append_stop hb, trimEnd_append_stop hc.last ha]
      exact hc.head

/-- What keeps the blanks apart from the other characters can be done before trimming or after. -/
theorem trimChars_map {f : Char → Char} (h : ∀ c, isBlank (f c) = isBlank c) (cs : List Char) :
    trimChars (cs.map f) = (trimChars cs).map f := by
  have hb : isBlank ∘ f = isBlank := funext h
  rw [trimChars, trimChars, trimEnd, trimEnd, List.dropWhile_map, hb, ← List.map_reverse,
    List.dropWhile_map, hb, ← List.map_reverse]

theorem trimChars_eq_iff : trimChars cs = core ↔ TrimsTo cs core := by
  constructor
  · rintro rfl
    exact trimsTo_trimChars cs
  · exact trimChars_of_trimsTo

end InvocationClient.Text
