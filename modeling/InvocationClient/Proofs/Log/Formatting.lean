import InvocationClient.Log.Message
import Mathlib.Data.List.Forall2

/-! # Formatting

Most templates have plain directives only: letters for any argument or for a number, right behind the
percent sign. With such a template a message has a text exactly if its arguments are what the template
asks for, in their order, and the numbers among them can be written. What the texts among them hold is
of no account.
-/

namespace InvocationClient

/-- What a plain directive asks for. -/
inductive Slot where
  | any
  | number
  deriving DecidableEq, Repr

/-- A number has to be of a length that can be written. -/
inductive Slot.Takes : Slot → Argument → Prop where
  | text {s : String} : Takes any (.text s)
  | shown {n : Int} : Number.isWritable n = true → Takes any (.number n)
  | number {n : Int} : Number.isWritable n = true → Takes number (.number n)

namespace Message

open Slot (Takes)

/-- What a template asks for, if its directives are plain. -/
def slots? : List Char → Option (List Slot)
  | [] => some []
  | ['%'] => none
  | '%' :: c :: cs =>
    if c = '%' then slots? cs
    else if c = 's' then (slots? cs).map (.any :: ·)
    else if c = 'd' then (slots? cs).map (.number :: ·)
    else none
  | _ :: cs => slots? cs

/-- A template that can be filled with the arguments. -/
def Fills (cs : List Char) (as : List Argument) : Prop := ∃ text, fill none cs as = .ok text

variable {c : Char} {cs : List Char} {as : List Argument} {a : Argument} {slots : List Slot}
  {m : Message}

section Templates

theorem fills_nil_iff : Fills [] as ↔ as = [] := by
  cases as with
  | nil => exact iff_of_true ⟨[], rfl⟩ rfl
  | cons a as =>
    refine iff_of_false ?_ (List.cons_ne_nil a as)
    rintro ⟨text, ht⟩
    cases ht

theorem exists_map_eq_ok_iff {f : List Char → List Char} {x : Except Unformatted (List Char)} :
    (∃ text, x.map f = .ok text) ↔ ∃ text, x = .ok text := by
  cases x with
  | error e =>
    refine iff_of_false ?_ ?_ <;>
      · rintro ⟨text, ht⟩
        cases ht
  | ok text => exact iff_of_true ⟨f text, rfl⟩ ⟨text, rfl⟩

theorem fills_cons_iff (h : c ≠ '%') : Fills (c :: cs) as ↔ Fills cs as := by
  rw [Fills, fill, if_neg h]
  exact exists_map_eq_ok_iff

theorem fills_percent_iff : Fills ('%' :: '%' :: cs) as ↔ Fills cs as := by
  rw [Fills, fill, if_pos rfl, fill]
  exact exists_map_eq_ok_iff

theorem fills_letter_iff
    (h : ∀ as, ({} : Directive).read c as .first = ({} : Directive).readLetter c as) :
    Fills ('%' :: c :: cs) (a :: as) ↔
      (∃ text, ({} : Directive).render c a = .ok text) ∧ Fills cs as := by
  rw [Fills, fill, if_pos rfl, fill, h, Directive.readLetter]
  cases ({} : Directive).render c a with
  | error e => simp
  | ok text =>
    rw [exists_map_eq_ok_iff]
    simp [Fills]

theorem not_fills_letter_nil
    (h : ∀ as, ({} : Directive).read c as .first = ({} : Directive).readLetter c as) :
    ¬ Fills ('%' :: c :: cs) [] := by
  rw [Fills, fill, if_pos rfl, fill, h, Directive.readLetter]
  rintro ⟨text, ht⟩
  cases ht

theorem orFailed_eq_ok_iff {text? : Option (List Char)} :
    (∃ text, Directive.orFailed text? = .ok text) ↔ text?.isSome = true := by
  cases text? <;> simp [Directive.orFailed]

theorem numeral?_isSome {n : Int} :
    (Argument.numeral? n).isSome = true ↔ Number.isWritable n = true := by
  unfold Argument.numeral?
  split <;> simp_all

theorem render_any_iff : (∃ text, ({} : Directive).render 's' a = .ok text) ↔ Takes .any a := by
  rw [Directive.render, orFailed_eq_ok_iff, Option.isSome_map]
  cases a with
  | text s => exact iff_of_true rfl .text
  | number n =>
    refine numeral?_isSome.trans ⟨.shown, fun h => ?_⟩
    cases h with
    | shown h => exact h

theorem render_number_iff : (∃ text, ({} : Directive).render 'd' a = .ok text) ↔ Takes .number a := by
  cases a with
  | text s =>
    refine iff_of_false ?_ ?_
    · rintro ⟨text, ht⟩
      cases ht
    · rintro ⟨⟩
  | number n =>
    have hr : ({} : Directive).render 'd' (.number n) =
        Directive.orFailed (({} : Directive).showNumber? 'd' n) := rfl
    rw [hr, orFailed_eq_ok_iff, Directive.showNumber?]
    constructor
    · intro h
      split at h
      · next hn => exact .number hn
      · cases h
    · intro h
      cases h with
      | number hn =>
        rw [if_pos hn]
        rfl

end Templates

/-- A template with plain directives is filled by what it asks for and by nothing else. -/
theorem fills_iff (h : slots? cs = some slots) : Fills cs as ↔ List.Forall₂ Takes slots as := by
  fun_induction slots? cs generalizing slots as with
  | case1 =>
    obtain rfl := Option.some.inj h
    rw [fills_nil_iff, List.forall₂_nil_left_iff]
  | case2 => cases h
  | case3 cs ih => rw [fills_percent_iff, ih h]
  | case4 cs _ ih =>
    obtain ⟨slots, hs, rfl⟩ := Option.map_eq_some_iff.mp h
    cases as with
    | nil => exact iff_of_false (not_fills_letter_nil fun _ => rfl) (by rintro ⟨⟩)
    | cons a as =>
      rw [fills_letter_iff fun _ => rfl, render_any_iff, ih hs, List.forall₂_cons]
  | case5 cs _ _ ih =>
    obtain ⟨slots, hs, rfl⟩ := Option.map_eq_some_iff.mp h
    cases as with
    | nil => exact iff_of_false (not_fills_letter_nil fun _ => rfl) (by rintro ⟨⟩)
    | cons a as =>
      rw [fills_letter_iff fun _ => rfl, render_number_iff, ih hs, List.forall₂_cons]
  | case6 => cases h
  | case7 c cs hc hc' ih =>
    have hp : c ≠ '%' := by
      rintro rfl
      cases cs with
      | nil => exact hc rfl rfl
      | cons d cs => exact hc' d cs rfl rfl
    rw [fills_cons_iff hp, ih h]

/-- A message that can be formatted. -/
def HasText (m : Message) : Prop := m.format?.isSome = true

theorem hasText_iff : m.HasText ↔ Fills m.template.toList m.arguments := by
  rw [HasText, format?, format, Fills]
  cases fill none m.template.toList m.arguments <;> simp [Except.map, Except.toOption]

theorem hasText_of_slots {template : String} (slots : List Slot)
    (hs : slots? template.toList = some slots) (ha : List.Forall₂ Takes slots as) :
    HasText ⟨template, as⟩ :=
  hasText_iff.mpr ((fills_iff hs).mpr ha)

theorem HasText.text (h : m.HasText) : ∃ text, m.format? = some text :=
  Option.isSome_iff_exists.mp h

/-- A percent sign in an argument is left as it is. -/
example : (⟨"%s failed: %d%%", [.text "%d", .number (-3)]⟩ : Message).format? =
    some "%d failed: -3%" := by decide +kernel

end Message

end InvocationClient
