import InvocationClient.Proofs.Invocation.Extraction
import InvocationClient.Proofs.Text.LowerCase

/-! # Names of header fields

Names are compared in lower case. For the names of the metadata that comes to agreement up to the
case of ASCII letters, except that the kelvin sign is taken for a k, which only the name of the
function's field has.
-/

namespace InvocationClient.Metadata

open Text

variable {name : String} {f : Field}

theorem header_ascii (f : Field) : ∀ c ∈ f.header.toList, c.toNat < 128 := by
  have h : f.header.toList.all (·.toNat < 128) = true := by
    cases f <;> rfl
  intro c hc
  exact of_decide_eq_true (List.all_eq_true.mp h c hc)

theorem ofName?_eq_some_iff_agree :
    Field.ofName? name = some f ↔ AgreeUpToCase (readKelvins name) f.header := by
  rw [ofName?_eq_some_iff, lower_eq_lower_iff (header_ascii f)]

theorem eq_functionArn_of_k (h : 'k' ∈ f.header.toList.map Char.toLower) : f = .functionArn := by
  revert h
  cases f <;> decide +kernel

/-- Only the name of the function can be written with a kelvin sign. -/
theorem eq_functionArn_of_kelvinSign (hk : kelvinSign ∈ name.toList)
    (h : AgreeUpToCase (readKelvins name) f.header) : f = .functionArn :=
  eq_functionArn_of_k (k_mem_of_kelvinSign hk h)

/-- The name of the function's field up to case, but with a kelvin sign in it. -/
structure IsKelvinArn (name : String) : Prop where
  kelvin : kelvinSign ∈ name.toList
  arn : AgreeUpToCase (readKelvins name) Field.functionArn.header

instance (name : String) : Decidable (IsKelvinArn name) :=
  decidable_of_iff (kelvinSign ∈ name.toList ∧
    AgreeUpToCase (readKelvins name) Field.functionArn.header)
    ⟨fun h => ⟨h.1, h.2⟩, fun h => ⟨h.1, h.2⟩⟩

theorem ofName?_of_isKelvinArn (h : IsKelvinArn name) : Field.ofName? name = some .functionArn :=
  ofName?_eq_some_iff_agree.mpr h.arn

theorem kelvinSign_not_mem_of_agree (h : AgreeUpToCase name f.header) :
    kelvinSign ∉ name.toList :=
  kelvinSign_not_mem (header_ascii f) h

theorem ofName?_of_agree (h : AgreeUpToCase name f.header) : Field.ofName? name = some f := by
  rw [ofName?_eq_some_iff_agree, readKelvins_of_not_mem (kelvinSign_not_mem_of_agree h)]
  exact h

theorem agree_or_isKelvinArn (h : Field.ofName? name = some f) :
    AgreeUpToCase name f.header ∨ IsKelvinArn name := by
  have ha := ofName?_eq_some_iff_agree.mp h
  by_cases hk : kelvinSign ∈ name.toList
  · obtain rfl := eq_functionArn_of_kelvinSign hk ha
    exact .inr ⟨hk, ha⟩
  · rw [readKelvins_of_not_mem hk] at ha
    exact .inl ha

/-- Whether a header field is there makes no difference to what a response describes, whatever its
value is and whatever surrounds it. -/
def IsIgnored (name : String) : Prop :=
  ∀ (before behind : Fields) (value : String) (body : Option ByteArray),
    extract (before ++ (name, value) :: behind) body = extract (before ++ behind) body

theorem isIgnored_of_ofName? (h : Field.ofName? name = none) : IsIgnored name := by
  intro before behind value body
  apply extract_insert_unnamed
  intro f
  rw [← Bool.not_eq_true, isNamed_iff, h]
  exact nofun

section Filled

/-- Every field of the metadata, each with the value one. -/
def filled : Fields := Field.all.map fun f => (f.header, "1")

theorem lastValue?_filled (f : Field) : lastValue? f filled = some "1" := by
  cases f <;> simp [filled, Field.all, lastValue?_header]

theorem extract_filled : extract filled none = .ok (describe filled none "1" "1" 1) := by
  rw [extract_of_required (lastValue?_filled _) (lastValue?_filled _), lastValue?_filled]
  rfl

theorem not_isIgnored_of_ofName? (h : Field.ofName? name = some f) : ¬ IsIgnored name := by
  intro hi
  have he := hi filled [] "2" none
  rw [List.append_nil, extract_filled] at he
  have hv : lastValue? f (filled ++ [(name, "2")]) = some "2" := by
    simp [lastValue?, List.filter_append, h]
  by_cases hd : f = .deadline
  · have hp := deadline_of_extract he extract_filled
    rw [← hd, hv, lastValue?_filled] at hp
    exact absurd (Except.ok.inj hp) (by decide)
  · have hl := lastValue?_of_extract he extract_filled hd
    rw [hv, lastValue?_filled] at hl
    exact absurd (Option.some.inj hl) (by decide)

end Filled

/-- A header field is ignored exactly if its name agrees with that of no field up to the case of
ASCII letters and is not the name of the function's field written with a kelvin sign. -/
theorem isIgnored_iff (name : String) :
    IsIgnored name ↔ (∀ f : Field, ¬ AgreeUpToCase name f.header) ∧ ¬ IsKelvinArn name := by
  constructor
  · intro hi
    constructor
    · intro f ha
      exact not_isIgnored_of_ofName? (ofName?_of_agree ha) hi
    · intro hk
      exact not_isIgnored_of_ofName? (ofName?_of_isKelvinArn hk) hi
  · rintro ⟨ha, hk⟩
    apply isIgnored_of_ofName?
    cases hn : Field.ofName? name with
    | none => rfl
    | some f =>
      rcases agree_or_isKelvinArn hn with ha' | hk'
      · exact absurd ha' (ha f)
      · exact absurd hk' hk

def kelvinArn : String := "Lambda-Runtime-Invo\u212aed-Function-Arn"

/-- The name of the function's field is recognised with a character outside ASCII in it. -/
theorem kelvinArn_not_ignored :
    (∀ f : Field, ¬ AgreeUpToCase kelvinArn f.header) ∧
      extract [(Field.requestId.header, "7"), (kelvinArn, "f")] none ≠
        extract [(Field.requestId.header, "7")] none := by
  have hk : IsKelvinArn kelvinArn := by decide +kernel
  constructor
  · intro f ha
    exact kelvinSign_not_mem_of_agree ha hk.kelvin
  · have hm : extract [(Field.requestId.header, "7")] none =
        .error (missing .functionArn (.text "7")) := by
      apply extract_of_arn_missing <;> simp [lastValue?_header]
    rw [hm]
    intro he
    have hn := namedValue?_eq_none_iff.mp (extract_eq_arn_missing_iff.mp he).2 (kelvinArn, "f")
      (by simp)
    rw [isNamed_iff.mpr (ofName?_of_isKelvinArn hk)] at hn
    cases hn

end InvocationClient.Metadata
