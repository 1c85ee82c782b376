import InvocationClient.Log.Level
import InvocationClient.Proofs.Text.Blank
import InvocationClient.Proofs.Text.LowerCase

/-! # Settings that name a level

A setting names a level if it is one of the level's names, blanks at its ends and the case of ASCII
letters apart. The level it names is the one that is read; a setting that names none leaves the
default.
-/

namespace InvocationClient.Level

open Text

variable {setting setting' name : String} {l k : Level}

/-- The names a level goes by. Warnings have a longer one too. -/
def spellings : Level → List String
  | warn => ["warn", "warning"]
  | l => [l.name]

/-- What is left of the setting between its blanks differs from a name of the level only in the case
of ASCII letters. -/
inductive Names : String → Level → Prop where
  | spelled {setting : String} {core : List Char} {name : String} {l : Level} :
      TrimsTo setting.toList core → name ∈ l.spellings → AgreeUpToCase (String.ofList core) name →
      Names setting l

theorem names_iff : Names setting l ↔ ∃ name ∈ l.spellings, AgreeUpToCase (trim setting) name := by
  constructor
  · rintro ⟨ht, hn, ha⟩
    rw [← trimChars_of_trimsTo ht] at ha
    exact ⟨_, hn, ha⟩
  · rintro ⟨name, hn, ha⟩
    exact .spelled (trimsTo_trimChars _) hn ha

section Spellings

theorem ascii_of_mem_spellings (h : name ∈ l.spellings) : ∀ c ∈ name.toList, c.toNat < 128 := by
  have ha : l.spellings.all (fun name => name.toList.all (·.toNat < 128)) = true := by
    cases l <;> decide
  intro c hc
  exact of_decide_eq_true (List.all_eq_true.mp (List.all_eq_true.mp ha name h) c hc)

theorem lower_of_mem_spellings (h : name ∈ l.spellings) : lower name = name := by
  have hl : l.spellings.all (fun name => lower name = name) = true := by
    cases l <;> decide +kernel
  exact of_decide_eq_true (List.all_eq_true.mp hl name h)

/-- No level has a k in its name, for which a kelvin sign could stand. -/
theorem k_not_mem_of_mem_spellings (h : name ∈ l.spellings) :
    'k' ∉ name.toList.map Char.toLower := by
  have hk : l.spellings.all (fun name => 'k' ∉ name.toList.map Char.toLower) = true := by
    cases l <;> decide
  exact of_decide_eq_true (List.all_eq_true.mp hk name h)

theorem ofName?_eq_some_iff {s : String} : ofName? s = some l ↔ s = l.name := by
  constructor
  · intro h
    have hn := List.find?_some (p := fun k : Level => decide (k.name = s)) h
    exact (of_decide_eq_true hn).symm
  · rintro rfl
    exact ofName?_name l

theorem canonicalName_eq_name_iff {s : String} : canonicalName s = l.name ↔ s ∈ l.spellings := by
  unfold canonicalName
  split
  · next h =>
    subst h
    cases l <;> decide
  · next h => cases l <;> simp [spellings, name, h]

end Spellings

theorem ofName?_eq_some_iff_names :
    ofName? (canonicalName (lower (trim setting))) = some l ↔ Names setting l := by
  rw [ofName?_eq_some_iff, canonicalName_eq_name_iff, names_iff]
  constructor
  · intro hm
    refine ⟨_, hm, ?_⟩
    have hl := lower_of_mem_spellings hm
    exact (lower_eq_lower_iff_agree (ascii_of_mem_spellings hm)
      (k_not_mem_of_mem_spellings hm)).mp hl.symm
  · rintro ⟨name, hm, ha⟩
    rw [(lower_eq_lower_iff_agree (ascii_of_mem_spellings hm)
      (k_not_mem_of_mem_spellings hm)).mpr ha, lower_of_mem_spellings hm]
    exact hm

instance (setting : String) (l : Level) : Decidable (Names setting l) :=
  decidable_of_iff _ ofName?_eq_some_iff_names

theorem Names.unique (h : Names setting l) (h' : Names setting k) : l = k := by
  rw [← ofName?_eq_some_iff_names] at h h'
  exact Option.some.inj (h.symm.trans h')

theorem ofSetting_of_names (h : Names setting l) (default : Level) :
    ofSetting (some setting) default = l := by
  rw [ofSetting, Option.getD_some, ofName?_eq_some_iff_names.mpr h, Option.getD_some]

theorem ofSetting_of_nameless (h : ∀ l, ¬ Names setting l) (default : Level) :
    ofSetting (some setting) default = default := by
  have hn : ofName? (canonicalName (lower (trim setting))) = none :=
    Option.eq_none_iff_forall_ne_some.mpr fun l => mt ofName?_eq_some_iff_names.mp (h l)
  rw [ofSetting, Option.getD_some, hn, Option.getD_none]

theorem ofSetting_congr (h : ∀ l, Names setting l ↔ Names setting' l) (default : Level) :
    ofSetting (some setting) default = ofSetting (some setting') default := by
  by_cases hn : ∃ l, Names setting l
  · obtain ⟨l, hl⟩ := hn
    rw [ofSetting_of_names hl, ofSetting_of_names ((h l).mp hl)]
  · rw [not_exists] at hn
    rw [ofSetting_of_nameless hn, ofSetting_of_nameless fun l => mt (h l).mpr (hn l)]

section Variants

theorem names_padded_iff {before behind : String} (hb : ∀ c ∈ before.toList, isBlank c = true)
    (ha : ∀ c ∈ behind.toList, isBlank c = true) :
    Names (before ++ setting ++ behind) l ↔ Names setting l := by
  have ht : trim (before ++ setting ++ behind) = trim setting := by
    rw [trim, trim, String.toList_append, String.toList_append]
    exact congrArg String.ofList (trimChars_of_trimsTo ((trimsTo_trimChars _).pad hb ha))
  rw [names_iff, names_iff, ht]

theorem isBlank_toLower (c : Char) : isBlank c.toLower = isBlank c := by
  by_cases hc : c.toNat < 128
  · exact of_ascii (P := fun c => isBlank c.toLower = isBlank c) (by decide +kernel) hc
  · rw [toLower_of_outside hc]

theorem names_iff_of_agree (h : AgreeUpToCase setting setting') :
    Names setting l ↔ Names setting' l := by
  have ht : AgreeUpToCase (trim setting) (trim setting') := by
    rw [AgreeUpToCase, toList_trim, toList_trim, ← trimChars_map isBlank_toLower,
      ← trimChars_map isBlank_toLower, h]
  rw [names_iff, names_iff]
  exact exists_congr fun name => and_congr_right fun _ => by rw [AgreeUpToCase, ht, AgreeUpToCase]

end Variants

theorem ofSetting_eq_iff (setting : String) (default l : Level) :
    ofSetting (some setting) default = l ↔
      Names setting l ∨ (∀ k, ¬ Names setting k) ∧ default = l := by
  constructor
  · rintro rfl
    by_cases hn : ∃ l, Names setting l
    · obtain ⟨l, hl⟩ := hn
      rw [ofSetting_of_names hl]
      exact .inl hl
    · rw [not_exists] at hn
      exact .inr ⟨hn, (ofSetting_of_nameless hn default).symm⟩
  · rintro (h | ⟨h, rfl⟩)
    · exact ofSetting_of_names h default
    · exact ofSetting_of_nameless h default

/-- A setting is read as a level exactly if it names it, or if it names none and the level is the
default. It names no two levels, and where there is no setting the default stays. So neither more
blanks at the ends of a setting nor another case of its ASCII letters make a difference. -/
theorem ofSetting_recognises :
    (∀ setting default l, ofSetting (some setting) default = l ↔
      Names setting l ∨ (∀ k, ¬ Names setting k) ∧ default = l) ∧
    (∀ setting k l, Names setting k → Names setting l → k = l) ∧
    (∀ default, ofSetting none default = default) ∧
    (∀ before setting behind : String, (∀ c ∈ before.toList, isBlank c = true) →
      (∀ c ∈ behind.toList, isBlank c = true) → ∀ default,
      ofSetting (some (before ++ setting ++ behind)) default = ofSetting (some setting) default) ∧
    ∀ setting setting', AgreeUpToCase setting setting' → ∀ default,
      ofSetting (some setting) default = ofSetting (some setting') default := by
  refine ⟨ofSetting_eq_iff, fun setting k l => Names.unique, fun default => ?_,
    fun before setting behind hb ha => ofSetting_congr fun l => names_padded_iff hb ha,
    fun setting setting' h => ofSetting_congr fun l => names_iff_of_agree h⟩
  have hn : ∀ l, ¬ Names "" l := by
    intro l
    cases l <;> decide +kernel
  exact ofSetting_of_nameless hn default

/-- Warnings under their longer name, between blanks, and a name that only looks like one: the lower
case of its first letter is more than an i. -/
theorem ofSetting_recognises_warning :
    Names "WARNING" .warn ∧
      ofSetting (some ("\u3000" ++ "WARNING" ++ "\t")) .debug = .warn ∧
      ofSetting (some "wArning") .error = .warn ∧ ofSetting (some "\u0130nfo") .error = .error := by
  obtain ⟨hs, -, -, hp, hc⟩ := ofSetting_recognises
  have hw : Names "WARNING" .warn := by decide +kernel
  have hi : ∀ k, ¬ Names "\u0130nfo" k := by
    intro k
    cases k <;> decide +kernel
  refine ⟨hw, ?_, ?_, (hs _ _ _).mpr (.inr ⟨hi, rfl⟩)⟩
  · rw [hp _ _ _ (List.all_eq_true.mp (by decide)) (List.all_eq_true.mp (by decide))]
    exact (hs _ _ _).mpr (.inl hw)
  · rw [hc _ "WARNING" (by decide)]
    exact (hs _ _ _).mpr (.inl hw)

end InvocationClient.Level
