import Mathlib.Data.List.Basic
import InvocationClient.Text.Case

/-! # Lower case and ASCII

The only character outside ASCII whose lower case lies in ASCII is the kelvin sign, a second capital
of k. Put into lower case, a text becomes the same as a text in ASCII exactly if the two agree up to
the case of ASCII letters once every kelvin sign is read as a k.
-/

namespace InvocationClient.Text

variable {c : Char} {cs ds : List Char} {s t : String}

section Runs

variable {r : CaseRun} {n : Nat}

def kelvinSign : Char := '\u212a'

/-- A run whose counterparts are characters outside ASCII. -/
def CaseRun.StaysOutside (r : CaseRun) : Prop :=
  128 ≤ r.first + r.shift ∧
    (r.last + r.shift < 0xd800 ∨ 0xe000 ≤ r.first + r.shift ∧ r.last + r.shift < 0x110000)

instance (r : CaseRun) : Decidable r.StaysOutside := inferInstanceAs (Decidable (_ ∧ _))

theorem staysOutside_of_mem (h : r ∈ capitalRuns) :
    r.StaysOutside ∨ r.first = kelvinSign.toNat ∧ r.last = kelvinSign.toNat := by
  have hr : ∀ r ∈ capitalRuns,
      r.StaysOutside ∨ r.first = kelvinSign.toNat ∧ r.last = kelvinSign.toNat := by decide +kernel
  exact hr r h

theorem CaseRun.bounds_of_covers (h : r.covers n = true) : r.first ≤ n ∧ n ≤ r.last := by
  simp only [covers, Bool.and_eq_true, decide_eq_true_eq] at h
  exact h.1

theorem CaseRun.StaysOutside.shifted (h : r.StaysOutside) (hc : r.covers n = true) :
    128 ≤ (Char.ofNat (r.shifted n)).toNat := by
  obtain ⟨ha, hv⟩ := h
  obtain ⟨hf, hl⟩ := bounds_of_covers hc
  have hn : r.shifted n = n + r.shift := by
    unfold CaseRun.shifted
    omega
  have hc : (r.shifted n).isValidChar := by
    unfold Nat.isValidChar
    omega
  rw [Char.ofNat, dif_pos hc]
  change 128 ≤ r.shifted n
  omega

end Runs

/-- A character of ASCII, or the one that is taken for such a character in lower case. -/
def IsLegible (c : Char) : Prop := c.toNat < 128 ∨ c = kelvinSign

theorem exists_outside_of_not_isLegible (h : ¬ IsLegible c) : ∃ d ∈ lowerChar c, 128 ≤ d.toNat := by
  obtain ⟨ha, hk⟩ := not_or.mp h
  rw [lowerChar, if_neg ha]
  split
  · exact ⟨'\u0307', by simp, by decide⟩
  · refine ⟨_, List.mem_singleton_self _, ?_⟩
    unfold CaseRun.counterpart?
    cases hr : capitalRuns.find? (·.covers c.toNat) with
    | none => exact Nat.not_lt.mp ha
    | some r =>
      have hc : r.covers c.toNat = true := by simpa using List.find?_some hr
      rcases staysOutside_of_mem (List.mem_of_find?_eq_some hr) with ho | ⟨hf, hl⟩
      · exact ho.shifted hc
      · have hb := CaseRun.bounds_of_covers hc
        exact absurd (Char.toNat_inj.mp (by omega)) hk

/-- The kelvin sign is read as the letter that it looks like. -/
def readKelvin (c : Char) : Char := if c = kelvinSign then 'k' else c

theorem lowerChar_of_isLegible (h : IsLegible c) : lowerChar c = [(readKelvin c).toLower] := by
  by_cases hk : c = kelvinSign
  · rw [hk]
    decide +kernel
  · rw [readKelvin, if_neg hk, lowerChar_of_ascii (h.resolve_right hk)]

theorem toLower_of_outside (h : ¬ c.toNat < 128) : c.toLower = c := by
  show (if h : _ then _ else c) = c
  apply dif_neg
  rintro ⟨-, hz⟩
  have hz : c.toNat ≤ 90 := hz
  omega

theorem isLegible_of_toLower (h : (readKelvin c).toLower.toNat < 128) : IsLegible c := by
  by_cases hk : c = kelvinSign
  · exact .inr hk
  · by_cases ha : c.toNat < 128
    · exact .inl ha
    · rw [readKelvin, if_neg hk, toLower_of_outside ha] at h
      exact absurd h ha

theorem flatMap_lowerChar_of_isLegible (h : ∀ c ∈ cs, IsLegible c) :
    cs.flatMap lowerChar = cs.map fun c => (readKelvin c).toLower := by
  induction cs with
  | nil => rfl
  | cons c cs ih =>
    obtain ⟨hc, hcs⟩ := List.forall_mem_cons.mp h
    rw [List.flatMap_cons, List.map_cons, lowerChar_of_isLegible hc, ih hcs]
    rfl

theorem flatMap_lowerChar_eq_iff (hd : ∀ d ∈ ds, d.toNat < 128) :
    cs.flatMap lowerChar = ds ↔ (cs.map fun c => (readKelvin c).toLower) = ds := by
  constructor
  · rintro rfl
    refine (flatMap_lowerChar_of_isLegible fun c hc => ?_).symm
    by_contra hn
    obtain ⟨d, hm, ho⟩ := exists_outside_of_not_isLegible hn
    exact Nat.not_lt.mpr ho (hd d (List.mem_flatMap_of_mem hc hm))
  · rintro rfl
    refine flatMap_lowerChar_of_isLegible fun c hc => ?_
    exact isLegible_of_toLower (hd _ (List.mem_map_of_mem hc))

def AgreeUpToCase (s t : String) : Prop :=
  s.toList.map Char.toLower = t.toList.map Char.toLower

instance (s t : String) : Decidable (AgreeUpToCase s t) := inferInstanceAs (Decidable (_ = _))

def readKelvins (s : String) : String := String.ofList (s.toList.map readKelvin)

theorem readKelvins_of_not_mem (h : kelvinSign ∉ s.toList) : readKelvins s = s := by
  have hc : ∀ c ∈ s.toList, readKelvin c = c := by
    intro c hc
    apply if_neg
    rintro rfl
    exact h hc
  have hm : s.toList.map readKelvin = s.toList := (List.map_congr_left hc).trans (List.map_id _)
  rw [readKelvins, hm, String.ofList_toList]

/-- What holds of the characters of ASCII one by one. -/
theorem of_ascii {P : Char → Prop} (h : ∀ n < 128, P (Char.ofNat n)) (hc : c.toNat < 128) : P c := by
  have hn := h c.toNat hc
  rwa [Char.ofNat_toNat] at hn

theorem toLower_lt_of_ascii (h : c.toNat < 128) : c.toLower.toNat < 128 :=
  of_ascii (P := fun c => c.toLower.toNat < 128) (by decide +kernel) h

/-- What two texts that are the same in lower case have in common, if one of them is in ASCII. -/
theorem lower_eq_lower_iff (ht : ∀ c ∈ t.toList, c.toNat < 128) :
    lower s = lower t ↔ AgreeUpToCase (readKelvins s) t := by
  have hl : t.toList.flatMap lowerChar = t.toList.map Char.toLower := by
    rw [List.map_eq_flatMap]
    exact List.flatMap_congr fun c hc => lowerChar_of_ascii (ht c hc)
  have hd : ∀ d ∈ t.toList.map Char.toLower, d.toNat < 128 := by
    intro d hd
    obtain ⟨c, hc, rfl⟩ := List.mem_map.mp hd
    exact toLower_lt_of_ascii (ht c hc)
  rw [lower, lower, String.ofList_inj, hl, flatMap_lowerChar_eq_iff hd, AgreeUpToCase, readKelvins,
    String.toList_ofList, List.map_map]
  rfl

theorem kelvinSign_not_mem (ht : ∀ c ∈ t.toList, c.toNat < 128) (h : AgreeUpToCase s t) :
    kelvinSign ∉ s.toList := by
  intro hk
  have hm : kelvinSign.toLower ∈ t.toList.map Char.toLower := h ▸ List.mem_map_of_mem hk
  obtain ⟨c, hc, he⟩ := List.mem_map.mp hm
  have hl := toLower_lt_of_ascii (ht c hc)
  rw [he] at hl
  exact absurd hl (by decide)

theorem k_mem_of_kelvinSign (hk : kelvinSign ∈ s.toList) (h : AgreeUpToCase (readKelvins s) t) :
    'k' ∈ t.toList.map Char.toLower := by
  have hm : (readKelvin kelvinSign).toLower ∈ (readKelvins s).toList.map Char.toLower := by
    rw [readKelvins, String.toList_ofList]
    exact List.mem_map_of_mem (List.mem_map_of_mem hk)
  rw [h] at hm
  exact hm

theorem lower_eq_lower_iff_agree (ht : ∀ c ∈ t.toList, c.toNat < 128)
    (hk : 'k' ∉ t.toList.map Char.toLower) : lower s = lower t ↔ AgreeUpToCase s t := by
  rw [lower_eq_lower_iff ht]
  by_cases hs : kelvinSign ∈ s.toList
  · exact iff_of_false (fun h => hk (k_mem_of_kelvinSign hs h))
      fun h => kelvinSign_not_mem ht h hs
  · rw [readKelvins_of_not_mem hs]

end InvocationClient.Text
