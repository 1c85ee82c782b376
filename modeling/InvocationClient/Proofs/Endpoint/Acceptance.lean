import InvocationClient.Proofs.Endpoint.Grammar
import InvocationClient.Proofs.Text.Blank

/-! # Accepted endpoints

How an endpoint is spelled: blanks at both ends apart, its host, a colon, and its port in decimal,
with or without leading zeros. A text is read as an endpoint exactly if it spells this endpoint, and
it spells no other one.
-/

namespace InvocationClient.Endpoint

variable {given : String} {e e' : Endpoint} {host port digits digits' : List Char}

/-- A text spells an endpoint, with `digits` for its port. The host may hold colons of its own. -/
structure Spells (given : String) (e : Endpoint) (digits : List Char) : Prop where
  trimmed : Text.TrimsTo given.toList (e.host.toList ++ ':' :: digits)
  named : e.host ≠ ""
  brackets : e.host.toList.head? = some '[' ↔ e.host.toList.getLast? = some ']'
  numbered : digits ≠ []
  decimal : ∀ d ∈ digits, d.isDigit = true
  short : digits.length ≤ 4300
  value : Nat.ofDigitChars 10 digits 0 = e.port
  positive : 1 ≤ e.port
  bounded : e.port ≤ 65535

theorem Spells.written (h : Spells given e digits) : Written given e.host.toList digits where
  trimmed := Text.trimChars_of_trimsTo h.trimmed
  named := mt String.toList_eq_nil_iff.mp h.named
  balanced := isBalanced_iff.mpr h.brackets
  numeric := isNumeric_iff.mpr ⟨h.numbered, h.decimal⟩

theorem Written.spells (h : Written given e.host.toList digits) (hl : digits.length ≤ 4300)
    (hv : Number.ofDigits digits = e.port) (hp : 0 < e.port ∧ e.port < 65536) :
    Spells given e digits where
  trimmed := Text.trimChars_eq_iff.mp h.trimmed
  named := mt String.toList_eq_nil_iff.mpr h.named
  brackets := isBalanced_iff.mp h.balanced
  numbered := (isNumeric_iff.mp h.numeric).1
  decimal := (isNumeric_iff.mp h.numeric).2
  short := hl
  value := hv
  positive := hp.1
  bounded := Nat.le_of_lt_succ hp.2

theorem parse_of_spells (h : Spells given e digits) : parse (some given) = .ok e := by
  have hl : digits.length ≤ Number.digitLimit := h.short
  have hr : Number.readDigits? digits = some e.port := by
    rw [Number.readDigits?, if_pos hl]
    exact congrArg some h.value
  have hp : 0 < e.port ∧ e.port < 65536 := ⟨h.positive, Nat.lt_succ_of_le h.bounded⟩
  rw [parse_of_written h.written, hr]
  simp only [if_pos hp, String.ofList_toList]

theorem exists_spells_of_written (hw : Written given host port) (h : parse (some given) = .ok e) :
    ∃ digits, Spells given e digits := by
  rw [parse_of_written hw] at h
  split at h
  · cases h
  next n hn =>
  split at h
  next hp =>
    cases h
    obtain ⟨hl, hv⟩ : port.length ≤ Number.digitLimit ∧ Number.ofDigits port = n := by
      simpa [Number.readDigits?] using hn
    exact ⟨port, Written.spells (by rwa [String.toList_ofList]) hl hv hp⟩
  · cases h

theorem exists_spells_of_parse (h : parse (some given) = .ok e) : ∃ digits, Spells given e digits := by
  rcases written_or_rejected given with ⟨host, port, hw⟩ | ⟨why, hr⟩
  · exact exists_spells_of_written hw h
  · rw [hr] at h
    cases h

/-- The last colon ends the host, as none can stand among the digits. -/
theorem Spells.unique (h : Spells given e digits) (h' : Spells given e' digits') :
    e = e' ∧ digits = digits' := by
  obtain ⟨hh, rfl⟩ := h.written.unique h'.written
  obtain ⟨host, port⟩ := e
  obtain ⟨host', port'⟩ := e'
  obtain rfl : host = host' := String.toList_inj.mp hh
  obtain rfl : port = port' := h.value.symm.trans h'.value
  exact ⟨rfl, rfl⟩

/-- A text is read as an endpoint exactly if it spells it, and it does so in one way only. -/
theorem parse_eq_ok_iff_spells (given : String) :
    (∀ e, parse (some given) = .ok e ↔ ∃ digits, Spells given e digits) ∧
      ∀ e e' digits digits', Spells given e digits → Spells given e' digits' →
        e = e' ∧ digits = digits' := by
  refine ⟨fun e => ⟨exists_spells_of_parse, ?_⟩, fun e e' digits digits' h h' => h.unique h'⟩
  rintro ⟨digits, h⟩
  exact parse_of_spells h

/-- An address with colons of its own, between blanks, and a port with leading zeros. -/
theorem parse_eq_ok_iff_spells_padded :
    Spells "\t ::1:0080\n" ⟨"::1", 80⟩ "0080".toList ∧
      parse (some "\t ::1:0080\n") = .ok ⟨"::1", 80⟩ ∧
      ∀ e digits, Spells "\t ::1:0080\n" e digits → e = ⟨"::1", 80⟩ ∧ digits = "0080".toList := by
  have ht : Text.trimChars "\t ::1:0080\n".toList = "::1".toList ++ ':' :: "0080".toList := by
    decide
  have hd : ∀ d ∈ "0080".toList, d.isDigit = true := List.all_eq_true.mp (by decide)
  have hs : Spells "\t ::1:0080\n" ⟨"::1", 80⟩ "0080".toList :=
    ⟨Text.trimChars_eq_iff.mp ht, by decide, by decide, by decide, hd, by decide, by decide,
      by decide, by decide⟩
  obtain ⟨hp, hu⟩ := parse_eq_ok_iff_spells "\t ::1:0080\n"
  exact ⟨hs, (hp _).mpr ⟨_, hs⟩, fun e digits h => hu _ _ _ _ h hs⟩

end InvocationClient.Endpoint
