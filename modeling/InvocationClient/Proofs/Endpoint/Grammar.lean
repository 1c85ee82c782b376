import Mathlib.Tactic.Push
import InvocationClient.Endpoint

/-! # The grammar of endpoints

Blanks at both ends apart, an endpoint is written as a host, a colon and the decimal digits of a
port. A text that is not written like this is rejected. Of one that is, the port decides.
-/

namespace InvocationClient.Endpoint

variable {given : String} {host port : List Char}

/-- How a host and the digits of a port are written. The host is not empty, and it opens with a
bracket exactly if it closes with one. -/
structure Written (given : String) (host port : List Char) : Prop where
  trimmed : Text.trimChars given.toList = host ++ ':' :: port
  named : host ≠ []
  balanced : isBalanced host = true
  numeric : isNumeric port = true

theorem Written.splitLast? (h : Written given host port) :
    Text.splitLast? (· = ':') (Text.trimChars given.toList) = some (host, port) := by
  rw [h.trimmed]
  apply Text.splitLast?_append
  · intro d hd
    refine decide_eq_false ?_
    rintro rfl
    exact absurd ((isNumeric_iff.mp h.numeric).2 ':' hd) (by decide)
  · rfl

theorem Written.unique {host' port' : List Char} (h : Written given host port)
    (h' : Written given host' port') : host = host' ∧ port = port' :=
  Prod.mk.inj (Option.some.inj (h.splitLast?.symm.trans h'.splitLast?))

theorem parse_of_split (hh : host ≠ [])
    (h : Text.splitLast? (· = ':') (Text.trimChars given.toList) = some (host, port)) :
    parse (some given) = ofParts given host port := by
  have he : given ≠ "" := by
    rintro rfl
    cases h
  have hn : host.isEmpty = false := by simpa using hh
  simp only [parse, if_neg he, h, hn, Bool.false_eq_true, if_false]

/-- Of a text that is written like an endpoint, the port decides. -/
theorem parse_of_written (h : Written given host port) :
    parse (some given) =
      match Number.readDigits? port with
      | none => .error (.tooManyDigits port.length)
      | some n =>
        if 0 < n ∧ n < 65536 then .ok ⟨String.ofList host, n⟩
        else .error (reject given (.portOutOfRange n)) := by
  rw [parse_of_split h.named h.splitLast?, ofParts, h.balanced, h.numeric]
  rfl

theorem parse_rejects_of_hostless
    (h : ∀ host port, Text.splitLast? (· = ':') (Text.trimChars given.toList) = some (host, port) →
      host = []) :
    ∃ why, parse (some given) = .error (reject given why) := by
  simp only [parse]
  split
  · exact ⟨_, rfl⟩
  · split
    · exact ⟨_, rfl⟩
    · next host port hs =>
      rw [if_pos (List.isEmpty_iff.mpr (h host port hs))]
      exact ⟨_, rfl⟩

theorem ofParts_rejects (given : String) (h : ¬ (isBalanced host = true ∧ isNumeric port = true)) :
    ∃ why, ofParts given host port = .error (reject given why) := by
  unfold ofParts
  split
  · exact ⟨_, rfl⟩
  · next hb =>
    split
    · exact ⟨_, rfl⟩
    · next hn => exact absurd ⟨by simpa using hb, by simpa using hn⟩ h

theorem written_or_rejected (given : String) :
    (∃ host port, Written given host port) ∨
      ∃ why, parse (some given) = .error (reject given why) := by
  by_cases hs : ∀ host port,
      Text.splitLast? (· = ':') (Text.trimChars given.toList) = some (host, port) → host = []
  · exact .inr (parse_rejects_of_hostless hs)
  · push Not at hs
    obtain ⟨host, port, hs, hh⟩ := hs
    by_cases hw : isBalanced host = true ∧ isNumeric port = true
    · obtain ⟨c, hc, ht⟩ := Text.eq_append_of_splitLast? hs
      obtain rfl : c = ':' := of_decide_eq_true hc
      exact .inl ⟨host, port, ht, hh, hw.1, hw.2⟩
    · rw [parse_of_split hh hs]
      exact .inr (ofParts_rejects given hw)

end InvocationClient.Endpoint
