import InvocationClient.Proofs.Json.RoundTrip
import InvocationClient.Proofs.Json.Steps

/-! # What can be read can be written

Whatever a document holds, the integers of the value that is read are short enough to be written, and
no object in it has a name twice. So a value that is exact, once it has been read, can be written and
read back.
-/

namespace InvocationClient.Json

open Text Number

variable {v w : Json} {rest s : List CodePoint} {fuel room limit : Nat}

/-- Values whose integers are short enough to be written and whose objects have no name twice. -/
inductive Sound : Json → Prop where
  | null : Sound .null
  | bool (b : Bool) : Sound (.bool b)
  | integer {n : Int} : isWritable n = true → Sound (.integer n)
  | double (x : Float) : Sound (.double x)
  | string (s : List CodePoint) : Sound (.string s)
  | array {items : List Json} : (∀ v ∈ items, Sound v) → Sound (.array items)
  | object {members : List (List CodePoint × Json)} : (∀ m ∈ members, Sound m.2) →
      (members.map Prod.fst).Nodup → Sound (.object members)

theorem Exact.faithful (h : Exact v) (hs : Sound v) : Faithful v := by
  induction h with
  | null => exact .null
  | bool b => exact .bool b
  | integer n =>
    cases hs with
    | integer hw => exact .integer hw
  | string hc => exact .string hc
  | array _ ih =>
    cases hs with
    | array hi => exact .array fun v hm => ih v hm (hi v hm)
  | object hk _ ih =>
    cases hs with
    | object hm hn => exact .object hk (fun m hmm => ih m hmm (hm m hmm)) hn

section Scalars

theorem isDigit_of_mem_splitWhole : ∀ p ∈ (splitWhole s).1, isDigit p = true := by
  cases s with
  | nil => nofun
  | cons p s =>
    rw [splitWhole]
    split
    · next hp =>
      obtain rfl := is_iff.mp hp
      exact List.forall_mem_singleton.mpr rfl
    · rw [List.span_eq_takeWhile_dropWhile]
      exact List.all_eq_true.mp List.all_takeWhile

theorem isDigit_of_mem_digitChars (h : ∀ p ∈ s, isDigit p = true) :
    ∀ d ∈ digitChars s, d.isDigit = true := by
  refine List.forall_mem_map.mpr fun p hp => ?_
  have hb : 48 ≤ p.val ∧ p.val ≤ 57 := by simpa [isDigit] using h p hp
  have hv : p.val.isValidChar := .inl (by omega)
  have hn : (Char.ofNat p.val).toNat = p.val := congrArg Fin.val (CodePoint.ofChar_ofNat hv)
  rw [Char.isDigit_iff_toNat, hn]
  exact hb

theorem readNumber_cases (h : readNumber s = .ok (w, rest)) :
    (∃ x, w = .double x) ∨ ∃ (negative : Bool) (t : List CodePoint) (n : Nat),
      readDigits? (digitChars (splitWhole t).1) = some n ∧
        w = .integer (if negative then -n else n) := by
  unfold readNumber at h
  dsimp only at h
  generalize s.head?.any (is '-') = negative at h
  generalize (if negative = true then s.tail else s) = t at h
  cases hw : splitWhole t with
  | mk whole more =>
    rw [hw] at h
    dsimp only at h
    split at h
    · cases h
    split at h
    · cases h
      exact .inl ⟨_, rfl⟩
    split at h
    · cases h
      exact .inl ⟨_, rfl⟩
    split at h
    · next n hn =>
      cases h
      refine .inr ⟨negative, t, n, ?_, rfl⟩
      rw [hw]
      exact hn
    · cases h

theorem sound_of_readNumber (h : readNumber s = .ok (w, rest)) : Sound w := by
  rcases readNumber_cases h with ⟨x, rfl⟩ | ⟨negative, t, n, hn, rfl⟩
  · exact .double x
  · obtain ⟨hl, rfl⟩ : (digitChars (splitWhole t).1).length ≤ digitLimit ∧
        ofDigits (digitChars (splitWhole t).1) = n := by
      simpa only [readDigits?, Option.ite_none_right_eq_some, Option.some.injEq] using hn
    exact .integer (Deadline.isWritable_of_digits
      (isDigit_of_mem_digitChars isDigit_of_mem_splitWhole) hl negative)

theorem exists_of_readWord? {ws : List (String × Json)} (h : readWord? ws s = some (w, rest)) :
    ∃ word ∈ ws, word.2 = w := by
  obtain ⟨word, hm, hw⟩ := List.exists_of_findSome?_eq_some h
  obtain ⟨more, -, he⟩ := Option.map_eq_some_iff.mp hw
  exact ⟨word, hm, (Prod.mk.inj he).1⟩

theorem sound_of_readScalar (h : readScalar room s = .ok (w, rest)) : Sound w := by
  have hs : ∀ word ∈ words ++ numberWords, Sound word.2 := by
    simp only [words, numberWords, List.cons_append, List.nil_append, List.forall_mem_cons]
    exact ⟨.null, .bool _, .bool _, .double _, .double _, .double _, List.forall_mem_nil _⟩
  rw [readScalar] at h
  split at h
  · next r hr =>
    cases h
    obtain ⟨word, hm, rfl⟩ := exists_of_readWord? hr
    exact hs word (List.mem_append_left _ hm)
  split at h
  · next r hr =>
    split at h
    · cases h
    · cases h
      obtain ⟨word, hm, rfl⟩ := exists_of_readWord? hr
      exact hs word (List.mem_append_right _ hm)
  · exact sound_of_readNumber h

end Scalars

section Values

theorem sound_put {k : List CodePoint} {done : List (List CodePoint × Json)}
    (hd : Sound (.object done)) (hv : Sound v) : Sound (.object (Association.put k v done)) := by
  cases hd with
  | object hm hn =>
    refine .object (fun m hmm => ?_) (Association.nodup_put hn k v)
    rcases Association.mem_put hmm with rfl | hmm
    · exact hv
    · exact hm m hmm

/-- Whatever is read with so much fuel is sound, if what has been read before it is. -/
structure ReadsSound (fuel : Nat) : Prop where
  value : ∀ ⦃room s w rest⦄, readValue fuel room s = .ok (w, rest) → Sound w
  items : ∀ ⦃room done s w rest⦄, (∀ v ∈ done, Sound v) →
    readItems fuel room done s = .ok (w, rest) → Sound w
  members : ∀ ⦃room done s w rest⦄, Sound (.object done) →
    readMembers fuel room done s = .ok (w, rest) → Sound w

theorem ReadsSound.itemStep {done : List Json} (h : ReadsSound fuel) (hd : ∀ v ∈ done, Sound v)
    (hs : ItemStep fuel room done s w rest) : Sound w := by
  cases hs with
  | last hv _ =>
    refine .array fun v hm => ?_
    exact List.forall_mem_cons.mpr ⟨h.value hv, hd⟩ v (List.mem_reverse.mp hm)
  | next hv _ hi => exact h.items (List.forall_mem_cons.mpr ⟨h.value hv, hd⟩) hi

theorem ReadsSound.memberStep {done : List (List CodePoint × Json)} (h : ReadsSound fuel)
    (hd : Sound (.object done)) (hs : MemberStep fuel room done s w rest) : Sound w := by
  cases hs with
  | last _ _ hv _ => exact sound_put hd (h.value hv)
  | next _ _ hv _ hm => exact h.members (sound_put hd (h.value hv)) hm

theorem ReadsSound.readValue (h : ∀ f, fuel = f + 1 → ReadsSound f)
    (hr : readValue fuel room s = .ok (w, rest)) : Sound w := by
  cases s with
  | nil =>
    cases fuel <;> cases hr
  | cons p s =>
    by_cases hq : is '"' p = true
    · obtain rfl := is_iff.mp hq
      obtain ⟨t, -, rfl⟩ := readQuoted_of_readValue hr
      exact .string t
    by_cases ha : is '[' p = true
    · obtain rfl := is_iff.mp ha
      rcases readValue_array_cases hr with ⟨-, rfl⟩ | ⟨f, r, rfl, rfl, hi, -⟩
      · exact .array (List.forall_mem_nil _)
      · exact (h f rfl).items (List.forall_mem_nil _) hi
    by_cases ho : is '\x7b' p = true
    · obtain rfl := is_iff.mp ho
      rcases readValue_object_cases hr with ⟨-, rfl⟩ | ⟨f, r, rfl, rfl, hm, -⟩
      · exact .object (List.forall_mem_nil _) List.nodup_nil
      · exact (h f rfl).members (.object (List.forall_mem_nil _) List.nodup_nil) hm
    · exact sound_of_readScalar (readScalar_of_readValue (eq_false_of_ne_true hq)
        (eq_false_of_ne_true ha) (eq_false_of_ne_true ho) hr)

theorem readsSound (fuel : Nat) : ReadsSound fuel := by
  induction fuel with
  | zero =>
    constructor
    · intro room s w rest
      exact ReadsSound.readValue nofun
    · intro room done s w rest _ h
      cases h
    · intro room done s w rest _ h
      cases h
  | succ f ih =>
    constructor
    · intro room s w rest
      apply ReadsSound.readValue
      rintro _ ⟨⟩
      exact ih
    · intro room done s w rest hd h
      obtain ⟨_, hf, hs⟩ := exists_itemStep h
      cases hf
      exact ih.itemStep hd hs
    · intro room done s w rest hd h
      obtain ⟨_, hf, hs⟩ := exists_memberStep h
      cases hf
      exact ih.memberStep hd hs

theorem sound_of_readDocument (h : readDocument limit s = .ok w) : Sound w := by
  rw [readDocument] at h
  split at h
  · cases h
  next v more hv =>
  split at h
  · cases h
    exact (readsSound _).value hv
  · cases h

end Values

end InvocationClient.Json
