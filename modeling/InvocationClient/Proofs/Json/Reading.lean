import InvocationClient.Proofs.Json.Numerals
import InvocationClient.Proofs.Json.Steps

/-! # What documents are read as

A text that denotes a value is not read as anything else, with whatever can follow it. This is by
induction on how the text denotes the value; it says nothing of texts that are too deep or have
integers that are too long, as these are not read at all.
-/

namespace InvocationClient.Json

open Text Number

variable {v w : Json} {rest rest' s : List CodePoint} {fuel room limit : Nat} {cs name : List Char}

/-- If a text is read at all, with whatever can follow it, it is read as the value, and nothing but
white space is left of it. -/
def ReadsOnlyAs (cs : List Char) (v : Json) : Prop :=
  ∀ ⦃fuel room : Nat⦄ ⦃rest rest' : List CodePoint⦄ ⦃w : Json⦄, Ends rest →
    readValue fuel room (skip (points cs ++ rest)) = .ok (w, rest') → w = v ∧ skip rest' = skip rest

theorem skip_of_closed {p : CodePoint} {after : List CodePoint} (h : Closed (p :: after)) :
    skip (p :: after) = p :: after := by
  apply skip_cons
  rcases h p rfl with rfl | rfl | rfl <;> decide

theorem eq_of_readItem {p q : CodePoint} {after more : List CodePoint} (hr : ReadsOnlyAs cs v)
    (hp : Closed (p :: after)) (hv : readValue fuel room (skip (points cs ++ p :: after)) =
      .ok (w, more)) (hs : skip more = q :: rest) : w = v ∧ q = p ∧ rest = after := by
  obtain ⟨rfl, he⟩ := hr hp.ends hv
  rw [hs, skip_of_closed hp] at he
  obtain ⟨rfl, rfl⟩ := List.cons.inj he
  exact ⟨rfl, rfl, rfl⟩

/-- The mark behind the text of an item tells whether it is the last one. -/
theorem itemStep_cases {p : CodePoint} {after : List CodePoint} {done : List Json}
    (hr : ReadsOnlyAs cs v) (hp : Closed (p :: after))
    (h : ItemStep fuel room done (skip (points cs ++ p :: after)) w rest) :
    p = CodePoint.ofChar ']' ∧ w = .array (v :: done).reverse ∧ rest = after ∨
      p = CodePoint.ofChar ',' ∧ readItems fuel room (v :: done) (skip after) = .ok (w, rest) := by
  cases h with
  | last hv hs =>
    obtain ⟨rfl, rfl, rfl⟩ := eq_of_readItem hr hp hv hs
    exact .inl ⟨rfl, rfl, rfl⟩
  | next hv hs hi =>
    obtain ⟨rfl, rfl, rfl⟩ := eq_of_readItem hr hp hv hs
    exact .inr ⟨rfl, hi⟩

theorem readQuoted_names (h : Names cs name) (rest : List CodePoint) :
    ∃ more, readQuoted room (skip (points cs ++ CodePoint.ofChar ':' :: rest)) =
      .ok (points name, more) ∧ skip more = CodePoint.ofChar ':' :: rest := by
  cases h with
  | @padded before cs behind _ hb hq ha =>
    refine ⟨points behind ++ CodePoint.ofChar ':' :: rest, ?_, ?_⟩
    · have hs : ∀ s, skip (points cs ++ s) = points cs ++ s := by
        cases hq
        exact fun s => skip_cons (by decide) _
      rw [points_append, points_append, List.append_assoc, List.append_assoc,
        skip_points_append hb, hs, readQuoted_quotes hq]
    · rw [skip_points_append ha, skip_cons (by decide)]

theorem eq_of_readMember {p q : CodePoint} {k after colon more more' : List CodePoint} {m : Member}
    (hn : Names m.nameText m.name) (hr : ReadsOnlyAs m.valueText m.value)
    (hp : Closed (p :: after))
    (hk : readQuoted room (skip (points m.text ++ p :: after)) = .ok (k, more))
    (hc : skip more = CodePoint.ofChar ':' :: colon)
    (hv : readValue fuel room (skip colon) = .ok (v, more')) (hs : skip more' = q :: rest) :
    k = points m.name ∧ v = m.value ∧ q = p ∧ rest = after := by
  rw [Member.text, points_append, points_cons, List.append_assoc, List.cons_append] at hk
  obtain ⟨behind, hk', hc'⟩ := @readQuoted_names room _ _ hn (points m.valueText ++ p :: after)
  obtain ⟨rfl, rfl⟩ := Prod.mk.inj (Except.ok.inj (hk.symm.trans hk'))
  obtain ⟨-, rfl⟩ := List.cons.inj (hc.symm.trans hc')
  obtain ⟨rfl, rfl, rfl⟩ := eq_of_readItem hr hp hv hs
  exact ⟨rfl, rfl, rfl, rfl⟩

/-- The mark behind the text of a member tells whether it is the last one. -/
theorem memberStep_cases {p : CodePoint} {after : List CodePoint} {m : Member}
    {done : List (List CodePoint × Json)} (hn : Names m.nameText m.name)
    (hr : ReadsOnlyAs m.valueText m.value) (hp : Closed (p :: after))
    (h : MemberStep fuel room done (skip (points m.text ++ p :: after)) w rest) :
    p = CodePoint.ofChar '\x7d' ∧ w = .object (Association.put (points m.name) m.value done) ∧
        rest = after ∨
      p = CodePoint.ofChar ',' ∧ readMembers fuel room
        (Association.put (points m.name) m.value done) (skip after) = .ok (w, rest) := by
  cases h with
  | last hk hc hv hs =>
    obtain ⟨rfl, rfl, rfl, rfl⟩ := eq_of_readMember hn hr hp hk hc hv hs
    exact .inl ⟨rfl, rfl, rfl⟩
  | next hk hc hv hs hi =>
    obtain ⟨rfl, rfl, rfl, rfl⟩ := eq_of_readMember hn hr hp hk hc hv hs
    exact .inr ⟨rfl, hi⟩

theorem commaSeparated_singleton (t : List Char) : commaSeparated [t] = t := by
  simp [commaSeparated]

theorem commaSeparated_cons_cons (t t' : List Char) (ts : List (List Char)) :
    commaSeparated (t :: t' :: ts) = t ++ ',' :: commaSeparated (t' :: ts) := by
  simp [commaSeparated, List.intercalate_cons_cons]

theorem eq_of_readItems {items : List (List Char × Json)} {done : List Json} (hne : items ≠ [])
    (hr : ∀ m ∈ items, ReadsOnlyAs m.1 m.2)
    (h : readItems fuel room done
      (skip (points (commaSeparated (items.map Prod.fst)) ++ CodePoint.ofChar ']' :: rest)) =
        .ok (w, rest')) :
    w = .array (done.reverse ++ items.map Prod.snd) ∧ rest' = rest := by
  have hmark : CodePoint.ofChar ']' ≠ CodePoint.ofChar ',' := by decide
  induction items generalizing fuel done with
  | nil => exact absurd rfl hne
  | cons m ms ih =>
    obtain ⟨hm, hms⟩ := List.forall_mem_cons.mp hr
    obtain ⟨f, rfl, hstep⟩ := exists_itemStep h
    cases ms with
    | nil =>
      rw [List.map_singleton, commaSeparated_singleton] at hstep
      rcases itemStep_cases hm (closed_bracket rest) hstep with ⟨-, rfl, rfl⟩ | ⟨hp, -⟩
      · simp
      · exact absurd hp hmark
    | cons m' ms =>
      simp only [List.map_cons, commaSeparated_cons_cons, points_append, points_cons,
        List.append_assoc, List.cons_append] at hstep
      rcases itemStep_cases hm (closed_comma _) hstep with ⟨hp, -⟩ | ⟨-, hi⟩
      · exact absurd hp.symm hmark
      · obtain ⟨rfl, rfl⟩ := ih (List.cons_ne_nil m' ms) hms hi
        simp

theorem eq_of_readMembers {members : List Member} {done : List (List CodePoint × Json)}
    (hne : members ≠ []) (hn : ∀ m ∈ members, Names m.nameText m.name)
    (hr : ∀ m ∈ members, ReadsOnlyAs m.valueText m.value)
    (h : readMembers fuel room done
      (skip (points (commaSeparated (members.map Member.text)) ++ CodePoint.ofChar '\x7d' :: rest)) =
        .ok (w, rest')) :
    w = .object ((members.map Member.entry).foldl (fun es e => Association.put e.1 e.2 es) done) ∧
      rest' = rest := by
  have hmark : CodePoint.ofChar '\x7d' ≠ CodePoint.ofChar ',' := by decide
  induction members generalizing fuel done with
  | nil => exact absurd rfl hne
  | cons m ms ih =>
    obtain ⟨hnm, hnms⟩ := List.forall_mem_cons.mp hn
    obtain ⟨hm, hms⟩ := List.forall_mem_cons.mp hr
    obtain ⟨f, rfl, hstep⟩ := exists_memberStep h
    cases ms with
    | nil =>
      rw [List.map_singleton, commaSeparated_singleton] at hstep
      rcases memberStep_cases hnm hm (closed_brace rest) hstep with ⟨-, rfl, rfl⟩ | ⟨hp, -⟩
      · exact ⟨rfl, rfl⟩
      · exact absurd hp hmark
    | cons m' ms =>
      simp only [List.map_cons, commaSeparated_cons_cons, points_append, points_cons,
        List.append_assoc, List.cons_append] at hstep
      rcases memberStep_cases hnm hm (closed_comma _) hstep with ⟨hp, -⟩ | ⟨-, hi⟩
      · exact absurd hp.symm hmark
      · exact ih (List.cons_ne_nil m' ms) hnms hms hi

/-- A text that begins, perhaps behind white space, with a character of ASCII that neither is white
space nor ends an array or an object. -/
inductive Starts : List Char → Prop where
  | opens {before more : List Char} {c : Char} : Spaces before →
      isSpace (CodePoint.ofChar c) = false → c ∉ [']', '\x7d'] → c.toNat < 128 →
      Starts (before ++ c :: more)

theorem starts_cons {c : Char} (hs : isSpace (CodePoint.ofChar c) = false)
    (hm : c ∉ [']', '\x7d']) (ha : c.toNat < 128) (more : List Char) : Starts (c :: more) :=
  @Starts.opens [] more c (List.forall_mem_nil _) hs hm ha

theorem Starts.append (h : Starts cs) (ds : List Char) : Starts (cs ++ ds) := by
  cases h with
  | opens hw hs hm ha =>
    rw [List.append_assoc, List.cons_append]
    exact .opens hw hs hm ha

theorem Starts.pad {before : List Char} (hb : Spaces before) (h : Starts cs) :
    Starts (before ++ cs) := by
  cases h with
  | opens hw hs hm ha =>
    rw [← List.append_assoc]
    exact .opens (List.forall_mem_append.mpr ⟨hb, hw⟩) hs hm ha

theorem Starts.head?_skip (h : Starts cs) (s : List CodePoint) {mark : Char}
    (hm : mark ∈ [']', '\x7d']) : (skip (points cs ++ s)).head? ≠ some (CodePoint.ofChar mark) := by
  cases h with
  | opens hw hs hn _ =>
    rw [points_append, List.append_assoc, skip_points_append hw, points_cons, List.cons_append,
      skip_cons hs]
    intro he
    rw [CodePoint.ofChar_injective (Option.some.inj he)] at hn
    exact hn hm

theorem Starts.head?_lt (h : Starts cs) : ∀ c ∈ cs.head?, c.toNat < 128 := by
  have hw : [' ', '\t', '\n', '\r'].all (·.toNat < 128) = true := by decide
  cases h with
  | @opens before more c hs _ _ ha =>
    cases before with
    | nil =>
      rintro _ ⟨⟩
      exact ha
    | cons d before =>
      rintro _ ⟨⟩
      exact of_decide_eq_true (List.all_eq_true.mp hw d (hs d List.mem_cons_self))

theorem starts_minus (negative : Bool) {ds : List Char} (h : Whole ds) :
    Starts (minus negative ++ ds) := by
  obtain ⟨c, more, hc, hn⟩ := exists_minus_cons negative h
  have hb : 45 ≤ c.toNat ∧ c.toNat ≤ 57 := by
    rcases hn with rfl | hd
    · decide
    · have hb : 48 ≤ c.toNat ∧ c.toNat ≤ 57 := Char.isDigit_iff_toNat.mp hd
      omega
  rw [hc]
  refine starts_cons (isSpace_eq_false_of_numeral hn) ?_ (by omega) more
  simp only [List.mem_cons, List.not_mem_nil, or_false]
  rintro (rfl | rfl) <;> exact absurd hb (by decide)

theorem Quotes.starts {s : List Char} (h : Quotes cs s) : Starts cs := by
  cases h
  exact starts_cons (by decide) (by decide) (by decide) _

theorem Names.starts (h : Names cs name) : Starts cs := by
  cases h with
  | padded hb hq _ => exact (hq.starts.pad hb).append _

theorem starts_commaSeparated {ts : List (List Char)} (hne : ts ≠ [])
    (h : ∀ t ∈ ts, Starts t) : Starts (commaSeparated ts) := by
  obtain ⟨t, ts, rfl⟩ := List.exists_cons_of_ne_nil hne
  have ht := h t List.mem_cons_self
  cases ts with
  | nil => rwa [commaSeparated_singleton]
  | cons t' ts =>
    rw [commaSeparated_cons_cons]
    exact ht.append _

theorem Denotes.starts (h : Denotes cs v) : Starts cs := by
  induction h with
  | null => exact starts_cons (by decide) (by decide) (by decide) _
  | bool b => cases b <;> exact starts_cons (by decide) (by decide) (by decide) _
  | natural h => exact starts_minus false h
  | negative h => exact starts_minus true h
  | string h => exact h.starts
  | emptyArray => exact starts_cons (by decide) (by decide) (by decide) _
  | array => exact starts_cons (by decide) (by decide) (by decide) _
  | emptyObject => exact starts_cons (by decide) (by decide) (by decide) _
  | object => exact starts_cons (by decide) (by decide) (by decide) _
  | padded hb _ _ ih => exact (ih.pad hb).append _

theorem readsOnlyAs_of_cons {c : Char} {more : List Char}
    (hs : isSpace (CodePoint.ofChar c) = false)
    (h : ∀ {fuel room : Nat} {rest rest' : List CodePoint} {w : Json}, Ends rest →
      readValue fuel room (CodePoint.ofChar c :: (points more ++ rest)) = .ok (w, rest') →
        w = v ∧ rest' = rest) : ReadsOnlyAs (c :: more) v := by
  intro fuel room rest rest' w he hr
  rw [points_cons, List.cons_append, skip_cons hs] at hr
  obtain ⟨rfl, rfl⟩ := h he hr
  exact ⟨rfl, rfl⟩

theorem readsOnlyAs_word {c : Char} {more : List Char} (hs : isSpace (CodePoint.ofChar c) = false)
    (hq : is '"' (CodePoint.ofChar c) = false) (ha : is '[' (CodePoint.ofChar c) = false)
    (ho : is '\x7b' (CodePoint.ofChar c) = false)
    (h : ∀ room rest, readScalar room (CodePoint.ofChar c :: (points more ++ rest)) =
      .ok (v, rest)) : ReadsOnlyAs (c :: more) v := by
  refine readsOnlyAs_of_cons hs fun _ hr => ?_
  have hv := readScalar_of_readValue hq ha ho hr
  rw [h] at hv
  cases hv
  exact ⟨rfl, rfl⟩

theorem readsOnlyAs_integer (negative : Bool) {ds : List Char} (h : Whole ds) :
    ReadsOnlyAs (minus negative ++ ds)
      (.integer (if negative then -(ofDigits ds : Int) else ofDigits ds)) := by
  obtain ⟨c, more, hc, hn⟩ := exists_minus_cons negative h
  rw [hc]
  refine readsOnlyAs_of_cons (isSpace_eq_false_of_numeral hn) fun he hr => ?_
  have hv := readScalar_of_readValue (is_eq_false_of_numeral hn (by decide) (by decide))
    (is_eq_false_of_numeral hn (by decide) (by decide))
    (is_eq_false_of_numeral hn (by decide) (by decide)) hr
  rw [← List.cons_append, ← points_cons, ← hc, readScalar_append _ negative h he] at hv
  split at hv
  · cases hv
    exact ⟨rfl, rfl⟩
  · cases hv

theorem readsOnlyAs_string {s : List Char} (h : Quotes cs s) :
    ReadsOnlyAs cs (.string (points s)) := by
  have hr : ∀ room rest, readQuoted room (points cs ++ rest) = .ok (points s, rest) := fun _ _ =>
    readQuoted_quotes h
  obtain ⟨more, rfl⟩ : ∃ more, cs = '"' :: more := by
    cases h
    exact ⟨_, rfl⟩
  have hs : isSpace (CodePoint.ofChar '"') = false := by decide
  refine readsOnlyAs_of_cons hs fun _ hv => ?_
  obtain ⟨t, ht, rfl⟩ := readQuoted_of_readValue hv
  rw [← List.cons_append, ← points_cons, hr] at ht
  cases ht
  exact ⟨rfl, rfl⟩

theorem readsOnlyAs_emptyArray {ws : List Char} (h : Spaces ws) :
    ReadsOnlyAs ('[' :: (ws ++ [']'])) (.array []) := by
  refine readsOnlyAs_of_cons (by decide) fun {_ _ rest _ _} _ hr => ?_
  have hs : skip (points (ws ++ [']']) ++ rest) = CodePoint.ofChar ']' :: rest := by
    rw [points_append, List.append_assoc, skip_points_append h]
    exact skip_of_closed (closed_bracket rest)
  rcases readValue_array_cases hr with ⟨hb, rfl⟩ | ⟨_, _, _, _, _, hn⟩
  · rw [hs] at hb
    exact ⟨rfl, (List.cons.inj hb).2.symm⟩
  · rw [hs] at hn
    exact absurd rfl hn

theorem readsOnlyAs_emptyObject {ws : List Char} (h : Spaces ws) :
    ReadsOnlyAs ('\x7b' :: (ws ++ ['\x7d'])) (.object []) := by
  refine readsOnlyAs_of_cons (by decide) fun {_ _ rest _ _} _ hr => ?_
  have hs : skip (points (ws ++ ['\x7d']) ++ rest) = CodePoint.ofChar '\x7d' :: rest := by
    rw [points_append, List.append_assoc, skip_points_append h]
    exact skip_of_closed (closed_brace rest)
  rcases readValue_object_cases hr with ⟨hb, rfl⟩ | ⟨_, _, _, _, _, hn⟩
  · rw [hs] at hb
    exact ⟨rfl, (List.cons.inj hb).2.symm⟩
  · rw [hs] at hn
    exact absurd rfl hn

theorem readsOnlyAs_array {items : List (List Char × Json)} (hne : items ≠ [])
    (hs : ∀ m ∈ items, Starts m.1) (hr : ∀ m ∈ items, ReadsOnlyAs m.1 m.2) :
    ReadsOnlyAs ('[' :: (commaSeparated (items.map Prod.fst) ++ [']']))
      (.array (items.map Prod.snd)) := by
  have hst : Starts (commaSeparated (items.map Prod.fst)) :=
    starts_commaSeparated (by simpa using hne) (List.forall_mem_map.mpr hs)
  refine readsOnlyAs_of_cons (by decide) fun _ hv => ?_
  rw [points_append, List.append_assoc] at hv
  rcases readValue_array_cases hv with ⟨hb, -⟩ | ⟨f, r, -, -, hi, -⟩
  · exact absurd (congrArg List.head? hb) (hst.head?_skip _ (by decide))
  · exact eq_of_readItems hne hr hi

theorem readsOnlyAs_object {members : List Member} (hne : members ≠ [])
    (hn : ∀ m ∈ members, Names m.nameText m.name)
    (hr : ∀ m ∈ members, ReadsOnlyAs m.valueText m.value) :
    ReadsOnlyAs ('\x7b' :: (commaSeparated (members.map Member.text) ++ ['\x7d']))
      (.object (Association.ofPairs (members.map Member.entry))) := by
  have hst : Starts (commaSeparated (members.map Member.text)) :=
    starts_commaSeparated (by simpa using hne)
      (List.forall_mem_map.mpr fun m hm => (hn m hm).starts.append _)
  refine readsOnlyAs_of_cons (by decide) fun _ hv => ?_
  rw [points_append, List.append_assoc] at hv
  rcases readValue_object_cases hv with ⟨hb, -⟩ | ⟨f, r, -, -, hi, -⟩
  · exact absurd (congrArg List.head? hb) (hst.head?_skip _ (by decide))
  · exact eq_of_readMembers hne hn hr hi

theorem ReadsOnlyAs.pad {before behind : List Char} (hb : Spaces before) (h : ReadsOnlyAs cs v)
    (ha : Spaces behind) : ReadsOnlyAs (before ++ cs ++ behind) v := by
  intro fuel room rest rest' w he hr
  rw [points_append, points_append, List.append_assoc, List.append_assoc,
    skip_points_append hb] at hr
  rw [Ends, ← skip_points_append ha] at he
  obtain ⟨rfl, hs⟩ := h he hr
  exact ⟨rfl, hs.trans (skip_points_append ha rest)⟩

theorem Denotes.readsOnlyAs (h : Denotes cs v) : ReadsOnlyAs cs v := by
  induction h with
  | null => exact readsOnlyAs_word (by decide) (by decide) (by decide) (by decide) fun _ _ => rfl
  | bool b =>
    cases b with
    | false =>
      exact readsOnlyAs_word (by decide) (by decide) (by decide) (by decide) fun _ _ => rfl
    | true =>
      exact readsOnlyAs_word (by decide) (by decide) (by decide) (by decide) fun _ _ => rfl
  | natural h => exact readsOnlyAs_integer false h
  | negative h => exact readsOnlyAs_integer true h
  | string h => exact readsOnlyAs_string h
  | emptyArray h => exact readsOnlyAs_emptyArray h
  | array hne hi ih => exact readsOnlyAs_array hne (fun m hm => (hi m hm).starts) ih
  | emptyObject h => exact readsOnlyAs_emptyObject h
  | object hne hn _ hmerges ih =>
    rw [Association.merges_iff.mp hmerges]
    exact readsOnlyAs_object hne hn ih
  | padded hb _ ha ih => exact ih.pad hb ha

end InvocationClient.Json
