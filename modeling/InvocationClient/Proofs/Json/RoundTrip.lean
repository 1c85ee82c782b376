import InvocationClient.Json.Document
import InvocationClient.Proofs.Json.Numerals
import InvocationClient.Proofs.Text.Utf8

/-! # Values that are read back

A value without doubles is read back from what is written of it, if its integers are short enough,
its strings hold no surrogates and the names of each of its objects differ. This is by induction on
the value, with whatever can follow it; so it holds of a document, as a text and in bytes.
-/

namespace InvocationClient.Json

open Text Number

variable {v : Json} {items : List Json} {members done : List (List CodePoint × Json)}
  {rest s : List CodePoint} {fuel room : Nat}

/-- Values that nothing is lost of when they are written. -/
inductive Faithful : Json → Prop where
  | null : Faithful .null
  | bool (b : Bool) : Faithful (.bool b)
  | integer {n : Int} : isWritable n = true → Faithful (.integer n)
  | string {s : List CodePoint} : Scalars s → Faithful (.string s)
  | array {items : List Json} : (∀ v ∈ items, Faithful v) → Faithful (.array items)
  | object {members : List (List CodePoint × Json)} : (∀ m ∈ members, Scalars m.1) →
      (∀ m ∈ members, Faithful m.2) → (members.map Prod.fst).Nodup → Faithful (.object members)

theorem faithful_text (s : String) : Faithful (.text s) := .string (scalars_codePoints s)

theorem faithful_record {ms : List (String × Json)} (hv : ∀ m ∈ ms, Faithful m.2)
    (hk : (ms.map Prod.fst).Nodup) : Faithful (.record ms) := by
  refine .object (List.forall_mem_map.mpr fun m _ => scalars_codePoints m.1)
    (List.forall_mem_map.mpr hv) ?_
  rw [List.map_map, List.Nodup, List.pairwise_map]
  exact (List.pairwise_map.mp hk).imp fun hn he => hn (codePoints_inj.mp he)

/-- The text of a value is read as it, with fuel for its length and levels for its depth. -/
def Reads (v : Json) : Prop :=
  ∀ (fuel room : Nat) (rest : List CodePoint), 2 * (chars v).length ≤ fuel → depth v ≤ room →
    Closed rest → readValue fuel room (points (chars v) ++ rest) = .ok (v, rest)

/-- Text that begins neither with space nor with the end of an array. -/
def Opens (cs : List Char) : Prop :=
  ∃ c more, cs = c :: more ∧ isSpace (CodePoint.ofChar c) = false ∧
    is ']' (CodePoint.ofChar c) = false

theorem opens_cons {c : Char} (h : isSpace (CodePoint.ofChar c) = false)
    (h' : is ']' (CodePoint.ofChar c) = false) (more : List Char) : Opens (c :: more) :=
  ⟨c, more, rfl, h, h'⟩

theorem Opens.append {cs : List Char} (h : Opens cs) (ds : List Char) : Opens (cs ++ ds) := by
  obtain ⟨c, more, rfl, hs, hb⟩ := h
  exact opens_cons hs hb (more ++ ds)

theorem opens_repr (n : Int) : Opens n.repr.toList := by
  obtain ⟨c, more, hc, hn⟩ := exists_repr_cons n
  rw [hc]
  exact opens_cons (isSpace_eq_false_of_numeral hn)
    (is_eq_false_of_numeral hn (by decide) (by decide)) more

theorem opens_chars (h : Faithful v) : Opens (chars v) := by
  cases h with
  | null => exact opens_cons (by decide) (by decide) _
  | bool b => cases b <;> exact opens_cons (by decide) (by decide) _
  | integer => exact opens_repr _
  | string => exact opens_cons (by decide) (by decide) _
  | array => exact opens_cons (by decide) (by decide) _
  | object => exact opens_cons (by decide) (by decide) _

theorem skip_space (s : List CodePoint) : skip (CodePoint.ofChar ' ' :: s) = skip s := by
  rw [skip, List.dropWhile_cons_of_pos (by decide), ← skip]

theorem skip_of_opens {cs : List Char} (h : Opens cs) (s : List CodePoint) :
    skip (points cs ++ s) = points cs ++ s := by
  obtain ⟨c, more, rfl, hs, -⟩ := h
  exact skip_cons hs _

section Items

theorem itemChars_one (v : Json) : itemChars [v] = chars v ++ [']'] := rfl

theorem itemChars_more (v w : Json) (items : List Json) :
    itemChars (v :: w :: items) = chars v ++ ',' :: ' ' :: itemChars (w :: items) := rfl

theorem opens_itemChars (h : Opens (chars v)) (items : List Json) :
    Opens (itemChars (v :: items)) := by
  cases items with
  | nil => exact h.append _
  | cons w items => exact h.append _

/-- The items of an array are read one by one, behind those that have been read. -/
theorem readItems_itemChars {done : List Json} (hne : items ≠ [])
    (hr : ∀ v ∈ items, Reads v) (ho : ∀ v ∈ items, Opens (chars v))
    (hf : 2 * (itemChars items).length ≤ fuel) (hd : itemsDepth items ≤ room) :
    readItems fuel room done (points (itemChars items) ++ rest) =
      .ok (.array (done.reverse ++ items), rest) := by
  have hb : isSpace (CodePoint.ofChar ']') = false := by decide
  have hc : isSpace (CodePoint.ofChar ',') = false := by decide
  -- an item takes one unit of fuel for itself, which the mark behind it pays for
  induction items generalizing fuel done with
  | nil => exact absurd rfl hne
  | cons v vs ih =>
    obtain ⟨hv, hvs⟩ := List.forall_mem_cons.mp hr
    obtain ⟨-, hos⟩ := List.forall_mem_cons.mp ho
    obtain ⟨hdv, hdvs⟩ := Nat.max_le.mp hd
    cases vs with
    | nil =>
      simp only [itemChars_one, List.length_append, List.length_singleton] at hf
      obtain ⟨f, rfl⟩ : ∃ f, fuel = f + 1 := ⟨fuel - 1, by omega⟩
      have hx := hv f room (CodePoint.ofChar ']' :: rest) (by omega) hdv (closed_bracket rest)
      rw [itemChars_one, points_append, List.append_assoc, readItems]
      simp only [points_cons, points_nil, List.cons_append, List.nil_append, hx, skip_cons hb]
      rw [if_pos (by decide), List.reverse_cons]
    | cons w ws =>
      simp only [itemChars_more, List.length_append, List.length_cons] at hf
      obtain ⟨f, rfl⟩ : ∃ f, fuel = f + 1 := ⟨fuel - 1, by omega⟩
      have hx := hv f room (CodePoint.ofChar ',' :: CodePoint.ofChar ' ' ::
        (points (itemChars (w :: ws)) ++ rest)) (by omega) hdv (closed_comma _)
      have ho' := opens_itemChars (hos w List.mem_cons_self) ws
      rw [itemChars_more, points_append, List.append_assoc, readItems]
      simp only [points_cons, List.cons_append, hx, skip_cons hc, skip_space, skip_of_opens ho']
      rw [if_neg (by decide), if_pos (by decide),
        ih (List.cons_ne_nil w ws) hvs hos (by omega) hdvs, List.reverse_cons, List.append_assoc]
      rfl

end Items

section Members

variable {k : List CodePoint}

theorem memberChars_one (k : List CodePoint) (v : Json) :
    memberChars [(k, v)] = quote k ++ ':' :: ' ' :: (chars v ++ ['\x7d']) := by
  rw [memberChars, List.append_assoc, List.cons_append, List.cons_append]

theorem memberChars_more (k : List CodePoint) (v : Json) (m : List CodePoint × Json)
    (members : List (List CodePoint × Json)) :
    memberChars ((k, v) :: m :: members) =
      quote k ++ ':' :: ' ' :: (chars v ++ ',' :: ' ' :: memberChars (m :: members)) := by
  change quote k ++ ':' :: ' ' :: chars v ++ ',' :: ' ' :: memberChars (m :: members) = _
  rw [List.append_assoc, List.cons_append, List.cons_append]

theorem exists_memberChars (m : List CodePoint × Json) (members : List (List CodePoint × Json)) :
    ∃ more, memberChars (m :: members) = '"' :: more := by
  cases members with
  | nil => exact ⟨_, memberChars_one m.1 m.2⟩
  | cons m' members => exact ⟨_, memberChars_more m.1 m.2 m' members⟩

theorem opens_memberChars (m : List CodePoint × Json) (members : List (List CodePoint × Json)) :
    Opens (memberChars (m :: members)) := by
  obtain ⟨more, he⟩ := exists_memberChars m members
  rw [he]
  exact opens_cons (by decide) (by decide) more

theorem readMembers_member {done : List (List CodePoint × Json)} {p : CodePoint}
    {more : List CodePoint} (hk : Scalars k) (ho : Opens (chars v)) (hp : isSpace p = false)
    (hv : readValue fuel room (points (chars v) ++ p :: more) = .ok (v, p :: more)) :
    readMembers (fuel + 1) room done
        (points (quote k) ++ CodePoint.ofChar ':' :: CodePoint.ofChar ' ' ::
          (points (chars v) ++ p :: more)) =
      if is '\x7d' p then .ok (.object (Association.put k v done), more)
      else if is ',' p then readMembers fuel room (Association.put k v done) (skip more)
      else fail room .comma (p :: more) := by
  have hc : isSpace (CodePoint.ofChar ':') = false := by decide
  have hq : is '"' (CodePoint.ofChar '"') = true := by decide
  have hn : is ':' (CodePoint.ofChar ':') = true := by decide
  have hh : (points (quote k) ++ CodePoint.ofChar ':' :: CodePoint.ofChar ' ' ::
      (points (chars v) ++ p :: more)).head?.any (is '"') = true := hq
  rw [readMembers]
  simp only [hh, readQuoted_quote hk, skip_cons hc, skip_space, skip_of_opens ho, hn, hv,
    skip_cons hp, Bool.not_true, Bool.false_eq_true, if_false]

/-- The members of an object are read one by one, with a new name each. -/
theorem readMembers_memberChars {done : List (List CodePoint × Json)} (hne : members ≠ [])
    (hs : ∀ m ∈ members, Scalars m.1) (hr : ∀ m ∈ members, Reads m.2)
    (ho : ∀ m ∈ members, Opens (chars m.2)) (hk : ((done ++ members).map Prod.fst).Nodup)
    (hf : 2 * (memberChars members).length ≤ fuel) (hd : membersDepth members ≤ room) :
    readMembers fuel room done (points (memberChars members) ++ rest) =
      .ok (.object (done ++ members), rest) := by
  have hb : isSpace (CodePoint.ofChar '\x7d') = false := by decide
  have hc : isSpace (CodePoint.ofChar ',') = false := by decide
  induction members generalizing fuel done with
  | nil => exact absurd rfl hne
  | cons m ms ih =>
    obtain ⟨k, v⟩ := m
    obtain ⟨hsk, hss⟩ := List.forall_mem_cons.mp hs
    obtain ⟨hv, hvs⟩ := List.forall_mem_cons.mp hr
    change Reads v at hv
    obtain ⟨hov, hos⟩ := List.forall_mem_cons.mp ho
    obtain ⟨hdv, hdvs⟩ := Nat.max_le.mp hd
    have hnew : k ∉ done.map Prod.fst := by
      rw [List.map_append, List.map_cons] at hk
      exact fun hm => (List.nodup_append.mp hk).2.2 k hm k List.mem_cons_self rfl
    have hput := Association.put_of_not_mem hnew v
    cases ms with
    | nil =>
      simp only [memberChars_one, List.length_append, List.length_cons] at hf
      obtain ⟨f, rfl⟩ : ∃ f, fuel = f + 1 := ⟨fuel - 1, by omega⟩
      have hx := hv f room (CodePoint.ofChar '\x7d' :: rest) (by omega) hdv (closed_brace rest)
      simp only [memberChars_one, points_append, points_cons, points_nil, List.append_assoc,
        List.cons_append, List.nil_append]
      rw [readMembers_member hsk hov hb hx, hput]
      rfl
    | cons m' ms =>
      simp only [memberChars_more, List.length_append, List.length_cons] at hf
      obtain ⟨f, rfl⟩ : ∃ f, fuel = f + 1 := ⟨fuel - 1, by omega⟩
      have hx := hv f room (CodePoint.ofChar ',' :: CodePoint.ofChar ' ' ::
        (points (memberChars (m' :: ms)) ++ rest)) (by omega) hdv (closed_comma _)
      have hk' : ((done ++ [(k, v)] ++ m' :: ms).map Prod.fst).Nodup := by
        rwa [List.append_assoc]
      have hih : readMembers f room (done ++ [(k, v)]) (points (memberChars (m' :: ms)) ++ rest) =
          .ok (.object (done ++ [(k, v)] ++ m' :: ms), rest) :=
        ih (List.cons_ne_nil m' ms) hss hvs hos hk' (by omega) hdvs
      simp only [memberChars_more, points_append, points_cons, List.append_assoc, List.cons_append]
      rw [readMembers_member hsk hov hc hx, hput, skip_space,
        skip_of_opens (opens_memberChars m' ms), if_neg (by decide), if_pos (by decide), hih,
        List.append_assoc]
      rfl

end Members

section Values

/-- The bracket of an array or the brace of an object pays for reading on. -/
theorem exists_fuel {n : Nat} (h : 2 * (n + 1) ≤ fuel) : ∃ f, fuel = f + 1 ∧ 2 * n + 1 ≤ f :=
  ⟨fuel - 1, by omega, by omega⟩

theorem reads_scalar {c : Char} {more : List Char} (hc : chars v = c :: more)
    (hq : is '"' (CodePoint.ofChar c) = false) (ha : is '[' (CodePoint.ofChar c) = false)
    (ho : is '\x7b' (CodePoint.ofChar c) = false)
    (hv : ∀ room rest, Closed rest →
      readScalar room (points (chars v) ++ rest) = .ok (v, rest)) : Reads v := by
  intro fuel room rest hf hd hr
  have hs := hv room rest hr
  rw [hc] at hf hs ⊢
  obtain ⟨f, rfl, -⟩ := exists_fuel hf
  rw [points_cons, List.cons_append] at hs ⊢
  rw [readValue.eq_def]
  simp only [hq, ha, ho, Bool.false_eq_true, if_false, hs]

theorem reads_string (hs : Scalars s) : Reads (.string s) := by
  have hq : is '"' (CodePoint.ofChar '"') = true := by decide
  intro fuel room rest hf hd hr
  obtain ⟨f, rfl, -⟩ := exists_fuel hf
  have hx : readQuoted room (points (chars (.string s)) ++ rest) = .ok (s, rest) :=
    readQuoted_quote hs
  obtain ⟨more, hm⟩ : ∃ more, points (chars (.string s)) ++ rest = CodePoint.ofChar '"' :: more :=
    ⟨_, rfl⟩
  rw [hm] at hx ⊢
  rw [readValue.eq_def]
  simp only [hq, if_true, hx]
  rfl

theorem reads_array (hr : ∀ v ∈ items, Reads v) (ho : ∀ v ∈ items, Opens (chars v)) :
    Reads (.array items) := by
  have hq : is '"' (CodePoint.ofChar '[') = false := by decide
  have hb : is '[' (CodePoint.ofChar '[') = true := by decide
  intro fuel room rest hf hd hc
  change 2 * ((itemChars items).length + 1) ≤ fuel at hf
  change itemsDepth items + 1 ≤ room at hd
  obtain ⟨f, rfl, hf⟩ := exists_fuel hf
  obtain ⟨room, rfl⟩ : ∃ r, room = r + 1 := ⟨room - 1, by omega⟩
  rw [chars, points_cons, List.cons_append, readValue.eq_def]
  simp only [hq, hb, Bool.false_eq_true, if_false, if_true]
  cases items with
  | nil => rfl
  | cons v vs =>
    have ho' := opens_itemChars (ho v List.mem_cons_self) vs
    have hx : readItems f room [] (points (itemChars (v :: vs)) ++ rest) =
        .ok (.array (v :: vs), rest) :=
      readItems_itemChars (List.cons_ne_nil v vs) hr ho (by omega) (Nat.le_of_succ_le_succ hd)
    rw [skip_of_opens ho']
    obtain ⟨c, more, he, -, hn⟩ := ho'
    rw [he, points_cons, List.cons_append] at hx ⊢
    simp only [hn, Bool.false_eq_true, if_false, hx]

theorem reads_object (hs : ∀ m ∈ members, Scalars m.1) (hr : ∀ m ∈ members, Reads m.2)
    (ho : ∀ m ∈ members, Opens (chars m.2)) (hk : (members.map Prod.fst).Nodup) :
    Reads (.object members) := by
  have hq : is '"' (CodePoint.ofChar '\x7b') = false := by decide
  have ha : is '[' (CodePoint.ofChar '\x7b') = false := by decide
  have hb : is '\x7b' (CodePoint.ofChar '\x7b') = true := by decide
  have hn : is '\x7d' (CodePoint.ofChar '"') = false := by decide
  intro fuel room rest hf hd hc
  change 2 * ((memberChars members).length + 1) ≤ fuel at hf
  change membersDepth members + 1 ≤ room at hd
  obtain ⟨f, rfl, hf⟩ := exists_fuel hf
  obtain ⟨room, rfl⟩ : ∃ r, room = r + 1 := ⟨room - 1, by omega⟩
  rw [chars, points_cons, List.cons_append, readValue.eq_def]
  simp only [hq, ha, hb, Bool.false_eq_true, if_false, if_true]
  cases members with
  | nil => rfl
  | cons m ms =>
    have hx : readMembers f room [] (points (memberChars (m :: ms)) ++ rest) =
        .ok (.object (m :: ms), rest) :=
      readMembers_memberChars (List.cons_ne_nil m ms) hs hr ho hk (by omega)
        (Nat.le_of_succ_le_succ hd)
    rw [skip_of_opens (opens_memberChars m ms)]
    obtain ⟨more, he⟩ := exists_memberChars m ms
    rw [he, points_cons, List.cons_append] at hx ⊢
    simp only [hn, Bool.false_eq_true, if_false, hx]

theorem reads_integer {n : Int} (hw : isWritable n = true) : Reads (.integer n) := by
  obtain ⟨c, more, hc, hn⟩ := exists_repr_cons n
  exact reads_scalar hc (is_eq_false_of_numeral hn (by decide) (by decide))
    (is_eq_false_of_numeral hn (by decide) (by decide))
    (is_eq_false_of_numeral hn (by decide) (by decide)) fun room rest hr =>
      readScalar_repr room hw hr

/-- Every such value is read back, wherever it stands. -/
theorem Faithful.reads (h : Faithful v) : Reads v := by
  induction h with
  | null => exact reads_scalar rfl (by decide) (by decide) (by decide) fun _ _ _ => rfl
  | bool b =>
    cases b with
    | false => exact reads_scalar rfl (by decide) (by decide) (by decide) fun _ _ _ => rfl
    | true => exact reads_scalar rfl (by decide) (by decide) (by decide) fun _ _ _ => rfl
  | integer hw => exact reads_integer hw
  | string hs => exact reads_string hs
  | array hi ih => exact reads_array ih fun v hm => opens_chars (hi v hm)
  | object hs hm hk ih => exact reads_object hs ih (fun m hmm => opens_chars (hm m hmm)) hk

end Values

end InvocationClient.Json
