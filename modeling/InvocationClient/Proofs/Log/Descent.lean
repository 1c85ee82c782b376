import InvocationClient.Log.Logger

/-! # Descent

Where the children of a logger stand in its hierarchy. A name that goes on behind the top's with one
dot hangs below it, whatever other loggers there are. With two dots it need not, and what was
decided for it then is kept.
-/

namespace InvocationClient

section Names

variable {known : List Char → Bool} {top rest : List Char} {c : Char}

theorem hangsBelow_dot :
    hangsBelow known top ('.' :: c :: rest) =
      if c :: rest = top then true
      else if known (c :: rest) then hangsBelow known top (c :: rest)
      else hangsBelow known top rest := by
  rw [hangsBelow]

theorem hangsBelow_cons (hc : c ≠ '.') :
    hangsBelow known top (c :: rest) = hangsBelow known top rest := by
  simp [hangsBelow, hc]

theorem hangsBelow_of_not_mem (h : '.' ∉ rest) : hangsBelow known top rest = false := by
  induction rest with
  | nil => rfl
  | cons c rest ih =>
    obtain ⟨hc, hr⟩ := not_or.mp (mt List.mem_cons.mpr h)
    rw [hangsBelow_cons (Ne.symm hc), ih hr]

theorem getLast?_ne_of_cons {x : Char} (h : (c :: rest).getLast? ≠ some x) :
    rest.getLast? ≠ some x := by
  cases rest with
  | nil => simp
  | cons d rest => rwa [List.getLast?_cons_cons] at h

/-- Names are given last character first, so the dot right behind the top's name is the last one of
what comes before that name. -/
theorem hangsBelow_of_single (ht : top ≠ []) (rest : List Char) (h : rest.getLast? ≠ some '.') :
    hangsBelow known top (rest ++ '.' :: top) = true := by
  match rest with
  | [] =>
    obtain ⟨c, cs, rfl⟩ := List.exists_cons_of_ne_nil ht
    rw [List.nil_append, hangsBelow_dot, if_pos rfl]
  | [c] =>
    have hc : c ≠ '.' := by simpa using h
    rw [List.cons_append, hangsBelow_cons hc]
    exact hangsBelow_of_single ht [] (by simp)
  | c :: d :: rest =>
    have hd : (d :: rest).getLast? ≠ some '.' := getLast?_ne_of_cons h
    have ih := hangsBelow_of_single ht (d :: rest) hd
    by_cases hc : c = '.'
    · subst hc
      rw [List.cons_append, List.cons_append, hangsBelow_dot, ← List.cons_append, ih,
        hangsBelow_of_single ht rest (getLast?_ne_of_cons hd)]
      simp
    · rw [List.cons_append, hangsBelow_cons hc, ih]

/-- With the name known that has two dots behind the top's, but not the one that has one, no name
with two dots there hangs below the top. -/
theorem hangsBelow_of_double (ht : '.' ∉ top) (h₁ : known ('.' :: top) = false)
    (h₂ : known ('.' :: '.' :: top) = true) (rest : List Char) (h : rest.getLast? = some '.') :
    hangsBelow known top (rest ++ '.' :: top) = false := by
  have hne : ∀ cs : List Char, cs ++ '.' :: top ≠ top := by
    intro cs hc
    have hl := congrArg List.length hc
    simp at hl
    omega
  match rest with
  | [] => cases h
  | [c] =>
    obtain rfl : c = '.' := by simpa using h
    have hn : '.' :: top ≠ top := hne []
    rw [List.cons_append, List.nil_append, hangsBelow_dot, if_neg hn, h₁, hangsBelow_of_not_mem ht]
    rfl
  | c :: d :: rest =>
    rw [List.getLast?_cons_cons] at h
    have ih := hangsBelow_of_double ht h₁ h₂ (d :: rest) h
    by_cases hc : c = '.'
    · subst hc
      have hn : d :: (rest ++ '.' :: top) ≠ top := hne (d :: rest)
      rw [List.cons_append, List.cons_append, hangsBelow_dot, if_neg hn, ← List.cons_append, ih]
      cases rest with
      | nil =>
        obtain rfl : d = '.' := by simpa using h
        simp [h₂]
      | cons e rest =>
        rw [List.getLast?_cons_cons] at h
        rw [hangsBelow_of_double ht h₁ h₂ (e :: rest) h]
        simp
    · rw [List.cons_append, hangsBelow_cons hc, ih]

end Names

/-- What the names of a chain of children add to the name of a logger. -/
def descent (ns : List String) : List Char := ns.flatMap fun n => '.' :: n.toList

/-- A chain that does not put two dots right behind the name it starts from. -/
def IsSteady (ns : List String) : Prop := ¬ ['.', '.'] <+: descent ns

instance (ns : List String) : Decidable (IsSteady ns) := inferInstanceAs (Decidable (¬ _))

section Chains

variable {p : Place} {ns : List String} {registry : Registry}

namespace Place

def top (h : Hierarchy) : Place := ⟨h, Registry.top h⟩

def descend (p : Place) (ns : List String) : Place := ns.foldl child p

@[simp] theorem descend_nil (p : Place) : p.descend [] = p := rfl

@[simp] theorem descend_cons (p : Place) (n : String) (ns : List String) :
    p.descend (n :: ns) = (p.child n).descend ns := rfl

theorem descend_eq (p : Place) (ns : List String) :
    p.descend ns = ⟨p.hierarchy, String.ofList (p.name.toList ++ descent ns)⟩ := by
  induction ns generalizing p with
  | nil => simp [descent]
  | cons n ns ih =>
    rw [descend_cons, ih]
    simp [child, descent]

theorem hierarchy_descend (p : Place) (ns : List String) :
    (p.descend ns).hierarchy = p.hierarchy := by
  rw [descend_eq]

theorem toList_name_descend (p : Place) (ns : List String) :
    (p.descend ns).name.toList = p.name.toList ++ descent ns := by
  rw [descend_eq, String.toList_ofList]

end Place

theorem descent_cons (n : String) (ns : List String) :
    descent (n :: ns) = '.' :: (n.toList ++ descent ns) := by
  simp [descent]

theorem isSteady_cons_iff {n : String} :
    IsSteady (n :: ns) ↔ (n.toList ++ descent ns).head? ≠ some '.' := by
  rw [IsSteady, descent_cons]
  cases n.toList ++ descent ns with
  | nil => simp
  | cons c cs => simp [eq_comm]

example : IsSteady ["x."] ∧ ¬ IsSteady ["", "x"] := by decide

namespace Registry

theorem reaches_descend {h : Hierarchy} (ht : top h ≠ "") (hs : IsSteady ns) (registry : Registry) :
    registry.reaches ((Place.top h).descend ns) = true := by
  cases ns with
  | nil => exact reaches_top registry h
  | cons n ns =>
    have hl := isSteady_cons_iff.mp hs
    have hn : (top h).toList.reverse ≠ [] := by simpa using ht
    have hb : hangsBelow (fun name => registry.known.contains ⟨h, String.ofList name.reverse⟩)
        (top h).toList.reverse ((n.toList ++ descent ns).reverse ++ '.' :: (top h).toList.reverse) =
          true := by
      apply hangsBelow_of_single hn
      rwa [List.getLast?_reverse]
    rw [reaches, Place.hierarchy_descend, Place.toList_name_descend, descent_cons,
      List.reverse_append, List.reverse_cons, List.append_assoc, List.singleton_append]
    simp only [Place.top, hb, Bool.or_true]

end Registry

namespace Logger

theorem foldl_child_named (p : Place) (own : Level) (ns : List String) :
    ns.foldl child ⟨.named p, own⟩ = ⟨.named (p.descend ns), own⟩ := by
  induction ns generalizing p with
  | nil => rfl
  | cons n ns ih =>
    rw [List.foldl_cons, Place.descend_cons]
    exact ih (p.child n)

theorem foldl_child_default (own : Level) (ns : List String) :
    ns.foldl child ⟨.default, own⟩ = ⟨.named ((Place.top .process).descend ns), own⟩ :=
  foldl_child_named (Place.top .process) own ns

end Logger

end Chains

end InvocationClient
