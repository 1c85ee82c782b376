import InvocationClient.Proofs.Log.Acts
import InvocationClient.Proofs.Log.Descent
import InvocationClient.Proofs.Log.Emission

/-! # Straying

Messages of a chain that puts two dots behind the name of the default logger may not get there:
that depends on the other loggers there were when its last logger was first asked. For each such
chain there is a process in which they are lost.
-/

namespace InvocationClient

namespace Act

/-- Makes the logger whose name ends in two dots, and asks one further down before there is the one
whose name ends in the first of them. -/
def detour (ns : List String) : List Act :=
  [.bind none .debug, .spawn 0 ".", .spawn 0 (String.ofList (descent ns).tail),
    .emit 2 .debug ⟨"", []⟩]

/-- Makes the loggers of a chain only after the last of them has been asked. -/
def straying (ns : List String) : List Act := detour ns ++ chain 0 3 ns

theorem latest?_straying (ns : List String) : latest? (straying ns) = some .debug := by
  have hc : (chain 0 3 ns).filterMap sets? = [] := by
    rw [List.filterMap_eq_nil_iff]
    intro a ha
    exact sets?_of_mem_chain ha
  rw [latest?, straying, List.filterMap_append, hc]
  rfl

end Act

namespace Registry

variable {ns : List String}

def stray (ns : List String) : Registry :=
  ((({} : Registry).enable .debug).enrol ((Place.top .process).child ".")).enrol
    ((Place.top .process).descend ns)

theorem known_stray_iff {p : Place} :
    (stray ns).known.contains p = true ↔
      p = (Place.top .process).descend ns ∨ p = (Place.top .process).child "." := by
  rw [List.contains_iff_mem, stray, mem_known_enrol, mem_known_enrol]
  exact or_congr_right (or_iff_left List.not_mem_nil)

theorem toList_name_of_not_steady (h : ¬ IsSteady ns) :
    ∃ rest, ((Place.top .process).descend ns).name.toList =
      defaultName.toList ++ '.' :: '.' :: rest := by
  obtain ⟨rest, hr⟩ := Decidable.not_not.mp h
  refine ⟨rest, ?_⟩
  rw [Place.toList_name_descend, ← hr]
  rfl

theorem not_reaches_stray (h : ¬ IsSteady ns) :
    (stray ns).reaches ((Place.top .process).descend ns) = false := by
  obtain ⟨rest, hn⟩ := toList_name_of_not_steady h
  have hl : ((Place.top .process).descend ns).name.toList.length =
      defaultName.toList.length + (rest.length + 2) := by
    rw [hn, List.length_append, List.length_cons, List.length_cons]
  have h₁ : ¬ (stray ns).known.contains
      ⟨.process, String.ofList ('.' :: defaultName.toList.reverse).reverse⟩ = true := by
    rw [known_stray_iff]
    rintro (he | he)
    · have hs := congrArg (fun p => p.name.toList.length) he
      simp only [hl, String.toList_ofList, List.length_reverse, List.length_cons] at hs
      omega
    · exact absurd he (by decide)
  have h₂ : (stray ns).known.contains
      ⟨.process, String.ofList ('.' :: '.' :: defaultName.toList.reverse).reverse⟩ = true := by
    rw [known_stray_iff]
    exact .inr (by decide)
  have hb : hangsBelow
      (fun name => (stray ns).known.contains ⟨.process, String.ofList name.reverse⟩)
      defaultName.toList.reverse ((rest.reverse ++ ['.']) ++ '.' :: defaultName.toList.reverse) =
        false := by
    apply hangsBelow_of_double
    · decide
    · exact Bool.eq_false_iff.mpr h₁
    · exact h₂
    · exact List.getLast?_concat
  have ht : ((Place.top .process).descend ns).name ≠ top .process := by
    intro he
    rw [he] at hl
    simp [top] at hl
  have hrev : ((Place.top .process).descend ns).name.toList.reverse =
      (rest.reverse ++ ['.']) ++ '.' :: defaultName.toList.reverse := by
    rw [hn]
    simp
  rw [reaches, Place.hierarchy_descend, Bool.or_eq_false_iff]
  constructor
  · exact decide_eq_false ht
  · rw [hrev]
    exact hb

theorem not_admits_stray (h : ¬ IsSteady ns) :
    (stray ns).admits ((Place.top .process).descend ns) .debug = false := by
  have hd : (stray ns).decided = [] := by
    rw [stray, decided_enrol, decided_enrol]
    rfl
  rw [admits, hd, Association.get?_nil, not_reaches_stray h]
  rfl

end Registry

theorem Logger.emit_of_not_admits {registry : Registry} {p : Place} {level : Level}
    (h : registry.admits p level = false) (own : Level) (m : Message) :
    (⟨.named p, own⟩ : Logger).emit registry level m = [] := by
  rw [emit_eq]
  simp only [Sink.deliver, Place.deliver, h]
  exact ite_self []

namespace Logging

variable {ns : List String}

theorem child_tail_descent (h : ¬ IsSteady ns) :
    (Place.top .process).child (String.ofList (descent ns).tail) =
      (Place.top .process).descend ns := by
  obtain ⟨rest, hr⟩ := Decidable.not_not.mp h
  rw [Place.descend_eq, ← hr, Place.child, Place.mk.injEq]
  refine ⟨rfl, ?_⟩
  apply String.toList_inj.mp
  simp

theorem registry_detour (h : ¬ IsSteady ns) :
    (run (Act.detour ns)).registry =
      (Registry.stray ns).remember ((Place.top .process).descend ns) .debug := by
  rw [Registry.stray, ← child_tail_descent h]
  rfl

/-- Where the chain is not steady, all messages of its last logger can be lost. -/
theorem lost_of_not_steady (h : ¬ IsSteady ns) :
    ∃ i : Nat, (run (Act.straying ns)).made[i]? = some (ns.foldl Logger.child ⟨.default, .debug⟩) ∧
      ∀ m, ((run (Act.straying ns)).perform (.emit i .debug m)).records =
        (run (Act.straying ns)).records := by
  have hrun : run (Act.straying ns) = (run (Act.detour ns)).performAll (Act.chain 0 3 ns) :=
    List.foldl_append
  have hroot : (run (Act.detour ns)).made[0]? = some ⟨.default, .debug⟩ := rfl
  obtain ⟨i, hi⟩ := made_chain hroot ns
  have hd : (run (Act.straying ns)).registry.decided =
      ((Registry.stray ns).remember ((Place.top .process).descend ns) .debug).decided := by
    rw [hrun, decided_chain, registry_detour h]
  have ha : (run (Act.straying ns)).registry.admits ((Place.top .process).descend ns) .debug =
      false := by
    rw [Registry.admits, hd, Registry.remember, Association.get?_put, if_pos rfl]
    exact Registry.not_admits_stray h
  refine ⟨i, hrun ▸ hi, ?_⟩
  intro m
  rw [records_perform_emit (hrun ▸ hi), Logger.foldl_child_default, Logger.emit_of_not_admits ha,
    List.append_nil]

end Logging

end InvocationClient
