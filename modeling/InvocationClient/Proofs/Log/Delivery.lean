import InvocationClient.Proofs.Log.DefaultLogger
import InvocationClient.Proofs.Log.Recording

/-! # Delivery

A message that a logger does not drop is handed to its sink once, however many children lie between
it and the logger that was given the sink. An object is called at one entry point at most, also if
that raises. Under the name of a named logger there is a record if its level lets the message
through and the message has a text, unless the chain of children goes astray. Below a root no chain
does.
-/

namespace InvocationClient

section Calls

/-- A call of an entry point. The one for all levels is told the level by its severity. -/
inductive Hooks.Call where
  | general (severity : Nat)
  | perLevel (level : Level)
  deriving DecidableEq, Repr

def Level.ofSeverity? (n : Nat) : Option Level :=
  all.find? (·.severity = n)

@[simp] theorem Level.ofSeverity?_severity (l : Level) : ofSeverity? l.severity = some l := by
  cases l <;> decide

def Delivery.all (ds : List Delivery) : Delivery where
  records := ds.flatMap records
  raised := ds.any raised

@[simp] theorem Delivery.all_nil : all [] = {} := rfl

@[simp] theorem Delivery.all_singleton (d : Delivery) : all [d] = d := by
  simp [all]

namespace Hooks

variable {hooks : Hooks} {level : Level}

/-- What a call comes to. There is nothing to an entry point that an object does not have. -/
def answer (hooks : Hooks) (m : Message) : Call → Delivery
  | .general n =>
    match Level.ofSeverity? n, hooks.general with
    | some level, some entry => entry.receive (.general level) m
    | _, _ => {}
  | .perLevel level =>
    match hooks.perLevel level with
    | some entry => entry.receive (.perLevel level) m
    | none => {}

def calls (hooks : Hooks) (level : Level) : List Call :=
  if hooks.general.isSome then [.general level.severity]
  else if (hooks.perLevel level).isSome then [.perLevel level]
  else []

end Hooks

theorem Sink.deliver_object (registry : Registry) (hooks : Hooks) (level : Level) (m : Message) :
    (object hooks).deliver registry level m =
      .all ((hooks.calls level).map (hooks.answer m)) := by
  cases hg : hooks.general with
  | some entry => simp [deliver, Hooks.calls, Hooks.answer, hg]
  | none =>
    cases hp : hooks.perLevel level with
    | some entry => simp [deliver, Hooks.calls, Hooks.answer, hg, hp]
    | none => simp [deliver, Hooks.calls, hg, hp]

end Calls

section Once

theorem Delivery.length_ofText? (record : String → Record) (text : Option String) :
    (Delivery.ofText? record text).records.length ≤ 1 := by
  cases text with
  | none => exact Nat.zero_le 1
  | some text => exact Nat.le_refl 1

theorem EntryPoint.length_receive (entry : EntryPoint) (record : String → Record) (m : Message) :
    (entry.receive record m).records.length ≤ 1 := by
  cases entry with
  | working => exact Delivery.length_ofText? record _
  | broken => exact Nat.le_refl 1

theorem Sink.length_deliver (registry : Registry) (level : Level) (m : Message) (s : Sink) :
    (s.deliver registry level m).records.length ≤ 1 := by
  induction s with
  | object hooks =>
    simp only [deliver]
    split
    · exact EntryPoint.length_receive ..
    split
    · exact EntryPoint.length_receive ..
    · exact Nat.zero_le 1
  | root key least =>
    simp only [deliver]
    split
    · exact Nat.zero_le 1
    · exact Delivery.length_ofText? ..
  | named place =>
    simp only [deliver, Place.deliver]
    split
    · exact Nat.zero_le 1
    split
    · exact Delivery.length_ofText? ..
    split
    · exact Delivery.length_ofText? ..
    · exact Nat.zero_le 1
  | filtered sink least ih =>
    simp only [deliver]
    split
    · exact Nat.zero_le 1
    · exact ih

/-- The loggers of a process are as before, and emit what they would have emitted. -/
structure Registry.Unchanged (r r' : Registry) : Prop where
  level : r'.level = r.level
  handlers : r'.handlers = r.handlers
  known : r'.known = r.known
  emit : ∀ (l : Logger) (level : Level) (m : Message), l.emit r' level m = l.emit r level m

/-- An emission raises nothing, changes no logger and leaves one record at most. -/
structure Logger.IsHarmless (registry : Registry) (l : Logger) (level : Level) (m : Message) :
    Prop where
  quiet : (l.toSink.deliver registry level m).raised = false
  unchanged : registry.Unchanged (l.remember registry level)
  once : (l.emit registry level m).length ≤ 1

namespace Logger

variable {registry : Registry} {l : Logger} {level : Level}

theorem unchanged_remember : registry.Unchanged (l.remember registry level) := by
  have he : ∀ (k : Logger) (n : Level) (m : Message),
      k.emit (l.remember registry level) n m = k.emit registry n m := fun k n m =>
    emit_remember registry l k level n m
  rcases l.remember_eq_or registry level with h | ⟨p, h⟩
  · rw [h]
    exact ⟨rfl, rfl, rfl, fun k n m => rfl⟩
  · rw [h] at he ⊢
    exact ⟨rfl, rfl, rfl, he⟩

theorem isHarmless (registry : Registry) (l : Logger) (level : Level) (m : Message) :
    l.IsHarmless registry level m where
  quiet := raised_deliver_toSink level m
  unchanged := unchanged_remember
  once := by
    rw [emit_eq]
    split
    · exact Nat.zero_le 1
    · exact Sink.length_deliver registry level m l.sink

end Logger

end Once

section Chains

variable {registry : Registry} {h : Hierarchy} {ns : List String}

theorem Logger.level_foldl_child (l : Logger) (ns : List String) :
    (ns.foldl child l).level = l.level := by
  induction ns generalizing l with
  | nil => rfl
  | cons n ns ih => exact ih (l.child n)

theorem Place.name_descend (p : Place) (ns : List String) :
    (p.descend ns).name = ".".intercalate (p.name :: ns) := by
  induction ns generalizing p with
  | nil => rfl
  | cons n ns ih => exact ih (p.child n)

theorem Place.descend_eq_intercalate (p : Place) (ns : List String) :
    p.descend ns = ⟨p.hierarchy, ".".intercalate (p.name :: ns)⟩ := by
  rw [← name_descend, ← hierarchy_descend p ns]

theorem hangsBelow_nil (known : List Char → Bool) (name : List Char) :
    hangsBelow known [] name = false := by
  match name with
  | [] => rfl
  | [c] => simp [hangsBelow]
  | c :: d :: rest =>
    by_cases hc : c = '.'
    · subst hc
      rw [hangsBelow_dot, if_neg (List.cons_ne_nil d rest), hangsBelow_nil known (d :: rest),
        hangsBelow_nil known rest, ite_self]
    · rw [hangsBelow_cons hc, hangsBelow_nil known (d :: rest)]

theorem Registry.not_reaches_of_nameless (ht : top h = "") (hn : ns ≠ []) (registry : Registry) :
    registry.reaches ((Place.top h).descend ns) = false := by
  have hr : h.isRooted = false := by
    cases h with
    | rooted key least => exact absurd (show rootName = "" from ht) (by decide)
    | _ => rfl
  obtain ⟨n, ns, rfl⟩ := List.exists_cons_of_ne_nil hn
  have hd : ((Place.top h).descend (n :: ns)).name ≠ "" := by
    intro he
    have hl := congrArg String.toList he
    rw [Place.toList_name_descend, descent_cons] at hl
    simp at hl
  have hh : top (Place.top h).hierarchy = "" := ht
  rw [reaches, Place.hierarchy_descend, Bool.or_eq_false_iff, Bool.or_eq_false_iff, hh]
  exact ⟨⟨hr, decide_eq_false hd⟩, hangsBelow_nil _ _⟩

theorem Place.stray_of_not_reaches {p : Place} (hp : registry.reaches p = false) {level : Level}
    {m : Message} {r : Record} (hr : r ∈ (p.deliver registry level m).records) :
    ∃ text, r = .stray text := by
  simp only [deliver, hp] at hr
  split at hr
  · cases hr
  split at hr
  · next hl => cases hl
  split at hr
  · cases ht : m.formatIfNeeded? with
    | none =>
      rw [ht] at hr
      cases hr
    | some text =>
      rw [ht] at hr
      exact ⟨text, List.mem_singleton.mp hr⟩
  · cases hr

end Chains

theorem Logger.foldl_child_root (key least : Nat) (own : Level) (n : String) (ns : List String) :
    (n :: ns).foldl child ⟨.root key least, own⟩ =
      ⟨.named ⟨.rooted key least, ".".intercalate (n :: ns)⟩, own⟩ := by
  rw [List.foldl_cons, ← Place.descend_eq_intercalate ⟨.rooted key least, n⟩]
  exact foldl_child_named ⟨.rooted key least, n⟩ own ns

namespace Logging

variable {p : Place} {h : Hierarchy} {acts : List Act} {i : Nat} {ns : List String}

/-- The least severity that the top of a hierarchy takes. As long as the default logger has no level
that is the one of the root above it. -/
def threshold (acts : List Act) : Hierarchy → Nat
  | .process => ((Act.latest? acts).getD .warn).severity
  | .own _ _ least => least
  | .rooted _ least => least

/-- What a text appears as. As long as the default logger has no level it has no handler either. -/
def shown (acts : List Act) (h : Hierarchy) (name : String) (level : Level) (text : String) : Record :=
  match h with
  | .process => if (Act.latest? acts).isSome then .console name level text else .stray text
  | _ => .named name level text

theorem least_run (acts : List Act) (h : Hierarchy) :
    (run acts).registry.least h = threshold acts h := by
  cases h with
  | process => rw [Registry.least, Registry.severity, (Registry.isSet_run acts).level, threshold]
  | own key top least => rfl
  | rooted key least => rfl

theorem record_run (acts : List Act) (p : Place) (level : Level) :
    p.record (run acts).registry level = shown acts p.hierarchy p.name level := by
  funext text
  obtain ⟨h, name⟩ := p
  cases h with
  | process =>
    simp only [Place.record, shown, (Registry.isSet_run acts).handlers]
    cases Act.latest? acts <;> rfl
  | own key top least => rfl
  | rooted key least => rfl

theorem records_emit_secure (hp : p.IsSecure) (own level : Level) (m : Message)
    (hi : (run acts).made[i]? = some ⟨.named p, own⟩) :
    ((run acts).perform (.emit i level m)).records = (run acts).records ++
      if own.severity ≤ level.severity ∧ threshold acts p.hierarchy ≤ level.severity then
        m.formatIfNeeded?.toList.map (shown acts p.hierarchy p.name level)
      else [] := by
  rw [records_perform_emit hi, (Registry.isCurrent_run acts).emit hp, least_run, record_run]

theorem records_emit_steady (hs : IsSteady ns) (ht : Registry.top h = "" → ns = [])
    (own level : Level) (m : Message)
    (hi : (run acts).made[i]? = some (ns.foldl Logger.child ⟨.named (Place.top h), own⟩)) :
    ((run acts).perform (.emit i level m)).records = (run acts).records ++
      if own.severity ≤ level.severity ∧ threshold acts h ≤ level.severity then
        m.formatIfNeeded?.toList.map
          (shown acts h (".".intercalate (Registry.top h :: ns)) level)
      else [] := by
  have hp := Place.isSecure_descend ht hs
  rw [Logger.foldl_child_named] at hi
  rw [Place.descend_eq_intercalate] at hi hp
  exact records_emit_secure hp own level m hi

theorem records_emit_root {key least : Nat} (own level : Level) (m : Message)
    (hi : (run acts).made[i]? = some (ns.foldl Logger.child ⟨.root key least, own⟩)) :
    ((run acts).perform (.emit i level m)).records = (run acts).records ++
      if own.severity ≤ level.severity ∧ least ≤ level.severity then
        m.formatIfNeeded?.toList.map
          (.named (if ns = [] then "root" else ".".intercalate ns) level)
      else [] := by
  cases ns with
  | nil =>
    rw [records_perform_emit hi, Logger.emit_eq]
    by_cases ho : own.severity ≤ level.severity
    · by_cases hl : least ≤ level.severity
      · cases hm : m.formatIfNeeded? <;>
          simp [ho, hl, hm, Nat.not_lt.mpr, Sink.deliver, Delivery.ofText?, Registry.rootName]
      · simp [hl, Nat.not_le.mp hl, Sink.deliver]
    · simp [ho, Nat.not_le.mp ho]
  | cons n ns =>
    rw [Logger.foldl_child_root] at hi
    rw [if_neg (List.cons_ne_nil n ns)]
    exact records_emit_secure (Place.isSecure_rooted key least _) own level m hi

/-- For every other chain there is a process in which messages are lost that should be recorded. -/
theorem lost_though_due (hs : ¬ IsSteady ns) :
    ∃ (acts : List Act) (i : Nat),
      (run acts).made[i]? = some (ns.foldl Logger.child ⟨.named (Place.top .process), .debug⟩) ∧
      threshold acts .process = Level.debug.severity ∧
      ∀ m, ((run acts).perform (.emit i .debug m)).records = (run acts).records := by
  obtain ⟨i, hi, hl⟩ := lost_of_not_steady hs
  exact ⟨Act.straying ns, i, hi, by rw [threshold, Act.latest?_straying]; rfl, hl⟩

/-- A sink that takes messages from the level of information on, with a child and a grandchild. -/
def nestedBelow (sink : Sink) : List Act := [.bind (some sink) .debug, .spawn 0 "a", .spawn 1 "b"]

def childActs (sink : Sink) (name : String) : List Act := [.bind (some sink) .debug, .spawn 0 name]

end Logging

end InvocationClient
