import InvocationClient.Proofs.Log.Emission
import InvocationClient.Proofs.Log.Formatting

/-! # Recording

An object that takes messages through one entry point for all levels has one record of each that
reaches it and has a text. What reaches it is not below the logger's level. Alarms are the messages
at the two upper levels. Other messages leave no record that could be taken for one.
-/

namespace InvocationClient

/-- What an object that formats and records has of an entry. -/
inductive Record.Tells : Record → Entry → Prop where
  | general {e : Entry} {text : String} : e.message.format? = some text →
      Tells (.general e.level text) e

namespace Logger

variable {registry : Registry} {l : Logger} {hooks : Hooks} {e : Entry} {es : List Entry}

def passed (l : Logger) (es : List Entry) : List Entry :=
  es.filter fun e => l.level.severity ≤ e.level.severity

/-- One record for each entry that is not dropped, in their order. -/
def KeepsAll (l : Logger) (rs : List Record) (es : List Entry) : Prop :=
  List.Forall₂ Record.Tells rs (l.passed es)

theorem KeepsAll.append {rs rs' : List Record} {es es' : List Entry} (h : l.KeepsAll rs es)
    (h' : l.KeepsAll rs' es') : l.KeepsAll (rs ++ rs') (es ++ es') := by
  rw [KeepsAll, passed, List.filter_append]
  exact List.rel_append h h'

theorem foldl_child_of_fixed (hs : ∀ name, l.sink.child name = l.sink) (scope : List String) :
    scope.foldl child l = l := by
  induction scope with
  | nil => rfl
  | cons name scope ih =>
    have hc : l.child name = l := by rw [child, hs]
    rw [List.foldl_cons, hc, ih]

theorem foldl_child_of_object (hs : l.sink = .object hooks) (scope : List String) :
    scope.foldl child l = l :=
  foldl_child_of_fixed (fun name => by rw [hs, Sink.child]) scope

theorem emit_of_object (hs : l.sink = .object hooks) (hg : hooks.general = some .working)
    {level : Level} {m : Message} {text : String} (ht : m.format? = some text) :
    l.emit registry level m =
      if level.severity < l.level.severity then [] else [.general level text] := by
  simp only [emit_eq, hs, Sink.deliver, hg, EntryPoint.receive, ht, Delivery.ofText?]

theorem record_of_object (hs : l.sink = .object hooks) (hg : hooks.general = some .working)
    (he : e.message.HasText) : l.KeepsAll (l.record registry e) [e] := by
  obtain ⟨text, ht⟩ := he.text
  rw [record, foldl_child_of_object hs, emit_of_object hs hg ht, KeepsAll, passed]
  by_cases hl : e.level.severity < l.level.severity
  · rw [if_pos hl, List.filter_cons_of_neg (by simpa using hl), List.filter_nil]
    exact .nil
  · rw [if_neg hl, List.filter_cons_of_pos (by simpa using hl), List.filter_nil]
    exact .cons (.general ht) .nil

theorem recordAll_of_object (hs : l.sink = .object hooks) (hg : hooks.general = some .working)
    (he : ∀ e ∈ es, e.message.HasText) : l.KeepsAll (l.recordAll registry es) es := by
  induction es with
  | nil => exact .nil
  | cons e es ih =>
    obtain ⟨hh, ht⟩ := List.forall_mem_cons.mp he
    exact (record_of_object hs hg hh).append (ih ht)

end Logger

def Level.isAlarm (level : Level) : Bool := Level.warn.severity ≤ level.severity

def Entry.isAlarm (e : Entry) : Bool := e.level.isAlarm

namespace Record

/-- The level that a record was made at, as far as it tells. -/
def level? : Record → Option Level
  | general level _ => some level
  | perLevel level _ => some level
  | named _ level _ => some level
  | console _ level _ => some level
  | stray _ => none
  | broken => none

def isAlarm (r : Record) : Bool := r.level?.any Level.isAlarm

end Record

def Delivery.IsAt (level : Level) (d : Delivery) : Prop :=
  ∀ r ∈ d.records, r.level? = some level ∨ r.level? = none

section Levels

variable {level : Level}

theorem Delivery.isAt_ofText? {record : String → Record} {text : Option String}
    (h : ∀ s, (record s).level? = some level ∨ (record s).level? = none) :
    (Delivery.ofText? record text).IsAt level := by
  cases text with
  | none => exact List.forall_mem_nil _
  | some s => exact List.forall_mem_singleton.mpr (h s)

theorem EntryPoint.isAt_receive {record : String → Record} {m : Message} (entry : EntryPoint)
    (h : ∀ s, (record s).level? = some level) : (entry.receive record m).IsAt level := by
  cases entry with
  | working => exact Delivery.isAt_ofText? fun s => .inl (h s)
  | broken => exact List.forall_mem_singleton.mpr (.inr rfl)

theorem Place.level?_record (p : Place) (registry : Registry) (text : String) :
    (p.record registry level text).level? = some level ∨
      (p.record registry level text).level? = none := by
  unfold Place.record
  split
  · split
    · exact .inr rfl
    · exact .inl rfl
  · exact .inl rfl

theorem Place.isAt_deliver (p : Place) (registry : Registry) (m : Message) :
    (p.deliver registry level m).IsAt level := by
  unfold Place.deliver
  split
  · exact List.forall_mem_nil _
  split
  · exact Delivery.isAt_ofText? (p.level?_record registry)
  split
  · exact Delivery.isAt_ofText? fun s => .inr rfl
  · exact List.forall_mem_nil _

theorem Sink.isAt_deliver (s : Sink) (registry : Registry) (m : Message) :
    (s.deliver registry level m).IsAt level := by
  induction s with
  | object hooks =>
    simp only [Sink.deliver]
    split
    · exact EntryPoint.isAt_receive _ fun s => rfl
    split
    · exact EntryPoint.isAt_receive _ fun s => rfl
    · exact List.forall_mem_nil _
  | root key least =>
    simp only [Sink.deliver]
    split
    · exact List.forall_mem_nil _
    · exact Delivery.isAt_ofText? fun s => .inl rfl
  | named p => exact p.isAt_deliver registry m
  | filtered s least ih =>
    simp only [Sink.deliver]
    split
    · exact List.forall_mem_nil _
    · exact ih

end Levels

namespace Logger

variable {registry : Registry} {l : Logger} {e : Entry} {es : List Entry}

/-- A logger that has one record of each message with a text at a level or above. -/
def RecordsFrom (registry : Registry) (l : Logger) (least : Level) : Prop :=
  ∀ (level : Level) (m : Message), least.severity ≤ level.severity → m.HasText →
    ∃ r, l.emit registry level m = [r] ∧ r.level? = some level

theorem recordsFrom_of_object {hooks : Hooks} {least : Level} (hs : l.sink = .object hooks)
    (hg : hooks.general = some .working) (hl : l.level.severity ≤ least.severity) :
    l.RecordsFrom registry least := by
  intro level m hm ht
  obtain ⟨text, ht⟩ := ht.text
  refine ⟨.general level text, ?_, rfl⟩
  rw [emit_of_object hs hg ht, if_neg (Nat.not_lt.mpr (Nat.le_trans hl hm))]

theorem level?_of_mem_record {r : Record} (h : r ∈ l.record registry e) :
    r.level? = some e.level ∨ r.level? = none := by
  rw [record, emit_eq] at h
  split at h
  · cases h
  · exact Sink.isAt_deliver _ registry _ r h

theorem filter_record_of_quiet (h : e.isAlarm = false) :
    (l.record registry e).filter Record.isAlarm = [] := by
  rw [List.filter_eq_nil_iff]
  intro r hr
  rcases level?_of_mem_record hr with hl | hl
  · simp [Record.isAlarm, hl, show e.level.isAlarm = false from h]
  · simp [Record.isAlarm, hl]

theorem filter_recordAll_of_quiet (h : es.filter Entry.isAlarm = []) :
    (l.recordAll registry es).filter Record.isAlarm = [] := by
  rw [recordAll, List.filter_flatMap, List.flatMap_eq_nil_iff]
  intro e he
  exact filter_record_of_quiet (Bool.eq_false_iff.mpr (List.filter_eq_nil_iff.mp h e he))

theorem filter_record_of_alarm (hl : l.RecordsFrom registry .warn) (h : e.isAlarm = true)
    (hs : e.scope = []) (ht : e.message.HasText) :
    ∃ r, (l.record registry e).filter Record.isAlarm = [r] := by
  obtain ⟨r, hr, hlevel⟩ := hl e.level e.message (by simpa [Entry.isAlarm, Level.isAlarm] using h) ht
  refine ⟨r, ?_⟩
  have ha : r.isAlarm = true := by
    rw [Record.isAlarm, hlevel]
    exact h
  rw [record, hs, List.foldl_nil, hr, List.filter_cons_of_pos ha, List.filter_nil]

theorem length_filter_recordAll (hl : l.RecordsFrom registry .warn) (es : List Entry)
    (he : ∀ e ∈ es.filter Entry.isAlarm, e.scope = [] ∧ e.message.HasText) :
    ((l.recordAll registry es).filter Record.isAlarm).length = (es.filter Entry.isAlarm).length := by
  induction es with
  | nil => rfl
  | cons e es ih =>
    rw [recordAll, List.flatMap_cons, List.filter_append, List.length_append]
    cases h : e.isAlarm with
    | false =>
      rw [List.filter_cons_of_neg (by simp [h])] at he ⊢
      rw [filter_record_of_quiet h, List.length_nil, Nat.zero_add]
      exact ih he
    | true =>
      rw [List.filter_cons_of_pos h] at he ⊢
      obtain ⟨⟨hs, ht⟩, hes⟩ := List.forall_mem_cons.mp he
      obtain ⟨r, hr⟩ := filter_record_of_alarm hl h hs ht
      rw [hr, List.length_cons, List.length_cons, List.length_nil, Nat.zero_add, Nat.add_comm]
      exact congrArg (· + 1) (ih hes)

end Logger

end InvocationClient
