import InvocationClient.Log.Logger
import Mathlib.Data.List.Induction

/-! # Acts of a process

What a process does about its loggers, one act after the other. A logger, once made, can be given
children and messages at any time. Whatever is done sets the level of the default logger, takes in
one logger, remembers one decision, or leaves the loggers as they are.
-/

namespace InvocationClient

/-- One thing done about loggers. A logger is called by the number of those made before it; sinks
come from anywhere. -/
inductive Act where
  | bind (sink : Option Sink) (level : Level)
  | create (setting : Option String) (target : LogTarget) (level : Option Level)
  | spawn (parent : Nat) (name : String)
  | emit (logger : Nat) (level : Level) (m : Message)
  /-- A named logger comes into being elsewhere in the process. -/
  | enrol (place : Place)

/-- The loggers of a process, those made so far, and what they have recorded. -/
structure Logging where
  registry : Registry := {}
  made : List Logger := []
  records : List Record := []

namespace Act

/-- The level that an act sets for the default logger. -/
def sets? : Act → Option Level
  | bind none level => some level
  | create setting .absent level => some (level.getD (Level.ofSetting setting .info))
  | _ => none

def latest? (acts : List Act) : Option Level := (acts.filterMap sets?).getLast?

theorem latest?_append (acts : List Act) (a : Act) :
    latest? (acts ++ [a]) = a.sets?.or (latest? acts) := by
  unfold latest?
  rw [List.filterMap_append, List.getLast?_append]
  cases h : a.sets? with
  | none => simp [h]
  | some level => simp [h]

/-- Makes the loggers of a chain, one the child of the other, when `next` have been made before. -/
def chain (parent next : Nat) : List String → List Act
  | [] => []
  | n :: ns => .spawn parent n :: chain next (next + 1) ns

theorem sets?_of_mem_chain {a : Act} {parent next : Nat} {ns : List String}
    (h : a ∈ chain parent next ns) : a.sets? = none := by
  induction ns generalizing parent next with
  | nil => cases h
  | cons n ns ih =>
    rcases List.mem_cons.mp h with rfl | ha
    · rfl
    · exact ih ha

end Act

section Steps

variable {registry : Registry}

/-- What an act can do to the loggers of a process, told with the level that it sets. -/
inductive Registry.Step (registry : Registry) : Option Level → Registry → Prop where
  | stay : registry.Step none registry
  | enable (level : Level) : registry.Step (some level) (registry.enable level)
  | enrol (p : Place) : registry.Step none (registry.enrol p)
  | remember (p : Place) (level : Level) : registry.Step none (registry.remember p level)

theorem Sink.step_enrol (registry : Registry) (sink : Sink) :
    registry.Step none (sink.enrol registry) := by
  cases sink with
  | object hooks => exact .stay
  | root key least => exact .stay
  | named p => exact .enrol p
  | filtered sink least => exact .stay

theorem Sink.remember_eq_or (registry : Registry) (level : Level) (sink : Sink) :
    sink.remember registry level = registry ∨
      ∃ p, sink.remember registry level = registry.remember p level := by
  induction sink with
  | object hooks => exact .inl rfl
  | root key least => exact .inl rfl
  | named p => exact .inr ⟨p, rfl⟩
  | filtered sink least ih =>
    unfold remember
    split
    · exact .inl rfl
    · exact ih

/-- One logger at most remembers something, however many sinks a message goes through. -/
theorem Logger.remember_eq_or (registry : Registry) (l : Logger) (level : Level) :
    l.remember registry level = registry ∨
      ∃ p, l.remember registry level = registry.remember p level := by
  unfold remember
  split
  · exact .inl rfl
  · exact l.sink.remember_eq_or registry level

theorem Logger.step_remember (registry : Registry) (l : Logger) (level : Level) :
    registry.Step none (l.remember registry level) := by
  rcases l.remember_eq_or registry level with h | ⟨p, h⟩
  · rw [h]
    exact .stay
  · rw [h]
    exact .remember p level

theorem Logger.step_bind (registry : Registry) (sink : Option Sink) (level : Level) :
    registry.Step (Act.bind sink level).sets? (bind registry sink level).2 := by
  cases sink with
  | none => exact .enable level
  | some sink => exact .stay

theorem Logger.step_create (registry : Registry) (setting : Option String) (target : LogTarget)
    (level : Option Level) :
    registry.Step (Act.create setting target level).sets?
      (create registry setting target level).2 := by
  cases target with
  | absent => exact .enable _
  | sink sink => exact .stay
  | logger l => exact .stay

end Steps

namespace Logging

variable {s : Logging} {parent : Nat} {l : Logger}

def add (s : Logging) (l : Logger × Registry) : Logging :=
  { s with registry := l.2, made := s.made ++ [l.1] }

/-- What names no logger changes nothing. -/
def perform (s : Logging) : Act → Logging
  | .bind sink level => s.add (Logger.bind s.registry sink level)
  | .create setting target level => s.add (Logger.create s.registry setting target level)
  | .spawn parent name =>
    match s.made[parent]? with
    | some l => s.add (l.spawn s.registry name)
    | none => s
  | .emit logger level m =>
    match s.made[logger]? with
    | some l =>
      { s with
        registry := l.remember s.registry level
        records := s.records ++ l.emit s.registry level m }
    | none => s
  | .enrol place => { s with registry := s.registry.enrol place }

def performAll (s : Logging) (acts : List Act) : Logging := acts.foldl perform s

def run (acts : List Act) : Logging := performAll {} acts

theorem step_perform (s : Logging) (a : Act) :
    s.registry.Step a.sets? (s.perform a).registry := by
  cases a with
  | bind sink level => exact Logger.step_bind s.registry sink level
  | create setting target level => exact Logger.step_create s.registry setting target level
  | spawn parent name =>
    simp only [perform]
    split
    · next l _ => exact Sink.step_enrol s.registry (l.child name).sink
    · exact .stay
  | emit logger level m =>
    simp only [perform]
    split
    · next l _ => exact l.step_remember s.registry level
    · exact .stay
  | enrol place => exact .enrol place

/-- What holds of no loggers and is kept by every step holds of the loggers of every process, with
the level that was set last. -/
theorem run_induction {P : Option Level → Registry → Prop} (start : P none {})
    (step : ∀ {latest set registry registry'}, P latest registry →
      Registry.Step registry set registry' → P (set.or latest) registry') (acts : List Act) :
    P (Act.latest? acts) (run acts).registry := by
  induction acts using List.reverseRecOn with
  | nil => exact start
  | append_singleton acts a ih =>
    rw [run, performAll, List.foldl_append, Act.latest?_append]
    exact step ih (step_perform (run acts) a)

theorem perform_spawn (h : s.made[parent]? = some l) (name : String) :
    s.perform (.spawn parent name) = s.add (l.spawn s.registry name) := by
  simp only [perform, h]

theorem records_perform_emit {i : Nat} (h : s.made[i]? = some l) (level : Level) (m : Message) :
    (s.perform (.emit i level m)).records = s.records ++ l.emit s.registry level m := by
  simp only [perform, h]

theorem decided_spawn (s : Logging) (parent : Nat) (name : String) :
    (s.perform (.spawn parent name)).registry.decided = s.registry.decided := by
  cases h : s.made[parent]? with
  | none => simp only [perform, h]
  | some l =>
    rw [perform_spawn h]
    change ((l.child name).sink.enrol s.registry).decided = s.registry.decided
    cases (l.child name).sink with
    | object hooks => rfl
    | root key least => rfl
    | named p => exact Registry.decided_enrol s.registry p
    | filtered sink least => rfl

theorem decided_chain (s : Logging) (parent next : Nat) (ns : List String) :
    (s.performAll (Act.chain parent next ns)).registry.decided = s.registry.decided := by
  induction ns generalizing s parent next with
  | nil => rfl
  | cons n ns ih =>
    rw [Act.chain, performAll, List.foldl_cons]
    exact (ih ..).trans (decided_spawn s parent n)

theorem made_chain (h : s.made[parent]? = some l) (ns : List String) :
    ∃ i : Nat, (s.performAll (Act.chain parent s.made.length ns)).made[i]? =
      some (ns.foldl Logger.child l) := by
  induction ns generalizing s parent l with
  | nil => exact ⟨parent, h⟩
  | cons n ns ih =>
    have hl : (s.perform (.spawn parent n)).made = s.made ++ [l.child n] := by
      rw [perform_spawn h]
      rfl
    have hm : (s.perform (.spawn parent n)).made[s.made.length]? = some (l.child n) := by
      rw [hl]
      simp
    obtain ⟨i, hi⟩ := ih hm
    refine ⟨i, ?_⟩
    rw [hl, List.length_append, List.length_singleton] at hi
    exact hi

end Logging

end InvocationClient
