import InvocationClient.Log.Sink

/-! # Loggers

A logger drops messages below its level and hands the others to its sink, once. What the sink
raises is swallowed.
-/

namespace InvocationClient

structure Logger where
  sink : Sink
  level : Level

inductive LogTarget where
  | absent
  | sink (s : Sink)
  | logger (l : Logger)

namespace Logger

/-- A new logger; one without a sink has the default logger and sets its level. -/
def bind (registry : Registry) (sink : Option Sink) (level : Level) : Logger × Registry :=
  match sink with
  | some s => (⟨s, level⟩, registry)
  | none => (⟨.default, level⟩, registry.enable level)

/-- A logger is kept as it is. Otherwise the level, if not given, is what `setting` says. -/
def create (registry : Registry) (setting : Option String) (target : LogTarget)
    (level : Option Level) : Logger × Registry :=
  let chosen := level.getD (Level.ofSetting setting .info)
  match target with
  | .absent => bind registry none chosen
  | .sink s => bind registry (some s) chosen
  | .logger l => (l, registry)

def toSink (l : Logger) : Sink := .filtered l.sink l.level

def child (l : Logger) (name : String) : Logger where
  sink := l.sink.child name
  level := l.level

def spawn (registry : Registry) (l : Logger) (name : String) : Logger × Registry :=
  (l.child name, (l.child name).sink.enrol registry)

/-- The delivery that emitting a message comes to, if it is not dropped. -/
def deliver? (registry : Registry) (l : Logger) (level : Level) (m : Message) : Option Delivery :=
  if level.severity < l.level.severity then none else some (l.sink.deliver registry level m)

def emit (registry : Registry) (l : Logger) (level : Level) (m : Message) : List Record :=
  match l.deliver? registry level m with
  | some delivery => delivery.records
  | none => []

def remember (registry : Registry) (l : Logger) (level : Level) : Registry :=
  if level.severity < l.level.severity then registry else l.sink.remember registry level

/-- Emits an entry through the child that its scope names. -/
def record (registry : Registry) (l : Logger) (e : Entry) : List Record :=
  (e.scope.foldl child l).emit registry e.level e.message

def recordAll (registry : Registry) (l : Logger) (es : List Entry) : List Record :=
  es.flatMap (l.record registry)

/-- What a logger emits is what it takes in as a sink. -/
theorem records_deliver_toSink (registry : Registry) (l : Logger) (level : Level) (m : Message) :
    (l.toSink.deliver registry level m).records = l.emit registry level m := by
  simp only [toSink, Sink.deliver, emit, deliver?]
  split <;> rfl

/-- What has been emitted has no influence on what is emitted next, unless new loggers come in. -/
theorem emit_remember (registry : Registry) (k l : Logger) (n level : Level) (m : Message) :
    l.emit (k.remember registry n) level m = l.emit registry level m := by
  unfold remember
  by_cases h : n.severity < k.level.severity
  · rw [if_pos h]
  · simp only [if_neg h, emit, deliver?, Sink.deliver_remember]

@[simp] theorem recordAll_append (registry : Registry) (l : Logger) (es fs : List Entry) :
    l.recordAll registry (es ++ fs) = l.recordAll registry es ++ l.recordAll registry fs := by
  simp [recordAll]

end Logger

end InvocationClient
