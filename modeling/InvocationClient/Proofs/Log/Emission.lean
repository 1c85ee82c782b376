import InvocationClient.Log.Logger

/-! # Emissions

An emission hands an entry to whatever takes it, which may raise. What takes several entries gets
them one after the other, up to the one that raises. A logger swallows what its sink raises, so that
it takes all entries, with the records that it makes of each.
-/

namespace InvocationClient

/-- One delivery after another, which is not made if the first raises. -/
def Delivery.andThen (d e : Delivery) : Delivery :=
  if d.raised then d else { records := d.records ++ e.records, raised := e.raised }

abbrev Emitter := Entry → Delivery

def Emitter.emitAll (emit : Emitter) : List Entry → Delivery
  | [] => {}
  | e :: es => (emit e).andThen (emit.emitAll es)

namespace Logger

variable {registry : Registry} {l : Logger}

theorem emit_eq (registry : Registry) (l : Logger) (level : Level) (m : Message) :
    l.emit registry level m =
      if level.severity < l.level.severity then []
      else (l.sink.deliver registry level m).records := by
  unfold emit deliver?
  by_cases h : level.severity < l.level.severity
  · rw [if_pos h, if_pos h]
  · rw [if_neg h, if_neg h]

def emitter (registry : Registry) (l : Logger) : Emitter := fun e =>
  (e.scope.foldl child l).toSink.deliver registry e.level e.message

theorem raised_deliver_toSink (level : Level) (m : Message) :
    (l.toSink.deliver registry level m).raised = false := by
  simp only [toSink, Sink.deliver]
  split <;> rfl

theorem emitter_eq (e : Entry) : l.emitter registry e = { records := l.record registry e } := by
  have hr : (l.emitter registry e).raised = false := raised_deliver_toSink ..
  have hs : (l.emitter registry e).records = l.record registry e := records_deliver_toSink ..
  rw [← hr, ← hs]

theorem emitAll_emitter (es : List Entry) :
    (l.emitter registry).emitAll es = { records := l.recordAll registry es } := by
  induction es with
  | nil => rfl
  | cons e es ih =>
    rw [Emitter.emitAll, ih, emitter_eq]
    rfl

end Logger

end InvocationClient
