import InvocationClient.Proofs.Log.Straying
import InvocationClient.Proofs.Log.Decisions

/-! # The default logger

All loggers without a sink share the default logger, whose level is the one that was set last. What
is decided for the loggers below it is kept until the next level is set. So a message of a logger on
a steady chain appears once if both levels let it through.
-/

namespace InvocationClient

namespace Registry

variable {registry : Registry} {latest : Option Level} {current : Level} {ns : List String}

/-- The default logger has the level that was set last, and a handler if there is one. -/
structure IsSet (registry : Registry) (latest : Option Level) : Prop where
  level : registry.level = latest
  handlers : registry.handlers = if latest.isSome then 1 else 0

theorem IsSet.step {set : Option Level} {r r' : Registry} (h : r.IsSet latest)
    (hr : r.Step set r') : r'.IsSet (set.or latest) := by
  cases hr with
  | stay => exact h
  | enable level =>
    have hh : (r.enable level).handlers = if r.handlers = 0 then 1 else r.handlers := rfl
    refine ⟨rfl, ?_⟩
    rw [hh, h.handlers]
    cases latest <;> rfl
  | enrol p => exact ⟨(level_enrol r p).trans h.level, (handlers_enrol r p).trans h.handlers⟩
  | remember p level => exact ⟨h.level, h.handlers⟩

theorem isSet_run (acts : List Act) : (Logging.run acts).registry.IsSet (Act.latest? acts) :=
  Logging.run_induction (P := fun latest registry => registry.IsSet latest) ⟨rfl, rfl⟩ IsSet.step
    acts

theorem IsSet.severity (h : registry.IsSet (some current)) :
    registry.severity = current.severity := by
  rw [Registry.severity, h.level]
  rfl

theorem IsSet.emit_chain (h : registry.IsSet (some current)) (hc : registry.IsCurrent)
    (hs : IsSteady ns) (own level : Level) {m : Message} {text : String}
    (ht : m.formatIfNeeded? = some text) :
    (ns.foldl Logger.child ⟨.default, own⟩).emit registry level m =
      if own.severity ≤ level.severity ∧ current.severity ≤ level.severity then
        [.console ((Place.top .process).descend ns).name level text]
      else [] := by
  have hr : ((Place.top .process).descend ns).record registry level text =
      .console ((Place.top .process).descend ns).name level text := by
    simp only [Place.record, Place.hierarchy_descend, Place.top, h.handlers]
    rfl
  have hn : top .process = "" → ns = [] := fun he => absurd he (by decide)
  have hl : registry.least ((Place.top .process).descend ns).hierarchy = current.severity := by
    rw [Place.hierarchy_descend]
    exact h.severity
  rw [Logger.foldl_child_default, hc.emit (Place.isSecure_descend hn hs), hl, ht]
  simp only [Option.toList_some, List.map_cons, List.map_nil, hr]

end Registry

namespace Logging

/-- The default logger gets another level between the making of a child and that of a grandchild. -/
def nestedActs : List Act :=
  [.bind none .info, .spawn 0 "a", .create none .absent (some .warn), .spawn 1 "b"]

def dottedActs : List Act := [.bind none .debug, .spawn 0 ".x"]

end Logging

end InvocationClient
