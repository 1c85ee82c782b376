import InvocationClient.Proofs.Log.Acts
import InvocationClient.Proofs.Log.Descent
import InvocationClient.Proofs.Log.Emission

/-! # Decisions

What a logger has once decided for a level is kept until the default logger gets another level. Where
messages rise to the top whatever other loggers there are, no decision can become outdated: if the
top's level can change, the decisions go with it. That is so on steady chains and below a root.
-/

namespace InvocationClient

/-- Messages rise from there to the top of the hierarchy, whatever other loggers there are. -/
def Place.IsSecure (p : Place) : Prop := ∀ registry : Registry, registry.reaches p = true

variable {p : Place} {h : Hierarchy} {ns : List String}

theorem Place.isSecure_rooted (key least : Nat) (name : String) :
    IsSecure ⟨.rooted key least, name⟩ := fun _ => rfl

theorem Place.isSecure_descend (ht : Registry.top h = "" → ns = []) (hs : IsSteady ns) :
    ((top h).descend ns).IsSecure := by
  intro registry
  by_cases hn : Registry.top h = ""
  · rw [ht hn]
    exact Registry.reaches_top registry h
  · exact Registry.reaches_descend hn hs registry

namespace Registry

variable {registry r r' : Registry}

/-- What has been decided where messages are sure to rise is what would be decided now. -/
def IsCurrent (registry : Registry) : Prop :=
  ∀ (p : Place) (level : Level) (decision : Bool), p.IsSecure →
    Association.get? (p, level) registry.decided = some decision →
      decision = decide (registry.least p.hierarchy ≤ level.severity)

theorem least_congr (hl : r'.level = r.level) (h : Hierarchy) : r'.least h = r.least h := by
  cases h with
  | process => rw [least, least, severity, severity, hl]
  | own key top least => rfl
  | rooted key least => rfl

/-- Another level of the default logger is no matter for the hierarchies that sinks brought. -/
theorem get?_decided_enable_of_ne (registry : Registry) (least level : Level)
    (hp : p.hierarchy ≠ .process) :
    Association.get? (p, level) (registry.enable least).decided =
      Association.get? (p, level) registry.decided := by
  rw [Association.get?, Association.get?, enable, List.find?_filter]
  congr 2
  funext d
  by_cases hd : d.1 = (p, level)
  · simp [hd, hp]
  · simp [hd]

theorem least_enable_of_ne (registry : Registry) (least : Level) (hh : h ≠ .process) :
    (registry.enable least).least h = registry.least h := by
  cases h with
  | process => exact absurd rfl hh
  | own key top least => rfl
  | rooted key least => rfl

namespace IsCurrent

theorem admits (hc : registry.IsCurrent) (hp : p.IsSecure) (level : Level) :
    registry.admits p level = decide (registry.least p.hierarchy ≤ level.severity) := by
  unfold Registry.admits
  cases hd : Association.get? (p, level) registry.decided with
  | some decision => exact hc p level decision hp hd
  | none => simp only [hp registry, if_true]

/-- A message appears, under the name of the place, if the logger's own level and that of the top let
it through and it has a text. -/
theorem emit (hc : registry.IsCurrent) (hp : p.IsSecure) (own level : Level) (m : Message) :
    (⟨.named p, own⟩ : Logger).emit registry level m =
      if own.severity ≤ level.severity ∧ registry.least p.hierarchy ≤ level.severity then
        m.formatIfNeeded?.toList.map (p.record registry level)
      else [] := by
  rw [Logger.emit_eq]
  by_cases ho : own.severity ≤ level.severity
  · rw [if_neg (Nat.not_lt.mpr ho)]
    simp only [Sink.deliver, Place.deliver, hc.admits hp, hp registry, ho, true_and]
    by_cases hl : registry.least p.hierarchy ≤ level.severity
    · cases m.formatIfNeeded? <;> simp [hl, Delivery.ofText?]
    · simp [hl]
  · rw [if_pos (Nat.lt_of_not_le ho), if_neg fun ha => ho ha.1]

theorem enable (hc : registry.IsCurrent) (least : Level) : (registry.enable least).IsCurrent := by
  intro p level decision hp hd
  by_cases hh : p.hierarchy = .process
  · rw [get?_decided_enable _ _ _ hh] at hd
    cases hd
  · rw [get?_decided_enable_of_ne _ _ _ hh] at hd
    rw [least_enable_of_ne _ _ hh]
    exact hc p level decision hp hd

theorem remember (hc : registry.IsCurrent) (q : Place) (level : Level) :
    (registry.remember q level).IsCurrent := by
  intro p l decision hp hd
  rw [least_congr (show (registry.remember q level).level = registry.level from rfl)]
  rw [Registry.remember, Association.get?_put] at hd
  split at hd
  · next he =>
    obtain ⟨rfl, rfl⟩ := Prod.mk.inj he
    rw [← Option.some.inj hd]
    exact hc.admits hp level
  · exact hc p l decision hp hd

theorem enrol (hc : registry.IsCurrent) (q : Place) : (registry.enrol q).IsCurrent := by
  intro p level decision hp hd
  rw [decided_enrol] at hd
  rw [least_congr (level_enrol registry q)]
  exact hc p level decision hp hd

theorem step {set : Option Level} (hc : r.IsCurrent) (hr : r.Step set r') : r'.IsCurrent := by
  cases hr with
  | stay => exact hc
  | enable level => exact hc.enable level
  | enrol p => exact hc.enrol p
  | remember p level => exact hc.remember p level

end IsCurrent

theorem isCurrent_run (acts : List Act) : (Logging.run acts).registry.IsCurrent := by
  apply Logging.run_induction (P := fun _ registry => registry.IsCurrent)
  · intro p level decision hp hd
    cases hd
  · exact IsCurrent.step

end Registry

end InvocationClient
