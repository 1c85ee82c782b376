import InvocationClient.Association
import InvocationClient.Log.Level

/-! # Hierarchies of named loggers

A name tells by its dots what a logger hangs below. Messages rise to the logger at the top of the
hierarchy, which has a level and takes them. What does not hang below it is left with the root of all
loggers, which has the level of warnings unless it is the top itself.
-/

namespace InvocationClient

/-- The hierarchy of the process, or one that a sink brought with it, with a key that tells it from
others. Its top has a name and a least severity, or is the root of all loggers there. -/
inductive Hierarchy where
  | process
  | own (key : Nat) (top : String) (least : Nat)
  | rooted (key : Nat) (least : Nat)
  deriving DecidableEq, Repr

def Hierarchy.isRooted : Hierarchy → Bool
  | .rooted _ _ => true
  | _ => false

/-- Where a named logger stands. The root has no place. -/
structure Place where
  hierarchy : Hierarchy
  name : String
  deriving DecidableEq, Repr

def Place.child (p : Place) (name : String) : Place :=
  { p with name := p.name ++ "." ++ name }

/-- Whether a logger hangs below `top`, when `known` tells which others there are. Names are given
last character first. What stands before a dot is the name of a logger to hang below, if there is
one; the last such dot counts. Two dots are passed over: one at the very beginning, and one right in
front of a dot where no logger was found. -/
def hangsBelow (known : List Char → Bool) (top : List Char) : List Char → Bool
  | [] => false
  | '.' :: d :: rest =>
    if d :: rest = top then true
    else if known (d :: rest) then hangsBelow known top (d :: rest)
    else hangsBelow known top rest
  | _ :: rest => hangsBelow known top rest

structure Registry where
  /-- Level of the default logger, once it has been set. -/
  level : Option Level := none
  /-- Handlers of the default logger. -/
  handlers : Nat := 0
  /-- The loggers there are below the tops of their hierarchies. -/
  known : List Place := []
  /-- For which levels loggers have been found enabled or not; that is not found out again. -/
  decided : List ((Place × Level) × Bool) := []
  deriving DecidableEq, Repr

namespace Registry

def defaultName : String := "lambda_runtime_client"

def rootName : String := "root"

def top : Hierarchy → String
  | .process => defaultName
  | .own _ top _ => top
  | .rooted _ _ => rootName

/-- A default logger whose level was never set has that of the root. -/
def severity (r : Registry) : Nat := (r.level.getD .warn).severity

def least (r : Registry) : Hierarchy → Nat
  | .process => r.severity
  | .own _ _ least => least
  | .rooted _ least => least

/-- Sets the level of the default logger, and forgets what was decided below it. The handler is
added if there is none yet. -/
def enable (r : Registry) (level : Level) : Registry :=
  { r with
    level := some level
    handlers := if r.handlers = 0 then 1 else r.handlers
    decided := r.decided.filter fun d => d.1.1.hierarchy ≠ .process }

def enrol (r : Registry) (p : Place) : Registry :=
  if r.known.contains p then r else { r with known := p :: r.known }

@[simp] theorem level_enrol (r : Registry) (p : Place) : (r.enrol p).level = r.level := by
  unfold enrol
  split <;> rfl

@[simp] theorem handlers_enrol (r : Registry) (p : Place) : (r.enrol p).handlers = r.handlers := by
  unfold enrol
  split <;> rfl

@[simp] theorem decided_enrol (r : Registry) (p : Place) : (r.enrol p).decided = r.decided := by
  unfold enrol
  split <;> rfl

theorem mem_known_enrol {r : Registry} {p q : Place} :
    q ∈ (r.enrol p).known ↔ q = p ∨ q ∈ r.known := by
  unfold enrol
  split
  · next h =>
    constructor
    · exact .inr
    · rintro (rfl | hq)
      · simpa using h
      · exact hq
  · exact List.mem_cons

theorem get?_decided_enable (r : Registry) (least level : Level) {p : Place}
    (hp : p.hierarchy = .process) :
    Association.get? (p, level) (r.enable least).decided = none := by
  rw [Association.get?, Option.map_eq_none_iff, List.find?_eq_none]
  intro d hd he
  obtain ⟨-, hn⟩ := List.mem_filter.mp hd
  rw [of_decide_eq_true he] at hn
  exact of_decide_eq_true hn hp

/-- Whether messages rise from a place to the top of its hierarchy. -/
def reaches (r : Registry) (p : Place) : Bool :=
  p.hierarchy.isRooted || p.name = top p.hierarchy ||
    hangsBelow (fun name => r.known.contains ⟨p.hierarchy, String.ofList name.reverse⟩)
      (top p.hierarchy).toList.reverse p.name.toList.reverse

def admits (r : Registry) (p : Place) (level : Level) : Bool :=
  match Association.get? (p, level) r.decided with
  | some decision => decision
  | none => (if r.reaches p then r.least p.hierarchy else Level.warn.severity) ≤ level.severity

def remember (r : Registry) (p : Place) (level : Level) : Registry :=
  { r with decided := Association.put (p, level) (r.admits p level) r.decided }

@[simp] theorem reaches_remember (r : Registry) (p q : Place) (level : Level) :
    (r.remember p level).reaches q = r.reaches q := rfl

@[simp] theorem admits_remember (r : Registry) (p q : Place) (l m : Level) :
    (r.remember p l).admits q m = r.admits q m := by
  by_cases h : (p, l) = (q, m)
  · obtain ⟨rfl, rfl⟩ := Prod.mk.inj h
    simp [admits, remember, Association.get?_put]
  · simp only [admits, reaches_remember]
    rw [show (r.remember p l).decided = Association.put (p, l) (r.admits p l) r.decided from rfl,
      Association.get?_put, if_neg h]
    rfl

@[simp] theorem reaches_top (r : Registry) (h : Hierarchy) : r.reaches ⟨h, top h⟩ = true := by
  simp [reaches]

end Registry

end InvocationClient
