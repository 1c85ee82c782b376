import InvocationClient.Log.Hierarchy
import InvocationClient.Log.Message

/-! # Log sinks

Where messages end up. An object takes them through one entry point for all levels or through one
per level; a named logger passes them up its hierarchy. A logger can be a sink in its turn.
-/

namespace InvocationClient

inductive Record where
  | general (level : Level) (text : String)
  | perLevel (level : Level) (text : String)
  | named (name : String) (level : Level) (text : String)
  | console (name : String) (level : Level) (text : String)
  | stray (text : String)
  | broken
  deriving DecidableEq, Repr

/-- The effect of handing over a message: what appears, and whether the sink raised. -/
structure Delivery where
  records : List Record := []
  raised : Bool := false
  deriving DecidableEq, Repr

namespace Delivery

/-- A message that cannot be formatted makes its sink raise. -/
def ofText? (record : String → Record) : Option String → Delivery
  | some text => { records := [record text] }
  | none => { raised := true }

end Delivery

/-- An entry point of an object either works or raises on every call. -/
inductive EntryPoint where
  | working
  | broken
  deriving DecidableEq, Repr

def EntryPoint.receive (record : String → Record) (m : Message) : EntryPoint → Delivery
  | working => .ofText? record m.format?
  | broken => { records := [.broken], raised := true }

structure Hooks where
  general : Option EntryPoint := none
  perLevel : Level → Option EntryPoint := fun _ => none

namespace Place

/-- What becomes of a text at the top of the hierarchy. The default logger writes to the console; as
long as it has no handler the text appears bare. -/
def record (r : Registry) (p : Place) (level : Level) (text : String) : Record :=
  match p.hierarchy with
  | .process => if r.handlers = 0 then .stray text else .console p.name level text
  | _ => .named p.name level text

/-- Passes a message up. What does not reach the top appears bare, if it is a warning or worse. -/
def deliver (r : Registry) (p : Place) (level : Level) (m : Message) : Delivery :=
  if !r.admits p level then {}
  else if r.reaches p then .ofText? (p.record r level) m.formatIfNeeded?
  else if Level.warn.severity ≤ level.severity then .ofText? .stray m.formatIfNeeded?
  else {}

theorem deliver_remember (r : Registry) (p q : Place) (l level : Level) (m : Message) :
    p.deliver (r.remember q l) level m = p.deliver r level m := by
  unfold deliver
  rw [Registry.admits_remember, Registry.reaches_remember]
  rfl

end Place

inductive Sink where
  | object (hooks : Hooks)
  | root (key : Nat) (least : Nat)
  | named (place : Place)
  | filtered (sink : Sink) (least : Level)

def consoleLine (time : String) (name : String) (level : Level) (text : String) : String :=
  time ++ " " ++ level.label ++ " " ++ name ++ " " ++ text ++ "\n"

namespace Sink

def default : Sink := .named ⟨.process, Registry.defaultName⟩

/-- A named logger at the top of a hierarchy of its own. -/
def ofName (key : Nat) (name : String) (least : Nat) : Sink := .named ⟨.own key name least, name⟩

/-- Hands a message to a sink. The entry point for all levels is preferred to that of the level; a
filter drops what is below its level and swallows what is raised behind it. -/
def deliver (r : Registry) (level : Level) (m : Message) : Sink → Delivery
  | object hooks =>
    match hooks.general with
    | some entry => entry.receive (.general level) m
    | none =>
      match hooks.perLevel level with
      | some entry => entry.receive (.perLevel level) m
      | none => {}
  | root _ least =>
    if level.severity < least then {}
    else .ofText? (.named Registry.rootName level) m.formatIfNeeded?
  | named place => place.deliver r level m
  | filtered sink least =>
    if level.severity < least.severity then {}
    else { sink.deliver r level m with raised := false }

/-- The child of a named logger has a longer name, that of the root a name of its own; other sinks are
their own children. -/
def child (s : Sink) (name : String) : Sink :=
  match s with
  | object hooks => object hooks
  | root key least => named ⟨.rooted key least, name⟩
  | named place => named (place.child name)
  | filtered sink least => filtered sink least

def enrol (r : Registry) : Sink → Registry
  | named place => r.enrol place
  | _ => r

def remember (r : Registry) (level : Level) : Sink → Registry
  | object _ => r
  | root _ _ => r
  | named place => r.remember place level
  | filtered sink least =>
    if level.severity < least.severity then r else sink.remember r level

/-- What a sink has decided has no influence on what is delivered next, unless new loggers come
in. -/
theorem deliver_remember (r : Registry) (l : Level) (s : Sink) (level : Level) (m : Message)
    (t : Sink) : t.deliver (s.remember r l) level m = t.deliver r level m := by
  induction s with
  | object hooks => rfl
  | root key least => rfl
  | named q =>
    induction t with
    | object hooks => rfl
    | root key least => rfl
    | named p => exact p.deliver_remember r q l level m
    | filtered t least ih => simp only [deliver, ih]
  | filtered s least ih =>
    simp only [remember]
    split
    · rfl
    · exact ih

end Sink

end InvocationClient
