import InvocationClient.Text.Class
import InvocationClient.Text.Case

/-! # Log levels

Four levels in ascending severity, and how the environment names one.
-/

namespace InvocationClient

inductive Level where
  | debug
  | info
  | warn
  | error
  deriving DecidableEq, Repr

namespace Level

def name : Level → String
  | debug => "debug"
  | info => "info"
  | warn => "warn"
  | error => "error"

def severity : Level → Nat
  | debug => 10
  | info => 20
  | warn => 30
  | error => 40

def label : Level → String
  | debug => "DEBUG"
  | info => "INFO"
  | warn => "WARNING"
  | error => "ERROR"

def all : List Level := [debug, info, warn, error]

def ofName? (s : String) : Option Level :=
  all.find? (·.name = s)

@[simp] theorem ofName?_name (l : Level) : ofName? l.name = some l := by
  cases l <;> decide

/-- Another name for a level, as a user may write it. -/
def canonicalName (s : String) : String :=
  if s = "warning" then "warn" else s

/-- The level a setting names, whatever its case and the blanks around it. -/
def ofSetting (setting : Option String) (default : Level) : Level :=
  (ofName? (canonicalName (Text.lower (Text.trim (setting.getD ""))))).getD default

end Level

end InvocationClient
