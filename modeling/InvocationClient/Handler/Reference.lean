import InvocationClient.Text.Quoted
import InvocationClient.Text.Split

/-! # References to handlers

A handler is named by a module and one of its attributes, `module.attribute`. No module is a
package, so a dotted module name never leads to one.
-/

namespace InvocationClient

inductive LoadError where
  | emptyModule
  | relativeModule (name : String)
  | unknownModule (name : String)
  | notPackage (name : String) (parent : String)
  | missingAttribute (home : String) (name : String)
  deriving DecidableEq, Repr

namespace LoadError

def kind : LoadError → String
  | emptyModule => "ValueError"
  | relativeModule _ => "TypeError"
  | unknownModule _ => "ModuleNotFoundError"
  | notPackage _ _ => "ModuleNotFoundError"
  | missingAttribute _ _ => "AttributeError"

def message : LoadError → String
  | emptyModule => "Empty module name"
  | relativeModule name =>
    "the 'package' argument is required to perform a relative import for " ++ Text.quoted name
  | unknownModule name => "No module named " ++ Text.quoted name
  | notPackage name parent =>
    "No module named " ++ Text.quoted name ++ "; " ++ Text.quoted parent ++ " is not a package"
  | missingAttribute home name =>
    "module '" ++ home ++ "' has no attribute '" ++ name ++ "'"

end LoadError

structure Reference where
  home : String
  name : String
  deriving DecidableEq, Repr

namespace Reference

/-- The last dot ends the module's name; without one there is no module. -/
def ofSpec (spec : String) : Reference :=
  match Text.splitLast? (· = '.') spec.toList with
  | some (m, a) => ⟨String.ofList m, String.ofList a⟩
  | none => ⟨"", spec⟩

/-- Up to the first dot, and up to the second if there is one. -/
def ancestors (name : List Char) : List Char × Option (List Char) :=
  match Text.splitFirst? (· = '.') name with
  | none => (name, none)
  | some (first, rest) => (first, some (first ++ '.' :: rest.takeWhile (· ≠ '.')))

/-- Finds the module among the known ones; the outermost name that leads nowhere is reported. -/
def check (known : List String) (r : Reference) : Except LoadError Unit :=
  if r.home = "" then .error .emptyModule
  else if r.home.toList.head? = some '.' then .error (.relativeModule r.home)
  else
    let (first, second) := ancestors r.home.toList
    let parent := String.ofList first
    if !known.contains parent then .error (.unknownModule parent)
    else match second with
      | some child => .error (.notPackage (String.ofList child) parent)
      | none => .ok ()

end Reference

end InvocationClient
