import TypeSchema.Command.Arguments
import TypeSchema.Command.Definitions
import TypeSchema.Command.Registry

namespace TypeSchema.Command

structure Outcome where
  status : Nat
  output : String
  diagnostic : String
  deriving DecidableEq, Repr

variable {m : Type → Type} [Monad m]

def loadRegistry (files : FileAccess m) : Option String → m (Except Error Registry)
  | none => return .ok .empty
  | some path => Registry.ofFile files path

def act (files : FileAccess m) (registry : Registry) :
    Action → m (Except Error (Option String))
  | .classify expressions openApi =>
    return (classify registry openApi expressions).map some
  | .definitions expressions output => definitions files registry expressions output

def execute (files : FileAccess m) (i : Invocation) : m (Except Error (Option String)) := do
  match ← loadRegistry files i.registry with
  | .error e => return .error e
  | .ok registry => act files registry i.action

def usage : String :=
  "Usage: typeschema [--registry FILE] [-v] classify [--openapi] EXPR...\n" ++
  "       typeschema [--registry FILE] [-v] definitions [--output FILE] EXPR...\n"

def refusalOutcome : Refusal → Outcome
  | .usage => ⟨2, "", usage⟩
  | .help => ⟨0, usage, ""⟩
  | .version => ⟨0, "typeschema 0.1.0\n", ""⟩

def outcomeOf : Except Error (Option String) → Outcome
  | .ok (some text) => ⟨0, text ++ "\n", ""⟩
  | .ok none => ⟨0, "", ""⟩
  | .error e => ⟨1, "", e.message ++ "\n"⟩

def run (files : FileAccess m) (environment : Option String) (words : List String) :
    m Outcome := do
  match Invocation.ofWords environment words with
  | .error r => return refusalOutcome r
  | .ok i => return outcomeOf (← execute files i)

end TypeSchema.Command
