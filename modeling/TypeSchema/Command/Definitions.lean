import TypeSchema.Command.Classify
import TypeSchema.Definition.Builder
import TypeSchema.Storage.Access
import TypeSchema.Yaml.Printer

namespace TypeSchema.Command

def rootDocument (expression : String) (d : Descriptor) : Document :=
  .table [("expression", .text expression), ("descriptor", d.document)]

/-- All expressions are read before the first is classified. -/
def definitionsDocument (registry : Registry) (expressions : List String) :
    Except Error Document := do
  let roots ← expressions.mapM fun e => Error.ofParse (TypeExpr.parse e)
  let (ds, definitions) ← Error.ofClassify (buildDefinitions registry roots)
  return .table [
    ("roots", .list ((expressions.zip ds).map fun r => rootDocument r.1 r.2)),
    ("definitions", definitions.document)]

/-- Only the extensions `yaml` and `yml`, as written, ask for YAML. -/
def writtenAs (output : Option String) (d : Document) : String :=
  match output.bind Path.extension? with
  | some "yaml" | some "yml" => Yaml.print d
  | _ => Json.pretty d

variable {m : Type → Type} [Monad m]

/-- Makes the directory of a file if it is not there. -/
def prepareDirectory (files : FileAccess m) (path : String) : m (Except Error Unit) := do
  match Path.parent? path with
  | none => return .ok ()
  | some parent =>
    if parent.isEmpty || (← files.holds parent) then return .ok ()
    match ← files.createDirectories parent with
    | .ok () => return .ok ()
    | .error fault => return .error (.outputDirectory fault)

def save (files : FileAccess m) (path text : String) : m (Except Error Unit) := do
  match ← prepareDirectory files path with
  | .error e => return .error e
  | .ok () =>
    match ← files.write path text.toUTF8 with
    | .ok () => return .ok ()
    | .error fault => return .error (.outputFile fault)

/-- The text for the standard output, none where a file has been written. -/
def definitions (files : FileAccess m) (registry : Registry) (expressions : List String)
    (output : Option String) : m (Except Error (Option String)) := do
  match definitionsDocument registry expressions with
  | .error e => return .error e
  | .ok d =>
    match output with
    | none => return .ok (some (writtenAs none d))
    | some path =>
      match ← save files path (writtenAs (some path) d) with
      | .error e => return .error e
      | .ok () => return .ok none

end TypeSchema.Command
