import TypeSchema.Command.Run

namespace TypeSchema

/-- A file that exists where a directory is to be made is no directory. -/
def faultOf : IO.Error → FileFault
  | .noFileOrDirectory .. => .notFound
  | .inappropriateType _ 21 _ => .isADirectory
  | .inappropriateType .. | .alreadyExists .. => .notADirectory
  | e => .other (toString e)

def attempt {α : Type} (act : IO α) : IO (Except FileFault α) := do
  match ← act.toBaseIO with
  | .ok a => return .ok a
  | .error e => return .error (faultOf e)

def systemFiles : FileAccess IO where
  read path := attempt (IO.FS.readBinFile path)
  holds path := do
    match ← attempt (IO.FS.readBinFile path) with
    | .error .notFound | .error .notADirectory => return false
    | _ => return true
  createDirectories path := attempt (IO.FS.createDirAll path)
  write path content := attempt (IO.FS.writeBinFile path content)

end TypeSchema

def main (words : List String) : IO UInt32 := do
  let environment ← IO.getEnv "PROPSCHEMA_REGISTRY"
  let outcome ← TypeSchema.Command.run TypeSchema.systemFiles environment words
  IO.print outcome.output
  IO.eprint outcome.diagnostic
  return outcome.status.toUInt32
