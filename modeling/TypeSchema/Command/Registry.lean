import TypeSchema.Manifest.Registry
import TypeSchema.Storage.Access

namespace TypeSchema

namespace ManifestFormat

/-- Only the extension `json`, as written, means JSON. -/
def ofPath (path : String) : ManifestFormat :=
  if Path.extension? path = some "json" then json else yaml

end ManifestFormat

namespace Registry

def ofBytes (path : String) (content : ByteArray) : Except Error Registry :=
  match String.fromUTF8? content with
  | some text => ofText (.ofPath path) text
  | none => .error (.file .invalidUtf8)

def ofFile {m : Type → Type} [Monad m] (files : FileAccess m) (path : String) :
    m (Except Error Registry) := do
  match ← files.read path with
  | .ok content => return ofBytes path content
  | .error fault => return .error (.file fault)

end Registry

end TypeSchema
