import TypeSchema.Error
import TypeSchema.Json.Reader
import TypeSchema.Yaml.Reader

namespace TypeSchema

namespace Registry

/-- Registers the types of one module, each qualified against all of their names. -/
def registerModule (r : Registry) (path : String) (types : ModuleTypes) : Registry :=
  types.entries.foldl
    (fun r e => r.register ⟨path, e.1, e.2.qualifyLocal path (· ∈ types.keys)⟩) r

def ofManifest (m : Manifest) : Registry :=
  m.modules.entries.foldl (fun r e => r.registerModule e.1 e.2)
    { empty with overrides := m.overrides }

def ofReading (format : ManifestFormat) (reading : Manifest.Reading) : Except Error Registry :=
  match Manifest.ofReading reading with
  | .ok m => .ok (ofManifest m)
  | .error fault => .error (.manifest format fault)

def ofText (format : ManifestFormat) (text : String) : Except Error Registry :=
  ofReading format (match format with | .json => Json.read text | .yaml => Yaml.read text)

end Registry

end TypeSchema
