import TypeSchema.Manifest.Basic
import TypeSchema.Resolver
import TypeSchema.Storage.Fault

namespace TypeSchema

inductive ManifestFormat where
  | json
  | yaml
  deriving DecidableEq, Repr

namespace ManifestFormat

def name : ManifestFormat → String
  | json => "JSON"
  | yaml => "YAML"

end ManifestFormat

inductive Error where
  | unsupported (type : Unsupported)
  | parse (e : ParseError)
  | manifest (format : ManifestFormat) (fault : Manifest.Fault)
  | file (fault : FileFault)
  | unknownKind (word : String)
  | outputDirectory (fault : FileFault)
  | outputFile (fault : FileFault)
  deriving DecidableEq, Repr

namespace Error

/-- Only a refused type text is told apart among the faults of a manifest. -/
def manifestDetail : Manifest.Fault → String
  | .malformed => ""
  | .badType e => ": " ++ e.message

def message : Error → String
  | unsupported type => type.message
  | parse e => e.message
  | manifest format fault =>
    "Config Error: Failed to parse registry " ++ format.name ++ manifestDetail fault
  | file fault => "IO Error: " ++ fault.message
  | unknownKind word => "General Error: '" ++ word ++ "' is not a schema type"
  | outputDirectory fault =>
    "General Error: Failed to create output directory: " ++ fault.message
  | outputFile fault => "General Error: Failed to write output file: " ++ fault.message

end Error

namespace SchemaKind

def ofWord (word : String) : Except Error SchemaKind :=
  match ofWord? word with
  | some kind => .ok kind
  | none => .error (.unknownKind word)

end SchemaKind

end TypeSchema
