namespace TypeSchema.Yaml

inductive Token where
  | versionDirective (major minor : Nat)
  | tagDirective (handle : String)
  | documentStart
  | documentEnd
  | blockSequenceStart
  | blockMappingStart
  | blockEnd
  | flowSequenceStart
  | flowSequenceEnd
  | flowMappingStart
  | flowMappingEnd
  | blockEntry
  | flowEntry
  | key
  | value
  | aliasOf (anchor : String)
  | anchor (name : String)
  | tag (handle : String)
  /-- An empty plain scalar is no scalar token: nothing is written for it. -/
  | scalar (text : String)
  | streamEnd
  /-- The text could not be read further. -/
  | fault
  deriving DecidableEq

end TypeSchema.Yaml
