namespace TypeSchema

/-- What is written out. The entries of a table keep their order. -/
inductive Document where
  | text (s : String)
  | list (items : List Document)
  | table (entries : List (String × Document))

namespace Document

def single (key : String) (value : Document) : Document := table [(key, value)]

end Document

end TypeSchema
