import TypeSchema.Storage.Fault
import TypeSchema.Storage.Path

namespace TypeSchema

inductive FileTree where
  | file (content : ByteArray)
  | directory (entries : List (String × FileTree))

namespace FileTree

def empty : FileTree := directory []

def child? : FileTree → String → Option FileTree
  | directory entries, name => entries.lookup name
  | file _, _ => none

/-- What the names lead to from the root. -/
def at? (t : FileTree) : List String → Option FileTree
  | [] => some t
  | name :: names => (t.child? name).bind (·.at? names)

def putChild (name : String) (t : FileTree) : List (String × FileTree) → List (String × FileTree)
  | [] => [(name, t)]
  | e :: es => if e.1 = name then (name, t) :: es else e :: putChild name t es

/-- Puts `new` where the names lead to, in new directories if need be. -/
def putAt (new : FileTree) : FileTree → List String → FileTree
  | _, [] => new
  | directory entries, name :: names =>
    directory (putChild name (putAt new ((entries.lookup name).getD empty) names) entries)
  | file content, _ :: _ => file content

/-- One step of a path from the directory at `position`. -/
def enter (t : FileTree) (position : List String) (segment : String) :
    Except FileFault (List String) :=
  match t.at? position with
  | none => .error .notFound
  | some (file _) => .error .notADirectory
  | some (directory entries) =>
    if segment = "." then .ok position
    else if segment = ".." then .ok position.dropLast
    else if (entries.lookup segment).isSome then .ok (position ++ [segment])
    else .error .notFound

def walk (t : FileTree) (segments : List String) : Except FileFault (List String) :=
  segments.foldlM t.enter []

def read (t : FileTree) (path : String) : Except FileFault ByteArray := do
  if path.isEmpty then .error .notFound
  match t.at? (← t.walk (Path.segments path)) with
  | none => .error .notFound
  | some (directory _) => .error .isADirectory
  | some (file content) =>
    if Path.endsInSlash path then .error .notADirectory else return content

def holds (t : FileTree) (path : String) : Bool :=
  match t.walk (Path.segments path) with
  | .ok _ => true
  | .error _ => false

/-- Makes the directory that a step needs. -/
def enterNew (state : FileTree × List String) (segment : String) :
    Except FileFault (FileTree × List String) :=
  let (t, position) := state
  match t.enter position segment with
  | .ok position => .ok (t, position)
  | .error .notFound => .ok (putAt empty t (position ++ [segment]), position ++ [segment])
  | .error fault => .error fault

def createDirectories (t : FileTree) (path : String) : Except FileFault FileTree := do
  let (t, _) ← (Path.segments path).foldlM enterNew (t, [])
  return t

/-- The directory of the file has to be there. A path that ends in a slash names no file. -/
def write (t : FileTree) (path : String) (content : ByteArray) : Except FileFault FileTree := do
  match (Path.segments path).getLast? with
  | none => .error (if path.isEmpty then .notFound else .isADirectory)
  | some name =>
    let position ← t.walk (Path.segments path).dropLast
    match t.at? position with
    | some (directory entries) =>
      if name = "." || name = ".." || Path.endsInSlash path then .error .isADirectory
      else
        match entries.lookup name with
        | some (directory _) => .error .isADirectory
        | _ => return putAt (file content) t (position ++ [name])
    | _ => .error .notADirectory

end FileTree

end TypeSchema
