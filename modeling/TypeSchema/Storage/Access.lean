import TypeSchema.Storage.FileTree

namespace TypeSchema

structure FileAccess (m : Type → Type) where
  read : String → m (Except FileFault ByteArray)
  holds : String → m Bool
  createDirectories : String → m (Except FileFault Unit)
  write : String → ByteArray → m (Except FileFault Unit)

namespace FileTree

def update (f : FileTree → Except FileFault FileTree) : StateM FileTree (Except FileFault Unit) :=
  fun t =>
    match f t with
    | .ok t' => (.ok (), t')
    | .error fault => (.error fault, t)

/-- Files kept in a tree. -/
def access : FileAccess (StateM FileTree) where
  read path := fun t => (t.read path, t)
  holds path := fun t => (t.holds path, t)
  createDirectories path := update (·.createDirectories path)
  write path content := update (·.write path content)

end FileTree

end TypeSchema
