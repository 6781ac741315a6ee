/-!
# Access to files

The files that a command can read and write, wherever they are kept.
-/

namespace DisplayLayout

/-- Access to files. What cannot be done is answered with the reason. -/
structure FileAccess (m : Type → Type) where
  isFile : String → m Bool
  read : String → m (Except String String)
  write : String → String → m (Except String Unit)

/-- Why a file cannot be read or written. -/
inductive FileProblem where
  | notFound
  | notFolder
  | isFolder
deriving DecidableEq, Repr

/-- The words of the operating system for a problem, with its number. -/
def FileProblem.message : FileProblem → String
  | notFound => "No such file or directory (os error 2)"
  | notFolder => "Not a directory (os error 20)"
  | isFolder => "Is a directory (os error 21)"

end DisplayLayout
