import DisplayLayout.CommandLine.FileAccess
import DisplayLayout.Keyed
import DisplayLayout.Text.Basic

/-!
# A folder in memory

Files by their paths within one folder. Commands that run on such a folder have
no effect outside it. A folder exists below it if it holds a file.
-/

namespace DisplayLayout

/-- The files of a folder by their paths. -/
abbrev Folder := Keyed String

namespace Folder

/-- What a path leads to. -/
inductive Place where
  | folder
  | file (path text : String)
  /-- Nothing, in a folder that exists. -/
  | free (path : String)
  | problem (problem : FileProblem)
deriving DecidableEq, Repr

/-- The path through folders. -/
def pathOf (parts : List String) : String := Text.join "/" parts

/-- Whether there is a folder at a path. -/
def hasFolder (f : Folder) (parts : List String) : Bool :=
  parts.isEmpty || f.any fun p => Text.hasLead (pathOf parts ++ "/") p.1

/-- Follows the parts of a path from a folder. -/
def follow (f : Folder) (here : List String) : List String → Place
  | [] => .folder
  | part :: rest =>
    if part = "" ∨ part = "." then follow f here rest
    else if part = ".." then
      if here.isEmpty then .problem .notFound else follow f here.dropLast rest
    else
      let next := here ++ [part]
      match Keyed.get? f (pathOf next) with
      | some text => if rest.isEmpty then .file (pathOf next) text else .problem .notFolder
      | none =>
        if hasFolder f next then follow f next rest
        else if rest.isEmpty then .free (pathOf next)
        else .problem .notFound

/-- What a path leads to. A path from the root leads out of the folder. -/
def place (f : Folder) (path : String) : Place :=
  match path.toList with
  | '/' :: _ => .problem .notFound
  | cs => follow f [] ((Text.splitOn '/' cs).map String.ofList)

/-- Whether a path leads to a file. -/
def isFile (f : Folder) (path : String) : Bool :=
  match f.place path with
  | .file .. => true
  | _ => false

/-- Reads a file. -/
def read (f : Folder) (path : String) : Except FileProblem String :=
  match f.place path with
  | .file _ text => .ok text
  | .folder => .error .isFolder
  | .free _ => .error .notFound
  | .problem p => .error p

/-- Drops the separators at the end of a path. -/
def withoutSlashes (path : String) : String :=
  String.ofList (path.toList.reverse.dropWhile (· == '/')).reverse

/-- Writes a file. A path with a separator at its end can only be that of a folder. -/
def write (f : Folder) (path text : String) : Except FileProblem Folder :=
  let bare := withoutSlashes path
  match f.place bare with
  | .problem p => .error p
  | .folder => .error .isFolder
  | .file known _ => if bare = path then .ok (f.put known text) else .error .isFolder
  | .free new => if bare = path then .ok (f.put new text) else .error .isFolder

/-- A folder as the files of commands. -/
def access : FileAccess (StateM Folder) where
  isFile path := return (← get).isFile path
  read path := return ((← get).read path).mapError FileProblem.message
  write path text := do
    match (← get).write path text with
    | .ok f => set f; return .ok ()
    | .error p => return .error p.message

end Folder

end DisplayLayout
