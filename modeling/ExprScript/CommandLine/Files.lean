/-!
# Files

The files a command can read, by their paths from the current directory, and in particular
a current directory that holds the given files alone. A path may hold empty parts and parts
that stay in place (`.`), which do not count, and parts that go to the directory around
(`..`). No part and no path may be too long.
-/

namespace ExprScript.CommandLine

/-- What stands at a path: the text of a file, a directory, or nothing; or a path that is too
long for anything to stand there. -/
inductive Place where
  | file (text : String)
  | directory
  | nothing
  | tooLong

/-- What stands at each path. -/
abbrev Files := String → Place

/-- The parts of a path that count. -/
def pathParts (path : String) : List String :=
  (path.splitOn "/").filter fun part => part ≠ "" && part ≠ "."

/-- Whether a path begins at the root. -/
def isAbsolute (path : String) : Bool :=
  path.toList.head? = some '/'

/-- The path as written with the parts that count; the current directory is a point. -/
def normalPath (path : String) : String :=
  let start := if isAbsolute path then "/" else ""
  match pathParts path with
  | [] => if start = "" then "." else start
  | parts => start ++ "/".intercalate parts

/-- The greatest number of bytes in a part of a path. -/
def partLimit : Nat := 255

/-- The greatest number of bytes in a path. -/
def pathLimit : Nat := 4095

/-- A directory with the files below it, each by the parts of its path. -/
structure Folder where
  entries : List (List String × String)

namespace Folder

/-- Whether some file stands below the given parts. -/
def holdsBelow (folder : Folder) (parts : List String) : Bool :=
  folder.entries.any fun entry => parts.isPrefixOf entry.1

/-- What stands at a path from a directory of the folder, or from outside of it (`none`),
where nothing is known to stand but directories that lead to the folder. The path is
followed part by part, and the first part that leads nowhere decides. -/
def follow (folder : Folder) : (here : Option (List String)) → List String → Place
  | _, [] => .directory
  | none, part :: rest =>
    if part = ".." then follow folder none rest
    else if partLimit < part.utf8ByteSize then .tooLong
    else .nothing
  | some here, part :: rest =>
    if part = ".." then follow folder (if here.isEmpty then none else some here.dropLast) rest
    else if partLimit < part.utf8ByteSize then .tooLong
    else
      let place := here ++ [part]
      match folder.entries.lookup place with
      | some text => if rest.isEmpty then .file text else .nothing
      | none => if folder.holdsBelow place then follow folder (some place) rest else .nothing

end Folder

/-- The files of a current directory by the texts at their paths. -/
def Files.ofList (entries : List (String × String)) : Files := fun path =>
  let folder : Folder := ⟨entries.map fun entry => (pathParts entry.1, entry.2)⟩
  if pathLimit < (normalPath path).utf8ByteSize then .tooLong
  else folder.follow (if isAbsolute path then none else some []) (pathParts path)

/-- The text of the file that a path names. -/
def textAt? (files : Files) (path : String) : Option String :=
  match files path with
  | .file text => some text
  | _ => none

end ExprScript.CommandLine
