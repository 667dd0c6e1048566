import Conductor.Assoc

/-! Paths and the files they lead to. A path starts at the working directory, or at the root of all files. Only the
files that are given are known; what lies above the working directory is not. -/

namespace Conductor

/-- The contents of files by their path. -/
abbrev Files := Assoc String

/-- What stands at the end of a path. A name or a path may be too long to be looked up. -/
inductive Location where
  | nothing
  | tooLong
  | directory
  | text (content : String)
  deriving DecidableEq, Repr

namespace File

/-- The greatest size of a name, and the size from which on a path is too long, in bytes. -/
def nameLimit : Nat := 255

def pathLimit : Nat := 4096

def isRooted (path : String) : Bool := path.toList.head? = some '/'

/-- The names on a path. A path from the root begins with a slash of its own. -/
def parts (path : String) : List String :=
  (if isRooted path then ["/"] else []) ++ (path.splitOn "/").filter fun name => name ≠ "" && name ≠ "."

/-- A path without the names that lead nowhere. Two slashes at its start stay two, more of them are one. -/
def tidyPath (path : String) : String :=
  let slashes := (path.toList.takeWhile (· = '/')).length
  let root := if slashes = 0 then "" else if slashes = 2 then "//" else "/"
  let tidy := root ++ "/".intercalate ((parts path).filter (· ≠ "/"))
  if tidy = "" then "." else tidy

/-- The directory above one; none lies above the working directory that is known. -/
def above : List String → Option (List String)
  | [] => none
  | ["/"] => some ["/"]
  | names => some names.dropLast

/-- The last of the files that stands under these names. -/
def at? (files : Files) (names : List String) : Option String :=
  (files.reverse.find? fun file => parts file.1 = names).map Prod.snd

/-- Follows names from a directory, or from one that is not known. -/
def follow (files : Files) (place : Option (List String)) : List String → Location
  | [] => .directory
  | name :: rest =>
    if name = "" || name = "." then follow files place rest
    else if name = ".." then follow files (place.bind above) rest
    else if nameLimit < name.utf8ByteSize then .tooLong
    else match place.map (· ++ [name]) with
      | none => .nothing
      | some names =>
        match at? files names with
        | some content => if rest.isEmpty then .text content else .nothing
        | none =>
          if files.any fun file => names.isPrefixOf (parts file.1) then follow files (some names) rest
          else .nothing

def find (files : Files) (path : String) : Location :=
  if path = "" || path.toList.contains '\x00' then .nothing
  else if pathLimit ≤ path.utf8ByteSize then .tooLong
  else follow files (some (if isRooted path then ["/"] else [])) (path.splitOn "/")

end File

end Conductor
