/-!
# Files

A program that reads files depends on them through `Files`: what each path gives.  `Directory.files`
says it for a directory with known files, in which a path is followed name by name.
-/

namespace ThemeOptions

/-- Why a file cannot be read. -/
inductive FileError where
  | notFound
  | notDirectory
  | isDirectory
  /-- The path or a name on it has too many octets. -/
  | tooLong
  /-- The path has a character that no path has. -/
  | zeroInPath
  /-- Another cause, in words. -/
  | other (message : String)
deriving DecidableEq, Repr

def FileError.message : FileError → String
  | notFound => "No such file or directory (os error 2)"
  | notDirectory => "Not a directory (os error 20)"
  | isDirectory => "Is a directory (os error 21)"
  | tooLong => "File name too long (os error 36)"
  | zeroInPath => "file name contained an unexpected NUL byte"
  | other message => message

/-- The text of a file, by its path. -/
abbrev Files := String → Except FileError String

namespace Path

/-- The names on a path; where it ends in a slash, the last one is empty. -/
def names (path : String) : List (List Char) := path.toList.splitOn '/'

/-- How many octets a name may have. -/
def maxNameSize : Nat := 255

/-- How many octets a path may have. -/
def maxSize : Nat := 4095

/-- Whether a name has too many octets. -/
def isLongName (name : List Char) : Bool := maxNameSize < (String.ofList name).utf8ByteSize

/-- What is wrong with a path as such, whatever files there are. -/
def fault? (path : String) : Option FileError :=
  if path.contains '\x00' then some .zeroInPath
  else if path.isEmpty then some .notFound
  else if maxSize < path.utf8ByteSize then some .tooLong
  else none

/-- Whether a path starts at the root of all files. -/
def isAbsolute (path : String) : Bool := path.toList.head? == some '/'

/-- The path of a file that another path is relative to. -/
def join (directory path : String) : String :=
  if isAbsolute path || directory.isEmpty then path
  else if directory.toList.getLast? == some '/' then directory ++ path
  else directory ++ "/" ++ path

/-- The end of a path without the slashes there, and without names that mean the same place.  A dot
at the start of the path stays. -/
def dropIdle : List (List Char) → List (List Char)
  | [] => []
  | name :: earlier =>
    if (name.isEmpty || name == ['.']) && !earlier.isEmpty then dropIdle earlier
    else name :: earlier

/-- The directory of the file at a path, empty if the path is a name only. -/
def parent (path : String) : String :=
  match names path with
  | [] | [_] => ""
  | first :: rest =>
    match dropIdle ((first :: rest).reverse.drop 1) with
    | [[]] => "/"
    | kept => String.ofList (List.intercalate ['/'] kept.reverse)

end Path

/-- The files of a directory: names from the directory on, with texts. -/
structure Directory where
  entries : List (List (List Char) × String)

namespace Directory

/-- The files at relative paths; of two at one path the later one is there. -/
def ofList (files : List (String × String)) : Directory :=
  ⟨(files.map fun (path, text) =>
    ((Path.names path).filter fun n => !n.isEmpty && n != ['.'], text)).reverse⟩

/-- A place that a path leads to. -/
inductive Place where
  /-- A directory, by the names that lead to it. -/
  | inside (names : List (List Char))
  /-- A directory above, of which nothing else is known. -/
  | above
  | file (text : String)

/-- Why nothing stands under a name. -/
def missing (name : List Char) : FileError :=
  if Path.isLongName name then .tooLong else .notFound

/-- One name further on. -/
def step (d : Directory) (place : Place) (name : List Char) : Except FileError Place :=
  match place with
  | .file _ => .error .notDirectory
  | .above =>
    if name.isEmpty || name == ['.'] || name == ['.', '.'] then .ok .above
    else .error (missing name)
  | .inside names =>
    if name.isEmpty || name == ['.'] then .ok (.inside names)
    else if name == ['.', '.'] then
      .ok (if names.isEmpty then .above else .inside names.dropLast)
    else
      let names := names ++ [name]
      match d.entries.lookup names with
      | some text => .ok (.file text)
      | none =>
        if d.entries.any fun e => names.isPrefixOf e.1 then .ok (.inside names)
        else .error (missing name)

/-- The text of the file at a path. -/
def files (d : Directory) : Files := fun path =>
  match Path.fault? path with
  | some e => .error e
  | none =>
    let start : Place := if Path.isAbsolute path then .above else .inside []
    match (Path.names path).foldlM d.step start with
    | .ok (.file text) => .ok text
    | .ok _ => .error .isDirectory
    | .error e => .error e

/-- A path that is at fault itself leads nowhere. -/
theorem files_of_fault (d : Directory) {path : String} {e : FileError}
    (h : Path.fault? path = some e) : d.files path = .error e := by
  simp [files, h]

end Directory

end ThemeOptions
