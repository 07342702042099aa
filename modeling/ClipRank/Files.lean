/-!
Reading files by name, and directories held in memory. Paths are followed name by
name, and only through directories.
-/

namespace ClipRank

inductive FileFault where
  | notFound
  | notADirectory
  | isADirectory
  | denied
  | nameTooLong
  | notAName
  | notText
deriving Repr, DecidableEq

namespace FileFault

def message : FileFault → String
  | notFound => "No such file or directory (os error 2)"
  | notADirectory => "Not a directory (os error 20)"
  | isADirectory => "Is a directory (os error 21)"
  | denied => "Permission denied (os error 13)"
  | nameTooLong => "File name too long (os error 36)"
  | notAName => "file name contained an unexpected NUL byte"
  | notText => "stream did not contain valid UTF-8"

end FileFault

/-- What reading a path gives. -/
abbrev FileSystem := String → Except FileFault String

namespace FileSystem

/-- Whether something stands at a path. -/
def present (files : FileSystem) (path : String) : Bool :=
  match files path with
  | .ok _ | .error .isADirectory | .error .denied | .error .notText => true
  | .error .notFound | .error .notADirectory | .error .nameTooLong | .error .notAName => false

end FileSystem

/-- A place as seen from a directory: so many levels up, and from there down along some
names. -/
structure Place where
  up : Nat
  names : List String
deriving Repr, DecidableEq

namespace Place

def here : Place :=
  ⟨0, []⟩

/-- The place that a name on a path leads to. -/
def enter (place : Place) (name : String) : Place :=
  if name = "." then place
  else if name = ".." then
    if place.names = [] then ⟨place.up + 1, []⟩ else { place with names := place.names.dropLast }
  else { place with names := place.names ++ [name] }

/-- Whether a place lies above another one, or is the same. -/
def leadsTo (place other : Place) : Bool :=
  place.up = other.up && place.names.isPrefixOf other.names

end Place

/-- A directory as the texts of the files in and below it. -/
structure Directory where
  files : List (String × String)

namespace Directory

/-- The names on a path. -/
def names (path : String) : List String :=
  (path.splitToList (· = '/')).filter (· ≠ "")

/-- The places that a path goes through, from the last to the first. -/
def way (path : String) : List Place :=
  (names path).foldl (fun places name => (places.headD .here).enter name :: places) [.here]

def place (path : String) : Place :=
  (way path).headD .here

/-- Whether there is a directory at a place: on the way to a file, or above them all. -/
def holds (directory : Directory) (place : Place) : Bool :=
  place.names = [] || directory.files.any fun file => (way file.1).tail.any place.leadsTo

/-- The text at a place. Of two files at one place the later one has replaced the other. -/
def file? (directory : Directory) (place : Place) : Option String :=
  (directory.files.reverse.find? fun file => Directory.place file.1 = place).map (·.2)

/-- The longest name, in bytes. -/
def nameLimit : Nat := 255

/-- The longest path, in bytes. -/
def pathLimit : Nat := 4095

/-- Goes along the names of a path from a place. -/
def follow (directory : Directory) (place : Place) : List String → Except FileFault Place
  | [] => .ok place
  | name :: rest =>
    if (directory.file? place).isSome then .error .notADirectory
    else if !directory.holds place then .error .notFound
    else if nameLimit < name.utf8ByteSize then .error .nameTooLong
    else follow directory (place.enter name) rest

/-- Where a path begins. Of the root it is known only that it is a directory. -/
def origin (path : String) : Place :=
  if path.startsWith "/" then ⟨1, []⟩ else .here

/-- Reads a path. Nothing is known of the places around the directory but that they are
directories. -/
def read (directory : Directory) : FileSystem := fun path =>
  if path.contains '\x00' then .error .notAName
  else if path = "" then .error .notFound
  else if pathLimit < path.utf8ByteSize then .error .nameTooLong
  else
    match directory.follow (origin path) (names path) with
    | .error fault => .error fault
    | .ok place =>
      match directory.file? place with
      | some text => if path.endsWith "/" then .error .notADirectory else .ok text
      | none => if directory.holds place then .error .isADirectory else .error .notFound

end Directory

/-- The variables that are set. -/
abbrev Environment := String → Option String

end ClipRank
