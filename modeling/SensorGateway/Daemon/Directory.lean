import SensorGateway.Bytes
import SensorGateway.Error
import SensorGateway.Text.Parts

/-!
# Paths from a directory

A directory holds files and no other directories.  A path leads from it, or from the root of the
system, one name after another to a place.  Of what is outside of the directory only little is known:
that there are directories above it, and what every system has.
-/

namespace SensorGateway

/-- A directory with the content of its files. -/
structure Directory where
  files : List (String × Bytes)

namespace Directory

/-- Where a path has come to. -/
inductive Place
  /-- The directory itself. -/
  | here
  /-- A directory above it. -/
  | above
  /-- A directory of the system, by the names from it to the root. -/
  | system (names : List String)
  | file (content : Bytes)

/-- The directories at the root of every system. -/
def rootNames : List String :=
  ["bin", "boot", "dev", "etc", "home", "lib", "media", "mnt", "opt", "proc", "root", "run", "sbin",
    "srv", "sys", "tmp", "usr", "var"]

/-- What a name of the system stands for. -/
def systemPlace (name : String) (names : List String) : Except IoFault Place :=
  match names with
  | [] => if name ∈ rootNames then .ok (.system [name]) else .error .noSuchFile
  | ["dev"] => if name = "null" then .ok (.file []) else .error .noSuchFile
  | _ => .error .noSuchFile

/-- The most bytes of a name. -/
def nameLimit : Nat := 255

/-- Goes to the directory above. -/
def Place.up : Place → Place
  | here | above => above
  | system names => system names.tail
  | file content => file content

/-- Follows a name. -/
def follow (d : Directory) (p : Place) (name : String) : Except IoFault Place :=
  match p with
  | .file _ => .error .notDirectory
  | p =>
      if name = "" ∨ name = "." then .ok p
      else if name = ".." then .ok p.up
      else if nameLimit < name.utf8ByteSize then .error .nameTooLong
      else
        match p with
        | .system names => systemPlace name names
        | .here => (d.files.lookup name).elim (.error .noSuchFile) fun bytes => .ok (.file bytes)
        | _ => .error .noSuchFile

/-- The number of bytes of which a path must have less. -/
def pathLimit : Nat := 4096

/-- Reads the file at a path. -/
def read (d : Directory) (path : String) : Except IoFault Bytes := do
  if path = "" then throw .noSuchFile
  if pathLimit ≤ path.utf8ByteSize then throw .nameTooLong
  let start := if path.startsWith "/" then Place.system [] else .here
  let names := (Text.pieces (· == '/') path.toList).map String.ofList
  match ← names.foldlM d.follow start with
  | .file content => return content
  | _ => throw .isDirectory

end Directory

end SensorGateway
