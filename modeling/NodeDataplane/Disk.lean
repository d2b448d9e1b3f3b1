import NodeDataplane.Journal
import NodeDataplane.Path
import NodeDataplane.Text.Lines
import NodeDataplane.Text.Quoted

/-!
# Files

What is found at a path: nothing, a directory, or a file with its bytes and the time of its last
change. A `Disk` is a set of files; the directories are those that the files need. Texts are read as
UTF-8, and every way to end a line reads as a line feed.

Names and paths have a greatest length in bytes. A name that is too long is told from one that is
not there only where a directory is searched for it; a path that is too long is not followed at all.
-/

namespace NodeDataplane

open NodeDataplane.Text (quoted unifyLines)

/-- A file: its bytes, and the time of its last change in nanoseconds. -/
structure StoredFile where
  content : ByteArray
  modified : String

theorem StoredFile.eq_iff {f g : StoredFile} :
    f = g ↔ f.content.data = g.content.data ∧ f.modified = g.modified := by
  obtain ⟨⟨bytes⟩, modified⟩ := f
  obtain ⟨⟨others⟩, time⟩ := g
  simp only [mk.injEq, ByteArray.mk.injEq]

-- Bytes are compared as an array, for which there is one way to do so.
instance : DecidableEq StoredFile := fun _ _ => decidable_of_iff _ StoredFile.eq_iff.symm

inductive Place where
  | absent
  /-- A path that goes on behind a file. -/
  | behindFile
  /-- A path that is too long, or a name that is. -/
  | tooLong
  /-- A path with a null character, under which nothing can be. -/
  | unnameable
  | directory
  | file (file : StoredFile)
  deriving DecidableEq

inductive FileFault where
  | notFound (path : String)
  | isDirectory (path : String)
  | notDirectory (path : String)
  | nameTooLong (path : String)
  | nullCharacter
  deriving DecidableEq, Repr

namespace FileFault

def message : FileFault → String
  | notFound path => "[Errno 2] No such file or directory: " ++ quoted path
  | isDirectory path => "[Errno 21] Is a directory: " ++ quoted path
  | notDirectory path => "[Errno 20] Not a directory: " ++ quoted path
  | nameTooLong path => "[Errno 36] File name too long: " ++ quoted path
  | nullCharacter => "embedded null byte"

def failureClass : FileFault → FailureClass
  | notFound _ => .fileNotFound
  | isDirectory _ => .isDirectory
  | notDirectory _ => .notDirectory
  | nameTooLong _ => .nameTooLong
  | nullCharacter => .invalidValue

end FileFault

/-- The file at a place, which is called by its path if it is not there. -/
def Place.read (place : Place) (path : Path) : Except FileFault StoredFile :=
  match place with
  | absent => .error (.notFound path.text)
  | behindFile => .error (.notDirectory path.text)
  | tooLong => .error (.nameTooLong path.text)
  | unnameable => .error .nullCharacter
  | directory => .error (.isDirectory path.text)
  | file f => .ok f

/-- The text of a file; `none` if it is not UTF-8. -/
def StoredFile.text? (f : StoredFile) : Option String :=
  (String.fromUTF8? f.content).map fun s => String.ofList (unifyLines s.toList)

/-! ### Names -/

def maxNameBytes : Nat := 255

def maxPathBytes : Nat := 4095

/-- Whether a name is too long to be found in any directory. -/
def isLongName (name : String) : Bool := maxNameBytes < name.utf8ByteSize

/-- The place of a path that no file can be at, if it is one. -/
def Place.ofImpossible? (path : Path) : Option Place :=
  if path.text.toList.contains '\x00' then some unnameable
  else if maxPathBytes < path.text.utf8ByteSize then some tooLong
  else none

/-! ### Many files -/

/-- Files by their paths; of two with one path the later counts. -/
structure Disk where
  files : List (Path × StoredFile)

namespace Disk

def empty : Disk := ⟨[]⟩

def continues (longer shorter : Path) : Bool :=
  longer.root == shorter.root && longer.parts.length > shorter.parts.length &&
    longer.parts.take shorter.parts.length == shorter.parts

/-- What a path without parts that lead upwards is the path of. -/
def placeOf (disk : Disk) (path : Path) : Place :=
  match disk.files.reverse.find? fun (p, _) => p == path with
  | some (_, f) => .file f
  | none =>
    if path.parts.isEmpty || disk.files.any (fun (p, _) => continues p path) then .directory
    else .absent

/-- What is found where the parts of a path lead upwards from the directory that all files are in:
the directories around it, and nothing else. -/
def around : List String → Place
  | [] => .directory
  | part :: rest =>
    if part = ".." then around rest
    else if isLongName part then .tooLong
    else .absent

/-- Go along the parts of a path from what `base` is the path of; there are parts only in a
directory. Upwards from the root of all files it goes no further. -/
def walk (disk : Disk) (root : String) (base : List String) : List String → Place
  | [] => disk.placeOf ⟨root, base⟩
  | part :: rest =>
    match disk.placeOf ⟨root, base⟩ with
    | .directory =>
      if part = ".." then
        if base.isEmpty && root.isEmpty then around rest else walk disk root base.dropLast rest
      else if isLongName part then .tooLong
      else walk disk root (base ++ [part]) rest
    | .file _ => .behindFile
    | other => other

def place (disk : Disk) (path : Path) : Place :=
  (Place.ofImpossible? path).getD (disk.walk path.root [] path.parts)

end Disk

end NodeDataplane
