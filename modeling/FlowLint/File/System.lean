import FlowLint.File.Path
import FlowLint.Text.Lines
import FlowLint.Text.Utf8

/-!
# File systems

All that the program asks of a file system is the octets under a path, or why there are none.
`FileTree.system` is the file system of a directory with given contents; it walks paths part by
part, as an operating system does.
-/

namespace FlowLint

/-- Why a file cannot be read. -/
inductive ReadFault where
  | missing
  | notDirectory
  | isDirectory
  | nameTooLong
  | other (code : Nat) (text : String)
deriving DecidableEq, Repr

/-- The number of a fault. -/
def ReadFault.code : ReadFault → Nat
  | .missing => 2
  | .notDirectory => 20
  | .isDirectory => 21
  | .nameTooLong => 36
  | .other code _ => code

/-- A fault in words. -/
def ReadFault.text : ReadFault → String
  | .missing => "No such file or directory"
  | .notDirectory => "Not a directory"
  | .isDirectory => "Is a directory"
  | .nameTooLong => "File name too long"
  | .other _ text => text

def ReadFault.message (fault : ReadFault) (path : Path) : String :=
  "[Errno " ++ numberText fault.code ++ "] " ++ fault.text ++ ": " ++ Text.quoted path.text

/-- What is under each path. -/
abbrev FileSystem := Path → Except ReadFault (List UInt8)

/-- Why a text cannot be read from a file: it cannot be opened, its path is none, or its octets are
no text. -/
inductive TextFault where
  | unreadable (cause : ReadFault)
  | nullInPath
  | undecodable (cause : Utf8.Fault)
deriving DecidableEq, Repr

/-- The text of a file, in UTF-8 and with a line feed for every line end. -/
def FileSystem.readText (system : FileSystem) (path : Path) : Except TextFault (List Char) :=
  if path.hasNull then .error .nullInPath
  else
    match system path with
    | .error cause => .error (.unreadable cause)
    | .ok octets =>
      match Utf8.decode octets with
      | .error cause => .error (.undecodable cause)
      | .ok text => .ok (Text.normalizeLineEnds text)

/-! ## Trees of files -/

/-- What a name in a directory stands for. -/
inductive FileEntry where
  | file (octets : List UInt8)
  | directory
deriving Repr

/-- The contents of a directory and of those inside it, by the parts of their paths. The directories
on the way to an entry exist with it. -/
abbrev FileTree := List (List String × FileEntry)

namespace FileTree

/-- The longest part of a path, in octets. -/
def maxPartLength : Nat := 255

/-- The longest path, in octets. -/
def maxPathLength : Nat := 4095

/-- The entry at the end of a way; the start of the way is a directory. Of two entries in one place
the later one counts. -/
def entry? (tree : FileTree) (way : List String) : Option FileEntry :=
  if way.isEmpty then some .directory
  else
    match tree.reverse.lookup way with
    | some found => some found
    | none => if tree.any fun e => way.isPrefixOf e.1 then some .directory else none

/-- A place that a path has led to: at the end of a way inside the tree, or so many directories
above its top. -/
inductive Place where
  | inside (way : List String)
  | above (levels : Nat)

def Place.parent : Place → Place
  | .inside [] => .above 1
  | .inside way => .inside way.dropLast
  | .above levels => .above (levels + 1)

/-- Walks the parts of a path from a place. Above its top the tree knows directories only. -/
def walk (tree : FileTree) (place : Place) : List String → Except ReadFault FileEntry
  | [] =>
    match place with
    | .above _ => .ok .directory
    | .inside way =>
      match entry? tree way with
      | some found => .ok found
      | none => .error .missing
  | part :: rest =>
    let here :=
      match place with
      | .above _ => some FileEntry.directory
      | .inside way => entry? tree way
    match here with
    | none => .error .missing
    | some (.file _) => .error .notDirectory
    | some .directory =>
      if maxPartLength < part.utf8ByteSize then .error .nameTooLong
      else if part = ".." then walk tree place.parent rest
      else
        match place with
        | .above _ => .error .missing
        | .inside way => walk tree (.inside (way ++ [part])) rest

/-- The place where a path starts: the top of the tree, or the root for an absolute path, which is
so far above that nothing else in it is known. -/
def start (path : Path) : Place :=
  if path.root = 0 then .inside [] else .above path.parts.length

def system (tree : FileTree) : FileSystem := fun path =>
  if maxPathLength < path.text.utf8ByteSize then .error .nameTooLong
  else
    match walk tree (start path) path.parts with
    | .ok (.file octets) => .ok octets
    | .ok .directory => .error .isDirectory
    | .error fault => .error fault

end FileTree

end FlowLint
