import FlowLint.Text.Split

/-!
# File paths

A path is absolute or relative and has parts between its slashes. Empty parts and parts of a single
dot say nothing and are dropped, so several texts are one path; its own text is the shortest of
them.
-/

namespace FlowLint

/-- A file path. -/
structure Path where
  /-- The slashes in front: none, one, or exactly two. -/
  root : Nat
  parts : List String
deriving DecidableEq, Repr

namespace Path

/-- The slashes in front of a path; more than two count as one. -/
def rootOf (cs : List Char) : Nat :=
  match (cs.takeWhile (· == '/')).length with
  | 0 => 0
  | 2 => 2
  | _ => 1

def ofText (s : String) : Path where
  root := rootOf s.toList
  parts := ((Text.splitAll '/' s.toList).filter fun part => part != [] && part != ['.']).map
    String.ofList

/-- The text of a path; the path without parts is a dot. -/
def text (path : Path) : String :=
  let slashes := String.ofList (List.replicate path.root '/')
  if path.root = 0 && path.parts.isEmpty then "." else slashes ++ "/".intercalate path.parts

/-- Some part holds the null character, which no file name has. -/
def hasNull (path : Path) : Bool :=
  path.parts.any fun part => part.toList.contains '\x00'

/-- The suffix of a file name: its last point and what follows, when there is something before the
point and behind it. -/
def suffixOf (name : List Char) : List Char :=
  let tail := (name.reverse.takeWhile (· != '.')).reverse
  let before := name.length - tail.length
  if tail.isEmpty || before ≤ 1 then [] else '.' :: tail

def suffix (path : Path) : List Char :=
  suffixOf ((path.parts.getLast?.getD "").toList)

def yamlSuffixes : List (List Char) :=
  [".yaml".toList, ".yml".toList]

/-- The path names a YAML file, in capital or small letters. -/
def isYaml (path : Path) : Bool :=
  yamlSuffixes.contains (path.suffix.map Char.toLower)

end Path

end FlowLint
