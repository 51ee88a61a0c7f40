/-! # Files

What a command needs of a file system, and a file system that is a plain list of files.
-/
namespace Lineflow

inductive FileError where
  | notFound
  | notDirectory
  | isDirectory
  | nameTooLong
  | nulInName
  | other (text : String)
deriving DecidableEq, Repr

def FileError.message : FileError → String
  | .notFound => "No such file or directory (os error 2)"
  | .notDirectory => "Not a directory (os error 20)"
  | .isDirectory => "Is a directory (os error 21)"
  | .nameTooLong => "File name too long (os error 36)"
  | .nulInName => "file name contained an unexpected NUL byte"
  | .other text => text

structure Files (m : Type → Type) where
  isFile : String → m Bool
  read : String → m (Except FileError (List UInt8))

def pathParts (path : String) : List String :=
  (path.splitOn "/").filter fun part => part != "" && part != "."

/-- Files by the components of their paths from the working directory; a directory has no content.
-/
structure FileTree where
  nodes : List (List String × Option (List UInt8))

namespace FileTree

def ofList (files : List (String × Option (List UInt8))) : FileTree :=
  ⟨files.map fun (name, content) => (pathParts name, content)⟩

def file? (tree : FileTree) (parts : List String) : Option (List UInt8) :=
  (tree.nodes.lookup parts).bind id

/-- The working directory, a listed directory, or one that a listed path leads through. -/
def isDirectory (tree : FileTree) (parts : List String) : Bool :=
  parts.isEmpty || tree.nodes.any fun (path, content) =>
    parts.isPrefixOf path && (content.isNone || parts.length < path.length)

def longestName : Nat := 255

def longestPath : Nat := 4095

inductive Place where
  | above
  | within (parts : List String)
deriving DecidableEq, Repr

def Place.parent : Place → Place
  | .above | .within [] => .above
  | .within parts => .within parts.dropLast

def obstacle? (tree : FileTree) : Place → Option FileError
  | .above => none
  | .within parts =>
    if tree.isDirectory parts then none
    else if (tree.file? parts).isSome then some .notDirectory
    else some .notFound

/-- Looks up a name in a place, which must be a directory. Nothing but directories is known of what
lies above the working directory. -/
def enter (tree : FileTree) (here : Place) (part : String) : Except FileError Place :=
  match tree.obstacle? here with
  | some error => .error error
  | none =>
    if part = ".." then .ok here.parent
    else if longestName < part.utf8ByteSize then .error .nameTooLong
    else
      match here with
      | .above => .error .notFound
      | .within parts => .ok (.within (parts ++ [part]))

def endsInDirectory (path : String) : Bool :=
  match (path.splitOn "/").getLast? with
  | some part => part == "" || part == "."
  | none => true

def read (tree : FileTree) (path : String) : Except FileError (List UInt8) := do
  if path.contains '\x00' then throw .nulInName
  if longestPath < path.utf8ByteSize then throw .nameTooLong
  if path.isEmpty then throw .notFound
  let start := if path.startsWith "/" then Place.above else .within []
  match ← (pathParts path).foldlM tree.enter start with
  | .above => throw .isDirectory
  | .within parts =>
    match tree.file? parts with
    | some content => if endsInDirectory path then throw .notDirectory else return content
    | none => throw (if tree.isDirectory parts then .isDirectory else .notFound)

def access (tree : FileTree) : Files Id where
  isFile path := (tree.read path).toOption.isSome
  read path := tree.read path

end FileTree

end Lineflow
