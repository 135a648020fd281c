import TextWalk.Bytes

namespace TextWalk

def pathComponents : Bytes → List Bytes
  | [] => [[]]
  | b :: rest =>
    if b = 0x2F then [] :: pathComponents rest
    else
      match pathComponents rest with
      | part :: parts => (b :: part) :: parts
      | [] => [[b]]

/-- Files with their content, and directories, each by its path from the working directory.
Directories on the way to an entry exist. -/
structure FileTree where
  files : List (Bytes × Bytes) := []
  directories : List Bytes := []
deriving DecidableEq, Repr

inductive OpenFault where
  | missing
  | notDirectory
  | invalidName
  | nameTooLong
  | denied
deriving DecidableEq, Repr

def OpenFault.message : OpenFault → String
  | missing => "no such file or directory"
  | notDirectory => "not a directory"
  | invalidName => "invalid argument"
  | nameTooLong => "file name too long"
  | denied => "permission denied"

inductive Node where
  | file (content : Bytes)
  | directory
deriving DecidableEq, Repr

namespace FileTree

/-- A place that a path has led to: below the working directory, or somewhere outside of it. -/
inductive Place where
  | inside (path : List Bytes)
  | outside
deriving DecidableEq, Repr

def entryPath (name : Bytes) : List Bytes :=
  (pathComponents name).filter fun part => part != [] && part != [0x2E]

def node? (t : FileTree) : Place → Option Node
  -- Outside of the tree no entry is known, and every place counts as a directory.
  | .outside => some .directory
  | .inside path =>
    match t.files.find? fun f => entryPath f.1 == path with
    | some f => some (.file f.2)
    | none =>
      if path.isEmpty || (t.directories ++ t.files.map (·.1)).any fun name =>
          path.isPrefixOf (entryPath name) then
        some .directory
      else none

def longestName : Nat := 255

def longestPath : Nat := 4095

def enter (part : Bytes) : Place → Place
  | .outside => .outside
  | .inside path =>
    if part = [] ∨ part = [0x2E] then .inside path
    -- Two dots go up, and out of the tree from its top.
    else if part = [0x2E, 0x2E] then
      match path with
      | [] => .outside
      | _ => .inside path.dropLast
    else .inside (path ++ [part])

def isEntryName (part : Bytes) : Bool := part != [] && part != [0x2E] && part != [0x2E, 0x2E]

def follow (t : FileTree) (place : Place) : List Bytes → Except OpenFault Node
  | [] =>
    match t.node? place with
    | some node => .ok node
    | none => .error .missing
  | part :: parts =>
    match t.node? place with
    | none => .error .missing
    | some (.file _) => .error .notDirectory
    | some .directory =>
      if longestName < part.length then .error .nameTooLong
      else if place = .outside ∧ isEntryName part then .error .missing
      else follow t (enter part place) parts

def openPath (t : FileTree) (path : Bytes) : Except OpenFault Node :=
  -- No file has a zero byte in its name.
  if path.contains 0 then .error .invalidName
  else if path.isEmpty then .error .missing
  else if longestPath < path.length then .error .nameTooLong
  else
    let start := if path.head? = some 0x2F then Place.outside else Place.inside []
    t.follow start (pathComponents path)

end FileTree

end TextWalk
