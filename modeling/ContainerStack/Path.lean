import ContainerStack.Text.Pieces

/-!
**Paths and what is known about them.**

Two paths are the same if they have the same steps. Empty steps and single points are no steps, a
leading point apart, and two points are a step of their own.

* `Path.ofString`: the steps of a written path.
* `FileTree`: a directory tree in memory, in which a path is walked step by step.
* `KnownPaths`: which paths exist.
-/

namespace ContainerStack

/-- The steps of a path, and whether it starts at the root. -/
structure Path where
  rooted : Bool
  steps : List String
  deriving DecidableEq, Repr

namespace Path

/-- The steps of a written path. -/
def ofString (text : String) : Path :=
  let rooted := text.toList.head? == some '/'
  let written := Text.pieces '/' text
  let steps := written.filter fun step => step != "" && step != "."
  ⟨rooted, if !rooted && written.head? == some "." then "." :: steps else steps⟩

end Path

/-- A file with its content, or a directory. -/
inductive FileEntry where
  | directory
  | file (content : String)
  deriving DecidableEq, Repr

/-- The entries of a directory tree by their steps from the top; the top itself is not listed. -/
structure FileTree where
  entries : List (List String × FileEntry)
  deriving DecidableEq, Repr

namespace FileTree

/-- Where a walk stands: at steps from the top, or above the top, where only the way up is known. -/
inductive Place where
  | inside (steps : List String)
  | above
  deriving DecidableEq, Repr

/-- The tree with nothing below its top. -/
def empty : FileTree := ⟨[]⟩

/-- The entry at steps from the top. -/
def entryAt? (tree : FileTree) (steps : List String) : Option FileEntry :=
  if steps.isEmpty then some .directory else tree.entries.lookup steps

/-- The entry at a place. -/
def entry? (tree : FileTree) : Place → Option FileEntry
  | .inside steps => tree.entryAt? steps
  | .above => some .directory

/-- One step of a walk from a directory. -/
def step? (tree : FileTree) (place : Place) (step : String) : Option Place :=
  if tree.entry? place != some .directory then none
  else if step = "" ∨ step = "." then some place
  else
    match place with
    | .above => if step = ".." then some .above else none
    | .inside steps =>
      if step = ".." then
        if steps.isEmpty then some .above else some (.inside steps.dropLast)
      else
        let next := steps ++ [step]
        if (tree.entryAt? next).isSome then some (.inside next) else none

/-- Walks along steps. -/
def walk (tree : FileTree) : Place → List String → Option Place
  | place, [] => some place
  | place, step :: rest => (tree.step? place step).bind fun next => tree.walk next rest

/-- The place of a path written relative to the directory at some steps. -/
def find? (tree : FileTree) (base : List String) (path : String) : Option Place :=
  tree.walk (.inside base) (Text.pieces '/' path)

/-- Whether a path written relative to a directory exists. -/
def holds (tree : FileTree) (base : List String) (path : String) : Bool :=
  (tree.find? base path).isSome

/-- The content of the file at a path relative to the top. -/
def read? (tree : FileTree) (path : String) : Option String :=
  match (tree.find? [] path).bind tree.entry? with
  | some (.file content) => some content
  | _ => none

/-- A name written below a directory; steps at the beginning that lead nowhere are left out. -/
def below (directory name : String) : String :=
  let steps := Text.pieces '/' directory ++ [name]
  String.intercalate "/" (steps.dropWhile fun step => step == "" || step == ".")

/-- The first of some names that exists in a directory, as a path relative to the top. -/
def firstOf? (tree : FileTree) (directory : String) (names : List String) : Option String :=
  (names.map (below directory)).find? (tree.holds [])

/-- The steps from the top to the directory that a path names a file in. -/
def directoryOf (tree : FileTree) (path : String) : List String :=
  match tree.walk (.inside []) (Text.pieces '/' path).dropLast with
  | some (.inside steps) => steps
  | _ => []

/-- Puts an entry at steps from the top, in the place of an older one. -/
def put (tree : FileTree) (steps : List String) (entry : FileEntry) : FileTree :=
  ⟨(tree.entries.filter fun old => old.1 != steps) ++ [(steps, entry)]⟩

/-- Walks along steps and makes the directories that are missing. -/
def makeDirectories (tree : FileTree) : Place → List String → Option (FileTree × Place)
  | place, [] => if tree.entry? place == some .directory then some (tree, place) else none
  | place, step :: rest =>
    match tree.step? place step with
    | some next => tree.makeDirectories next rest
    | none =>
      match place with
      | .above => none
      | .inside steps =>
        if tree.entryAt? steps != some .directory then none
        else
          let next := steps ++ [step]
          (tree.put next .directory).makeDirectories (.inside next) rest

/-- Makes the directories on the way to a path, as far as that is possible. -/
def makeParents (tree : FileTree) (path : String) : Option (FileTree × Place) :=
  let steps := (Path.ofString path).steps
  tree.makeDirectories (.inside []) steps.dropLast

/-- Writes a file at a path relative to the top. The directories on the way are made even if the
path itself turns out to name a directory; the answer tells whether the file was written. -/
def write (tree : FileTree) (path content : String) : FileTree × Bool :=
  match tree.makeParents path with
  | none => (tree, false)
  | some (grown, _) =>
    let written := Text.pieces '/' path
    match written.getLast? with
    | none => (grown, false)
    | some last =>
      if last = "" ∨ last = "." ∨ last = ".." then (grown, false)
      else
        match grown.walk (.inside []) written.dropLast with
        | some (.inside steps) =>
          if grown.entryAt? steps != some .directory then (grown, false)
          else
            let target := steps ++ [last]
            if grown.entryAt? target == some .directory then (grown, false)
            else (grown.put target (.file content), true)
        | _ => (grown, false)

/-- The tree of a list of files, with the directories on their ways. -/
def ofFiles (files : List (String × String)) : FileTree :=
  files.foldl (fun tree file => (tree.write file.1 file.2).1) empty

end FileTree

/-- Which paths exist. -/
structure KnownPaths where
  /-- Whether a path exists. -/
  knows : String → Bool

namespace KnownPaths

/-- Every path exists. -/
def everything : KnownPaths := ⟨fun _ => true⟩

/-- Exactly these paths exist. -/
def ofList (paths : List Path) : KnownPaths :=
  ⟨fun path => paths.contains (Path.ofString path)⟩

/-- The paths of a directory tree exist; a relative one starts at the base. Of the rooted paths only
the root itself exists. -/
def ofTree (files : FileTree) (base : List String) : KnownPaths :=
  ⟨fun path =>
    if (Path.ofString path).rooted then (Path.ofString path).steps.isEmpty
    else files.holds base path⟩

end KnownPaths

end ContainerStack
