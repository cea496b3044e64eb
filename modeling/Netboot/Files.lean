import Netboot.Text.Utf8

/-! A tree of files, directories and symbolic links, and the two ways to follow a path in it:
strictly, as opening a file does, and leniently, as a path is resolved that need not exist.
-/

set_option autoImplicit false

namespace Netboot.Files

abbrev Name := Bytes

abbrev Path := List Name

inductive Node where
  | file (content : Bytes)
  | link (target : Bytes)
  | dir (entries : List (Name × Node))

namespace Node

def empty : Node := .dir []

instance : Inhabited Node := ⟨empty⟩

def at? : Node → Path → Option Node
  | node, [] => some node
  | .dir entries, name :: rest => (entries.lookup name).bind (·.at? rest)
  | _, _ :: _ => none

def setEntry (entries : List (Name × Node)) (name : Name) (node : Node) : List (Name × Node) :=
  if (entries.lookup name).isSome then
    entries.map fun entry => if entry.1 == name then (name, node) else entry
  else entries ++ [(name, node)]

def put (new : Node) : Path → Node → Node
  | [], _ => new
  | name :: rest, .dir entries =>
    .dir (setEntry entries name (put new rest ((entries.lookup name).getD empty)))
  | name :: rest, _ => .dir [(name, put new rest empty)]

def remove : Path → Node → Node
  | [name], .dir entries => .dir (entries.filter (·.1 != name))
  | name :: rest, .dir entries =>
    .dir (entries.map fun entry => if entry.1 == name then (name, remove rest entry.2) else entry)
  | _, node => node

def links : Node → Nat
  | .file _ => 0
  | .link _ => 1
  | .dir entries => entryLinks entries
where
  entryLinks : List (Name × Node) → Nat
    | [] => 0
    | (_, node) :: rest => links node + entryLinks rest

def isDir : Node → Bool
  | .dir _ => true
  | _ => false

end Node

inductive Fault where
  | missing
  | notDirectory
  | isDirectory
  | longName
  | loop (path : Path)
  | nul
  deriving DecidableEq, Repr

def slash : UInt8 := 0x2f
def dot : Name := [0x2e]
def dotDot : Name := [0x2e, 0x2e]

/-- The names of a path between its slashes, empty ones included. -/
def segments : Bytes → List Name
  | [] => [[]]
  | b :: rest =>
    if b = slash then [] :: segments rest
    else match segments rest with
      | [] => [[b]]
      | name :: others => (b :: name) :: others

def isAbsolute (path : Bytes) : Bool := path.head? == some slash

def joinNames (path : Path) : Bytes := [slash].intercalate path

def linkStart (here : Path) (target : Bytes) : Path := if isAbsolute target then [] else here

def linkLimit : Nat := 40

def isDirAt (top : Node) (path : Path) : Bool := (top.at? path).any (·.isDir)

/-- Follow names from the directory `here`, and every link on the way; all of them must exist. -/
def walk (top : Node) (links : Nat) (here : Path) (names : List Name) : Except Fault Path :=
  match names with
  | [] => .ok here
  | name :: rest =>
    if !isDirAt top here then .error .notDirectory
    else if name = [] ∨ name = dot then walk top links here rest
    else if name = dotDot then walk top links here.dropLast rest
    else if name.contains 0 then .error .nul
    else if 255 < name.length then .error .longName
    else match top.at? (here ++ [name]) with
      | none => .error .missing
      | some (.link target) =>
        match links with
        | 0 => .error (.loop (here ++ [name]))
        | links + 1 => walk top links (linkStart here target) (segments target ++ rest)
      | some _ => walk top links (here ++ [name]) rest
termination_by (links, names.length)

def pathLimit : Nat := 4095

def find (top : Node) (path : Path) : Except Fault Node := do
  if pathLimit < 1 + (joinNames path).length then throw .longName
  let found ← walk top linkLimit [] path
  match top.at? found with
  | some node => .ok node
  | none => .error .missing

def read (top : Node) (path : Path) : Except Fault Bytes := do
  match ← find top path with
  | .file content => .ok content
  | _ => .error .isDirectory

def exists? (top : Node) (path : Path) : Except Fault Bool :=
  match find top path with
  | .ok _ => .ok true
  | .error .longName => .error .longName
  | .error _ => .ok false

def isFile? (top : Node) (path : Path) : Except Fault Bool :=
  match find top path with
  | .ok (.file _) => .ok true
  | .ok _ => .ok false
  | .error .longName => .error .longName
  | .error _ => .ok false

/-- The target of the link at a path, unless the path is too long to look at. -/
def linkAt? (top : Node) (path : Path) : Option Bytes :=
  if pathLimit < 1 + (joinNames path).length then none
  else match top.at? path with
    | some (.link target) => some target
    | _ => none

/-- Names put behind a path by its text: those that begin with a slash replace it. -/
def behind (path : Path) (names : List Name) : Path :=
  match names with
  | [] :: next :: others => next :: others
  | _ => path ++ names

/-- Links met so far, each with where it leads once that is known. -/
abbrev Seen := List (Path × Option Path)

/-- Follow names leniently: what does not exist stays as it is, and so does the rest of a path
behind a link that leads back to itself. The flag tells whether everything was followed. -/
def follow (top : Node) (links : Nat) (seen : Seen) (here : Path) (names : List Name) :
    Except Fault (Path × Bool × Seen) :=
  match names with
  | [] => .ok (here, true, seen)
  | name :: rest =>
    if name = [] ∨ name = dot then follow top links seen here rest
    else if name = dotDot then follow top links seen here.dropLast rest
    else if name.contains 0 then .error .nul
    else match linkAt? top (here ++ [name]) with
      | some target =>
        match seen.lookup (here ++ [name]) with
        | some (some known) => follow top links seen known rest
        | some none => .ok (behind (here ++ [name]) rest, false, seen)
        | none =>
          match links with
          | 0 => .ok (behind (here ++ [name]) rest, false, seen)
          | fewer + 1 => do
            let (reached, complete, seen) ←
              follow top fewer ((here ++ [name], none) :: seen) (linkStart here target)
                (segments target)
            if complete then
              follow top (fewer + 1) ((here ++ [name], some reached) :: seen) reached rest
            else return (behind reached rest, false, seen)
      | none => follow top links seen (here ++ [name]) rest
termination_by (links, names.length)

def normalize (names : List Name) : Path :=
  names.foldl (fun path name =>
    if name = [] ∨ name = dot then path
    else if name = dotDot then path.dropLast
    else path ++ [name]) []

/-- The path without links that an absolute path stands for, whether or not it exists. -/
def resolve (top : Node) (path : List Name) : Except Fault Path := do
  let (reached, _, _) ← follow top top.links [] [] path
  let resolved := normalize reached
  -- Names behind a link that leads back to itself have not been looked at yet.
  if resolved.any (·.contains 0) then throw .nul
  match find top resolved with
  | .error (.loop _) => .error (.loop resolved)
  | _ => .ok resolved

end Netboot.Files
