import DroidRoots.Assoc
import DroidRoots.Fault
import DroidRoots.Files.Path

/-! File trees. A location is given from a directory that always exists: the root, or one
of the present directory and those above it. -/

namespace DroidRoots

inductive Base
  | root
  | above (levels : Nat)
  deriving DecidableEq, Repr

structure Location where
  base : Base
  parts : List Text
  deriving DecidableEq, Repr

namespace Location

def up (l : Location) : Location :=
  match l.parts, l.base with
  | [], .above levels => ⟨.above (levels + 1), []⟩
  | [], .root => l
  | _ :: _, _ => { l with parts := l.parts.dropLast }

def enter (l : Location) (part : Text) : Location :=
  if part = ".." then l.up else { l with parts := l.parts ++ [part] }

end Location

def Path.start (p : Path) : Location := ⟨if p.root = [] then .above 0 else .root, []⟩

inductive FileEntry
  | file (content : ByteArray)
  | directory

structure FileTree where
  entries : List (Location × FileEntry)

inductive Arrival
  | found (l : Location) (what : FileEntry)
  | vacant (l : Location)
  | noDirectory
  | throughFile
  | longName

namespace FileTree

def empty : FileTree := ⟨[]⟩

def find? (t : FileTree) (l : Location) : Option FileEntry :=
  if l.parts = [] then some .directory else Assoc.get? l t.entries

def put (t : FileTree) (l : Location) (what : FileEntry) : FileTree :=
  ⟨Assoc.put l what t.entries⟩

def walk (t : FileTree) (l : Location) : List Text → Arrival
  | [] =>
    match t.find? l with
    | some what => .found l what
    | none => .vacant l
  | part :: rest =>
    match t.find? l with
    | some .directory => if Path.isLongName part then .longName else walk t (l.enter part) rest
    | some (.file _) => .throughFile
    | none => .noDirectory

def arrive (t : FileTree) (p : Path) : Arrival := t.walk p.start p.parts

/-- Whether there is something at a path. A path that no file can have leads to nothing,
unless it is only too long, which is at fault. -/
def «exists» (t : FileTree) (p : Path) : Except Fault Bool :=
  match p.objection?, t.arrive p with
  | some .longName, _ | none, .longName => .error .longName
  | some _, _ => .ok false
  | none, .found _ _ => .ok true
  | none, _ => .ok false

def arrivalAt (t : FileTree) (p : Path) : Except Fault Arrival :=
  match p.objection? with
  | some fault => .error fault
  | none => .ok (t.arrive p)

def read (t : FileTree) (p : Path) : Except Fault ByteArray := do
  match ← t.arrivalAt p with
  | .found _ (.file content) => .ok content
  | .found _ .directory => .error (.isDirectory p.text)
  | .vacant _ | .noDirectory => .error (.missingFile p.text)
  | .throughFile => .error (.notDirectory p.text)
  | .longName => .error .longName

def target (t : FileTree) (p : Path) : Except Fault Location := do
  match ← t.arrivalAt p with
  | .found l (.file _) | .vacant l => .ok l
  | .found _ .directory => .error (.isDirectory p.text)
  | .noDirectory => .error (.missingFile p.text)
  | .throughFile => .error (.notDirectory p.text)
  | .longName => .error .longName

/-- Makes a directory and, where they are missing, those that it stands in. The parts of
the path are given last first. -/
def makeDirectories (t : FileTree) (start : Location) : List Text → Except Fault FileTree
  | [] => .ok t
  | last :: earlier =>
    let name := Text.join "/" (last :: earlier).reverse
    let make (t : FileTree) : Arrival → Except Fault FileTree
      | .found _ .directory => .ok t
      | .found _ (.file _) => .error (.fileExists name)
      | .vacant l => .ok (t.put l .directory)
      | .noDirectory => .error (.missingFile name)
      | .throughFile => .error (.notDirectory name)
      | .longName => .error .longName
    match t.walk start (last :: earlier).reverse with
    | .noDirectory => do
      let t ← makeDirectories t start earlier
      make t (t.walk start (last :: earlier).reverse)
    | arrival => make t arrival

def prepare (t : FileTree) (p : Path) : Except Fault FileTree :=
  match p.parent.objection? with
  | some fault => .error fault
  | none => t.makeDirectories p.start p.parent.parts.reverse

def addFile (t : FileTree) (p : Path) (content : ByteArray) : FileTree :=
  match t.prepare p with
  | .error _ => t
  | .ok t =>
    match t.target p with
    | .error _ => t
    | .ok l => t.put l (.file content)

end FileTree

end DroidRoots
