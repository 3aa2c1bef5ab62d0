import Scaffold.Path
import Scaffold.Text.Literal
import Scaffold.Text.Pad

/-!
# The file system

A tree of directories and files, kept as a list of places with what is there. A path is followed
name by name: each place on the way has to be a directory, also before a step back. Writing puts a
complete file in the place of the old one by way of a scratch file, so a failure leaves no trace in
any file.
-/
namespace Scaffold

/-- The names from the root down to a place. -/
abbrev Location := List String

inductive Entry
  | directory
  | file (content : ByteArray)

def Entry.isDirectory : Entry → Bool
  | .directory => true
  | .file _ => false

/-- Why the file system refuses something. -/
inductive Refused
  | missing
  | busy
  | alreadyThere
  | notDirectory
  | isDirectory
  | nameTooLong
deriving DecidableEq, Repr

namespace Refused

def number : Refused → Nat
  | .missing => 2
  | .busy => 16
  | .alreadyThere => 17
  | .notDirectory => 20
  | .isDirectory => 21
  | .nameTooLong => 36

def words : Refused → String
  | .missing => "No such file or directory"
  | .busy => "Device or resource busy"
  | .alreadyThere => "File exists"
  | .notDirectory => "Not a directory"
  | .isDirectory => "Is a directory"
  | .nameTooLong => "File name too long"

/-- The word for the kind of error; the rarer ones have none of their own. -/
def kind : Refused → String
  | .missing => "FileNotFoundError"
  | .alreadyThere => "FileExistsError"
  | .notDirectory => "NotADirectoryError"
  | .isDirectory => "IsADirectoryError"
  | .busy | .nameTooLong => "OSError"

end Refused

/-- A refusal with the path, or the two paths, that it is about. -/
structure FileSystem.Fault where
  reason : Refused
  path : String
  target : Option String := none
deriving DecidableEq, Repr

namespace FileSystem.Fault

def message (f : Fault) : String :=
  let target := match f.target with
    | some target => " -> " ++ Text.Literal.readable target
    | none => ""
  s!"[Errno {f.reason.number}] {f.reason.words}: {Text.Literal.readable f.path}{target}"

def kind (f : Fault) : String := f.reason.kind

end FileSystem.Fault

structure FileSystem where
  entries : List (Location × Entry)

namespace FileSystem

/-! ## Places -/

def empty : FileSystem := ⟨[]⟩

/-- The root is always a directory. -/
def get? (fs : FileSystem) (place : Location) : Option Entry :=
  if place = [] then some .directory else fs.entries.lookup place

def putEntry (place : Location) (entry : Entry) : List (Location × Entry) → List (Location × Entry)
  | [] => [(place, entry)]
  | (p, e) :: rest => if p = place then (p, entry) :: rest else (p, e) :: putEntry place entry rest

def put (fs : FileSystem) (place : Location) (entry : Entry) : FileSystem :=
  ⟨putEntry place entry fs.entries⟩

def remove (fs : FileSystem) (place : Location) : FileSystem :=
  ⟨fs.entries.filter fun e => e.1 ≠ place⟩

theorem lookup_putEntry (place q : Location) (entry : Entry) (es : List (Location × Entry)) :
    (putEntry place entry es).lookup q = if q = place then some entry else es.lookup q := by
  induction es with
  | nil =>
    by_cases hq : q = place
    · simp [putEntry, hq]
    · simp [putEntry, List.lookup_cons, hq, beq_false_of_ne hq]
  | cons e rest ih =>
    obtain ⟨p, e⟩ := e
    by_cases hp : p = place
    · subst hp
      by_cases hq : q = p
      · simp [putEntry, hq]
      · simp [putEntry, List.lookup_cons, hq, beq_false_of_ne hq]
    · by_cases hq : q = p
      · subst hq
        simp [putEntry, hp]
      · simp [putEntry, List.lookup_cons, hp, beq_false_of_ne hq, ih]

theorem get?_put {fs : FileSystem} {place : Location} (h : place ≠ []) (entry : Entry)
    (q : Location) : (fs.put place entry).get? q = if q = place then some entry else fs.get? q := by
  by_cases hq : q = []
  · subst hq; simp [get?, h.symm]
  · simp [get?, put, hq, lookup_putEntry]

/-! ## Following paths -/

/-- The longest name, in bytes. -/
def nameLimit : Nat := 255

/-- One name further. -/
def step (fs : FileSystem) (place : Location) (name : String) : Except Refused Location :=
  match fs.get? place with
  | none => .error .missing
  | some (.file _) => .error .notDirectory
  | some .directory =>
    if name = ".." then .ok place.dropLast
    else if nameLimit < name.utf8ByteSize then .error .nameTooLong
    else .ok (place ++ [name])

/-- Where a path begins. -/
def start (cwd : Location) (p : Path) : Location :=
  if p.anchor = .relative then cwd else []

/-- A path has fewer bytes than this. -/
def pathLimit : Nat := 4096

def walk (fs : FileSystem) (cwd : Location) (p : Path) : Except Refused Location :=
  if p.text.utf8ByteSize < pathLimit then p.names.foldlM fs.step (start cwd p)
  else .error .nameTooLong

/-- What is at a path. -/
def find (fs : FileSystem) (cwd : Location) (p : Path) : Except Refused Entry := do
  let place ← fs.walk cwd p
  match fs.get? place with
  | some entry => pure entry
  | none => throw .missing

/-- Whether something is at a path; only a name that cannot be is an error. -/
def has (fs : FileSystem) (cwd : Location) (p : Path) : Except Refused Bool :=
  match fs.find cwd p with
  | .ok _ => .ok true
  | .error .nameTooLong => .error .nameTooLong
  | .error _ => .ok false

/-- The place that a new entry would get; a path that ends in a step back or has no name is none. -/
def newPlace (fs : FileSystem) (cwd : Location) (p : Path) (otherwise : Refused) :
    Except Refused Location := do
  let place ← fs.walk cwd p
  if p.names = [] ∨ p.name = ".." then throw otherwise else pure place

/-- The place of a file that is to be written: a directory cannot be. -/
def filePlace (fs : FileSystem) (cwd : Location) (p : Path) (otherwise : Refused) :
    Except Refused Location := do
  let place ← fs.newPlace cwd p otherwise
  match fs.get? place with
  | some .directory => throw .isDirectory
  | _ => pure place

/-- A path without steps back, which are taken by name alone. -/
def absolute (cwd : Location) (p : Path) : Path :=
  let names := (start cwd p ++ p.names).foldl
    (fun before name => if name = ".." then before.dropLast else before ++ [name]) []
  ⟨if p.anchor = .doubled then .doubled else .absolute, names⟩

end FileSystem

/-! ## Changes -/

/-- A change of the file system that can stop; what was done before stays. -/
abbrev Change := ExceptT FileSystem.Fault (StateM FileSystem)

namespace FileSystem

def refuse {α : Type} (reason : Refused) (p : Path) (target : Option String) : Change α :=
  throw ⟨reason, p.text, target⟩

/-- What a new directory at a path makes of the file system. -/
def withDirectory (fs : FileSystem) (cwd : Location) (p : Path) : Except Refused FileSystem := do
  let place ← fs.newPlace cwd p .alreadyThere
  match fs.get? place with
  | some _ => throw .alreadyThere
  | none => pure (fs.put place .directory)

/-- Makes one directory; one that is there already will do. -/
def makeOne (cwd : Location) (p : Path) : Change Unit := do
  let fs ← getThe FileSystem
  match fs.withDirectory cwd p with
  | .ok changed => set changed
  | .error reason =>
    match fs.find cwd p with
    | .ok .directory => pure ()
    | _ => refuse reason p none

/-- Makes a directory with all those above it. -/
def makeDirectory (cwd : Location) (p : Path) : Change Unit := do
  let fs ← getThe FileSystem
  match fs.withDirectory cwd p with
  | .error .missing =>
    if p.names = [] then refuse .missing p none
    else do
      makeDirectory cwd p.parent
      makeOne cwd p
  | _ => makeOne cwd p
termination_by p.names.length
decreasing_by
  rename_i h
  have := List.length_pos_iff.2 h
  simp only [Path.parent, List.length_dropLast]
  omega

/-- How many of a directory and those above it have to be made before the one above them all. -/
def missingLevels (fs : FileSystem) (cwd : Location) (p : Path) : Nat :=
  match fs.withDirectory cwd p with
  | .error .missing => if p.names = [] then 0 else fs.missingLevels cwd p.parent + 1
  | _ => 0
termination_by p.names.length
decreasing_by
  rename_i h
  have := List.length_pos_iff.2 h
  simp only [Path.parent, List.length_dropLast]
  omega

/-- Directories are made inside each other up to this depth. -/
def depthLimit : Nat := 980

/-- The name of a scratch file for a file of the given name. -/
def scratchName (name : String) (number : Nat) : String :=
  "." ++ name ++ "." ++ Text.zeroPadded 8 number ++ ".tmp"

/-- The scratch file in a directory with a given number. -/
def numbered (directory : Path) (name : String) (number : Nat) : Path :=
  ⟨directory.anchor, directory.names ++ [scratchName name number]⟩

/-- The first scratch path that is free. Each entry can take one name, so one is free among as many
names as there are entries, and one more. -/
def scratchPath (fs : FileSystem) (directory : Path) (name : String) : Path :=
  let paths := (List.range (fs.entries.length + 1)).map (numbered directory name)
  (paths.find? fun p => (fs.get? p.names).isNone).getD directory

/-- Puts a file in the place of what a path leads to, unless that is a directory. -/
def replace (cwd : Location) (scratch p : Path) (content : ByteArray) : Change Unit := do
  let fs ← getThe FileSystem
  match fs.filePlace cwd p .busy with
  | .ok place => set ((fs.remove scratch.names).put place (.file content))
  | .error reason =>
    set (fs.remove scratch.names)
    refuse reason scratch (some p.text)

/-- Writes a whole file by way of a scratch file beside it. What tells scratch files apart takes
eight characters in every name, so there is room for one name if there is room for another. -/
def writeWhole (cwd : Location) (p : Path) (content : ByteArray) : Change Unit := do
  let fs ← getThe FileSystem
  let directory := absolute cwd p.parent
  let scratch := fs.scratchPath directory p.name
  match fs.walk cwd (numbered directory p.name 0) with
  | .error reason => refuse reason scratch none
  | .ok _ =>
    set (fs.put scratch.names (.file content))
    replace cwd scratch p content

/-- Writes into the file itself. -/
def writeInto (cwd : Location) (p : Path) (content : ByteArray) : Change Unit := do
  let fs ← getThe FileSystem
  match fs.filePlace cwd p .isDirectory with
  | .ok place => set (fs.put place (.file content))
  | .error reason => refuse reason p none

end FileSystem
end Scaffold
