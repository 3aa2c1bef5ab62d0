import Scaffold.Command.Survey
import Std.Time

/-!
# The program

Looks up what a command can touch, carries it out on that picture of the file system, and makes the
changes.
-/
namespace Scaffold.Main

open Command

def placeText (place : Location) : String := "/" ++ "/".intercalate place

/-- What is at a place whose parent is a directory. -/
def look (place : Location) : IO (Option Entry) := do
  try
    return some (.file (← IO.FS.readBinFile (placeText place)))
  catch
    | .noFileOrDirectory .. => return none
    | _ => return some .directory

def lookAll (files : FileSystem) (places : List Location) : IO FileSystem :=
  places.foldlM (fun files place => do
    match files.get? place, files.get? place.dropLast with
    | none, some .directory =>
      match ← look place with
      | some entry => return files.put place entry
      | none => return files
    | _, _ => return files) files

def make (change : Location × Entry) : IO Unit := do
  let (place, entry) := change
  match entry with
  | .directory => IO.FS.createDir (placeText place)
  | .file content =>
    let scratch := placeText (place.dropLast ++ [FileSystem.scratchName (place.getLastD "") 0])
    IO.FS.writeBinFile scratch content
    IO.FS.rename scratch (placeText place)

def clock : IO Calendar.DateTime := do
  let t ← Std.Time.PlainDateTime.now
  return ⟨⟨t.year.toInt.toNat, t.month.val.toNat, t.day.val.toNat⟩, t.hour.val.toNat,
    t.minute.val.toNat, t.second.val.toNat, t.nanosecond.val.toNat / 1000, none⟩

def main (args : List String) : IO UInt32 := do
  let directory := (Path.ofString (toString (← IO.currentDir))).names
  let now ← clock
  let around (p : Path) : List Location := placesTo directory p
  let files ← match invocation args with
    | .error _ => pure FileSystem.empty
    | .ok i => do
      let root := Path.ofString i.given.root
      let known ← lookAll .empty ((root :: i.named).flatMap around)
      lookAll known ((i.targets { files := known, directory, now }).flatMap around)
  let (result, after) := (run now.timeText args).start { files, directory, now }
  (changes files after.files).forM make
  match result with
  | .ok reply =>
    IO.print reply.output
    IO.eprint reply.remarks
    return UInt32.ofNat reply.exit
  | .error (.failure f) =>
    IO.eprintln f.message
    return 1
  | .error (.breakdown b) =>
    IO.eprintln b.message
    return 1

end Scaffold.Main

def main (args : List String) : IO UInt32 := Scaffold.Main.main args
