import Polystore.Disk.Operations
import Polystore.Text.Cut

/-!
# File pools

A file pool keeps files below a root folder.  Its paths begin with `/`, which
stands for the root, and may not climb above it.  A file is written next to its
place and then moved there, so that readers see all of it or nothing.
-/

namespace Polystore

/-- The root of a file pool. -/
structure Folder where
  /-- The root as it was given. -/
  text : String
deriving DecidableEq, Repr

namespace Folder

/-- The place of some names below the root. -/
def place (folder : Folder) (names : List String) : Place :=
  (Place.ofText folder.text).below names

/-- Follow parts of a path from a stack of names, the last name first.  A part
`..` takes the last name back, and there must be one. -/
def normalize : (stack : List String) → (parts : List (List Char)) → Option (List String)
  | stack, [] => some stack.reverse
  | stack, part :: rest =>
      if part = [] ∨ part = ['.'] then normalize stack rest
      else if part = ['.', '.'] then
        match stack with
        | [] => none
        | _ :: below => normalize below rest
      else normalize (String.ofList part :: stack) rest

/-- The names that a path of the pool stands for, from the root on. -/
def resolve (path : String) : Except Error (List String) :=
  match path.toList with
  | '/' :: relative =>
      match normalize [] (Text.pieces '/' relative) with
      | some names => .ok names
      | none => .error (.pathEscapes path)
  | _ => .error (.pathNotAbsolute path)

/-- A path with one more name. -/
def joinName (text name : String) : String :=
  if text = "" ∨ text.toList.getLast? = some '/' then text ++ name else text ++ "/" ++ name

/-- How the place of some names is written. -/
def display (folder : Folder) (names : List String) : String :=
  names.foldl joinName folder.text

/-- The fault of the file system as an error. -/
def faulted {α : Type} (result : Except FileFault α) : Except Error α :=
  result.mapError .file

/-- A new disk, or the old one with the fault that prevented it. -/
def changed (disk : Disk) : Except FileFault Disk → Outcome Disk Unit
  | .ok after => (.ok (), after)
  | .error fault => (.error (.file fault), disk)

/-- The entry that the text of a path leads to; the empty text leads nowhere. -/
def entryAt (text : String) (disk : Disk) : Except FileFault Entry :=
  if text = "" then .error .missing else Disk.entry (.ofText text) disk

/-- Whether the text of a path leads to something. -/
def isPresent (disk : Disk) (text : String) : Bool :=
  (entryAt text disk).isOk

/-- The root of a file pool, which must be a folder. -/
def openAt (text : String) (disk : Disk) : Except Error Folder :=
  match entryAt text disk with
  | .error fault => .error (.rootUnreadable text fault)
  | .ok (.file _) => .error (.rootNotDirectory text)
  | .ok (.folder _) => .ok ⟨text⟩

/-- Create a folder and the folders above it. -/
def create (text : String) (disk : Disk) : Outcome Disk Unit :=
  let (result, disk) := Disk.makeFolders (.ofText text) disk
  (faulted result, disk)

/-- Read the file of some names. -/
def readAt (folder : Folder) (names : List String) (disk : Disk) :
    Except Error (List UInt8) :=
  faulted (Disk.readFile (folder.place names) disk)

/-- A name as long as those under which a file is kept while it is written. -/
def draftName : String :=
  "." ++ String.ofList (List.replicate 36 '-') ++ ".tmp"

/-- Write the file of some names, creating the folders that it is written in.  The
file is made beside its place, so the place of such a draft may not have a fault
of its own either. -/
def writeAt (folder : Folder) (names : List String) (content : List UInt8) (disk : Disk) :
    Outcome Disk Unit :=
  let target := folder.place names
  let parent := target.parent?.getD target
  match Disk.makeFolders parent disk with
  | (.error fault, disk) => (.error (.file fault), disk)
  | (.ok (), disk) =>
      changed disk (Disk.checked (parent.below [draftName]) (Disk.putFile content target disk))

/-- Remove the file of some names. -/
def deleteAt (folder : Folder) (names : List String) (disk : Disk) : Outcome Disk Unit :=
  changed disk (Disk.removeFile (folder.place names) disk)

/-- Read a file. -/
def read (folder : Folder) (path : String) (disk : Disk) : Except Error (List UInt8) :=
  (resolve path).bind fun names => folder.readAt names disk

/-- Write a file.  There is no file to write if the path names the root of the
disk. -/
def write (folder : Folder) (path : String) (content : List UInt8) (disk : Disk) :
    Outcome Disk Unit :=
  match resolve path with
  | .error cause => (.error cause, disk)
  | .ok names =>
      if (folder.place names).parent? = none then (.error (.pathNamesRoot path), disk)
      else folder.writeAt names content disk

/-- Remove a file. -/
def delete (folder : Folder) (path : String) (disk : Disk) : Outcome Disk Unit :=
  match resolve path with
  | .error cause => (.error cause, disk)
  | .ok names => folder.deleteAt names disk

/-- Create a folder inside the pool. -/
def createFolder (folder : Folder) (path : String) (disk : Disk) : Outcome Disk Unit :=
  match resolve path with
  | .error cause => (.error cause, disk)
  | .ok names =>
      let (result, disk) := Disk.makeFolders (folder.place names) disk
      (faulted result, disk)

/-- Remove a folder of the pool and everything below it; a missing one is no
error. -/
def deleteFolder (folder : Folder) (path : String) (disk : Disk) : Outcome Disk Unit :=
  match resolve path with
  | .error cause => (.error cause, disk)
  | .ok names =>
      match Disk.removeFolder (folder.place names) disk with
      | (.error .missing, disk) => (.ok (), disk)
      | (result, disk) => (faulted result, disk)

/-- The names of the files directly in a folder of the pool, in ascending order
and without those that begin with a dot.  A missing folder has none. -/
def list (folder : Folder) (path : String) (disk : Disk) : Except Error (List String) :=
  (resolve path).bind fun names =>
    match Disk.fileNames (folder.place names) disk with
    | .ok found => .ok (found.filter fun name => name.toList.head? ≠ some '.')
    | .error .missing => .ok []
    | .error fault => .error (.file fault)

end Folder

end Polystore
