import Polystore.Disk.Place
import Polystore.Disk.Tree

/-!
# Operations on places

What a file system does with a place: every part before the last must lead to a
folder, and what the last part may be depends on the operation.  An operation is
refused before the disk is looked at if the place is too long or holds a
character that ends texts.
-/

namespace Polystore.Disk

/-- What is wrong with a place before the disk is looked at. -/
def placeFault? (place : Place) : Option FileFault :=
  if place.parts.any fun part => '\x00' ∈ part.toList then some .nulInName
  else if place.size ≥ 4096 then some .nameTooLong
  else none

/-- Do something with a place that has no fault of its own. -/
def checked {α : Type} (place : Place) (result : Except FileFault α) : Except FileFault α :=
  match placeFault? place with
  | some fault => .error fault
  | none => result

/-- The names of the folder that some parts lead to from another folder, which is
given by its names. -/
def walk (disk : Disk) : (here : List String) → (parts : List String) →
    Except FileFault (List String)
  | here, [] => .ok here
  | here, part :: rest =>
      if part = "." then walk disk here rest
      else if part = ".." then walk disk here.dropLast rest
      else
        match find (here ++ [part]) disk with
        | .ok (.folder _) => walk disk (here ++ [part]) rest
        | .ok (.file _) => .error .notDirectory
        | .error fault => .error fault

/-- The entry at a place. -/
def entry (place : Place) (disk : Disk) : Except FileFault Entry :=
  checked place <|
    match place.parts.getLast? with
    | none => .ok (.folder disk)
    | some last =>
        if Place.isDots last then
          (walk disk [] place.parts).bind fun here => find here disk
        else
          match (walk disk [] place.parts.dropLast).bind fun here => find (here ++ [last]) disk with
          | .ok (.file content) =>
              if place.slash then .error .notDirectory else .ok (.file content)
          | other => other

/-- Whether there is a folder at a place. -/
def isFolder (place : Place) (disk : Disk) : Bool :=
  match entry place disk with
  | .ok (.folder _) => true
  | _ => false

/-- Change the entry of a name at the end of a place; `dots` is the fault where
the place ends in no name. -/
def changeEntry (dots : FileFault) (change : Option Entry → Except FileFault (Option Entry))
    (place : Place) (disk : Disk) : Except FileFault Disk :=
  checked place <|
    match place.parts.getLast? with
    | none => .error dots
    | some last =>
        (walk disk [] place.parts.dropLast).bind fun here =>
          if Place.isDots last then .error dots else changeAt change (here ++ [last]) disk

/-- Make a folder where there is nothing. -/
def makeFolder (place : Place) (disk : Disk) : Except FileFault Disk :=
  changeEntry .alreadyThere (fun
    | none => .ok (some (.folder []))
    | some _ => .error .alreadyThere) place disk

/-- Make a folder unless there is one. -/
def ensureFolder (place : Place) (disk : Disk) : Except FileFault Unit × Disk :=
  match makeFolder place disk with
  | .ok disk => (.ok (), disk)
  | .error .alreadyThere =>
      if isFolder place disk then (.ok (), disk) else (.error .alreadyThere, disk)
  | .error fault => (.error fault, disk)

/-- Make a folder and those it is written in that are missing.  What was made
before an obstacle stays.  The fuel bounds the number of folders. -/
def makeFoldersWithin : (fuel : Nat) → Place → Disk → Except FileFault Unit × Disk
  | 0, _, disk => (.ok (), disk)
  | fuel + 1, place, disk =>
      match ensureFolder place disk with
      | (.error .missing, disk) =>
          match (place.parent?.map fun parent => makeFoldersWithin fuel parent disk) with
          | some (.error fault, disk) => (.error fault, disk)
          | some (.ok (), disk) => ensureFolder place disk
          | none => (.ok (), disk)
      | other => other

/-- Make a folder and those it is written in that are missing. -/
def makeFolders (place : Place) (disk : Disk) : Except FileFault Unit × Disk :=
  makeFoldersWithin place.parts.length place disk

/-- The content of a file. -/
def readFile (place : Place) (disk : Disk) : Except FileFault (List UInt8) :=
  match entry place disk with
  | .ok (.file content) => .ok content
  | .ok (.folder _) => .error .isDirectory
  | .error fault => .error fault

/-- Put a file where there is a file or nothing. -/
def putFile (content : List UInt8) (place : Place) (disk : Disk) : Except FileFault Disk :=
  changeEntry .busy (fun before =>
    if place.slash then .error .notDirectory
    else
      match before with
      | some (.folder _) => .error .isDirectory
      | _ => .ok (some (.file content))) place disk

/-- Remove a file. -/
def removeFile (place : Place) (disk : Disk) : Except FileFault Disk :=
  changeEntry .isDirectory (fun
    | some (.file _) => if place.slash then .error .notDirectory else .ok none
    | some (.folder _) => .error .isDirectory
    | none => .error .missing) place disk

/-- Remove a folder that is empty.  Nothing has to be done if there is none. -/
def dropFolder (place : Place) (disk : Disk) : Except FileFault Unit × Disk :=
  let dots : FileFault :=
    match place.parts.getLast? with
    | some "." => .invalid
    | some _ => .notEmpty
    | none => .busy
  match changeEntry dots (fun
    | some (.folder _) => .ok none
    | some (.file _) => .error .notDirectory
    | none => .error .missing) place disk with
  | .ok disk => (.ok (), disk)
  | .error .missing => (.ok (), disk)
  | .error fault => (.error fault, disk)

/-- Remove a folder and everything below it.  What is below it goes first, so it
is gone even if the place has a part after which the folder cannot go. -/
def removeFolder (place : Place) (disk : Disk) : Except FileFault Unit × Disk :=
  match entry place disk with
  | .error fault => (.error fault, disk)
  | .ok (.file _) => (.error .notDirectory, disk)
  | .ok (.folder _) =>
      match walk disk [] place.parts with
      | .ok here => dropFolder place (clearAt here disk)
      | .error fault => (.error fault, disk)

/-- The names of the files directly in a folder, in ascending order. -/
def fileNames (place : Place) (disk : Disk) : Except FileFault (List String) :=
  match entry place disk with
  | .ok (.folder entries) => .ok (entries.filterMap fun
      | (name, .file _) => some name
      | (_, .folder _) => none)
  | .ok (.file _) => .error .notDirectory
  | .error fault => .error fault

end Polystore.Disk
