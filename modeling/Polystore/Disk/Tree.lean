import Polystore.Error

/-!
# Disks

A disk is a tree of folders and files.  An entry of it is found by the list of
the names on the way down from the root.
-/

namespace Polystore

/-- What a name stands for in a folder. -/
inductive Entry where
  | file (content : List UInt8)
  | folder (entries : List (String × Entry))

/-- The entries of the root folder. -/
abbrev Disk := Keyed Entry

namespace Disk

/-- Whether a name is longer than the file system allows. -/
def tooLong (name : String) : Bool :=
  name.utf8ByteSize > 255

/-- The entry that some names lead to. -/
def find : (path : List String) → Disk → Except FileFault Entry
  | [], entries => .ok (.folder entries)
  | name :: rest, entries =>
      if tooLong name then .error .nameTooLong
      else
        match entries.get? name with
        | none => .error .missing
        | some (.folder inner) => find rest inner
        | some (.file content) =>
            if rest = [] then .ok (.file content) else .error .notDirectory

/-- Change the entry that some names lead to, where `none` stands for no entry.
The root cannot be changed. -/
def changeAt (change : Option Entry → Except FileFault (Option Entry)) :
    (path : List String) → Disk → Except FileFault Disk
  | [], _ => .error .isDirectory
  | name :: rest, entries =>
      if tooLong name then .error .nameTooLong
      else if rest = [] then
        match change (entries.get? name) with
        | .error fault => .error fault
        | .ok (some entry) => .ok (Keyed.insert name entry entries)
        | .ok none => .ok (entries.erase name)
      else
        match entries.get? name with
        | none => .error .missing
        | some (.file _) => .error .notDirectory
        | some (.folder inner) =>
            match changeAt change rest inner with
            | .error fault => .error fault
            | .ok inner => .ok (Keyed.insert name (.folder inner) entries)

/-- The disk without anything below the folder that some names lead to. -/
def clearAt (path : List String) (disk : Disk) : Disk :=
  if path = [] then []
  else (changeAt (fun _ => .ok (some (.folder []))) path disk).toOption.getD disk

end Disk

end Polystore
