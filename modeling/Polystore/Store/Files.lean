import Polystore.Disk.Folder
import Polystore.Json.Reader
import Polystore.Store.Basic

/-!
# Stores of files

A store of files keeps every document in a file of its own, `/collection/id.json`
below the root of a file pool.  It has no queries.  A transaction remembers what
its files held before and puts that back, last change first, if an operation
fails.
-/

namespace Polystore

/-- The folder of the documents, and the disk that it is on. -/
structure FileStore where
  folder : Folder
  disk : Disk

namespace FileStore

/-- What the names of document files end in. -/
def extension : String := ".json"

/-- Whether a text can be the name of a collection or of a document. -/
def isName (text : String) : Bool :=
  ¬(text = "" ∨ text = "." ∨ text = ".." ∨ '/' ∈ text.toList)

/-- The names on the way to the file of a document. -/
def place (collection id : String) : Except Error (List String) :=
  match [collection, id].find? fun text => ¬isName text with
  | some text => .error (.badSegment text)
  | none => .ok [collection, id ++ extension]

/-- The content of the file of a document in stored form. -/
def encode (stored : Json) : List UInt8 :=
  stored.render.toUTF8.toList

/-- The document in the content of a file. -/
def decode (content : List UInt8) : Except Error Json :=
  match Json.readBytes? content with
  | some stored => .ok (Document.withoutId stored)
  | none => .error .malformed

/-- Act on the disk of a store. -/
def onDisk {α : Type} (action : Folder → Disk → Outcome Disk α) (store : FileStore) :
    Outcome FileStore α :=
  let (result, disk) := action store.folder store.disk
  (result, { store with disk := disk })

/-- Put a document. -/
def put (collection id : String) (value : Json) (folder : Folder) (disk : Disk) :
    Outcome Disk Unit :=
  match place collection id, Document.withId id value with
  | .error cause, _ | .ok _, .error cause => (.error cause, disk)
  | .ok names, .ok stored => folder.writeAt names (encode stored) disk

/-- Read a document. -/
def get (collection id : String) (store : FileStore) : Except Error Json :=
  (place collection id).bind fun names =>
    (store.folder.readAt names store.disk).bind decode

/-- Remove a document. -/
def delete (collection id : String) (folder : Folder) (disk : Disk) : Outcome Disk Unit :=
  match place collection id with
  | .error cause => (.error cause, disk)
  | .ok names => folder.deleteAt names disk

/-- The id of the document in a file of some name, if the name ends as those of
documents do. -/
def idOfFile? (name : String) : Option String :=
  let letters := name.toList
  let length := letters.length - extension.length
  if letters.drop length = extension.toList then some (String.ofList (letters.take length))
  else none

/-- The ids of the documents of a collection, in ascending order of the names of
their files. -/
def ids (collection : String) (store : FileStore) : Except Error (List String) :=
  (store.folder.list ("/" ++ collection) store.disk).map fun names =>
    names.filterMap idOfFile?

/-- What the file of a document held before a transaction changed it. -/
structure Backup where
  names : List String
  /-- The content, if there was a file. -/
  content : Option (List UInt8)

/-- The content of a file, if there is one. -/
def contentAt (folder : Folder) (names : List String) (disk : Disk) :
    Except Error (Option (List UInt8)) :=
  match folder.readAt names disk with
  | .ok content => .ok (some content)
  | .error cause => if cause.isNotFound then .ok none else .error cause

/-- Put back what a file held. -/
def restoreFile (folder : Folder) (disk : Disk) (backup : Backup) : Disk :=
  match backup.content with
  | some content => (folder.writeAt backup.names content disk).2
  | none => (folder.deleteAt backup.names disk).2

/-- Put back what files held, last change first. -/
def restore (folder : Folder) (backups : List Backup) (disk : Disk) : Disk :=
  backups.foldl (restoreFile folder) disk

/-- Carry out an operation, and remember in front of the earlier backups what it
changes. -/
def perform (folder : Folder) (operation : Operation) (backups : List Backup) (disk : Disk) :
    Outcome (List Backup × Disk) Unit :=
  match operation with
  | .put collection id stored =>
      match place collection id with
      | .error cause => (.error cause, backups, disk)
      | .ok names =>
          match contentAt folder names disk with
          | .error cause => (.error cause, backups, disk)
          | .ok content =>
              let (result, disk) := folder.writeAt names (encode stored) disk
              (result, ⟨names, content⟩ :: backups, disk)
  | .delete collection id =>
      match place collection id with
      | .error cause => (.error cause, backups, disk)
      | .ok names =>
          match contentAt folder names disk with
          | .error cause => (.error cause, backups, disk)
          | .ok none => (.ok (), backups, disk)
          | .ok (some content) =>
              let (result, disk) := folder.deleteAt names disk
              (result, ⟨names, some content⟩ :: backups, disk)
  | .drop _ => (.ok (), backups, disk)

/-- Carry out operations in order.  If one fails, all files get back what they
held before the first. -/
def performAll (folder : Folder) :
    List Operation → (backups : List Backup) → Disk → Outcome Disk Unit
  | [], _, disk => (.ok (), disk)
  | operation :: rest, backups, disk =>
      match perform folder operation backups disk with
      | (.ok (), backups, disk) => performAll folder rest backups disk
      | (.error cause, backups, disk) =>
          (.error (.rolledBack cause), restore folder backups disk)

/-- The collection that an operation drops. -/
def dropped? : Operation → Option String
  | .drop collection => some collection
  | _ => none

/-- Carry out the operations of a transaction.  The drop of a collection could
not be undone file by file, so it is refused before anything is changed. -/
def commit (operations : List Operation) (folder : Folder) (disk : Disk) :
    Outcome Disk Unit :=
  match operations.findSome? dropped? with
  | some collection => (.error (.dropInFileTransaction collection), disk)
  | none => performAll folder operations [] disk

instance : DocumentStore FileStore where
  put collection id value := onDisk (put collection id value)
  get := get
  delete collection id := onDisk (delete collection id)
  query _ store := (.failed (.notOffered "query on the file document store"), store)
  commit operations := onDisk (commit operations)
  createCollection collection := onDisk fun folder => folder.createFolder ("/" ++ collection)
  dropCollection collection := onDisk fun folder => folder.deleteFolder ("/" ++ collection)

end FileStore

end Polystore
