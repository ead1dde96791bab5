import Polystore.Config
import Polystore.Memory.Pool
import Polystore.Store.Backend

/-!
# Engines

An engine has one pool of each kind: documents, cache values and files.  The
pools are chosen by a configuration when the engine is opened.
-/

namespace Polystore

/-- The pools of an engine. -/
structure Engine where
  documents : DocumentPool
  memory : MemoryPool
  files : Folder
  settings : WatchSettings

namespace Engine

/-- Open the document pool of a choice. -/
def openDocuments (choice : DocumentChoice) (capacity : Nat) (disk : Disk) :
    Except Failure DocumentPool :=
  match choice with
  | .cluster spec =>
      (Cluster.connect spec (Folder.isPresent disk)).map fun cluster =>
        ⟨.cluster (.ofCluster cluster capacity), disk⟩
  | .cursor spec =>
      (Cluster.connect spec (Folder.isPresent disk)).map fun cluster =>
        ⟨.cursor (.ofCluster cluster capacity), disk⟩
  | .files root =>
      match Folder.create root disk with
      | (.error cause, _) => .error (.error cause)
      | (.ok (), disk) =>
          ((Folder.openAt root disk).map fun folder => ⟨.files folder, disk⟩).mapError .error

/-- Open the cache pool of a choice. -/
def openMemory : MemoryChoice → Except Failure MemoryPool
  | .single => .ok .single
  | .cluster spec => MemoryPool.connect spec

/-- Open the pools of a configuration on a disk. -/
def start (config : Config) (disk : Disk) : Except Failure Engine :=
  match openDocuments config.document config.cacheCapacity disk with
  | .error failure => .error failure
  | .ok documents =>
      match openMemory config.memory with
      | .error failure => .error failure
      | .ok memory =>
          match Folder.create config.fileRoot documents.disk with
          | (.error cause, _) => .error (.error cause)
          | (.ok (), disk) =>
              ((Folder.openAt config.fileRoot disk).map fun files =>
                { documents := { documents with disk := disk }
                  memory := memory
                  files := files
                  settings := config.watchSettings }).mapError .error

end Engine

end Polystore
