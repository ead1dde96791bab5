import Polystore.Json.Skip
import Polystore.Writer.Watch

/-!
# Configuration

A configuration says which backend each pool has and how documents are watched.
It is written in JSON: an object whose missing fields have default values and
whose unknown fields are passed over, or an array of the fields in order.
-/

namespace Polystore

/-- Which backend the document pool has. -/
inductive DocumentChoice where
  /-- The connection string of a clustered store. -/
  | cluster (spec : String)
  /-- The connection string of a cursor store. -/
  | cursor (spec : String)
  /-- The folder of a store of files. -/
  | files (root : String)
deriving DecidableEq, Repr

/-- Which backend the cache pool has. -/
inductive MemoryChoice where
  | single
  /-- The connection string of a pool of caches. -/
  | cluster (spec : String)
deriving DecidableEq, Repr

/-- The configuration of an engine. -/
structure Config where
  document : DocumentChoice := .files "./data/documents"
  memory : MemoryChoice := .single
  fileRoot : String := "./data/files"
  /-- For how many seconds a watched document has to be left alone. -/
  intervalSeconds : Nat := 1
  batchSize : Nat := 150
  durability : Durability := .atMostOnce
  /-- How many compiled filters are kept. -/
  cacheCapacity : Nat := 256
deriving DecidableEq, Repr

namespace Config

/-- A word of 64 bits. -/
def readWord? : Json → Option Nat
  | .number (.integer value) =>
      if 0 ≤ value ∧ value < Text.wordRange then some value.toNat else none
  | _ => none

/-- A document backend: an object of one field, which names the backend. -/
def readDocument? : Json → Option DocumentChoice
  | .object [("cluster", .string spec)] => some (.cluster spec)
  | .object [("cursor", .string spec)] => some (.cursor spec)
  | .object [("file", .string root)] => some (.files root)
  | _ => none

/-- A cache backend. -/
def readMemory? : Json → Option MemoryChoice
  | .string "local" => some .single
  | .object [("local", .null)] => some .single
  | .object [("cluster", .string spec)] => some (.cluster spec)
  | _ => none

/-- A durability. -/
def readDurability? : Json → Option Durability
  | .string "at_most_once" => some .atMostOnce
  | .string "at_least_once" => some .atLeastOnce
  | .object [("at_most_once", .null)] => some .atMostOnce
  | .object [("at_least_once", .null)] => some .atLeastOnce
  | _ => none

/-- The names of the fields, in order. -/
def fieldNames : List String :=
  ["document", "mem", "file_root", "watcher_interval_secs", "watcher_batch_size",
    "durability", "query_cache_capacity"]

/-- The configuration with the value of a field. -/
def assign? (config : Config) (field : String × Json) : Option Config :=
  match field.1 with
  | "document" => (readDocument? field.2).map fun document => { config with document }
  | "mem" => (readMemory? field.2).map fun memory => { config with memory }
  | "file_root" => field.2.string?.map fun fileRoot => { config with fileRoot }
  | "watcher_interval_secs" =>
      (readWord? field.2).map fun intervalSeconds => { config with intervalSeconds }
  | "watcher_batch_size" => (readWord? field.2).map fun batchSize => { config with batchSize }
  | "durability" => (readDurability? field.2).map fun durability => { config with durability }
  | "query_cache_capacity" =>
      (readWord? field.2).map fun cacheCapacity => { config with cacheCapacity }
  | _ => none

/-- The default configuration with the values of some fields, none of which is
given twice. -/
def ofFields? (fields : List (String × Json)) : Option Config :=
  if (fields.map Prod.fst).Nodup then fields.foldlM assign? {} else none

/-- The value of a field after its colon and the text after it; there is no value
if the field is none of a configuration. -/
def readField (name : String) (text : List Char) : Option (Option Json × List Char) :=
  if fieldNames.contains name then
    (Json.readLiteral text).map fun (value, rest) => (some value, rest)
  else (Json.skipValue? text).map (none, ·)

/-- One or more fields and the closing brace, without the fields that are passed
over.  The fuel bounds the number of fields. -/
def readFields : (fuel : Nat) → List Char → Option (List (String × Json) × List Char)
  | 0, _ => none
  | fuel + 1, text => do
      let '"' :: rest := Json.skip text | none
      let (name, rest) ← Json.readString rest
      let ':' :: rest := Json.skip rest | none
      let (value, rest) ← readField name rest
      let fields := value.toList.map (name, ·)
      match Json.skip rest with
      | '}' :: rest => some (fields, rest)
      | ',' :: rest => (readFields fuel rest).map fun (more, rest) => (fields ++ more, rest)
      | _ => none

/-- The fields of a written configuration and the text after it. -/
def readWritten (text : List Char) : Option (List (String × Json) × List Char) :=
  match Json.skip text with
  | '{' :: rest =>
      match Json.skip rest with
      | '}' :: rest => some ([], rest)
      | _ => readFields (rest.length + 1) rest
  | other =>
      match Json.readLiteral other with
      | some (.array items, rest) =>
          if items.length ≤ fieldNames.length then some (fieldNames.zip items, rest) else none
      | _ => none

/-- The configuration that a whole text denotes, whatever its interval. -/
def read? (text : List Char) : Option Config :=
  match readWritten text with
  | some (fields, rest) => if Json.skip rest = [] then ofFields? fields else none
  | none => none

/-- The configuration that a text denotes. -/
def read (text : String) : Except Error Config :=
  match read? text.toList with
  | none => .error .malformed
  | some config => if config.intervalSeconds = 0 then .error .zeroInterval else .ok config

/-- The settings of watchers. -/
def watchSettings (config : Config) : WatchSettings where
  range := config.intervalSeconds * 1000000000
  batchSize := config.batchSize
  durability := config.durability

end Config

end Polystore
