import Polystore.Document

/-!
# Answers to queries

An answer is read like a stream, document after document, if the query asked for
all matching documents, and in one go if it asked for one.  An answer may not be
available: the query failed, or it asked for a page past the end, or the answer
was closed.
-/

namespace Polystore

/-- What a query gave. -/
structure Answer where
  /-- Whether the query asked for one document. -/
  selectOne : Bool
  /-- The documents that were not read yet. -/
  documents : List Json
  /-- How many documents the store reports. -/
  total : Nat
  error : Option Error := none
  available : Bool := true

namespace Answer

/-- Documents to be read as a stream. -/
def many (documents : List Json) (total : Nat) : Answer where
  selectOne := false
  documents := documents
  total := total

/-- The one document that was asked for, if there is any. -/
def one : Option Json → Answer
  | some document => { selectOne := true, documents := [document], total := 1 }
  | none => { selectOne := true, documents := [], total := 0, error := some .noMatch }

/-- A page past the end of the data. -/
def exhausted : Answer where
  selectOne := false
  documents := []
  total := 0
  available := false

/-- A query that failed. -/
def failed (cause : Error) : Answer where
  selectOne := false
  documents := []
  total := 0
  error := some cause
  available := false

/-- The answer of a query that may have failed. -/
def ofExcept : Except Error Answer → Answer
  | .ok answer => answer
  | .error cause => failed cause

/-- How many documents were not read yet. -/
def remaining (answer : Answer) : Nat :=
  answer.documents.length

/-- Take the first document that was not read yet. -/
def take (answer : Answer) (missing : Error) : Outcome Answer Json :=
  match answer.documents with
  | document :: rest => (.ok document, { answer with documents := rest })
  | [] => (.error missing, answer)

/-- Read the next document of a stream. -/
def next (answer : Answer) : Outcome Answer Json :=
  if answer.available = false then
    (.error (answer.error.getD .resultUnavailable), answer)
  else if answer.selectOne then (.error .streamReadOfSingle, answer)
  else answer.take .noMoreDocuments

/-- Read the one document that was asked for. -/
def getOne (answer : Answer) : Outcome Answer Json :=
  if answer.available = false then
    (.error (answer.error.getD .resultUnavailable), answer)
  else if answer.selectOne = false then (.error .singleReadOfStream, answer)
  else
    match answer.error with
    | some cause => (.error cause, answer)
    | none => answer.take .noDocument

/-- Read a document as a value of another type.  The document is read even if
it is not such a value. -/
def typed {α : Type} (read : Json → Option α) (outcome : Outcome Answer Json) :
    Outcome Answer α :=
  (outcome.1.bind (Document.readAs read), outcome.2)

/-- All documents of a stream that were not read yet, and the error that ends
the reading. -/
def drain (answer : Answer) : List Json × Error :=
  (if answer.available = true ∧ answer.selectOne = false then answer.documents else [],
    if answer.available = false then answer.error.getD .resultUnavailable
    else if answer.selectOne then .streamReadOfSingle else .noMoreDocuments)

/-- Give up what was not read. -/
def close (answer : Answer) : Answer :=
  { answer with available := false, documents := [] }

end Answer

end Polystore
