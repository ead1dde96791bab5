import Polystore.Json.Text
import Polystore.Transaction.Status

/-!
# Errors

An error is a cause.  Its kind is what callers branch on, and every backend
reports a missing document or key with the kind `notFound`; its message is the
text shown to people.
-/

namespace Polystore

/-- What callers branch on. -/
inductive ErrorKind where
  | io
  | parse
  | notFound
  | invalidArgument
  | invalidQuery
  | notImplemented
  | transportFailure
  | transactionFailure
  | invalidState
  | alreadyWatched
deriving DecidableEq, Repr

/-- The name of a kind. -/
def ErrorKind.name : ErrorKind → String
  | io => "Io"
  | parse => "Parse"
  | notFound => "NotFound"
  | invalidArgument => "InvalidArgument"
  | invalidQuery => "InvalidQuery"
  | notImplemented => "NotImplemented"
  | transportFailure => "TransportFailure"
  | transactionFailure => "TransactionFailure"
  | invalidState => "InvalidState"
  | alreadyWatched => "AlreadyWatched"

/-- All kinds. -/
def ErrorKind.all : List ErrorKind :=
  [.io, .parse, .notFound, .invalidArgument, .invalidQuery, .notImplemented,
    .transportFailure, .transactionFailure, .invalidState, .alreadyWatched]

/-- The kind of a name. -/
def ErrorKind.ofName? (name : String) : Option ErrorKind :=
  all.find? fun kind => kind.name = name

/-- Why an operation on files was refused. -/
inductive FileFault where
  | missing
  | alreadyThere
  | notDirectory
  | isDirectory
  | notEmpty
  | nameTooLong
  /-- What would have to be replaced is in use as a folder on the way. -/
  | busy
  /-- The operation does not make sense for the place. -/
  | invalid
  | nulInName
deriving DecidableEq, Repr

/-- The text of a file fault, with the error number of the operating system
where it has one. -/
def FileFault.message : FileFault → String
  | missing => "os error 2"
  | alreadyThere => "os error 17"
  | notDirectory => "os error 20"
  | isDirectory => "os error 21"
  | notEmpty => "os error 39"
  | nameTooLong => "os error 36"
  | busy => "os error 16"
  | invalid => "os error 22"
  | nulInName => "file name contained an unexpected NUL byte"

/-- The causes of failure. -/
inductive Error where
  /-- No comparison operator is written like this. -/
  | unknownOperator (written : String)
  /-- The operand of a membership test is no array. -/
  | membershipNeedsArray (field : String) (operand : Json)
  /-- The operand of a membership test is no array, on a cursor. -/
  | cursorMembershipNeedsArray (field : String)
  /-- The operand of a pattern test is no string. -/
  | patternNeedsString (field : String)
  /-- A pattern does not follow the syntax of patterns. -/
  | invalidPattern
  /-- A cursor cannot evaluate the operator. -/
  | notSatisfiable (operator field : String)
  /-- A filter document is no object. -/
  | filterNotObject (filter : Json)
  /-- A filter document has an unknown operator where a field is expected. -/
  | unknownConnective (name : String)
  /-- The operand of a connective is no array. -/
  | connectiveNeedsArray (name : String)
  /-- The operand of `$in` is no array. -/
  | inNeedsArray
  /-- The operand of `$regex` is no string. -/
  | regexNeedsString
  /-- A field test has an unknown operator. -/
  | unknownTest (name : String)
  /-- A wildcard pattern opens a class that it does not close. -/
  | unterminatedClass (pattern : String)
  /-- A page of no documents was asked for. -/
  | emptyPage
  /-- A closed or failed result was read. -/
  | resultUnavailable
  /-- A result of one document was read as a stream. -/
  | streamReadOfSingle
  /-- A stream of documents was read as one document. -/
  | singleReadOfStream
  /-- A query for one document matched none. -/
  | noMatch
  /-- A stream of documents has come to its end. -/
  | noMoreDocuments
  /-- The one document of a result was taken already. -/
  | noDocument
  /-- A document has a field of the reserved name. -/
  | reservedField (id : String)
  /-- A document is no object. -/
  | notAnObject (id kind : String)
  /-- A collection holds no document of this id. -/
  | documentMissing (collection id : String)
  /-- A node is offline. -/
  | unreachable (address : String)
  /-- There is no segment that could own a document. -/
  | noSegment
  /-- The file of certificates that a connection needs does not exist. -/
  | bundleMissing (path : String)
  /-- A cluster descriptor names no address. -/
  | noAddress (descriptor : String)
  /-- A connection string names no cluster. -/
  | noCluster
  /-- A list of descriptors is empty. -/
  | noDescriptor
  /-- A connection could not be made; `cluster` is how its descriptor shows. -/
  | connectionRefused (cluster : String) (cause : Error)
  /-- A transaction no longer takes operations. -/
  | notActive (status : Transaction.Status)
  /-- A transaction on files was undone after a failure. -/
  | rolledBack (cause : Error)
  /-- A collection cannot be dropped in a transaction on files. -/
  | dropInFileTransaction (collection : String)
  /-- The backend does not offer the operation. -/
  | notOffered (operation : String)
  /-- The root of a file pool cannot be looked at. -/
  | rootUnreadable (root : String) (fault : FileFault)
  /-- The root of a file pool is no directory. -/
  | rootNotDirectory (root : String)
  /-- A path does not begin at the pool root. -/
  | pathNotAbsolute (path : String)
  /-- A path climbs above the pool root. -/
  | pathEscapes (path : String)
  /-- A path names the root of the file system. -/
  | pathNamesRoot (path : String)
  /-- A collection or an id cannot be a file name. -/
  | badSegment (segment : String)
  /-- The file system refused an operation. -/
  | file (fault : FileFault)
  /-- A cache holds no value under the key. -/
  | keyMissing (key : String)
  /-- The value under the key has expired. -/
  | keyExpired (key : String)
  /-- A counter operation met a value that is no integer. -/
  | notACounter (key : String)
  /-- A counter would leave the range of a signed word. -/
  | counterOverflow (key : String)
  /-- A decrement has no opposite in the range of a signed word. -/
  | cannotDecrement (key : String) (amount : Int)
  /-- A value that was read as an integer is none. -/
  | notAnInteger (key value : String)
  /-- A key is watched through another document. -/
  | watchedElsewhere (key : String)
  /-- A key is not watched. -/
  | notWatched (key : String)
  /-- A watcher without a period cannot run on its own. -/
  | zeroPeriod
  /-- A watcher runs already. -/
  | alreadyRunning
  /-- A configuration has no interval between sweeps. -/
  | zeroInterval
  /-- Text or bytes are not JSON of the expected shape. -/
  | malformed
  /-- An error that a connection driver reports in its own words. -/
  | reported (kind : ErrorKind) (message : String)
deriving Repr, Inhabited

namespace Error

/-- The kind of an error. -/
def kind : Error → ErrorKind
  | unknownOperator _ | membershipNeedsArray .. | cursorMembershipNeedsArray _
  | patternNeedsString _ | invalidPattern | notSatisfiable .. | filterNotObject _
  | unknownConnective _ | connectiveNeedsArray _ | inNeedsArray | regexNeedsString
  | unknownTest _ | unterminatedClass _ | resultUnavailable => .invalidQuery
  | streamReadOfSingle | singleReadOfStream | notActive _ | alreadyRunning => .invalidState
  | noMatch | noMoreDocuments | noDocument | documentMissing .. | keyMissing _
  | keyExpired _ | notWatched _ => .notFound
  | emptyPage | reservedField _ | notAnObject .. | noAddress _ | noCluster
  | noDescriptor | rootUnreadable .. | rootNotDirectory _ | pathNotAbsolute _
  | pathEscapes _ | pathNamesRoot _ | badSegment _ | notACounter _
  | counterOverflow _ | cannotDecrement .. | zeroPeriod | zeroInterval => .invalidArgument
  | unreachable _ | bundleMissing _ | connectionRefused .. => .transportFailure
  | noSegment | rolledBack _ | dropInFileTransaction _ => .transactionFailure
  | notOffered _ => .notImplemented
  | file .missing => .notFound
  | file _ => .io
  | notAnInteger .. | malformed => .parse
  | watchedElsewhere _ => .alreadyWatched
  | reported kind _ => kind

/-- The text of an error. -/
def message : Error → String
  | unknownOperator written => s!"unknown operator `{written}`"
  | membershipNeedsArray field operand =>
      s!"`in` on `{field}` needs an array, got {operand.render}"
  | cursorMembershipNeedsArray field => s!"`in` on `{field}` needs an array"
  | patternNeedsString field => s!"regex on `{field}` needs a string pattern"
  | invalidPattern => "invalid pattern"
  | notSatisfiable operator field => s!"query not satisfiable: `{operator}` on `{field}`"
  | filterNotObject filter => s!"filter must be an object: {filter.render}"
  | unknownConnective name => s!"unknown top-level operator {name}"
  | connectiveNeedsArray name => s!"{name} needs an array"
  | inNeedsArray => "$in needs an array"
  | regexNeedsString => "$regex needs a string"
  | unknownTest name => s!"unknown operator {name}"
  | unterminatedClass pattern => s!"unterminated class in `{pattern}`"
  | emptyPage => "page size must be positive"
  | resultUnavailable => "query result is not available"
  | streamReadOfSingle => "cursor read on a single-result query"
  | singleReadOfStream => "single-result read on a multi-document query"
  | noMatch => "query matched no document"
  | noMoreDocuments => "no more documents"
  | noDocument => "no document"
  | reservedField id => s!"document {id} uses the reserved field __id"
  | notAnObject id kind => s!"document {id} must serialize to an object, got {kind}"
  | documentMissing collection id => s!"{collection}/{id}"
  | unreachable address => s!"node {address} is unreachable"
  | noSegment => "no segment to commit to"
  | bundleMissing path => s!"CA bundle {path} not found"
  | noAddress descriptor => s!"cluster descriptor `{descriptor}` has no address"
  | noCluster => "connection string names no cluster"
  | noDescriptor => "connection spec names no cluster"
  | connectionRefused cluster cause => s!"{cluster}: {cause.message}"
  | notActive status => s!"transaction # is not active ({status.name})"
  | rolledBack cause => s!"file transaction rolled back: {cause.kind.name}: {cause.message}"
  | dropInFileTransaction collection =>
      s!"cannot drop `{collection}` inside a file transaction"
  | notOffered operation => operation
  | rootUnreadable root fault => s!"file pool root {root}: {fault.message}"
  | rootNotDirectory root => s!"file pool root {root} is not a directory"
  | pathNotAbsolute path => s!"path `{path}` must be absolute"
  | pathEscapes path => s!"path `{path}` escapes the pool root"
  | pathNamesRoot path => s!"`{path}` names the pool root"
  | badSegment segment => s!"`{segment}` cannot be used as a path segment"
  | file fault => fault.message
  | keyMissing key => s!"key {key}"
  | keyExpired key => s!"key {key} expired"
  | notACounter key => s!"key {key} does not hold an integer"
  | counterOverflow key => s!"counter {key} would overflow"
  | cannotDecrement key amount => s!"cannot decrement {key} by {amount}"
  | notAnInteger key value => s!"key {key} holds `{value}`, not an integer"
  | watchedElsewhere key => s!"{key} is watched through another handle"
  | notWatched key => s!"{key} is not watched"
  | zeroPeriod => "watcher period must be positive"
  | alreadyRunning => "watcher is already running"
  | zeroInterval => "watcher_interval_secs must be positive"
  | malformed => "malformed JSON"
  | reported _ message => message

/-- The kind and the message. -/
def display (error : Error) : String :=
  s!"{error.kind.name}: {error.message}"

/-- Whether the error says that a document or a key is missing. -/
def isNotFound (error : Error) : Bool :=
  error.kind = .notFound

end Error

/-- What an operation on a state gives back: its result, and the state after
it.  A failed operation may have changed the state. -/
abbrev Outcome (σ α : Type) := Except Error α × σ

end Polystore
