import Polystore.Error
import Polystore.Text.Blank
import Polystore.Text.Cut
import Polystore.Text.Integer

/-!
# Connection strings

A connection string is a list of cluster descriptors with commas between them.
A descriptor is written

    [scheme://][credentials@]host[/database][?key=value&...][[replicas]]

and is cut from alternating ends: the replica count at the last bracket, the
parameters at the first question mark, the scheme at its mark, the credentials
at the last at sign and the database at the first slash.

The parameters `ssl` and `ssl_ca_certs` ask for transport security; all others
are passed on to the driver.  Credentials are never shown.
-/

namespace Polystore.Connection

/-- Transport security, with the file of certificates to trust. -/
structure Tls where
  bundle : Option String
deriving DecidableEq, Repr

/-- One cluster of a connection string. -/
structure Descriptor where
  address : String
  replicas : Nat := 1
  credentials : Option String := none
  database : Option String := none
  tls : Option Tls := none
  params : List (String × String) := []
deriving DecidableEq, Repr

/-- The text before a replica count, and the count.  Whatever is no positive
count stands for one replica. -/
def splitReplicas (raw : List Char) : List Char × Nat :=
  match Text.cutLast '[' raw with
  | none => (raw, 1)
  | some ([], _) => (raw, 1)
  | some (body, annotation) =>
      match Text.cutFirst ']' annotation with
      | none => (body, 1)
      | some (inside, _) =>
          match Text.readWord? (Text.trim inside) with
          | some count => (body, if count > 0 then count else 1)
          | none => (body, 1)

/-- The parameters read so far. -/
structure Params where
  secure : Bool := false
  bundle : Option String := none
  others : List (String × String) := []

/-- A parameter as a name and a value; a parameter without an equals sign has
the empty value. -/
def splitParam (part : List Char) : List Char × List Char :=
  (Text.cutFirst '=' part).getD (part, [])

/-- Take one parameter into account.  `ssl` counts only if it is worth `true`
or `false`, and the last one wins. -/
def Params.add (params : Params) (part : List Char) : Params :=
  let (name, value) := splitParam part
  match String.ofList name with
  | "ssl" =>
      match String.ofList value with
      | "true" => { params with secure := true }
      | "false" => { params with secure := false }
      | _ => params
  | "ssl_ca_certs" =>
      if value = [] then { params with others := params.others ++ [("ssl_ca_certs", "")] }
      else { params with bundle := some (String.ofList value) }
  | name => { params with others := params.others ++ [(name, String.ofList value)] }

/-- The parameters of a text, in which `&` stands between them. -/
def Params.read (text : List Char) : Params :=
  ((Text.pieces '&' text).filter (· ≠ [])).foldl Params.add {}

/-- Transport security, if the parameters ask for it. -/
def Params.tls (params : Params) : Option Tls :=
  if params.secure then some ⟨params.bundle⟩ else none

/-- A text that is present only if it is not empty. -/
def nonEmpty (text : List Char) : Option String :=
  if text = [] then none else some (String.ofList text)

namespace Descriptor

/-- The parts of a descriptor before its parameters: scheme, credentials, host
and database. -/
def splitAuthority (text : List Char) :
    Option (List Char) × List Char × List Char × List Char :=
  let (scheme, rest) := match Text.cutMark [':', '/', '/'] text with
    | some (scheme, rest) => (some scheme, rest)
    | none => (none, text)
  let (credentials, rest) := (Text.cutLast '@' rest).getD ([], rest)
  let (host, database) := (Text.cutFirst '/' rest).getD (rest, [])
  (scheme, credentials, host, database)

/-- The descriptor of a text without blanks around it. -/
def ofTrimmed (raw : List Char) : Except Error Descriptor :=
  let (body, replicas) := splitReplicas raw
  let (authority, query) := (Text.cutFirst '?' body).getD (body, [])
  let (scheme, credentials, host, database) := splitAuthority authority
  if host = [] then .error (.noAddress (String.ofList raw))
  else
    let params := Params.read query
    .ok {
      address := String.ofList (match scheme with
        | some scheme => scheme ++ [':', '/', '/'] ++ host
        | none => host)
      replicas := replicas
      credentials := nonEmpty credentials
      database := nonEmpty database
      tls := params.tls
      params := params.others }

/-- The descriptor that a text denotes. -/
def parse (raw : List Char) : Except Error Descriptor :=
  ofTrimmed (Text.trim raw)

/-- The address and the parameters that are passed on. -/
def uri (descriptor : Descriptor) : String :=
  let shown := descriptor.params.map fun (name, value) =>
    if value = "" then name else name ++ "=" ++ value
  if descriptor.params = [] then descriptor.address
  else descriptor.address ++ "?" ++ "&".intercalate shown

/-- The form in which a descriptor is shown. -/
def display (descriptor : Descriptor) : String :=
  let database := match descriptor.database with
    | some database => "/" ++ database
    | none => ""
  let secure := if descriptor.tls.isSome then " (tls)" else ""
  descriptor.address ++ database ++ "[" ++
    String.ofList (Text.ofNat descriptor.replicas) ++ "]" ++ secure

end Descriptor

/-- The clusters of a connection string. -/
structure Spec where
  clusters : List Descriptor
deriving DecidableEq, Repr

/-- The descriptors of some texts, or the first error among them. -/
def parseAll : List (List Char) → Except Error (List Descriptor)
  | [] => .ok []
  | part :: rest =>
      match Descriptor.parse part with
      | .error cause => .error cause
      | .ok descriptor =>
          match parseAll rest with
          | .error cause => .error cause
          | .ok descriptors => .ok (descriptor :: descriptors)

namespace Spec

/-- The clusters that a connection string names.  Blank entries are left
out. -/
def parse (raw : String) : Except Error Spec :=
  let parts := (Text.pieces ',' raw.toList).map Text.trim
  match parseAll (parts.filter (· ≠ [])) with
  | .error cause => .error cause
  | .ok [] => .error .noCluster
  | .ok clusters => .ok ⟨clusters⟩

/-- The sum of two words, if it is one. -/
def addWords? (left right : Nat) : Option Nat :=
  if left + right < Text.wordRange then some (left + right) else none

/-- How many connections the clusters ask for.  They are added up in a word, which nothing is
promised of if the sum does not fit: it depends on the build whether the call panics then or
wraps around. -/
def totalConnections (spec : Spec) : Option Nat :=
  (spec.clusters.map Descriptor.replicas).foldlM addWords? 0

end Spec

end Polystore.Connection
