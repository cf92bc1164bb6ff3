import CloudEmulator.Request
import CloudEmulator.Response
import CloudEmulator.Script.Printing

/-!
# Requests and responses as script values

What hooks get to see, and what they may hand back. Header names reach a script
in lower case. A hook answers with a map of a status, headers and a body, each of
which may be left out.
-/

namespace CloudEmulator

open Script (Value)

namespace Headers

/-- The headers as a map; of entries with one name the last counts. -/
def toValue (h : Headers) : Value :=
  .ofEntries (h.entries.map fun (name, value) => (Text.lower name, .str value))

end Headers

namespace ServiceRequest

/-- The request as a map. -/
def toValue (r : ServiceRequest) : Value :=
  .ofEntries [
    ("method", .str r.method),
    ("url", .str r.url),
    ("path", .str r.path),
    ("headers", r.headers.toValue),
    ("body", .str r.bodyText),
    ("service", .str r.service),
    ("operation", r.operation.elim .unit .str),
    ("query", .ofEntries (r.parameters.map fun (name, value) => (name, .str value)))]

end ServiceRequest

/-- Why a value is no response. -/
inductive ResponseFault where
  | notMap (typeName : String)
  | statusType (typeName : String)
  | statusRange (n : Int)
  | headersType
  | bodyText
  deriving DecidableEq, Repr

namespace ResponseFault

/-- The fault in words. -/
def message : ResponseFault → String
  | notMap typeName => "expected a map or (), got " ++ typeName
  | statusType typeName => "status must be an integer, got " ++ typeName
  | statusRange n => "status " ++ toString n ++ " is out of range"
  | headersType => "headers must be a map"
  | bodyText => "body is not JSON-serialisable"

end ResponseFault

namespace Response

/-- The arguments of a response hook. -/
def toArguments (r : Response) : List Value :=
  [.int r.status.toNat, r.headers.toValue, .str r.bodyText]

/-- The status in the entries of a map, 200 if there is none. -/
def statusOf (entries : List (String × Value)) : Except ResponseFault UInt16 :=
  match Value.find? "status" entries with
  | none => .ok 200
  | some (.int n) =>
    if 100 ≤ n ∧ n ≤ 999 then .ok (UInt16.ofNat n.toNat) else .error (.statusRange n)
  | some v => .error (.statusType v.typeName)

/-- The headers in the entries of a map: any values, as their texts. -/
def headersOf (entries : List (String × Value)) : Except ResponseFault Headers :=
  match Value.find? "headers" entries with
  | none => .ok {}
  | some (.map named) => .ok (.ofList (named.map fun (name, value) => (name, value.text)))
  | some _ => .error .headersType

/-- The body in the entries of a map: texts and blobs as they are, maps and
arrays as JSON, and the text of anything else. -/
def bodyOf (entries : List (String × Value)) : Except ResponseFault Bytes :=
  match Value.find? "body" entries with
  | none => .ok []
  | some (.blob bytes) => .ok bytes
  | some v@(.map _) | some v@(.array _) =>
    match v.toJson? with
    | some json => .ok (Utf8.encode json.compact)
    | none => .error .bodyText
  | some v => .ok (Utf8.encode v.text)

/-- The response that a value describes. -/
def ofValue (v : Value) : Except ResponseFault Response :=
  match v with
  | .map entries => do
    let status ← statusOf entries
    let headers ← headersOf entries
    let body ← bodyOf entries
    return { status, headers, body }
  | v => .error (.notMap v.typeName)

end Response

end CloudEmulator
