import CloudEmulator.Client.Request
import CloudEmulator.Response

/-!
# HTTP messages

Requests as they come over a connection, possibly in pieces, and responses as they
go back.
-/

namespace CloudEmulator

/-- What reading comes to from octets that may still go on. -/
inductive Reading (α : Type) where
  /-- The octets are the beginning of something. -/
  | incomplete
  | malformed
  | done (value : α) (rest : Bytes)

/-- What stands in front of the body of a request. -/
structure RequestHead where
  method : String
  target : String
  /-- The connection ends with the answer unless the request asks otherwise. -/
  isOld : Bool
  headers : List (String × Bytes)

namespace Message

/-- The two octets at the end of a line. -/
def lineEnd : Bytes := [13, 10]

/-- The octets in front of the first `mark`, and those behind it. -/
def splitAt? (mark : Bytes) : Bytes → Option (Bytes × Bytes)
  | [] => none
  | b :: rest =>
    if mark.isPrefixOf (b :: rest) then some ([], (b :: rest).drop mark.length)
    else (splitAt? mark rest).map fun (front, back) => (b :: front, back)

/-- The lines of a head. -/
def lines (fuel : Nat) (head : Bytes) : List Bytes :=
  match fuel with
  | 0 => []
  | fuel + 1 =>
    match splitAt? lineEnd head with
    | some (line, rest) => line :: lines fuel rest
    | none => [head]

/-- An octet that may surround the value of a header. -/
def isPadding (b : UInt8) : Bool :=
  b == 32 || b == 9

/-- A value without the blanks around it. -/
def trim (value : Bytes) : Bytes :=
  ((value.dropWhile isPadding).reverse.dropWhile isPadding).reverse

/-- The name and the value in a line. -/
def header? (line : Bytes) : Option (String × Bytes) := do
  let (name, value) ← splitAt? [58] line
  return (← Utf8.decode? name, trim value)

/-- The head that lines make. -/
def head? : List Bytes → Option RequestHead
  | [] => none
  | first :: rest => do
    let first ← Utf8.decode? first
    match first.splitOn " " with
    | [method, target, version] =>
      guard (version == "HTTP/1.1" || version == "HTTP/1.0")
      let headers ← rest.mapM header?
      return { method, target, isOld := version == "HTTP/1.0", headers }
    | _ => none

namespace Head

/-- The values of a header as texts, in lower case. -/
def values (h : RequestHead) (name : String) : List String :=
  (h.headers.filter fun e => Text.sameName e.1 name).map fun e => Text.lower (Utf8.lossy e.2)

/-- The connection goes on behind the answer. -/
def keepsAlive (h : RequestHead) : Bool :=
  let wishes := values h "connection"
  if h.isOld then wishes.contains "keep-alive" else !wishes.contains "close"

end Head

/-- The value of a hexadecimal digit. -/
def hexDigit? (b : UInt8) : Option Nat :=
  let n := b.toNat
  if 48 ≤ n && n ≤ 57 then some (n - 48)
  else if 97 ≤ n && n ≤ 102 then some (n - 87)
  else if 65 ≤ n && n ≤ 70 then some (n - 55)
  else none

/-- The size in the line in front of a chunk. -/
def chunkSize? (line : Bytes) : Option Nat := do
  let ds ← (trim (line.takeWhile (· != 59))).mapM hexDigit?
  guard (!ds.isEmpty && ds.length ≤ 15)
  return ds.foldl (fun n d => n * 16 + d) 0

/-- Read a body in chunks. -/
def readChunks (fuel : Nat) (sofar : Bytes) (octets : Bytes) : Reading Bytes :=
  match fuel with
  | 0 => .malformed
  | fuel + 1 =>
    match splitAt? lineEnd octets with
    | none => .incomplete
    | some (line, rest) =>
      match chunkSize? line with
      | none => .malformed
      | some 0 =>
        if lineEnd.isPrefixOf rest then .done sofar (rest.drop 2)
        else
          match splitAt? (lineEnd ++ lineEnd) rest with
          | some (_, rest) => .done sofar rest
          | none => .incomplete
      | some n =>
        if rest.length < n + 2 then .incomplete
        else if lineEnd.isPrefixOf (rest.drop n) then
          readChunks fuel (sofar ++ rest.take n) (rest.drop (n + 2))
        else .malformed

/-- Read the body of a request. -/
def readBody (h : RequestHead) (octets : Bytes) : Reading Bytes :=
  if (Head.values h "transfer-encoding").contains "chunked" then
    readChunks (octets.length + 1) [] octets
  else
    match Head.values h "content-length" with
    | [] => .done [] octets
    | length :: _ =>
      match Text.number? (Nat.pow 2 63) length with
      | none => .malformed
      | some n =>
        if octets.length < n then .incomplete else .done (octets.take n) (octets.drop n)

/-- Read a request. -/
def readRequest (octets : Bytes) : Reading (RequestHead × Bytes) :=
  match splitAt? (lineEnd ++ lineEnd) octets with
  | none => .incomplete
  | some (front, rest) =>
    match head? (lines (front.length + 1) front) with
    | none => .malformed
    | some h =>
      match readBody h rest with
      | .incomplete => .incomplete
      | .malformed => .malformed
      | .done body rest => .done (h, body) rest

/-- The usual reason for a status. -/
def reason : Nat → String
  | 200 => "OK"
  | 201 => "Created"
  | 202 => "Accepted"
  | 204 => "No Content"
  | 301 => "Moved Permanently"
  | 302 => "Found"
  | 304 => "Not Modified"
  | 400 => "Bad Request"
  | 401 => "Unauthorized"
  | 403 => "Forbidden"
  | 404 => "Not Found"
  | 405 => "Method Not Allowed"
  | 409 => "Conflict"
  | 412 => "Precondition Failed"
  | 429 => "Too Many Requests"
  | 500 => "Internal Server Error"
  | 501 => "Not Implemented"
  | 502 => "Bad Gateway"
  | 503 => "Service Unavailable"
  | _ => ""

/-- The status has no body. -/
def isBodiless (status : Nat) : Bool :=
  status / 100 == 1 || status == 204 || status == 304

/-- A response with a reason on the wire. The answer to a request for the head
alone has no body, but the length of one. -/
def encode (headOnly : Bool) (why : String) (r : WireResponse) : Bytes :=
  let fields := if isBodiless r.status then r.fields.erase "content-length" else r.fields
  let head := Utf8.encode ("HTTP/1.1 " ++ toString r.status ++ " " ++ why) ++ lineEnd ++
    fields.toList.flatMap fun (name, value) => Utf8.encode (name ++ ": ") ++ value ++ lineEnd
  head ++ lineEnd ++ if headOnly || isBodiless r.status then [] else r.body

end Message

end CloudEmulator
