import CloudEmulator.Http.FieldMap
import CloudEmulator.Json

/-!
# Responses

What handlers and extensions answer, and the message that goes on the wire.
-/

namespace CloudEmulator

/-- A status, headers and a body. -/
structure Response where
  status : UInt16
  headers : Headers := {}
  body : Bytes := []
  deriving Inhabited, Repr

/-- A response as a connection carries it. -/
structure WireResponse where
  status : Nat
  fields : FieldMap := {}
  body : Bytes := []
  deriving Inhabited, Repr

namespace Response

/-- A response with a text as its body. -/
def text (status : UInt16) (body : String) : Response :=
  { status, body := Utf8.encode body }

/-- The answer to requests that nothing handles. -/
def notImplemented : Response :=
  text 404 "Not yet implemented"

/-- Set a header. -/
def withHeader (r : Response) (name value : String) : Response :=
  { r with headers := r.headers.insert name value }

/-- A response with a JSON body. -/
def json (status : UInt16) (value : Json) : Response :=
  (text status value.compact).withHeader "Content-Type" "application/json"

/-- State the length of the body. -/
def withContentLength (r : Response) : Response :=
  r.withHeader "Content-Length" (toString r.body.length)

/-- The body as text. -/
def bodyText (r : Response) : String :=
  Utf8.lossy r.body

/-- The response on the wire: a status outside 100 to 999 becomes 500, and the
framing headers are replaced by the length of the body. -/
def encode (r : Response) : WireResponse where
  status := if 100 ≤ r.status.toNat ∧ r.status.toNat ≤ 999 then r.status.toNat else 500
  fields := ((FieldMap.ofHeaders r.headers).erase "transfer-encoding").insert "content-length"
    (Utf8.encode (toString r.body.length))
  body := r.body

end Response

/-- A failure that belongs to the emulated service and is answered as it stands. -/
structure DomainError where
  status : UInt16
  headers : Headers := {}
  body : Bytes := []
  deriving Inhabited, Repr

namespace DomainError

/-- The failure in words. -/
def message (e : DomainError) : String :=
  "domain error with status " ++ toString e.status.toNat

/-- Set a header. -/
def withHeader (e : DomainError) (name value : String) : DomainError :=
  { e with headers := e.headers.insert name value }

/-- The response that tells the failure. -/
def toResponse (e : DomainError) : Response :=
  { status := e.status, headers := e.headers, body := e.body }

end DomainError

namespace WireResponse

/-- A response that the proxy makes itself: each header replaces the one of its
name, and invalid ones are dropped. -/
def make (status : Nat) (headers : List (String × String)) (body : Bytes) : WireResponse where
  status := status
  fields := (FieldMap.ofInserted headers).insert "content-length"
    (Utf8.encode (toString body.length))
  body := body

end WireResponse

end CloudEmulator
