import CloudEmulator.Http.Uri
import CloudEmulator.Request

/-!
# Requests of HTTP clients and connections
-/

namespace CloudEmulator

/-- A request as it stands on the wire: method and fields are valid HTTP. -/
structure HttpRequest where
  method : String
  uri : Uri
  fields : FieldMap := {}
  body : Bytes := []

namespace HttpRequest

/-- Make a request, if method, target and headers are valid. -/
def make? (method uri : String) (headers : List (String × Bytes)) (body : Bytes) :
    Option HttpRequest := do
  guard (Http.isToken method)
  let uri ← Uri.parse? uri
  guard (headers.all FieldMap.isValid)
  return { method, uri, fields := FieldMap.ofList headers, body }

/-- An octet of text that every header value may hold. -/
def isPlainOctet (b : UInt8) : Bool :=
  (32 ≤ b.toNat && b.toNat < 127) || b.toNat == 9

/-- The first host header, if it is plain text. -/
def host? (r : HttpRequest) : Option String :=
  match r.fields.get? "host" with
  | some value => if value.all isPlainOctet then Utf8.decode? value else none
  | none => none

/-- The absolute URL of a request. One that names no scheme is completed with the
given one, and with its host header or else `fallback`. -/
def absoluteUrl (r : HttpRequest) (scheme fallback : String) : String :=
  if r.uri.scheme.isSome then r.uri.text
  else
    scheme ++ "://" ++ r.host?.getD fallback ++ (if r.uri.hasTarget then r.uri.target else "/")

/-- The request as the emulator gets it. -/
def incoming (r : HttpRequest) (url : String) : IncomingRequest where
  method := r.method
  url := url
  headers := r.fields.toList
  body := r.body

end HttpRequest

end CloudEmulator
