import CloudEmulator.Http.Headers
import CloudEmulator.Http.Url

/-!
# Requests

A request as it arrives, and as extensions and handlers see it once its service
is known.
-/

namespace CloudEmulator

/-- A request before its headers are decoded. The URL is absolute. -/
structure IncomingRequest where
  method : String
  url : String
  headers : List (String × Bytes) := []
  body : Bytes := []

/-- A request whose service is known. -/
structure ServiceRequest where
  method : String
  url : String
  headers : Headers := {}
  body : Bytes := []
  service : String
  /-- The operation, when one could be derived. -/
  operation : Option String := none
  account : String := ""
  region : String := ""

namespace ServiceRequest

/-- The path of the URL. -/
def path (r : ServiceRequest) : String :=
  Url.path r.url

/-- The query of the URL. -/
def query? (r : ServiceRequest) : Option String :=
  Url.query? r.url

/-- The decoded query parameters. -/
def parameters (r : ServiceRequest) : Form.Parameters :=
  Form.decode (r.query?.getD "")

/-- The host named by the headers, or else by the URL. -/
def host? (r : ServiceRequest) : Option String :=
  (r.headers.get? "host").or (Url.host? r.url)

/-- The body as text. -/
def bodyText (r : ServiceRequest) : String :=
  Utf8.lossy r.body

/-- The key under which extensions select the request. -/
def selectorKey? (r : ServiceRequest) : Option String :=
  r.operation.map fun operation => r.service ++ ":" ++ operation

end ServiceRequest

end CloudEmulator
