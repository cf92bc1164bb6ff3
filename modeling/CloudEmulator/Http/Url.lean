import CloudEmulator.Http.FormEncoding

/-!
# Parts of URLs

The path, query and host of a URL that may lack any of them.
-/

namespace CloudEmulator.Url

/-- A character that ends the host. -/
def endsHost (c : Char) : Bool :=
  c == '/' || c == '?'

/-- What follows the scheme, or all of a URL without one. -/
def afterScheme (url : List Char) : List Char :=
  (Text.after? [':', '/', '/'] url).getD url

/-- The host of a URL, with its port, unless it is empty. -/
def host? (url : String) : Option String :=
  let host := (Text.cutAt endsHost (afterScheme url.toList)).1
  if host.isEmpty then none else some (String.ofList host)

/-- The path and the query as written; the fragment is dropped. -/
def pathAndQuery (url : List Char) : List Char × Option (List Char) :=
  let target := (Text.cutAt endsHost (afterScheme url)).2
  Text.splitOnce '?' (Text.cutAt (· == '#') target).1

/-- The path of a URL, `/` where it is empty. -/
def path (url : String) : String :=
  let path := (pathAndQuery url.toList).1
  if path.isEmpty then "/" else String.ofList path

/-- The query of a URL, without its question mark. -/
def query? (url : String) : Option String :=
  (pathAndQuery url.toList).2.map String.ofList

/-- The URL up to its query or fragment. -/
def stem (url : String) : String :=
  String.ofList (Text.cutAt (fun c => c == '?' || c == '#') url.toList).1

end CloudEmulator.Url
