import CloudEmulator.Http.FieldMap
import CloudEmulator.Text.Number

/-!
# Request targets

The four forms of a request's URI: absolute, a path with a query, an authority, or
an asterisk. Schemes in front of an authority are told apart ignoring case; the
fragment is dropped.
-/

namespace CloudEmulator

/-- A parsed request target. The authority is empty where there is none, and so
are path and query; `*` counts as a path. -/
structure Uri where
  scheme : Option String := none
  authority : String := ""
  path : String := ""
  query : Option String := none
  deriving DecidableEq, Repr

namespace Uri

/-- A character of a scheme. -/
def isSchemeChar (c : Char) : Bool :=
  c.isAlphanum || c == '+' || c == '-' || c == '.'

/-- A character that may stand in an authority. -/
def isAuthorityChar (c : Char) : Bool :=
  c.isAlphanum || "!$&'()*+,-.:;=@[]_~".toList.contains c

/-- A character that may stand in a path. Some that ought to be escaped are let
through. -/
def isPathChar (c : Char) : Bool :=
  let n := c.toNat
  n == 0x21 || n == 0x22 || (0x24 ≤ n && n ≤ 0x3B) || n == 0x3D || (0x40 ≤ n && n ≤ 0x5F) ||
    (0x61 ≤ n && n ≤ 0x7E) || 0x7F ≤ n

/-- A character that may stand in a query. -/
def isQueryChar (c : Char) : Bool :=
  let n := c.toNat
  n == 0x21 || (0x24 ≤ n && n ≤ 0x3B) || n == 0x3D || 0x3F ≤ n

/-- The scheme in front of `://`, and what follows. -/
def readScheme (cs : List Char) : Option (Option String × List Char) :=
  let name := cs.takeWhile isSchemeChar
  match cs.dropWhile isSchemeChar with
  | ':' :: '/' :: '/' :: rest =>
    let lower := Text.lower (String.ofList name)
    if lower == "http" || lower == "https" then some (some lower, rest)
    else if cs.length ≤ 3 then some (none, cs)
    else if 64 < name.length then none
    else some (some (String.ofList name), rest)
  | _ => some (none, cs)

/-- What has been seen of an authority: colons and percent signs since the last
mark that makes them count anew, and brackets. -/
structure AuthorityScan where
  colons : Nat := 0
  opened : Bool := false
  closed : Bool := false
  percent : Bool := false

/-- See one more character of an authority, if it may stand there. -/
def AuthorityScan.step (s : AuthorityScan) (c : Char) : Option AuthorityScan :=
  match c with
  | ':' => if 8 ≤ s.colons then none else some { s with colons := s.colons + 1 }
  | '[' => if s.percent || s.opened then none else some { s with opened := true }
  | ']' =>
    if !s.opened || s.closed then none
    else some { s with closed := true, colons := 0, percent := false }
  | '@' => some { s with colons := 0, percent := false }
  | '%' => some { s with percent := true }
  | c => if isAuthorityChar c then some s else none

/-- The authority is well formed: brackets match, it has at most one port, ends
in no at-sign and has escapes only in front of one. -/
def isAuthority (cs : List Char) : Bool :=
  match cs.foldlM AuthorityScan.step {} with
  | none => false
  | some s => s.opened == s.closed && s.colons ≤ 1 && !s.percent && cs.getLast? != some '@'

/-- The path and the query, up to a fragment. -/
def readPath (cs : List Char) : Option (String × Option String) :=
  let (path, rest) := Text.cutAt (fun c => c == '?' || c == '#') cs
  if !path.all isPathChar then none
  else
    match rest with
    | '?' :: rest =>
      let query := (Text.cutAt (· == '#') rest).1
      if query.all isQueryChar then some (String.ofList path, some (String.ofList query)) else none
    | _ => some (String.ofList path, none)

/-- The octets of a target are at most so many. -/
def maxLength : Nat := 65534

/-- Read a target that does not begin with a slash. -/
def readFull (cs : List Char) : Option Uri := do
  let (scheme, rest) ← readScheme cs
  let (authority, rest) := Text.cutAt (fun c => c == '/' || c == '?' || c == '#') rest
  guard (isAuthority authority)
  match scheme with
  | none => if rest.isEmpty then some { authority := String.ofList authority } else none
  | some scheme =>
    guard !authority.isEmpty
    let (path, query) ← readPath rest
    return { scheme := some scheme, authority := String.ofList authority, path, query }

/-- Read a request target. -/
def parse? (s : String) : Option Uri :=
  if maxLength < (Utf8.encode s).length then none
  else
    match s.toList with
    | [] => none
    | ['*'] => some { path := "*" }
    | '/' :: cs => (readPath ('/' :: cs)).map fun (path, query) => { path, query }
    | cs => readFull cs

/-- The query behind its question mark. -/
def querySuffix (u : Uri) : String :=
  match u.query with
  | some query => "?" ++ query
  | none => ""

/-- The path and the query; an empty path in front of them is a slash. -/
def target (u : Uri) : String :=
  (if u.path.isEmpty then "/" else u.path) ++ u.querySuffix

/-- The target has a path and a query that count, unlike a bare authority. -/
def hasTarget (u : Uri) : Bool :=
  u.scheme.isSome || u.authority.isEmpty

/-- The host of an authority: between its last at-sign and its port. An address
in brackets keeps them. -/
def hostOf (authority : List Char) : List Char :=
  let host := (authority.reverse.takeWhile (· != '@')).reverse
  match host with
  | '[' :: _ => (Text.cutAt (· == ']') host).1 ++ [']']
  | _ => (Text.cutAt (· == ':') host).1

/-- The host of a target that has an authority. -/
def host? (u : Uri) : Option String :=
  if u.authority.isEmpty then none else some (String.ofList (hostOf u.authority.toList))

/-- The port of a target, where one is given behind the last colon. -/
def port? (u : Uri) : Option Nat :=
  let cs := u.authority.toList
  if cs.contains ':' then
    Text.number? 65535 (String.ofList (cs.reverse.takeWhile (· != ':')).reverse)
  else none

/-- The text of a target. -/
def text (u : Uri) : String :=
  match u.scheme with
  | some scheme => scheme ++ "://" ++ u.authority ++ u.target
  | none => u.authority ++ u.path ++ u.querySuffix

end Uri

end CloudEmulator
