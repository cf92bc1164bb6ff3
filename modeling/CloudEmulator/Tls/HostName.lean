/-!
# Host names

Names that are safe as a file name and as the subject of a certificate.
-/

namespace CloudEmulator.HostName

/-- A character of a host name. -/
def isNameChar (c : Char) : Bool :=
  c.isAlphanum || c == '-' || c == '.' || c == '_'

/-- Two neighbouring dots occur. -/
def hasDoubleDot : List Char → Bool
  | '.' :: '.' :: _ => true
  | _ :: rest => hasDoubleDot rest
  | [] => false

/-- The name is not empty, not longer than 253 characters, holds ASCII letters,
digits, hyphens, dots and underscores only, does not start with a dot and has no
two dots in a row. -/
def isValid (host : String) : Bool :=
  let cs := host.toList
  !cs.isEmpty && cs.length ≤ 253 && cs.head? != some '.' && !hasDoubleDot cs && cs.all isNameChar

end CloudEmulator.HostName
