import CloudEmulator.Http.Headers

/-!
# Field maps

Headers as a connection carries them: valid names in lower case, each with all
its values in order.
-/

namespace CloudEmulator

namespace Http

/-- A character that may stand in a token, such as a header name or a method. -/
def isTokenChar (c : Char) : Bool :=
  c.isAlphanum || "!#$%&'*+-.^_\x60|~".toList.contains c

/-- The text is a token. -/
def isToken (s : String) : Bool :=
  !s.isEmpty && s.toList.all isTokenChar

/-- The length of the longest name that a field may have. -/
def maxNameLength : Nat := 65535

/-- The text may be the name of a field: a token that is not too long. -/
def isFieldName (s : String) : Bool :=
  isToken s && s.length ≤ maxNameLength

/-- An octet that may stand in a header value. -/
def isFieldOctet (b : UInt8) : Bool :=
  (32 ≤ b.toNat && b.toNat != 127) || b.toNat == 9

/-- The octets may stand as a header value. -/
def isFieldValue (bytes : Bytes) : Bool :=
  bytes.all isFieldOctet

end Http

/-- Header fields by name, the names in order of first appearance. -/
structure FieldMap where
  fields : List (String × List Bytes) := []
  deriving Inhabited, Repr

namespace FieldMap

/-- The fields with one more value under a name. -/
def appendField (name : String) (value : Bytes) :
    List (String × List Bytes) → List (String × List Bytes)
  | [] => [(name, [value])]
  | (n, values) :: rest =>
    if n == name then (n, values ++ [value]) :: rest
    else (n, values) :: appendField name value rest

/-- Add a value under a name, which must be in lower case. -/
def append (m : FieldMap) (name : String) (value : Bytes) : FieldMap :=
  ⟨appendField name value m.fields⟩

/-- The values under a name, in order. -/
def values (m : FieldMap) (name : String) : List Bytes :=
  (m.fields.lookup name).getD []

/-- The first value under a name. -/
def get? (m : FieldMap) (name : String) : Option Bytes :=
  (m.values name).head?

/-- Drop a name and its values. -/
def erase (m : FieldMap) (name : String) : FieldMap :=
  ⟨m.fields.filter fun f => f.1 != name⟩

/-- Make `value` the only one under a name. -/
def insert (m : FieldMap) (name : String) (value : Bytes) : FieldMap :=
  if m.fields.any (·.1 == name) then
    ⟨m.fields.map fun f => if f.1 == name then (name, [value]) else f⟩
  else m.append name value

/-- All entries, grouped by name. -/
def toList (m : FieldMap) : List (String × Bytes) :=
  m.fields.flatMap fun (name, values) => values.map (name, ·)

/-- The entries of a raw list, which must be valid, grouped by name. -/
def ofList (entries : List (String × Bytes)) : FieldMap :=
  entries.foldl (fun m e => m.append (Text.lower e.1) e.2) {}

/-- The entry can be sent over HTTP. -/
def isValid (entry : String × Bytes) : Bool :=
  Http.isFieldName entry.1 && Http.isFieldValue entry.2

/-- The fields of a header list; entries that are not valid HTTP are dropped. -/
def ofHeaders (h : Headers) : FieldMap :=
  ofList ((h.entries.map fun e => (e.1, Utf8.encode e.2)).filter isValid)

/-- The fields that setting each header in turn leaves; invalid ones are dropped. -/
def ofInserted (headers : List (String × String)) : FieldMap :=
  let entries := (headers.map fun e => (e.1, Utf8.encode e.2)).filter isValid
  entries.foldl (fun (m : FieldMap) e => m.insert (Text.lower e.1) e.2) {}

/-- The header list of the fields, or the name of the first value that is not UTF-8. -/
def toHeaders (m : FieldMap) : Except String Headers :=
  Headers.ofRaw m.toList

end FieldMap

end CloudEmulator
