import CloudEmulator.Text.Ascii
import CloudEmulator.Text.Quoted
import CloudEmulator.Text.Utf8

/-!
# Header lists

An ordered list of named values. Names keep the spelling they came with and are
looked up ignoring ASCII case.
-/

namespace CloudEmulator

/-- An ordered list of header entries. -/
structure Headers where
  entries : List (String × String) := []
  deriving Inhabited, Repr

namespace Headers

/-- The entry has the name, ignoring case. -/
def named (name : String) (entry : String × String) : Bool :=
  Text.sameName entry.1 name

/-- The value of the first entry with a name. -/
def get? (h : Headers) (name : String) : Option String :=
  (h.entries.find? (named name)).map (·.2)

/-- Some entry has the name. -/
def contains (h : Headers) (name : String) : Bool :=
  h.entries.any (named name)

/-- The number of entries. -/
def size (h : Headers) : Nat :=
  h.entries.length

/-- The entries with `(name, value)` in place of the first one of that name, the
others of that name dropped. Without one, the new entry goes to the end. -/
def insertEntry (name value : String) : List (String × String) → List (String × String)
  | [] => [(name, value)]
  | e :: rest =>
    if named name e then (name, value) :: rest.filter (fun e => !named name e)
    else e :: insertEntry name value rest

/-- Set a header, replacing every entry of that name. -/
def insert (h : Headers) (name value : String) : Headers :=
  ⟨insertEntry name value h.entries⟩

/-- Add an entry without touching the others. -/
def append (h : Headers) (name value : String) : Headers :=
  ⟨h.entries ++ [(name, value)]⟩

/-- Drop the entries of a name from a place on. What moves up to the place of a dropped
entry is looked at next. -/
def dropFrom (name : String) (entries : List (String × String)) (i : Nat) :
    List (String × String) :=
  if h : i < entries.length then
    if named name entries[i] then dropFrom name (entries.eraseIdx i) i
    else dropFrom name entries (i + 1)
  else entries
termination_by entries.length - i
decreasing_by
  · rw [List.length_eraseIdx_of_lt h]
    omega
  · omega

/-- Set a header as `insert` does, in one pass over the list, and tell the value it had.
The entries behind the first are held against the name as that one spelled it. -/
def replace (h : Headers) (name value : String) : Headers × Option String :=
  let i := h.entries.findIdx (named name)
  if hi : i < h.entries.length then
    let old := h.entries[i]
    (⟨dropFrom old.1 (h.entries.set i (name, value)) (i + 1)⟩, some old.2)
  else (h.append name value, none)

/-- Drop every entry of a name. -/
def erase (h : Headers) (name : String) : Headers :=
  ⟨h.entries.filter fun e => !named name e⟩

/-- Keep an entry, unless it has the name. The value of the first that is not kept is told. -/
def sift (name : String) (sifted : Headers × Option String) (e : String × String) :
    Headers × Option String :=
  if named name e then (sifted.1, sifted.2.or (some e.2)) else (sifted.1.append e.1 e.2, sifted.2)

/-- Drop every entry of a name in one pass over the list, and tell the value it had. -/
def remove (h : Headers) (name : String) : Headers × Option String :=
  h.entries.foldl (sift name) ({}, none)

/-- The list that inserting the entries in turn leaves. -/
def ofList (entries : List (String × String)) : Headers :=
  entries.foldl (fun h e => h.insert e.1 e.2) {}

/-- Lists of equal length, where each entry of the first occurs in the second up
to the case of its name. -/
def agrees (h other : Headers) : Bool :=
  h.size == other.size &&
    h.entries.all fun e => other.entries.any fun o => named e.1 o && o.2 == e.2

/-- Decode raw values as UTF-8, or tell the name of the first that is not. -/
def ofRaw : List (String × Bytes) → Except String Headers
  | [] => .ok {}
  | (name, value) :: raw =>
    match Utf8.decode? value with
    | none => .error name
    | some text => (ofRaw raw).map fun h => ⟨(name, text) :: h.entries⟩

/-- The list as a map of quoted names and values. -/
def quoted (h : Headers) : String :=
  "\x7b" ++ ", ".intercalate (h.entries.map fun (name, value) =>
    Text.Quoted.encode name ++ ": " ++ Text.Quoted.encode value) ++ "\x7d"

end Headers

end CloudEmulator
