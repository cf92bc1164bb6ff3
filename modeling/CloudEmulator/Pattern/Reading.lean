import CloudEmulator.Pattern.Fault
import CloudEmulator.Text.Blank

/-!
# Readers of written patterns

The steps that the readers of patterns are made of, and the flags they read
under. A reader takes a text from its start and leaves the rest.
-/

namespace CloudEmulator.Pattern

/-- The settings under which a part of a pattern is read. -/
structure Flags where
  caseless : Bool := false
  multiLine : Bool := false
  dotAll : Bool := false
  extended : Bool := false
  unicode : Bool := true
  returns : Bool := false

/-- What is read off the start of a text, with the rest of the text. -/
abbrev Reading (α : Type) := StateT (List Char) (Except Fault) α

/-- The text after the blanks and comments it begins with. A comment goes on
until the end of its line. -/
def afterBlanks : (inComment : Bool) → List Char → List Char
  | _, [] => []
  | true, c :: rest => afterBlanks (c != '\n') rest
  | false, c :: rest =>
    if c == '#' then afterBlanks true rest
    else if Text.isBlank c then afterBlanks false rest
    else c :: rest

/-- The text after what the flags ignore: only the extended form has comments and
blanks that stand for nothing. -/
def afterIgnored (flags : Flags) (rest : List Char) : List Char :=
  if flags.extended then afterBlanks false rest else rest

namespace Reading

/-- Drop what the flags ignore. -/
def skipIgnored (flags : Flags) : Reading Unit := fun rest =>
  .ok ((), afterIgnored flags rest)

/-- The next character; there must be one. -/
def next (missing : Fault) : Reading Char
  | [] => .error missing
  | c :: rest => .ok (c, rest)

/-- Whether a mark comes next, which is then read. -/
def accept (mark : List Char) : Reading Bool := fun rest =>
  match mark.isPrefixOf? rest with
  | some after => .ok (true, after)
  | none => .ok (false, rest)

/-- Whether one of several marks comes next; the first of them is then read. -/
def acceptAny : (marks : List (List Char)) → Reading Bool
  | [] => return false
  | mark :: marks => do if ← accept mark then return true else acceptAny marks

/-- Read a mark that must come next. -/
def expect (mark : List Char) (missing : Fault) : Reading Unit := do
  if ← accept mark then return () else throw missing

/-- The longest run of characters of a kind. -/
def run (isKind : Char → Bool) : Reading (List Char) := fun rest =>
  .ok (rest.takeWhile isKind, rest.dropWhile isKind)

/-- The text up to a mark, which is read as well. -/
def upTo (mark : Char) (missing : Fault) : Reading (List Char) := do
  let found ← run (· != mark)
  let _ ← next missing
  return found

/-- A number of characters; there must be as many. -/
def exactly (missing : Fault) : (count : Nat) → Reading (List Char)
  | 0 => return []
  | count + 1 => do
    let c ← next missing
    return c :: (← exactly missing count)

/-- Whether the text, or the group it is in, ends here. Nothing is read. -/
def atClose : Reading Bool
  | [] => .ok (true, [])
  | c :: rest => .ok (c == ')', c :: rest)

end Reading

end CloudEmulator.Pattern
