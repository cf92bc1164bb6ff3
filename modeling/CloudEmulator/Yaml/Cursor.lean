import CloudEmulator.Yaml.Node

/-!
# Reading YAML: positions

A cursor knows its column, since indentation decides the structure of a document,
and the nodes that were named so far.
-/

namespace CloudEmulator.Yaml

/-- The rest of a document, the column it begins in, and the nodes with names. -/
structure Cursor where
  rest : List Char
  column : Nat := 0
  anchors : List (String × Node) := []

namespace Cursor

/-- A line break. -/
def isBreak (c : Char) : Bool :=
  c == '\n' || c == '\r' || c == '\u0085' || c == '\u2028' || c == '\u2029'

/-- A blank within a line. -/
def isSpace (c : Char) : Bool :=
  c == ' ' || c == '\t'

/-- The text ends here, or goes on with a blank or a line break. -/
def endsWord : List Char → Bool
  | [] => true
  | c :: _ => isSpace c || isBreak c

/-- The cursor behind `n` characters of its line. -/
def skip (c : Cursor) (n : Nat) : Cursor :=
  { c with rest := c.rest.drop n, column := c.column + n }

/-- The cursor behind a line break. -/
def skipBreak (c : Cursor) : Cursor :=
  match c.rest with
  | '\r' :: '\n' :: rest => { c with rest, column := 0 }
  | _ :: rest => { c with rest, column := 0 }
  | [] => c

/-- The cursor behind the characters of its line that satisfy `p`. -/
def skipWhile (c : Cursor) (p : Char → Bool) : Cursor :=
  { c with rest := c.rest.dropWhile p, column := c.column + (c.rest.takeWhile p).length }

/-- The cursor behind the blanks of its line. -/
def skipSpaces (c : Cursor) : Cursor :=
  c.skipWhile isSpace

/-- The end of the line. -/
def skipLine (c : Cursor) : Cursor :=
  c.skipWhile fun c => !isBreak c

/-- The text begins with a mark that ends in a blank. -/
def atMark (c : Cursor) (mark : List Char) : Bool :=
  mark.isPrefixOf c.rest && endsWord (c.rest.drop mark.length)

/-- A document begins here. -/
def atStart (c : Cursor) : Bool :=
  c.column == 0 && c.atMark ['-', '-', '-']

/-- A document ends here. -/
def atStop (c : Cursor) : Bool :=
  c.column == 0 && c.atMark ['.', '.', '.']

/-- No content of this document follows. -/
def atEnd (c : Cursor) : Bool :=
  c.rest.isEmpty || c.atStart || c.atStop

/-- Nothing but a comment follows on the line. -/
def endsLine (c : Cursor) : Bool :=
  match c.skipSpaces.rest with
  | [] => true
  | x :: _ => x == '#' || isBreak x

/-- The cursor has not left its line on the way to `behind`. -/
def staysOnLine (c behind : Cursor) : Bool :=
  !(c.rest.take (c.rest.length - behind.rest.length)).any isBreak

/-- Give a node a name. -/
def bind (c : Cursor) (name : Option String) (node : Node) : Cursor :=
  match name with
  | some name => { c with anchors := (name, node) :: c.anchors }
  | none => c

/-- The next content behind blanks, comments and line breaks. Tabs must not
indent a line, unless `tabs` says that indentation does not matter. -/
def skipToContent (fuel : Nat) (tabs : Bool) (c : Cursor) : Option Cursor :=
  match fuel with
  | 0 => none
  | fuel + 1 =>
    let c := if tabs then c.skipSpaces else c.skipWhile (· == ' ')
    match c.rest with
    | '\t' :: _ => none
    | '#' :: _ => skipToContent fuel tabs c.skipLine
    | x :: _ => if isBreak x then skipToContent fuel tabs c.skipBreak else some c
    | [] => some c

end Cursor

end CloudEmulator.Yaml
