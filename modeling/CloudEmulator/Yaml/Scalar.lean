import CloudEmulator.Yaml.Cursor

/-!
# Reading YAML: scalars

Plain, quoted and block scalars. A line break within a plain or quoted scalar
counts as a space, and a blank line as a break.
-/

namespace CloudEmulator.Yaml

namespace Scalar

/-- What line breaks between two words of a scalar stand for. -/
def folded (breaks : Nat) : List Char :=
  if breaks = 1 then [' '] else List.replicate (breaks - 1) '\n'

/-- Skip line breaks and the blanks around them; count the breaks. -/
def skipBreaks (fuel breaks : Nat) (c : Cursor) : Nat × Cursor :=
  match fuel with
  | 0 => (breaks, c)
  | fuel + 1 =>
    let d := c.skipSpaces
    match d.rest with
    | x :: _ => if Cursor.isBreak x then skipBreaks fuel (breaks + 1) d.skipBreak else (breaks, d)
    | [] => (breaks, d)

/-- A character that ends a plain scalar inside of brackets. -/
def isFlowMark (c : Char) : Bool :=
  c == ',' || c == '[' || c == ']' || c == '\x7b' || c == '\x7d'

/-- A colon here ends a plain scalar. Inside of brackets a mark may follow it, but
must not: that is for the reader to say. -/
def separates (inFlow : Bool) : List Char → Bool
  | ':' :: rest =>
    Cursor.endsWord rest || (inFlow && rest.head?.any fun c => isFlowMark c || c == '?')
  | _ => false

/-- The word of a plain scalar at the front. -/
def plainWord (inFlow : Bool) : List Char → List Char
  | [] => []
  | c :: rest =>
    if Cursor.isSpace c || Cursor.isBreak c || separates inFlow (c :: rest) ||
      (inFlow && isFlowMark c) then []
    else c :: plainWord inFlow rest

/-- Read the words of a plain scalar that lie deeper than `indent`. Without
`lines` it stays on its line. -/
def plain (fuel : Nat) (inFlow lines : Bool) (indent : Int) (sofar : List Char) (c : Cursor) :
    List Char × Cursor :=
  match fuel with
  | 0 => (sofar, c)
  | fuel + 1 =>
    let word := plainWord inFlow c.rest
    let behind := c.skip word.length
    let sofar := sofar ++ word
    let spaces := behind.rest.takeWhile Cursor.isSpace
    let next := behind.skipSpaces
    match next.rest with
    | [] => (sofar, next)
    | '#' :: _ => (sofar, next)
    | x :: _ =>
      if Cursor.isBreak x then
        let (breaks, later) := skipBreaks (next.rest.length + 1) 0 next
        if !lines || later.atEnd || later.rest.head? == some '#' ||
          (!inFlow && (later.column : Int) ≤ indent) ||
          (plainWord inFlow later.rest).isEmpty then (sofar, next)
        else plain fuel inFlow lines indent (sofar ++ folded breaks) later
      else if spaces.isEmpty || separates inFlow next.rest ||
        (plainWord inFlow next.rest).isEmpty then (sofar, next)
      else plain fuel inFlow lines indent (sofar ++ spaces) next

/-- A character that no plain scalar begins with. -/
def isIndicator (c : Char) : Bool :=
  isFlowMark c || "#&*!|>'\"%@\x60".toList.contains c

/-- A plain scalar may begin here. -/
def startsPlain (inFlow : Bool) : List Char → Bool
  | [] => false
  | c :: rest =>
    if c == '-' then !Cursor.endsWord rest
    else if c == '?' || c == ':' then !inFlow && !Cursor.endsWord rest
    else !isIndicator c

/-- Read the text between single quotes, behind the opening one. -/
def single (fuel : Nat) (lines : Bool) (sofar : List Char) (c : Cursor) :
    Option (List Char × Cursor) :=
  match fuel with
  | 0 => none
  | fuel + 1 =>
    match c.rest with
    | [] => none
    | '\'' :: '\'' :: _ => single fuel lines (sofar ++ ['\'']) (c.skip 2)
    | '\'' :: _ => some (sofar, c.skip 1)
    | x :: _ =>
      if Cursor.isSpace x || Cursor.isBreak x then
        let (breaks, next) := skipBreaks (c.rest.length + 1) 0 c
        if breaks = 0 then
          single fuel lines (sofar ++ c.rest.takeWhile Cursor.isSpace) next
        else if !lines || next.atEnd then none
        else single fuel lines (sofar ++ folded breaks) next
      else single fuel lines (sofar ++ [x]) (c.skip 1)

/-- The character that a letter behind a backslash stands for. -/
def escaped? : Char → Option Char
  | '0' => some '\x00'
  | 'a' => some '\x07'
  | 'b' => some '\x08'
  | 't' => some '\t'
  | '\t' => some '\t'
  | 'n' => some '\n'
  | 'v' => some '\x0b'
  | 'f' => some '\x0c'
  | 'r' => some '\r'
  | 'e' => some '\x1b'
  | ' ' => some ' '
  | '"' => some '"'
  | '/' => some '/'
  | '\\' => some '\\'
  | 'N' => some '\u0085'
  | '_' => some '\u00a0'
  | 'L' => some '\u2028'
  | 'P' => some '\u2029'
  | _ => none

/-- How many digits an escape with this letter has. -/
def escapeWidth? : Char → Option Nat
  | 'x' => some 2
  | 'u' => some 4
  | 'U' => some 8
  | _ => none

/-- The value of a hexadecimal digit. -/
def hexDigit? (c : Char) : Option Nat :=
  if c.isDigit then some (c.toNat - 48)
  else if 'a' ≤ c && c ≤ 'f' then some (c.toNat - 87)
  else if 'A' ≤ c && c ≤ 'F' then some (c.toNat - 55)
  else none

/-- The character with so many hexadecimal digits at the front. -/
def hexChar? (width : Nat) (cs : List Char) : Option Char := do
  let ds ← (cs.take width).mapM hexDigit?
  let n := ds.foldl (fun n d => n * 16 + d) 0
  if ds.length = width ∧ n.isValidChar then some (Char.ofNat n) else none

/-- Read the text between double quotes, behind the opening one. -/
def double (fuel : Nat) (lines : Bool) (sofar : List Char) (c : Cursor) :
    Option (List Char × Cursor) :=
  match fuel with
  | 0 => none
  | fuel + 1 =>
    match c.rest with
    | [] => none
    | '"' :: _ => some (sofar, c.skip 1)
    | '\\' :: x :: rest =>
      if Cursor.isBreak x then
        let (breaks, next) := skipBreaks (c.rest.length + 1) 0 (c.skip 1)
        if !lines then none
        else double fuel lines (sofar ++ List.replicate (breaks - 1) '\n') next
      else
        match escapeWidth? x with
        | some width =>
          match hexChar? width rest with
          | some y => double fuel lines (sofar ++ [y]) (c.skip (2 + width))
          | none => none
        | none =>
          match escaped? x with
          | some y => double fuel lines (sofar ++ [y]) (c.skip 2)
          | none => none
    | x :: _ =>
      if Cursor.isSpace x || Cursor.isBreak x then
        let (breaks, next) := skipBreaks (c.rest.length + 1) 0 c
        if breaks = 0 then
          double fuel lines (sofar ++ c.rest.takeWhile Cursor.isSpace) next
        else if !lines || next.atEnd then none
        else double fuel lines (sofar ++ folded breaks) next
      else double fuel lines (sofar ++ [x]) (c.skip 1)

/-- How the end of a block scalar is kept. -/
inductive Chomp where
  | clip | strip | keep
  deriving DecidableEq

/-- The marks behind the sign of a block scalar. -/
def blockMarks (fuel : Nat) (chomp : Chomp) (indent : Option Nat) (c : Cursor) :
    Chomp × Option Nat × Cursor :=
  match fuel, c.rest with
  | fuel + 1, '+' :: _ => blockMarks fuel .keep indent (c.skip 1)
  | fuel + 1, '-' :: _ => blockMarks fuel .strip indent (c.skip 1)
  | fuel + 1, d :: _ =>
    if '1' ≤ d && d ≤ '9' then blockMarks fuel chomp (some (d.toNat - 48)) (c.skip 1)
    else (chomp, indent, c)
  | _, _ => (chomp, indent, c)

/-- Skip blank lines and the indentation of the next line: the number of breaks,
the deepest indentation of a blank line, and the position. -/
def blockBreaks (fuel : Nat) (indent : Option Nat) (breaks deepest : Nat) (c : Cursor) :
    Option (Nat × Nat × Cursor) :=
  match fuel with
  | 0 => none
  | fuel + 1 =>
    let room := (c.rest.takeWhile (· == ' ')).length
    let next := c.skip (match indent with | some n => min n room | none => room)
    match next.rest with
    | '\t' :: _ => if indent.any (next.column < ·) || indent.isNone then none
      else some (breaks, max deepest next.column, next)
    | x :: _ =>
      if Cursor.isBreak x then
        blockBreaks fuel indent (breaks + 1) (max deepest next.column) next.skipBreak
      else some (breaks, max deepest next.column, next)
    | [] => some (breaks, max deepest next.column, next)

/-- Read the lines of a block scalar. Since the end of the last line, if one has
`started`, there were so many more `breaks`; `wasBlank` says that it began with a
blank. -/
def blockLines (fuel : Nat) (literal : Bool) (indent : Nat) (sofar : List Char)
    (wasBlank started : Bool) (breaks : Nat) (c : Cursor) :
    Option (List Char × Bool × Nat × Cursor) :=
  match fuel with
  | 0 => none
  | fuel + 1 =>
    if c.rest.isEmpty || c.column != indent || c.atEnd then some (sofar, started, breaks, c)
    else
      let isBlank := c.rest.head?.any Cursor.isSpace
      let joint :=
        if !started then List.replicate breaks '\n'
        else if !literal && !wasBlank && !isBlank then
          if breaks = 0 then [' '] else List.replicate breaks '\n'
        else '\n' :: List.replicate breaks '\n'
      let line := c.rest.takeWhile fun x => !Cursor.isBreak x
      let sofar := sofar ++ joint ++ line
      match c.skipLine.rest with
      | [] => some (sofar, false, 0, c.skipLine)
      | _ :: _ =>
        match blockBreaks (c.rest.length + 1) (some indent) 0 0 c.skipLine.skipBreak with
        | none => none
        | some (breaks, _, next) => blockLines fuel literal indent sofar isBlank true breaks next

/-- Read a block scalar behind its sign, in a node that lies deeper than `indent`. -/
def block (literal : Bool) (indent : Int) (c : Cursor) :
    Option (List Char × Cursor) := do
  let (chomp, explicit, c) := blockMarks 2 .clip none c
  let c := c.skipSpaces
  let c := if c.rest.head? == some '#' then c.skipLine else c
  guard (c.rest.head?.all Cursor.isBreak)
  let fuel := c.rest.length + 1
  let base := explicit.map fun n => (max indent 0).toNat + n
  let (breaks, deepest, c) ← blockBreaks fuel base 0 0 c.skipBreak
  let width := base.getD (max deepest (indent + 1).toNat |> max 1)
  let (cs, ended, breaks, c) ← blockLines fuel literal width [] false false breaks c
  let tail := match chomp with
    | .strip => []
    | .clip => if ended then ['\n'] else []
    | .keep => (if ended then ['\n'] else []) ++ List.replicate breaks '\n'
  return (cs ++ tail, c)

end Scalar

end CloudEmulator.Yaml
