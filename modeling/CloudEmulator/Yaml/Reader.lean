import CloudEmulator.Yaml.Scalar

/-!
# Reading YAML: documents

A text is one document. Indentation decides how far a node goes; inside of
brackets it means nothing. Tags are read but have no meaning here.
-/

namespace CloudEmulator.Yaml

namespace Reader

/-- An item of a block sequence begins here. -/
def isItem : List Char → Bool
  | '-' :: rest => Cursor.endsWord rest
  | _ => false

/-- A character of the name of a node. -/
def isNameChar (c : Char) : Bool :=
  c.isAlphanum || c == '_' || c == '-'

/-- The name at the cursor, behind its mark. A blank or an indicator follows it. -/
def name? (c : Cursor) : Option (String × Cursor) :=
  let name := (c.skip 1).rest.takeWhile isNameChar
  let behind := c.skip (name.length + 1)
  let isFree := Cursor.endsWord behind.rest ||
    behind.rest.head?.any fun x => "?:,]\x7d%@\x60".toList.contains x
  if name.isEmpty || !isFree then none else some (String.ofList name, behind)

/-- Skip a tag. -/
def tag? (inFlow : Bool) (c : Cursor) : Option Cursor :=
  let isTagChar x := !Cursor.isSpace x && !Cursor.isBreak x && !(inFlow && Scalar.isFlowMark x)
  let behind := c.skipWhile isTagChar
  let isFree := Cursor.endsWord behind.rest || (inFlow && behind.rest.head? == some ',')
  if isFree then some behind else none

/-- Read the properties in front of a node: the name it is given, and whether
there are any. -/
def properties (fuel : Nat) (inFlow : Bool) (name : Option String) (found : Bool) (c : Cursor) :
    Option (Option String × Bool × Cursor) :=
  match fuel with
  | 0 => none
  | fuel + 1 =>
    match c.rest with
    | '&' :: _ => do
      guard name.isNone
      let (name, behind) ← name? c
      properties fuel inFlow (some name) true behind.skipSpaces
    | '!' :: _ => do
      let behind ← tag? inFlow c
      properties fuel inFlow name true behind.skipSpaces
    | _ => some (name, found, c)

/-- Read a scalar or the mention of a named node. With `lines` it may go on over
several lines that lie deeper than `indent`. -/
def leaf (inFlow lines : Bool) (indent : Int) (c : Cursor) : Option (Node × Cursor) :=
  let fuel := c.rest.length + 1
  match c.rest with
  | '*' :: _ => do
    let (name, behind) ← name? c
    return (← c.anchors.lookup name, behind)
  | '\'' :: _ => do
    let (cs, behind) ← Scalar.single fuel lines [] (c.skip 1)
    return (.scalar (String.ofList cs) false, behind)
  | '"' :: _ => do
    let (cs, behind) ← Scalar.double fuel lines [] (c.skip 1)
    return (.scalar (String.ofList cs) false, behind)
  | cs =>
    if Scalar.startsPlain inFlow cs then
      let (cs, behind) := Scalar.plain fuel inFlow lines indent [] c
      some (.scalar (String.ofList cs) true, behind)
    else none

/-- The longest key that needs no mark of its own. -/
def keyLimit : Nat := 1024

/-- Read a key of a block mapping and its colon. -/
def key? (c : Cursor) : Option (Node × Cursor) := do
  let (name, _, start) ← properties (c.rest.length + 1) false none false c
  let (key, behind) ← leaf false false (-1) start
  let colon := behind.skipSpaces
  guard (c.rest.length - colon.rest.length ≤ keyLimit)
  match colon.rest with
  | ':' :: rest => if Cursor.endsWord rest then some (key, (colon.skip 1).bind name key) else none
  | _ => none

/-- The next content inside of brackets, where no document begins or ends. -/
def flowContent (c : Cursor) : Option Cursor := do
  let c ← c.skipToContent (c.rest.length + 1) true
  if c.atEnd then none else some c

/-- Wrap an entry of a flow sequence that has a value: it is a mapping of its own. -/
def pair (key : Node) : Option Node → Node
  | some value => .map [(key, value)]
  | none => key

mutual

/-- Read a node inside of brackets. -/
def flowNode (fuel : Nat) (c : Cursor) : Option (Node × Cursor) :=
  match fuel with
  | 0 => none
  | fuel + 1 => do
    let (name, found, c) ← properties (c.rest.length + 1) true none false c
    let c ← flowContent c
    let (node, behind) ← match c.rest with
      | '[' :: _ => flowItems fuel [] (c.skip 1)
      | '\x7b' :: _ => flowEntries fuel [] (c.skip 1)
      | x :: _ =>
        if found && (x == ',' || x == ']' || x == '\x7d' || x == ':') then some (Node.empty, c)
        else leaf true true 0 c
      | [] => none
    return (node, behind.bind name node)

/-- Read a node inside of brackets and the value behind its colon, if there is
one. The colon must be on the line of its key. -/
def flowEntry (fuel : Nat) (c : Cursor) : Option (Node × Option Node × Cursor) :=
  match fuel with
  | 0 => none
  | fuel + 1 => do
    let (key, behind) ← flowNode fuel c
    let next ← flowContent behind
    match next.rest with
    | ':' :: rest =>
      let isPlain := match key with
        | .scalar _ isPlain => isPlain
        | _ => false
      guard (c.staysOnLine next && !(isPlain && !Cursor.endsWord rest))
      let next ← flowContent (next.skip 1)
      if next.rest.head?.any fun x => x == ',' || x == ']' || x == '\x7d' then
        some (key, some Node.empty, next)
      else
        let (value, behind) ← flowNode fuel next
        return (key, some value, ← flowContent behind)
    | _ => return (key, none, next)

/-- Read the items of a flow sequence up to its end. -/
def flowItems (fuel : Nat) (items : List Node) (c : Cursor) : Option (Node × Cursor) :=
  match fuel with
  | 0 => none
  | fuel + 1 => do
    let c ← flowContent c
    match c.rest with
    | ']' :: _ => some (.list items, c.skip 1)
    | _ =>
      let (key, value, next) ← flowEntry fuel c
      let items := items ++ [pair key value]
      match next.rest with
      | ',' :: _ => flowItems fuel items (next.skip 1)
      | ']' :: _ => some (.list items, next.skip 1)
      | _ => none

/-- Read the entries of a flow mapping up to its end. -/
def flowEntries (fuel : Nat) (entries : List (Node × Node)) (c : Cursor) :
    Option (Node × Cursor) :=
  match fuel with
  | 0 => none
  | fuel + 1 => do
    let c ← flowContent c
    match c.rest with
    | '\x7d' :: _ => some (.map entries, c.skip 1)
    | _ =>
      let (key, value, next) ← flowEntry fuel c
      let entries := entries ++ [(key, value.getD Node.empty)]
      match next.rest with
      | ',' :: _ => flowEntries fuel entries (next.skip 1)
      | '\x7d' :: _ => some (.map entries, next.skip 1)
      | _ => none

end

/-- The next content of a document behind a node that ended on this line. -/
def finishLine (c : Cursor) : Option Cursor :=
  if c.endsLine then c.skipSpaces.skipToContent (c.rest.length + 1) false else none

/-- Read a node on one line of a block, or one in brackets or quotes that goes on
over several lines, and what separates it from the next content. -/
def inlineNode (indent : Int) (c : Cursor) : Option (Node × Cursor) := do
  let fuel := c.rest.length + 1
  match c.rest with
  | '|' :: _ =>
    let (cs, next) ← Scalar.block true indent (c.skip 1)
    return (.scalar (String.ofList cs) false, ← next.skipToContent fuel false)
  | '>' :: _ =>
    let (cs, next) ← Scalar.block false indent (c.skip 1)
    return (.scalar (String.ofList cs) false, ← next.skipToContent fuel false)
  | '[' :: _ =>
    let (node, behind) ← flowNode (4 * fuel) c
    return (node, ← finishLine behind)
  | '\x7b' :: _ =>
    let (node, behind) ← flowNode (4 * fuel) c
    return (node, ← finishLine behind)
  | _ =>
    let (node, behind) ← leaf false true indent c
    return (node, ← finishLine behind)

mutual

/-- Read a node that begins at the cursor, with content deeper than `indent`.
Block collections begin only where a line may begin with one, which `fresh` says,
and with `flush` a sequence below may lie as deep as `indent`. -/
def node (fuel : Nat) (indent : Int) (flush fresh : Bool) (c : Cursor) : Option (Node × Cursor) :=
  match fuel with
  | 0 => none
  | fuel + 1 =>
    if isItem c.rest then
      if fresh then sequence fuel c.column false [] c else none
    else if fresh && (key? c).isSome then mapping fuel c.column [] c
    else do
      let (name, found, start) ← properties (c.rest.length + 1) false none false c
      let (node, next) ←
        if found && start.endsLine then below fuel indent flush start.skipSpaces
        else inlineNode indent start
      return (node, next.bind name node)

/-- Read the node on the lines below the cursor. There is none unless it lies
deeper than `indent`, or is a sequence and `flush` lets it lie as deep. -/
def below (fuel : Nat) (indent : Int) (flush : Bool) (c : Cursor) : Option (Node × Cursor) :=
  match fuel with
  | 0 => none
  | fuel + 1 => do
    let next ← c.skipToContent (c.rest.length + 1) false
    if next.atEnd then some (Node.empty, next)
    else if indent < next.column then node fuel indent flush true next
    else if flush && (next.column : Int) == indent && isItem next.rest then
      sequence fuel next.column true [] next
    else some (Node.empty, next)

/-- Read the node behind an indicator, on its line or below. -/
def value (fuel : Nat) (indent : Int) (flush fresh : Bool) (c : Cursor) : Option (Node × Cursor) :=
  match fuel with
  | 0 => none
  | fuel + 1 =>
    if c.endsLine then below fuel indent flush c.skipSpaces
    else node fuel indent flush fresh c.skipSpaces

/-- Read the items of a block sequence in a column. One that lies as deep as the
mapping around it ends where the mapping goes on. -/
def sequence (fuel column : Nat) (flush : Bool) (items : List Node) (c : Cursor) :
    Option (Node × Cursor) :=
  match fuel with
  | 0 => none
  | fuel + 1 => do
    let behind := (c.skip 1).skipWhile (· == ' ')
    guard (behind.rest.head? != some '\t')
    let (item, next) ← value fuel column false true behind
    let items := items ++ [item]
    if next.atEnd || next.column < column then some (.list items, next)
    else if next.column != column then none
    else if isItem next.rest then sequence fuel column flush items next
    else if flush then some (.list items, next)
    else none

/-- Read the entries of a block mapping in a column. -/
def mapping (fuel column : Nat) (entries : List (Node × Node)) (c : Cursor) :
    Option (Node × Cursor) :=
  match fuel with
  | 0 => none
  | fuel + 1 => do
    let (key, behind) ← key? c
    let (value, next) ← value fuel column true false behind
    let entries := entries ++ [(key, value)]
    if next.atEnd || next.column < column then some (.map entries, next)
    else if next.column != column then none
    else mapping fuel column entries next

end

/-- Read the directives in front of a document, which then has a start mark. -/
def directives (fuel : Nat) (c : Cursor) : Option Cursor :=
  match fuel with
  | 0 => none
  | fuel + 1 => do
    let c ← c.skipToContent (c.rest.length + 1) false
    let line := String.ofList (c.rest.takeWhile fun x => !Cursor.isBreak x)
    if c.column == 0 && c.rest.head? == some '%' then
      let words := (line.splitOn " ").filter (!·.isEmpty)
      guard (words.head? == some "%TAG" ||
        words.take 2 == ["%YAML", "1.1"] || words.take 2 == ["%YAML", "1.2"])
      let next ← directives fuel c.skipLine
      if next.atStart then some next else none
    else some c

/-- Nothing follows the document but marks of its end. -/
def isFinished (fuel : Nat) (c : Cursor) : Bool :=
  match fuel with
  | 0 => false
  | fuel + 1 =>
    if c.rest.isEmpty then true
    else if c.atStop then
      match finishLine (c.skip 3) with
      | some next => isFinished fuel next
      | none => false
    else false

/-- A character that a text may have. -/
def isPrintable (c : Char) : Bool :=
  let n := c.toNat
  n == 0x09 || n == 0x0A || n == 0x0D || (0x20 ≤ n && n ≤ 0x7E) || n == 0x85 ||
    (0xA0 ≤ n && n ≤ 0xFFFD) || 0x10000 ≤ n

end Reader

/-- Read a text of one document. A text without content has an empty node. -/
def read? (text : String) : Option Node := do
  let cs := match text.toList with
    | '\ufeff' :: cs => cs
    | cs => cs
  guard (cs.all Reader.isPrintable)
  let fuel := 4 * cs.length + 8
  let c ← Reader.directives fuel { rest := cs }
  if c.rest.isEmpty then some Node.empty
  else
    guard (!c.atStop)
    let (node, next) ←
      if c.atStart then Reader.value fuel (-1) false false (c.skip 3)
      else Reader.node fuel (-1) false true c
    if Reader.isFinished fuel next then some node else none

end CloudEmulator.Yaml
