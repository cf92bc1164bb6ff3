import CloudEmulator.Pattern.Escape

/-!
# Bracketed classes of written patterns
-/

namespace CloudEmulator.Pattern

open Reading

/-- The operations between the parts of a bracketed class; they group to the left. -/
inductive SetOperation where
  | intersection
  | difference
  | symmetricDifference

/-- The set that an operation makes of two sets. -/
def SetOperation.apply : SetOperation → CharClass → CharClass → CharClass
  | intersection => .both
  | difference => .without
  | symmetricDifference => .exactlyOne

/-- A class that has been read, and how deeply brackets nest in it. -/
structure ReadClass where
  cls : CharClass
  depth : Nat

/-- A bracketed class under reading: what stands left of the last operation, and
the items after it, last first. In its opening, dashes stand for themselves, and so
does a closing bracket that comes first. -/
structure OpenClass where
  negated : Bool
  opening : Bool
  left : Option (ReadClass × SetOperation)
  items : List ReadClass

/-- The class with an item more. -/
def OpenClass.add (o : OpenClass) (item : ReadClass) : OpenClass :=
  { o with items := item :: o.items }

/-- A character that stands for itself in the opening of the class. -/
def OpenClass.isOpeningLiteral (o : OpenClass) (c : Char) : Bool :=
  o.opening && (c == '-' || c == ']' && o.items.isEmpty)

/-- The union of the items read since the last operation. -/
def OpenClass.union (o : OpenClass) : ReadClass :=
  match o.items with
  | [item] => item
  | [] => ⟨.nothing, 0⟩
  | items => ⟨.anyOf (items.map (·.cls)), 1 + (items.map (·.depth)).foldl max 0⟩

/-- The set read so far. -/
def OpenClass.total (o : OpenClass) (flags : Flags) : ReadClass :=
  match o.left with
  | none => o.union
  | some (left, operation) =>
    ⟨operation.apply (foldedClass flags false left.cls) (foldedClass flags false o.union.cls),
      1 + max left.depth o.union.depth⟩

/-- The class with all read so far left of an operation. -/
def OpenClass.operate (o : OpenClass) (flags : Flags) (operation : SetOperation) : OpenClass :=
  { o with left := some (o.total flags, operation), items := [] }

/-- Close a class: case variants first, then the negation. -/
def OpenClass.close (o : OpenClass) (flags : Flags) : Except Fault ReadClass :=
  let total := o.total flags
  if o.negated && !flags.unicode then .error .beyondUtf8
  else .ok ⟨foldedClass flags o.negated total.cls, total.depth + 1⟩

/-- Read the opening of a class after its bracket. -/
def openClass (flags : Flags) : Reading OpenClass := do
  skipIgnored flags
  let negated ← accept ['^']
  return ⟨negated, true, none, []⟩

/-- The class whose name a text begins with, up to `:]`, and the text after that. -/
def classNamed? (negated : Bool) (rest : List Char) : Option ((Bool × CharClass) × List Char) :=
  match rest.dropWhile Char.isLower with
  | ':' :: ']' :: after =>
    (CharClass.posix? (String.ofList (rest.takeWhile Char.isLower))).map
      fun cls => ((negated, cls), after)
  | _ => none

/-- The named class `[:name:]` that a text after a bracket begins with, and the text
after it. -/
def namedClass? : List Char → Option ((Bool × CharClass) × List Char)
  | ':' :: '^' :: rest => classNamed? true rest
  | ':' :: rest => classNamed? false rest
  | _ => none

/-- Read a named class after its first bracket, if there is one. -/
def readNamedClass : Reading (Option (Bool × CharClass)) := fun rest =>
  match namedClass? rest with
  | some (named, after) => .ok (some named, after)
  | none => .ok (none, rest)

/-- Read the literal or the escape that begins with a character. -/
def readClassAtom (flags : Flags) (c : Char) : Reading Escape :=
  if c == '\\' then readEscape flags else return .literal c

/-- No range goes on with the text: the class is closed here, or the dash doubled. -/
def endsRange (rest : List Char) : Bool :=
  rest.head? == some ']' || rest.head? == some '-'

/-- Read the dash of a range: one that neither closes the class nor doubles. -/
def readRangeMark (flags : Flags) : Reading Bool
  | '-' :: rest =>
    let after := afterIgnored flags rest
    if endsRange after then .ok (false, '-' :: rest) else .ok (true, after)
  | rest => .ok (false, rest)

/-- The range between two literals. -/
def Escape.rangeTo : (first last : Escape) → Except Fault CharClass
  | literal low, literal high =>
    if low.toNat ≤ high.toNat then .ok (.range low high) else .error .badRange
  | _, _ => .error .badRange

/-- A literal or a class as an item of a class. -/
def Escape.classItem : Escape → Except Fault CharClass
  | literal c => .ok (.single c)
  | cls c => .ok c
  | check .. => .error .badClassItem

/-- Read the literal, the range or the class escape that begins with a character. -/
def readClassItem (flags : Flags) (c : Char) : Reading CharClass := do
  let first ← readClassAtom flags c
  skipIgnored flags
  if ← readRangeMark flags then
    let last ← readClassAtom flags (← next .unclosedClass)
    first.rangeTo last
  else first.classItem

/-- The operation whose sign doubles a character. -/
def SetOperation.ofSign? : Char → Option SetOperation
  | '&' => some .intersection
  | '-' => some .difference
  | '~' => some .symmetricDifference
  | _ => none

/-- Read the rest of an operation that begins with a character, if there is one. -/
def readOperation (c : Char) : Reading (Option SetOperation) := do
  match SetOperation.ofSign? c with
  | none => return none
  | some operation => if ← accept [c] then return some operation else return none

/-- How the reading of classes goes on: the outermost is closed, or some are still open. -/
inductive ClassStep where
  | closed (read : ReadClass)
  | pending (current : OpenClass) (outer : List OpenClass)

/-- Read the rest of the item, bracket or operation of the innermost of the open
classes that begins with a character. -/
def readClassBegun (flags : Flags) (current : OpenClass) (outer : List OpenClass) (c : Char) :
    Reading ClassStep := do
  if current.isOpeningLiteral c then
    return .pending { current.add ⟨.single c, 0⟩ with opening := c == '-' } outer
  else
    let current := { current with opening := false }
    match c with
    | '[' =>
      match ← readNamedClass with
      | some (negated, cls) =>
        return .pending (current.add ⟨foldedClass flags negated cls, 0⟩) outer
      | none => return .pending (← openClass flags) (current :: outer)
    | ']' =>
      let closed ← current.close flags
      match outer with
      | [] => return .closed closed
      | parent :: outer => return .pending (parent.add closed) outer
    | c =>
      match ← readOperation c with
      | some operation => return .pending (current.operate flags operation) outer
      | none => return .pending (current.add ⟨← readClassItem flags c, 0⟩) outer

/-- Read what comes next in the innermost of the open classes. -/
def readClassStep (flags : Flags) (current : OpenClass) (outer : List OpenClass) :
    Reading ClassStep := do
  skipIgnored flags
  readClassBegun flags current outer (← next .unclosedClass)

/-- Read the rest of the innermost of the open classes, and of those around it.
Every step takes a character off the text. -/
def readOpenClasses (flags : Flags) : (fuel : Nat) → OpenClass → List OpenClass →
    Reading ReadClass
  | 0, _, _ => throw .unclosedClass
  | fuel + 1, current, outer => do
    match ← readClassStep flags current outer with
    | .closed read => return read
    | .pending current outer => readOpenClasses flags fuel current outer

/-- Read a bracketed class after its opening bracket. -/
def readBracket (flags : Flags) : Reading ReadClass := do
  let opened ← openClass flags
  let rest ← get
  readOpenClasses flags (rest.length + 1) opened []

end CloudEmulator.Pattern
