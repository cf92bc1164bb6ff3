import CloudEmulator.Pattern.Bracket
import CloudEmulator.Pattern.Size

/-!
# Reading patterns

The written form of patterns. The flags in force are read along with the text,
so a pattern is built in one pass; `compile?` refuses exactly what has no meaning.
-/

namespace CloudEmulator.Pattern

open Reading

/-- A part that has been read: its meaning, how deeply it nests, and whether a
repetition may stand behind it. -/
structure Part where
  pattern : Pattern
  depth : Nat
  repeatable : Bool

/-- How deeply a written pattern may nest. -/
def maxDepth : Nat := 250

/-- Parts one after the other; they come last first. -/
def Part.sequence : List Part → Part
  | [part] => part
  | [] => ⟨.empty, 0, true⟩
  | parts =>
    ⟨parts.foldl (fun later part => .append part.pattern later) .empty,
      1 + (parts.map (·.depth)).foldl max 0, true⟩

/-- One of several parts; they come last first. -/
def Part.alternatives : List Part → Part
  | [part] => part
  | [] => ⟨.empty, 0, true⟩
  | last :: parts =>
    ⟨parts.foldl (fun later part => .choice part.pattern later) last.pattern,
      1 + ((last :: parts).map (·.depth)).foldl max 0, true⟩

/-- One character of a class. -/
def Part.ofClass (cls : CharClass) (depth : Nat) : Part :=
  ⟨.one cls, depth, true⟩

/-- A literal character under the flags. -/
def Part.ofLiteral (flags : Flags) (c : Char) : Part :=
  .ofClass (foldedClass flags false (.single c)) 0

/-- A positional check. -/
def Part.ofCheck (c : Check) : Part :=
  ⟨.check c, 0, true⟩

/-- A part that has been read, repeated. -/
def Part.times (part : Part) (bounds : Bounds) : Part :=
  ⟨.repeated part.pattern bounds.low bounds.more, part.depth + 1, true⟩

/-- What a group stands for. -/
def Part.group (inner : Part) : Part :=
  ⟨inner.pattern, inner.depth + 1, true⟩

/-- A setting of flags inside a pattern: it matches nothing and cannot be repeated. -/
def Part.setting : Part :=
  ⟨.empty, 0, false⟩

/-- What alternatives stand for, each a list of its parts; all come last first. -/
def Part.ofAlternatives (alternatives : List (List Part)) : Part :=
  .alternatives (alternatives.map .sequence)

/-- What comes next inside one alternative. -/
inductive Piece where
  | part (part : Part)
  | repetition (bounds : Bounds)

/-- The parts of an alternative, last first, with a piece more. A repetition needs a
part that it can stand behind. -/
def Piece.addTo : Piece → List Part → Except Fault (List Part)
  | part p, parts => .ok (p :: parts)
  | repetition bounds, p :: parts =>
    if p.repeatable then .ok (p.times bounds :: parts) else .error .nothingToRepeat
  | repetition _, [] => .error .nothingToRepeat

/-- What comes next in the alternatives under reading. -/
inductive Next where
  /-- The end of the text, or a closing bracket. -/
  | stop
  /-- The bar before another alternative. -/
  | bar
  /-- The opening of a group, with the flags in force in it and the name it may have. -/
  | group (flags : Flags) (name : Option (List Char))
  /-- A piece of the current alternative, with the flags in force after it. -/
  | piece (flags : Flags) (piece : Piece)

/-- A character that a group name may begin with, or go on with. -/
def isNameChar (first : Bool) (c : Char) : Bool :=
  c == '_' || CharClass.letter.contains c ||
    (!first && (c == '.' || c == '[' || c == ']' || CharClass.word.contains c))

/-- Read the name of a group up to its closing angle. -/
def readGroupName : Reading (List Char) := do
  match ← upTo '>' .badGroupName with
  | first :: more =>
    if isNameChar true first && more.all (isNameChar false) then return first :: more
    else throw .badGroupName
  | [] => throw .badGroupName

/-- The flags with one of them set or taken away. -/
def setFlag (flags : Flags) (on : Bool) : Char → Except Fault Flags
  | 'i' => .ok { flags with caseless := on }
  | 'm' => .ok { flags with multiLine := on }
  | 's' => .ok { flags with dotAll := on }
  | 'x' => .ok { flags with extended := on }
  | 'u' => .ok { flags with unicode := on }
  | 'R' => .ok { flags with returns := on }
  | 'U' => .ok flags
  | _ => .error .badFlags

/-- The flags after the written ones, where `seen` are those before them, last first.
None may stand twice, and no hyphen last. -/
def setFlags (flags : Flags) (on : Bool) (seen : List Char) : List Char → Except Fault Flags
  | [] => if seen.head? == some '-' then .error .badFlags else .ok flags
  | c :: written => do
    if seen.contains c then .error .badFlags
    else if c == '-' then setFlags flags false (c :: seen) written
    else setFlags (← setFlag flags on c) on (c :: seen) written

/-- Read flags up to the bracket or the colon that ends them. -/
def readFlags (flags : Flags) : Reading Next := do
  let written ← run fun c => c != ':' && c != ')'
  let inside ← setFlags flags true [] written
  if (← next .badFlags) == ':' then return .group inside none
  else if written.isEmpty then throw .nothingToRepeat
  else return .piece inside (.part .setting)

/-- Read the opening of a group after its bracket. -/
def readOpening (flags : Flags) : Reading Next := do
  skipIgnored flags
  if ← accept ['?'] then
    if ← acceptAny [['='], ['!'], ['<', '='], ['<', '!']] then throw .lookAround
    else if ← acceptAny [['P', '<'], ['<']] then return .group flags (some (← readGroupName))
    else readFlags flags
  else return .group flags none

/-- Any character that a dot stands for under the flags. -/
def dotClass (flags : Flags) : CharClass :=
  if flags.dotAll then .anything
  else if flags.returns then .complement (.either (.single '\n') (.single '\r'))
  else .complement (.single '\n')

/-- The check that a caret or a dollar makes under the flags. -/
def edgeCheck (flags : Flags) (atStart : Bool) : Check :=
  match flags.multiLine, flags.returns, atStart with
  | false, _, true => .textStart
  | false, _, false => .textEnd
  | true, false, true => .lineStart
  | true, false, false => .lineEnd
  | true, true, true => .lineStartReturn
  | true, true, false => .lineEndReturn

/-- What an escape outside of a bracketed class stands for. -/
def Escape.part (flags : Flags) : Escape → Part
  | literal c => .ofLiteral flags c
  | cls c => .ofClass c 0
  | check c none => .ofCheck c
  | check c (some bounds) => (Part.ofCheck c).times bounds

/-- Read the rest of a part that begins with a character and is no group. -/
def readPart (flags : Flags) : (c : Char) → Reading Part
  | '[' => do
    let read ← readBracket flags
    return .ofClass read.cls read.depth
  | '\\' => do return (← readEscape flags).part flags
  | '.' => if flags.unicode then return .ofClass (dotClass flags) 0 else throw .beyondUtf8
  | '^' => return .ofCheck (edgeCheck flags true)
  | '$' => return .ofCheck (edgeCheck flags false)
  | c => return .ofLiteral flags c

/-- Read the rest of a repetition that begins with a character, if there is one. -/
def readRepetition (flags : Flags) : (c : Char) → Reading (Option Bounds)
  | '?' => do
    skipLazyMark
    return some ⟨0, some 1⟩
  | '*' => do
    skipLazyMark
    return some ⟨0, none⟩
  | '+' => do
    skipLazyMark
    return some ⟨1, none⟩
  | '\x7b' => do return some (← readCounted flags)
  | _ => return none

/-- Read the rest of what begins with a character and does not end the alternatives. -/
def readBegun (flags : Flags) : (c : Char) → Reading Next
  | '|' => return .bar
  | '(' => readOpening flags
  | c => do
    match ← readRepetition flags c with
    | some bounds => return .piece flags (.repetition bounds)
    | none => return .piece flags (.part (← readPart flags c))

/-- Read what comes next. -/
def readNext (flags : Flags) : Reading Next := do
  skipIgnored flags
  if ← atClose then return .stop
  else readBegun flags (← next .unclosedGroup)

/-- The state of the reading of alternatives: the rest of the text, the flags in force
and the group names given so far, the alternatives before the current one and the parts
of it read so far, both last first. -/
structure Reader where
  rest : List Char
  flags : Flags
  names : List (List Char)
  done : List (List Part)
  parts : List Part

/-- The state in which a text, or the inside of a group, begins. -/
def Reader.begin (rest : List Char) (flags : Flags) (names : List (List Char)) : Reader :=
  ⟨rest, flags, names, [], []⟩

/-- The group names with one more, which must be new. -/
def addName (names : List (List Char)) : (name : Option (List Char)) →
    Except Fault (List (List Char))
  | none => .ok names
  | some name => if names.contains name then .error .duplicateGroupName else .ok (name :: names)

/-- Read alternatives up to the end of the text or the bracket that closes them. -/
def readAlternatives : (fuel : Nat) → Reader → Except Fault Reader
  | 0, _ => .error .unclosedGroup
  | fuel + 1, r => do
    match ← readNext r.flags r.rest with
    | (.stop, rest) => return { r with rest, done := r.parts :: r.done, parts := [] }
    | (.bar, rest) =>
      readAlternatives fuel { r with rest, done := r.parts :: r.done, parts := [] }
    | (.group flags name, rest) =>
      let inner ← readAlternatives fuel (.begin rest flags (← addName r.names name))
      match inner.rest with
      | ')' :: rest =>
        let group := (Part.ofAlternatives inner.done).group
        readAlternatives fuel { r with rest, names := inner.names, parts := group :: r.parts }
      | _ => throw .unclosedGroup
    | (.piece flags piece, rest) =>
      readAlternatives fuel { r with rest, flags, parts := ← piece.addTo r.parts }

/-- The alternatives that a text writes, last first, each with its parts last first. -/
def alternatives? (written : String) : Except Refusal (List (List Part)) :=
  let chars := written.toList
  match readAlternatives (chars.length + 1) (.begin chars {} []) with
  | .error fault => .error (.unreadable fault)
  | .ok after => if after.rest.isEmpty then .ok after.done else .error .unopenedGroup

/-- The pattern of a part that is small enough to be compiled. -/
def Part.compile? (part : Part) : Except Refusal Pattern :=
  if part.depth > maxDepth then .error .tooDeep
  else if part.pattern.size > maxSize then .error .tooLarge
  else .ok part.pattern

/-- The pattern that a text writes. Of the properties behind `\p`, the general categories and
a few more are known; a class of a script such as `\p{Greek}`, of a block or of an age is
refused. Where a flag turns Unicode off, case variants and what stands between brackets are
still those of Unicode. -/
def compile? (written : String) : Except Refusal Pattern := do
  (Part.ofAlternatives (← alternatives? written)).compile?

/-- The text that holds a pattern to the start of what it is matched against. -/
def anchoredText (written : String) : String :=
  "^(?:" ++ written ++ ")"

end CloudEmulator.Pattern
