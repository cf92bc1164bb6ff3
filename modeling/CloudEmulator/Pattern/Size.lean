import CloudEmulator.Pattern.Match

/-!
# The size of patterns

How many octets the automaton of a pattern takes that reads the octets of UTF-8
from last to first. Counted repetitions are written out in it, so a short text
can ask for a huge automaton; the size bounds what a pattern may ask for.
-/

namespace CloudEmulator.Pattern

open Text

/-- The octets that a state takes. -/
def stateSize : Nat := 32

/-- The octets that a state takes for each state it can choose to go on with. -/
def armSize : Nat := 4

/-- The octets that a state takes for each range of octets it tells apart. -/
def rangeSize : Nat := 8

/-- The octets that a choice between two states takes. -/
def choiceSize : Nat := stateSize + 2 * armSize

namespace CharClass

/-- Where the code points begin that are written with another number of octets,
and where the gap between them is. -/
def lengthEdges : List Nat :=
  [0, 0x80, 0x800, 0xD800, 0xE000, 0x10000]

/-- Code points that hold all those at which membership changes. -/
def breaks : CharClass → List Nat
  | range low high => [low.toNat, high.toNat + 1]
  | categories _ => Category.table.toList.map (·.1)
  | blank => [9, 14, 0x85, 0x86] ++ Category.table.toList.map (·.1)
  | either a b | both a b | without a b => breaks a ++ breaks b
  | complement a => breaks a
  | caseless a =>
    breaks a ++ foldRuns.flatMap fun run =>
      (List.range (run.last - run.first + 2)).flatMap fun i =>
        [run.first + i, (((run.first + i : Nat) : Int) + run.shift).toNat]

/-- Neighbouring lists of points merged two by two. -/
def mergePairs : List (List Nat) → List (List Nat)
  | xs :: ys :: lists => mergePositions xs ys :: mergePairs lists
  | lists => lists

/-- The ascending union of ascending lists, at most two to the power of `rounds` many. -/
def mergeAll : (rounds : Nat) → List (List Nat) → List Nat
  | rounds + 1, xs :: ys :: lists => mergeAll rounds (mergePairs (xs :: ys :: lists))
  | _, lists => lists.flatten

/-- The ranges of members, when membership changes only at the ascending points. -/
def rangesFrom (cls : CharClass) : (points : List Nat) → List (Nat × Nat)
  | [] => []
  | n :: rest =>
    let last := rest.head?.getD 0x110000 - 1
    let later := rangesFrom cls rest
    if n.isValidChar && cls.contains (Char.ofNat n) then
      match later with
      | (m, high) :: more =>
        if m = last + 1 && !lengthEdges.contains m then (n, high) :: more
        else (n, last) :: later
      | [] => [(n, last)]
    else later

/-- The members in ascending ranges, each of code points of one written length. -/
def ranges (cls : CharClass) : List (Nat × Nat) :=
  let points := (lengthEdges ++ cls.breaks).map ([·])
  rangesFrom cls ((mergeAll points.length points).filter (· < 0x110000))

/-- The numbers from `low` to `high` as numbers of `more + 1` digits in base 64,
in runs with a range of digits at each place. -/
def digitRuns : (more low high : Nat) → List (List (Nat × Nat))
  | 0, low, high => [[(low, high)]]
  | more + 1, low, high =>
    let unit := Nat.pow 64 (more + 1)
    let fromStart := low % unit == 0
    let toEnd := high % unit == unit - 1
    let under (digit : Nat) (runs : List (List (Nat × Nat))) := runs.map ((digit, digit) :: ·)
    let whole (first last : Nat) : List (List (Nat × Nat)) :=
      if first ≤ last then [(first, last) :: List.replicate (more + 1) (0, 63)] else []
    if fromStart && toEnd then whole (low / unit) (high / unit)
    else if low / unit = high / unit then
      under (low / unit) (digitRuns more (low % unit) (high % unit))
    else
      (if fromStart then [] else under (low / unit) (digitRuns more (low % unit) (unit - 1))) ++
      whole (if fromStart then low / unit else low / unit + 1)
        (if toEnd then high / unit else high / unit - 1) ++
      (if toEnd then [] else under (high / unit) (digitRuns more 0 (high % unit)))

/-- How many octets follow the first in the written form of a code point. -/
def laterOctets (n : Nat) : Nat :=
  if n < 0x80 then 0 else if n < 0x800 then 1 else if n < 0x10000 then 2 else 3

/-- The written forms of the members, in runs with a range at each place. -/
def writtenRuns (cls : CharClass) : List (List (Nat × Nat)) :=
  cls.ranges.flatMap fun (low, high) => digitRuns (laterOctets high) low high

/-- The length of the part that two lists begin with alike. -/
def sharedLength : List (Nat × Nat) → List (Nat × Nat) → Nat
  | a :: as, b :: bs => if a == b then sharedLength as bs + 1 else 0
  | _, _ => 0

/-- How many states the runs need when neighbours of one length share those of
what they begin with alike. -/
def runStates (previous : List (Nat × Nat)) : List (List (Nat × Nat)) → Nat
  | [] => 0
  | run :: runs =>
    let shared := if run.length = previous.length then sharedLength previous run else 0
    (run.length - shared) + runStates run runs

/-- The octets that the automaton of a class takes. A single character is read
octet by octet; ASCII characters need one state. -/
def size (cls : CharClass) : Nat :=
  let runs := cls.writtenRuns
  match cls.ranges with
  | [] => stateSize
  | (low, high) :: more =>
    if low = high && more.isEmpty then stateSize * runs.flatten.length
    else if high < 0x80 && more.all (·.2 < 0x80) then 2 * stateSize + rangeSize * runs.length
    else (2 + runStates [] runs) * stateSize + armSize * runs.length

end CharClass

/-- The pattern matches the empty text only. -/
def isWidthless : Pattern → Bool
  | empty => true
  | one _ => false
  | check _ => true
  | append p q | choice p q => p.isWidthless && q.isWidthless
  | repeated p low more => p.isWidthless || (low == 0 && more == some 0)

/-- The pattern may match the empty text. -/
def isNullable : Pattern → Bool
  | empty => true
  | one _ => false
  | check _ => true
  | append p q => p.isNullable && q.isNullable
  | choice p q => p.isNullable || q.isNullable
  | repeated p low _ => low == 0 || p.isNullable

/-- The octets of `n` copies of a part one after the other. -/
def copiesSize (n part : Nat) : Nat :=
  if n = 0 then stateSize else n * part

/-- The octets of a repeated part. Each optional copy stands behind a choice. -/
def repeatedSize (part : Nat) (nullable : Bool) (low : Nat) (high : Option Nat) : Nat :=
  match low, high with
  | 0, none => part + if nullable then 2 * choiceSize + stateSize else choiceSize
  | low, none => low * part + choiceSize
  | 0, some 1 => part + choiceSize + stateSize
  | low, some high =>
    if low = high then copiesSize low part
    else copiesSize low part + stateSize + (high - low) * (part + choiceSize)

/-- The octets that the automaton of a pattern takes. What matches the empty text
only is never written out more than once, and an empty part takes nothing beside
another part. -/
def size : Pattern → Nat
  | empty => stateSize
  | one cls => cls.size
  | check _ => stateSize
  | append empty q => q.size
  | append p empty => p.size
  | append p q => p.size + q.size
  | choice p q => p.size + q.size + match q with
    | choice .. => armSize
    | _ => choiceSize + stateSize
  | repeated p low more =>
    let high := more.map (low + ·)
    if p.isWidthless then repeatedSize p.size true (min low 1) (some (min (high.getD 1) 1))
    else repeatedSize p.size p.isNullable low high

/-- How many octets the automaton of a pattern may take, next to the four states
that every automaton has. -/
def maxSize : Nat := 10 * 1024 * 1024 - 4 * stateSize

end CloudEmulator.Pattern
