import CloudEmulator.Pattern.CharClass

/-!
# Patterns and where they match

A pattern is a regular expression with positional checks. Its meaning on a text
is a relation between positions; `ends` computes the positions reachable from a
set of starts, so matching needs no search order.
-/

namespace CloudEmulator

/-- A condition on a position of the text. -/
inductive Pattern.Check where
  | textStart
  | textEnd
  | lineStart
  | lineEnd
  | lineStartReturn
  | lineEndReturn
  | boundary (word : Pattern.CharClass)
  | notBoundary (word : Pattern.CharClass)
  | wordStart (word : Pattern.CharClass)
  | wordEnd (word : Pattern.CharClass)
  | wordStartHalf (word : Pattern.CharClass)
  | wordEndHalf (word : Pattern.CharClass)

/-- A regular expression. Which of several matches is preferred is not part of it.
A repetition stands `low` times, and up to `more` times further, or any number of times
where that is `none`. -/
inductive Pattern where
  | empty
  | one (cls : Pattern.CharClass)
  | check (c : Pattern.Check)
  | append (p q : Pattern)
  | choice (p q : Pattern)
  | repeated (p : Pattern) (low : Nat) (more : Option Nat)

namespace Pattern

/-- The character before a position, and the one after it. -/
abbrev Around := Option Char × Option Char

/-- The neighbours of position `i`. -/
def around (text : Array Char) (i : Nat) : Around :=
  (if i = 0 then none else text[i - 1]?, text[i]?)

/-- A check holds between two neighbours. -/
def Check.holds : Check → Around → Bool
  | textStart, (before, _) => before.isNone
  | textEnd, (_, after) => after.isNone
  | lineStart, (before, _) => before.isNone || before == some '\n'
  | lineEnd, (_, after) => after.isNone || after == some '\n'
  | lineStartReturn, (before, after) =>
    before.isNone || before == some '\n' || (before == some '\r' && after != some '\n')
  | lineEndReturn, (before, after) =>
    after.isNone || after == some '\r' || (after == some '\n' && before != some '\r')
  | boundary word, (before, after) => before.any word.contains != after.any word.contains
  | notBoundary word, (before, after) => before.any word.contains == after.any word.contains
  | wordStart word, (before, after) => !before.any word.contains && after.any word.contains
  | wordEnd word, (before, after) => before.any word.contains && !after.any word.contains
  | wordStartHalf word, (before, _) => !before.any word.contains
  | wordEndHalf word, (_, after) => !after.any word.contains

/-- An ascending list with `x` before or among what `later` makes of it. -/
def mergeBefore (x : Nat) (later : List Nat → List Nat) : List Nat → List Nat
  | [] => x :: later []
  | y :: ys =>
    if x < y then x :: later (y :: ys)
    else if y < x then y :: mergeBefore x later ys
    else x :: later ys

/-- The ascending union of two ascending lists. -/
def mergePositions : List Nat → List Nat → List Nat
  | [], ys => ys
  | x :: xs, ys => mergeBefore x (mergePositions xs) ys

/-- `step` applied `n` times. -/
def advance (step : List Nat → List Nat) : Nat → List Nat → List Nat
  | 0, positions => positions
  | n + 1, positions =>
    if positions.isEmpty then [] else advance step n (step positions)

/-- What is reached from `reached` by at most `n` further steps, where `fresh`
are the positions of `reached` not yet stepped from. -/
def saturate (step : List Nat → List Nat) : Nat → (reached fresh : List Nat) → List Nat
  | 0, reached, _ => reached
  | n + 1, reached, fresh =>
    let new := (step fresh).filter fun i => !reached.contains i
    if new.isEmpty then reached else saturate step n (mergePositions reached new) new

/-- The positions at which a match that starts at one of `starts` can end. -/
def ends (text : Array Char) : Pattern → (starts : List Nat) → List Nat
  | empty, starts => starts
  | one cls, starts =>
    starts.filterMap fun i => if text[i]?.any cls.contains then some (i + 1) else none
  | check c, starts => starts.filter fun i => c.holds (around text i)
  | append p q, starts => ends text q (ends text p starts)
  | choice p q, starts => mergePositions (ends text p starts) (ends text q starts)
  | repeated p low more, starts =>
    let first := advance (ends text p) low starts
    saturate (ends text p) (more.getD (text.size + 1)) first first

/-- The pattern matches somewhere in the text. -/
def matchesIn (p : Pattern) (text : String) : Bool :=
  let chars := text.toList.toArray
  !(p.ends chars (List.range (chars.size + 1))).isEmpty

/-- A position is reached from another by a number of steps. -/
def Chain (step : Nat → Nat → Prop) : (count : Nat) → Nat → Nat → Prop
  | 0, i, j => i = j
  | count + 1, i, k => ∃ j, step i j ∧ Chain step count j k

/-- The text between two positions matches: the meaning of patterns. -/
def Spans (text : Array Char) : Pattern → Nat → Nat → Prop
  | empty, i, j => i = j
  | one cls, i, j => (∃ c, text[i]? = some c ∧ cls.contains c = true) ∧ j = i + 1
  | check c, i, j => c.holds (around text i) = true ∧ j = i
  | append p q, i, k => ∃ j, Spans text p i j ∧ Spans text q j k
  | choice p q, i, j => Spans text p i j ∨ Spans text q i j
  | repeated p low more, i, j =>
    ∃ count, low ≤ count ∧ (∀ m ∈ more, count ≤ low + m) ∧ Chain (Spans text p) count i j

end Pattern

end CloudEmulator
