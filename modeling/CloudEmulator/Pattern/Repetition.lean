import CloudEmulator.Pattern.Reading

/-!
# Counted repetitions of written patterns
-/

namespace CloudEmulator.Pattern

open Reading

/-- How often a part stands: `low` times, and up to `more` times further, or any
number of times where that is `none`. -/
structure Bounds where
  low : Nat
  more : Option Nat

/-- The number that decimal digits write. -/
def decimalNumber (digits : List Char) : Except Fault Nat :=
  let n := digits.foldl (fun n c => n * 10 + (c.toNat - 48)) 0
  if digits.isEmpty then .error .badRepetition
  else if n < Nat.pow 2 32 then .ok n
  else .error .badRepetition

/-- Read a decimal number and the blanks around it. -/
def readDecimal : Reading Nat := do
  let _ ← run Text.isBlank
  let digits ← run Char.isDigit
  let _ ← run Text.isBlank
  decimalNumber digits

/-- Read the bounds of a counted repetition after its opening brace. -/
def readBounds (flags : Flags) : Reading Bounds := do
  skipIgnored flags
  let low ← readDecimal
  if ← accept [','] then
    skipIgnored flags
    if ← accept ['\x7d'] then return ⟨low, none⟩
    else
      let high ← readDecimal
      expect ['\x7d'] .badRepetition
      if low ≤ high then return ⟨low, some (high - low)⟩ else throw .badRepetition
  else
    expect ['\x7d'] .badRepetition
    return ⟨low, some 0⟩

/-- Read the mark of a lazy repetition, if there is one: which match is preferred
does not matter. -/
def skipLazyMark : Reading Unit := do
  let _ ← accept ['?']

/-- Read a counted repetition after its opening brace. -/
def readCounted (flags : Flags) : Reading Bounds := do
  let bounds ← readBounds flags
  skipIgnored flags
  skipLazyMark
  return bounds

end CloudEmulator.Pattern
