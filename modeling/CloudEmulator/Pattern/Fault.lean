/-!
# Faults in written patterns
-/

namespace CloudEmulator.Pattern

/-- Why a text cannot be read as a pattern. -/
inductive Fault where
  | unclosedGroup
  | unclosedClass
  | badClassItem
  | badRange
  | nothingToRepeat
  | badRepetition
  | badEscape
  | badCodePoint
  | backReference
  | lookAround
  | badFlags
  | badGroupName
  | duplicateGroupName
  | unknownProperty
  | beyondUtf8
  deriving DecidableEq, Repr

/-- Why a text is refused as a pattern. -/
inductive Refusal where
  | unreadable (fault : Fault)
  /-- A bracket closes a group that the text does not open. -/
  | unopenedGroup
  | tooDeep
  | tooLarge
  deriving DecidableEq, Repr

end CloudEmulator.Pattern
