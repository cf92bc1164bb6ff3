import CloudEmulator.Pattern.Reader

/-!
# Anchored patterns

Patterns that are meant to match from the first character of a URL on.
-/

namespace CloudEmulator

/-- A pattern together with the text it was compiled from. -/
structure AnchoredPattern where
  text : String
  pattern : Pattern

namespace AnchoredPattern

/-- Compile a pattern so that it is tried at the start of a URL. -/
def compile? (written : String) : Except Pattern.Refusal AnchoredPattern :=
  let text := Pattern.anchoredText written
  (Pattern.compile? text).map (⟨text, ·⟩)

/-- The pattern matches the URL. -/
def isMatch (p : AnchoredPattern) (url : String) : Bool :=
  p.pattern.matchesIn url

end AnchoredPattern

end CloudEmulator
