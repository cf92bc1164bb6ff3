import CloudEmulator.Routing.AnchoredPattern

/-!
# The URL index

An ordered list of URL patterns, each with the service it belongs to. The first
pattern that matches a URL decides its service.
-/

namespace CloudEmulator

/-- Why a URL pattern cannot join the index. -/
inductive UrlPatternError where
  | unanchored (service pattern : String)
  | invalidPattern (service : String) (refusal : Pattern.Refusal)

namespace UrlPatternError

/-- The error in words. -/
def message : UrlPatternError → String
  | unanchored service pattern =>
    "URL pattern for service '" ++ service ++ "' must start with the scheme: " ++ pattern
  | invalidPattern service _ => "Invalid URL pattern for service '" ++ service ++ "'"

end UrlPatternError

/-- A pattern of the index. -/
structure UrlPattern where
  service : String
  pattern : AnchoredPattern

namespace UrlPattern

/-- The pattern starts with the scheme, after a caret if there is one. -/
def startsWithScheme (written : List Char) : Bool :=
  let body := match written with
    | '^' :: body => body
    | body => body
  ['h', 't', 't', 'p'].isPrefixOf body

/-- Validate and compile a pattern of a service. -/
def compile? (service written : String) : Except UrlPatternError UrlPattern :=
  if startsWithScheme written.toList then
    match AnchoredPattern.compile? written with
    | .ok pattern => .ok ⟨service, pattern⟩
    | .error refusal => .error (.invalidPattern service refusal)
  else .error (.unanchored service written)

end UrlPattern

/-- The patterns in the order of their registration. -/
structure UrlIndex where
  patterns : List UrlPattern := []

namespace UrlIndex

/-- Add compiled patterns at the end. -/
def extend (index : UrlIndex) (patterns : List UrlPattern) : UrlIndex :=
  ⟨index.patterns ++ patterns⟩

/-- Add one pattern at the end. -/
def register (index : UrlIndex) (service written : String) : Except UrlPatternError UrlIndex :=
  (UrlPattern.compile? service written).map fun p => index.extend [p]

/-- The service of a URL, by the first pattern that matches. -/
def classify? (index : UrlIndex) (url : String) : Option String :=
  (index.patterns.find? fun p => p.pattern.isMatch url).map (·.service)

/-- The elements of a list at their first occurrences. -/
def distinct (names : List String) : List String :=
  names.foldl (fun seen name => if seen.contains name then seen else seen ++ [name]) []

/-- The services in the order of their first patterns. -/
def services (index : UrlIndex) : List String :=
  distinct (index.patterns.map (·.service))

/-- The number of patterns. -/
def size (index : UrlIndex) : Nat :=
  index.patterns.length

end UrlIndex

end CloudEmulator
