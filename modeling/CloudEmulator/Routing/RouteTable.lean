import CloudEmulator.Routing.UrlIndex
import CloudEmulator.Http.Url

/-!
# Route tables

The handlers of a backend by URL pattern and method. Path patterns are joined
onto every URL base; the first entry that matches wins.
-/

namespace CloudEmulator

/-- One entry of a route table. -/
structure Route (α : Type) where
  pattern : AnchoredPattern
  /-- The only method the route is for, in upper case. -/
  method : Option String
  operation : Option String
  handler : α

namespace Route

/-- The route is for the method and the URL. -/
def isFor (route : Route α) (method url : String) : Bool :=
  route.method.all (Text.sameName · method) && route.pattern.isMatch url

end Route

/-- What a route is made of, before its path is joined onto the bases. -/
structure RouteSpec (α : Type) where
  path : String
  method : Option String := none
  operation : Option String := none
  handler : α

/-- The handlers of a backend, in the order of their declaration. -/
structure RouteTable (α : Type) where
  bases : List String
  routes : List (Route α) := []

namespace RouteTable

/-- The pattern of a path under a base. -/
def joined (base path : String) : String :=
  if base.isEmpty then path else "(?:" ++ base ++ ")" ++ path

/-- Add a route under every base, or on its own where there is none. -/
def add (table : RouteTable α) (spec : RouteSpec α) : Except Pattern.Refusal (RouteTable α) := do
  let bases := if table.bases.isEmpty then [""] else table.bases
  let routes ← bases.mapM fun base => do
    let pattern ← AnchoredPattern.compile? (joined base spec.path)
    pure { pattern, method := spec.method.map Text.upper, operation := spec.operation,
           handler := spec.handler : Route α }
  return { table with routes := table.routes ++ routes }

/-- A table of several routes, or the index of the first that has no valid pattern. -/
def build (bases : List String) (specs : List (RouteSpec α)) : Except Nat (RouteTable α) :=
  go 0 ⟨bases, []⟩ specs
where
  go (i : Nat) (table : RouteTable α) : List (RouteSpec α) → Except Nat (RouteTable α)
    | [] => .ok table
    | spec :: specs =>
      match table.add spec with
      | .ok table => go (i + 1) table specs
      | .error _ => .error i

/-- The position of the first entry for a method and a URL without query and fragment. -/
def findIdx? (table : RouteTable α) (method url : String) : Option Nat :=
  let stem := Url.stem url
  table.routes.findIdx? fun route => route.isFor method stem

/-- The first entry for a method and a URL without query and fragment. -/
def find? (table : RouteTable α) (method url : String) : Option (Route α) :=
  let stem := Url.stem url
  table.routes.find? fun route => route.isFor method stem

/-- The distinct operations in the order of their declaration. -/
def operations (table : RouteTable α) : List String :=
  UrlIndex.distinct (table.routes.filterMap (·.operation))

/-- The number of entries. -/
def size (table : RouteTable α) : Nat :=
  table.routes.length

end RouteTable

end CloudEmulator
