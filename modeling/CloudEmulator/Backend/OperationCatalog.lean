/-!
# The operation catalog

The names `Service:Operation` that extensions may select, without repetition and
in the order of their code points.
-/

namespace CloudEmulator

/-- A sorted set of names. -/
structure OperationCatalog where
  entries : List String := []
  deriving Repr

namespace OperationCatalog

/-- Put a name into a sorted list that lacks it. -/
def insertSorted (name : String) : List String → List String
  | [] => [name]
  | n :: rest =>
    if name == n then n :: rest
    else if name < n then name :: n :: rest
    else n :: insertSorted name rest

/-- Add a name. -/
def add (catalog : OperationCatalog) (name : String) : OperationCatalog :=
  ⟨insertSorted name catalog.entries⟩

/-- Add an operation of a service. -/
def insert (catalog : OperationCatalog) (service operation : String) : OperationCatalog :=
  catalog.add (service ++ ":" ++ operation)

/-- The catalog of some names. -/
def ofList (names : List String) : OperationCatalog :=
  names.foldl add {}

/-- The name is known. -/
def contains (catalog : OperationCatalog) (name : String) : Bool :=
  catalog.entries.contains name

/-- The number of names. -/
def size (catalog : OperationCatalog) : Nat :=
  catalog.entries.length

end OperationCatalog

end CloudEmulator
