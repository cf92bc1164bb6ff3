import CloudEmulator.Script.Tree
import CloudEmulator.Text.Ascii

/-!
# Declared extension types

A script declares an extension type by functions whose names join the name of the
type and a capability; without a type they belong to the default type. A type
with a hook is an extension; all other functions are helpers.
-/

namespace CloudEmulator.Extension

open Script (Function)

/-- What a function of an extension type is for. -/
inductive Capability where
  | id | selector | init | requestHook | responseHook
  deriving DecidableEq, Repr

namespace Capability

/-- The name of a capability in a script. -/
def name : Capability → String
  | id => "id"
  | selector => "selector"
  | init => "init"
  | requestHook => "request_hook"
  | responseHook => "response_hook"

/-- All capabilities. -/
def all : List Capability :=
  [id, selector, init, requestHook, responseHook]

/-- The capability of a name. -/
def ofName? (s : String) : Option Capability :=
  all.find? (·.name == s)

end Capability

/-- The functions of one type, each with its capability and its parameters. The
default type has an empty stem. -/
structure Declaration where
  stem : String
  functions : List (Capability × List String) := []
  deriving Repr

namespace Declaration

/-- The name of the default type in reports. -/
def defaultType : String := "default"

/-- The name of the type. -/
def typeName (d : Declaration) : String :=
  if d.stem.isEmpty then defaultType else d.stem

/-- The name of the function for a capability. -/
def functionName (d : Declaration) (c : Capability) : String :=
  if d.stem.isEmpty then c.name else d.stem ++ "__" ++ c.name

/-- The parameter lists of the functions for a capability. -/
def overloads (d : Declaration) (c : Capability) : List (List String) :=
  (d.functions.filter fun f => f.1 == c).map (·.2)

/-- Some function is for the capability. -/
def has (d : Declaration) (c : Capability) : Bool :=
  d.functions.any (·.1 == c)

/-- Some function with so many parameters is for the capability. -/
def hasArity (d : Declaration) (c : Capability) (arity : Nat) : Bool :=
  (d.overloads c).any (·.length == arity)

/-- The type has a hook. -/
def isExtension (d : Declaration) : Bool :=
  d.has .requestHook || d.has .responseHook

/-- The characters around the last double underscore. -/
def splitLast? (cs : List Char) : Option (List Char × List Char) :=
  match Text.after? ['_', '_'] cs.reverse with
  | none => none
  | some stem => some (stem.reverse, cs.drop (stem.length + 2))

/-- The stem and the rest of a function's name. -/
def splitName (name : String) : String × String :=
  match splitLast? name.toList with
  | none => ("", name)
  | some (stem, rest) => (String.ofList stem, String.ofList rest)

/-- The declarations with one more function, in the order of their stems. -/
def insert (stem : String) (c : Capability) (params : List String) :
    List Declaration → List Declaration
  | [] => [⟨stem, [(c, params)]⟩]
  | d :: rest =>
    if stem == d.stem then { d with functions := d.functions ++ [(c, params)] } :: rest
    else if stem < d.stem then ⟨stem, [(c, params)]⟩ :: d :: rest
    else d :: insert stem c params rest

/-- The declarations with a function, if it is for a capability. -/
def add (ds : List Declaration) (f : Function) : List Declaration :=
  let (stem, rest) := splitName f.name
  match Capability.ofName? rest with
  | some c => insert stem c f.params ds
  | none => ds

/-- All types of some functions, by ascending stem. -/
def types (functions : List Function) : List Declaration :=
  functions.foldl add []

/-- The extension types of some functions, by ascending stem. -/
def extensionTypes (functions : List Function) : List Declaration :=
  (types functions).filter isExtension

end Declaration

end CloudEmulator.Extension
