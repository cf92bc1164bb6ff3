import CloudEmulator.Backend.OperationCatalog
import CloudEmulator.Extension.Basic
import CloudEmulator.Extension.Declaration
import CloudEmulator.Extension.LoadError

/-!
# Loading extensions

A file is read in a fixed order: the script as a whole, then each type by
ascending name with its functions and its selector, then the statements of the
file, and last each type's state and id. The first thing that is wrong is the
result. All parts of a script may read the clocks.
-/

namespace CloudEmulator.Extension

open Script (Clock Program Value)

/-- What the clocks show to the parts of a script while it is loaded, and to its hooks later.
Types are told by their stems. -/
structure Clocks where
  selector : String → Clock
  file : Clock
  init : String → Clock
  id : String → Clock
  hooks : String → Clock

/-- Clocks that always show the same. -/
def Clocks.still (m : Script.Moment) : Clocks where
  selector _ := .still m
  file := .still m
  init _ := .still m
  id _ := .still m
  hooks _ := .still m

/-- Check the functions of a type: at most one initializer without parameters, an
accessor for the id, and hooks that take what they are called with. -/
def checkDeclaration (d : Declaration) : Except LoadError Unit := do
  match d.overloads .init with
  | [] | [[]] => pure ()
  | [params] => throw (.initializerParameters d.typeName params)
  | _ => throw (.tooManyInitializers d.typeName)
  if !d.hasArity .id 0 then throw (.missingId d.typeName)
  for (hook, expected) in [(Capability.requestHook, 1), (Capability.responseHook, 3)] do
    if d.has hook && !d.hasArity hook expected then
      throw (.hookParameters d.typeName (d.functionName hook) expected)

/-- The text has something on both sides of its first colon. -/
def isSelectorEntry (entry : String) : Bool :=
  match Text.splitOnce ':' entry.toList with
  | (_ :: _, some (_ :: _)) => true
  | _ => false

/-- Check the entries of a selector in turn, and collect them in order. -/
def checkEntries (catalog : OperationCatalog) (typeName : String) :
    List Value → Except LoadError (List String)
  | [] => .ok []
  | .str entry :: rest => do
    if !isSelectorEntry entry then throw (.invalidSelector typeName (.malformed entry))
    if !catalog.contains entry then throw (.unknownOperation typeName entry)
    return entry :: (← checkEntries catalog typeName rest)
  | v :: _ => .error (.invalidSelector typeName (.notText v.typeName))

/-- The selector of a type: the entries its function gives, sorted and each once. -/
def evaluateSelector (clocks : Clocks) (catalog : OperationCatalog) (program : Program)
    (d : Declaration) : Except LoadError (List String) := do
  let invalid (fault : SelectorFault) : LoadError := .invalidSelector d.typeName fault
  if !d.has .selector then throw (invalid .undeclared)
  if !d.hasArity .selector 0 then throw (invalid .hasParameters)
  match (program.call (clocks.selector d.stem) (d.functionName .selector) [] none).result with
  | .error _ => throw (invalid .scriptFailed)
  | .ok (.array items) =>
    return (OperationCatalog.ofList (← checkEntries catalog d.typeName items.toList)).entries
  | .ok v => throw (invalid (.notList v.typeName))

/-- The first state of a type: what its initializer gives, or an empty map. -/
def initialState (clocks : Clocks) (program : Program) (d : Declaration) :
    Except LoadError Value :=
  if d.has .init then
    match (program.call (clocks.init d.stem) (d.functionName .init) [] none).result with
    | .error _ => .error (.failed d.typeName)
    | .ok .unit => .ok (.map [])
    | .ok v => .ok v
  else .ok (.map [])

/-- A character of an id, where the first one must be a letter or a digit. -/
def isIdChar (c : Char) : Bool :=
  c.isAlphanum || c == '_' || c == '.' || c == ':' || c == '-'

/-- Check an id. -/
def checkId (typeName id : String) : Except LoadError Unit :=
  match id.toList with
  | [] => .error (.invalidId typeName .empty)
  | c :: cs =>
    if c.isAlphanum && cs.all isIdChar then .ok ()
    else .error (.invalidId typeName (.badCharacters id))

/-- Make the extension of a type. -/
def instantiate (clocks : Clocks) (program : Program) (d : Declaration)
    (selector : List String) : Except LoadError Extension := do
  let state ← initialState clocks program d
  let ending := program.call (clocks.id d.stem) (d.functionName .id) [] (some state)
  let hook (c : Capability) : Option String := if d.has c then some (d.functionName c) else none
  match ending.result with
  | .error _ => throw (.failed d.typeName)
  | .ok (.str id) =>
    checkId d.typeName id
    return { id, typeName := d.typeName, selector, state := ending.this.getD state,
             hooks := .script program (hook .requestHook) (hook .responseHook),
             clock := clocks.hooks d.stem }
  | .ok v => throw (.invalidId d.typeName (.notText v.typeName))

/-- Put an extension into its place by id. -/
def insertById (e : Extension) : List Extension → List Extension
  | [] => [e]
  | x :: rest => if e.id < x.id then e :: x :: rest else x :: insertById e rest

/-- Make the extensions of all types in turn; no id may occur twice. -/
def instantiateAll (clocks : Clocks) (program : Program) (sofar : List Extension) :
    List (Declaration × List String) → Except LoadError (List Extension)
  | [] => .ok sofar
  | (d, selector) :: rest => do
    let e ← instantiate clocks program d selector
    if sofar.any (·.id == e.id) then throw (.invalidId d.typeName (.duplicate e.id))
    instantiateAll clocks program (insertById e sofar) rest

/-- The extensions of a script, by ascending id. -/
def ofProgram (clocks : Clocks) (catalog : OperationCatalog) (program : Program) :
    Except LoadError (List Extension) := do
  let ds := Declaration.extensionTypes program.functions
  if ds.isEmpty then throw .noExtensions
  let selected ← ds.mapM fun d => do
    checkDeclaration d
    return (d, ← evaluateSelector clocks catalog program d)
  match (program.runFile clocks.file).result with
  | .error _ => throw (.failed Declaration.defaultType)
  | .ok _ => instantiateAll clocks program [] selected

/-- The extensions of a text, by ascending id. -/
def ofSource (clocks : Clocks) (catalog : OperationCatalog) (source : String) :
    Except LoadError (List Extension) :=
  match Program.ofSource source with
  | .error fault => .error (.notScript fault)
  | .ok program => ofProgram clocks catalog program

/-- The extensions of a file, by ascending id; `none` is a file that is not there. -/
def ofFile (clocks : Clocks) (catalog : OperationCatalog) (contents : Option Bytes) :
    Except LoadError (List Extension) :=
  match contents.bind Utf8.decode? with
  | none => .error .unreadable
  | some source => ofSource clocks catalog source

end CloudEmulator.Extension
