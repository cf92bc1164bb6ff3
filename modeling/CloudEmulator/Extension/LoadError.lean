import CloudEmulator.Script.Token

/-!
# Why an extension file cannot be loaded
-/

namespace CloudEmulator.Extension

/-- What is wrong with a selector. -/
inductive SelectorFault where
  | undeclared
  | hasParameters
  | scriptFailed
  | notList (typeName : String)
  | notText (typeName : String)
  | malformed (entry : String)
  deriving DecidableEq, Repr

/-- What is wrong with an id. -/
inductive IdFault where
  | notText (typeName : String)
  | empty
  | badCharacters (id : String)
  | duplicate (id : String)
  deriving DecidableEq, Repr

/-- Why no extensions come out of a file. -/
inductive LoadError where
  | unreadable
  | notScript (fault : Script.SyntaxFault)
  | noExtensions
  | tooManyInitializers (typeName : String)
  | initializerParameters (typeName : String) (params : List String)
  | missingId (typeName : String)
  | hookParameters (typeName function : String) (expected : Nat)
  | unknownOperation (typeName operation : String)
  | invalidSelector (typeName : String) (fault : SelectorFault)
  | invalidId (typeName : String) (fault : IdFault)
  | failed (typeName : String)

namespace SelectorFault

/-- The fault in words. -/
def message : SelectorFault → String
  | undeclared => "selector() is not declared"
  | hasParameters => "selector() must take no parameters"
  | scriptFailed => "the script failed"
  | notList typeName => "expected a list of strings, got " ++ typeName
  | notText typeName => "expected a string entry, got " ++ typeName
  | malformed entry => "'" ++ entry ++ "' is not Service:Operation"

end SelectorFault

namespace IdFault

/-- The fault in words. -/
def message : IdFault → String
  | notText typeName => "id() must return a string, got " ++ typeName
  | empty => "id is empty"
  | badCharacters id => "'" ++ id ++ "' contains unsupported characters"
  | duplicate id => "duplicate id '" ++ id ++ "'"

end IdFault

namespace LoadError

/-- The error in words. -/
def message : LoadError → String
  | unreadable => "Failed to read extension file"
  | notScript _ => "Syntax error in extension script"
  | noExtensions => "No extension types found (a type needs request_hook or response_hook)"
  | tooManyInitializers typeName =>
    "Extension type '" ++ typeName ++ "' declares more than one init"
  | initializerParameters typeName params =>
    "init of extension type '" ++ typeName ++ "' must take no parameters, found (" ++
      ", ".intercalate params ++ ")"
  | missingId typeName =>
    "Extension type '" ++ typeName ++ "' does not declare a parameterless id()"
  | hookParameters typeName function expected =>
    "Extension type '" ++ typeName ++ "' declares " ++ function ++
      " with the wrong parameters (expected " ++ toString expected ++ ")"
  | unknownOperation typeName operation =>
    "Extension type '" ++ typeName ++ "' selects unknown operation '" ++ operation ++ "'"
  | invalidSelector typeName fault =>
    "Extension type '" ++ typeName ++ "' has an invalid selector: " ++ fault.message
  | invalidId typeName fault =>
    "Extension type '" ++ typeName ++ "' has an invalid id: " ++ fault.message
  | failed typeName => "Extension script failed while loading '" ++ typeName ++ "'"

end LoadError

end CloudEmulator.Extension
