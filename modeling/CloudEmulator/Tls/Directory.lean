import CloudEmulator.Text.Utf8

/-!
# Directories

Directories of files by name. Names of more than 255 octets do not fit.
-/

namespace CloudEmulator

/-- The files of a directory, each name once. -/
structure Directory where
  files : List (String × Bytes) := []

namespace Directory

/-- The longest name of a file, in octets. -/
def maxName : Nat := 255

/-- The name fits. -/
def fits (name : String) : Bool :=
  (Utf8.encode name).length ≤ maxName

/-- The contents of a file. -/
def get? (d : Directory) (name : String) : Option Bytes :=
  d.files.lookup name

/-- There is a file of that name. -/
def contains (d : Directory) (name : String) : Bool :=
  (d.get? name).isSome

/-- The directory without a file. -/
def erase (d : Directory) (name : String) : Directory :=
  ⟨d.files.filter fun f => f.1 != name⟩

/-- Write a file whose name fits. -/
def write? (d : Directory) (name : String) (contents : Bytes) : Option Directory :=
  if fits name then some ⟨(name, contents) :: (d.erase name).files⟩ else none

/-- Move a file over another one. -/
def rename? (d : Directory) (source target : String) : Option Directory := do
  let contents ← d.get? source
  (d.erase source).write? target contents

/-- The names of the files, ascending. -/
def names (d : Directory) : List String :=
  (d.files.map (·.1)).mergeSort fun a b => a ≤ b

end Directory

end CloudEmulator
