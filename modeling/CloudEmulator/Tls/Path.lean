import CloudEmulator.Text.Ascii

/-!
# Paths

Paths of files as texts, with names between slashes.
-/

namespace CloudEmulator.Path

/-- A path from a directory on. One that begins with a slash stands for itself. -/
def join (directory path : String) : String :=
  if path.toList.head? == some '/' then path
  else if directory.toList.getLast?.all (· == '/') then directory ++ path
  else directory ++ "/" ++ path

/-- The path with another name behind its last slash. -/
def mapName (rename : String → String) (path : String) : String :=
  let (name, directory) := Text.cutAt (· == '/') path.toList.reverse
  String.ofList directory.reverse ++ rename (String.ofList name.reverse)

end CloudEmulator.Path
