import CloudEmulator.Text.Utf8

/-!
# Environment variables
-/

namespace CloudEmulator

/-- Variables of a process, each name once. A value is octets, which need not be text. -/
structure Environment where
  entries : List (String × Bytes) := []
  deriving Repr

namespace Environment

/-- The octets of a variable. -/
def octets? (env : Environment) (name : String) : Option Bytes :=
  env.entries.lookup name

/-- The value of a variable, if it is text. -/
def get? (env : Environment) (name : String) : Option String :=
  (env.octets? name).bind Utf8.decode?

/-- The environment without a variable. -/
def unset (env : Environment) (name : String) : Environment :=
  ⟨env.entries.filter fun e => e.1 != name⟩

/-- The environment with a variable set to octets. -/
def setOctets (env : Environment) (name : String) (octets : Bytes) : Environment :=
  ⟨(name, octets) :: (env.unset name).entries⟩

/-- The environment with a variable set to a text. -/
def set (env : Environment) (name value : String) : Environment :=
  env.setOctets name (Utf8.encode value)

/-- The environment with a variable as it was: set, or not. -/
def put (env : Environment) (name : String) (octets : Option Bytes) : Environment :=
  match octets with
  | some octets => env.setOctets name octets
  | none => env.unset name

variable {name other : String}

/-- A variable that was removed has no value. -/
@[simp] theorem octets?_unset_self (env : Environment) (name : String) :
    (env.unset name).octets? name = none := by
  unfold octets? unset
  induction env.entries with
  | nil => rfl
  | cons e entries ih =>
    obtain ⟨key, octets⟩ := e
    by_cases hkey : key = name
    · simpa [hkey] using ih
    · have hne : (name == key) = false := by simpa using Ne.symm hkey
      simpa [hkey, List.lookup_cons, hne] using ih

/-- Removing a variable leaves every other one alone. -/
theorem octets?_unset_of_ne (h : other ≠ name) (env : Environment) :
    (env.unset name).octets? other = env.octets? other := by
  unfold octets? unset
  induction env.entries with
  | nil => rfl
  | cons e entries ih =>
    obtain ⟨key, octets⟩ := e
    by_cases hkey : key = name
    · have hne : (other == key) = false := by simpa [hkey] using h
      simpa [hkey, List.lookup_cons, hkey ▸ hne] using ih
    · have hkeep : (key != name) = true := by simpa using hkey
      simp only [List.filter_cons, hkeep, if_true, List.lookup_cons]
      simp only [ih]

/-- A variable has the value it was set to. -/
@[simp] theorem octets?_setOctets_self (env : Environment) (name : String) (octets : Bytes) :
    (env.setOctets name octets).octets? name = some octets := by
  simp [octets?, setOctets]

/-- Setting a variable leaves every other one alone. -/
theorem octets?_setOctets_of_ne (h : other ≠ name) (env : Environment) (octets : Bytes) :
    (env.setOctets name octets).octets? other = env.octets? other := by
  have hne : (other == name) = false := by simpa using h
  have hunset := octets?_unset_of_ne h env
  simpa [octets?, setOctets, List.lookup_cons, hne] using hunset

/-- A variable that was put back is as it was. -/
@[simp] theorem octets?_put_self (env : Environment) (name : String) (octets : Option Bytes) :
    (env.put name octets).octets? name = octets := by
  cases octets <;> simp [put]

/-- Putting a variable back leaves every other one alone. -/
theorem octets?_put_of_ne (h : other ≠ name) (env : Environment) (octets : Option Bytes) :
    (env.put name octets).octets? other = env.octets? other := by
  cases octets with
  | none => exact octets?_unset_of_ne h env
  | some octets => exact octets?_setOctets_of_ne h env octets

end Environment

end CloudEmulator
