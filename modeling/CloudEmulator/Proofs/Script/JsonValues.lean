import CloudEmulator.Script.Value
import Mathlib.Data.Option.Basic

/-!
# Values that JSON can tell

A value has a JSON form exactly where nothing in it is a blob, a range, a function or a moment,
however deep it is nested.
-/

namespace CloudEmulator.Script.Value

/-- The value is made of units, truth values, numbers, characters and texts, in arrays and
maps. -/
inductive Plain : Value → Prop
  | unit : Plain .unit
  | bool (b : Bool) : Plain (.bool b)
  | int (n : Int) : Plain (.int n)
  | float (x : Float) : Plain (.float x)
  | char (c : Char) : Plain (.char c)
  | str (s : String) : Plain (.str s)
  | array {items : Array Value} (h : ∀ v ∈ items, Plain v) : Plain (.array items)
  | map {entries : List (String × Value)} (h : ∀ e ∈ entries, Plain e.2) : Plain (.map entries)

mutual

/-- A value has a JSON form exactly where it is plain. -/
theorem isSome_toJson?_iff (v : Value) : v.toJson?.isSome = true ↔ v.Plain := by
  cases v with
  | unit => exact iff_of_true rfl .unit
  | bool b => exact iff_of_true rfl (.bool b)
  | int n => exact iff_of_true rfl (.int n)
  | float x => exact iff_of_true rfl (.float x)
  | char c => exact iff_of_true rfl (.char c)
  | str s => exact iff_of_true rfl (.str s)
  | array items =>
    obtain ⟨items⟩ := items
    rw [toJson?, Option.isSome_map, isSome_toJsonItems?_iff items]
    exact ⟨fun h => .array (by simpa using h), fun h => by cases h with | array h => simpa using h⟩
  | map entries =>
    rw [toJson?, Option.isSome_map, isSome_toJsonMembers?_iff entries]
    exact ⟨.map, fun h => by cases h with | map h => exact h⟩
  | blob bytes => exact iff_of_false (by simp [toJson?]) nofun
  | range low high closed => exact iff_of_false (by simp [toJson?]) nofun
  | function name => exact iff_of_false (by simp [toJson?]) nofun
  | timestamp steady => exact iff_of_false (by simp [toJson?]) nofun

/-- Items have JSON forms exactly where each is plain. -/
theorem isSome_toJsonItems?_iff (items : List Value) :
    (toJsonItems? items).isSome = true ↔ ∀ v ∈ items, v.Plain := by
  cases items with
  | nil => exact iff_of_true rfl (by simp)
  | cons item items =>
    rw [List.forall_mem_cons, ← isSome_toJson?_iff item, ← isSome_toJsonItems?_iff items,
      toJsonItems?]
    cases item.toJson? <;> cases toJsonItems? items <;> simp

/-- Entries have JSON forms exactly where the value of each is plain. -/
theorem isSome_toJsonMembers?_iff (entries : List (String × Value)) :
    (toJsonMembers? entries).isSome = true ↔ ∀ e ∈ entries, e.2.Plain := by
  cases entries with
  | nil => exact iff_of_true rfl (by simp)
  | cons entry entries =>
    obtain ⟨name, value⟩ := entry
    rw [List.forall_mem_cons, ← isSome_toJson?_iff value, ← isSome_toJsonMembers?_iff entries,
      toJsonMembers?]
    cases value.toJson? <;> cases toJsonMembers? entries <;> simp

end

end CloudEmulator.Script.Value
