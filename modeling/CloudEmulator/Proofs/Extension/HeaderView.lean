import CloudEmulator.Emulator.Dispatch
import CloudEmulator.Proofs.Http.HeaderInsertion
import Mathlib.Data.List.Induction

/-!
# Headers as scripts see them

A hook sees headers as a map under their names in lower case. It sees a name exactly where a
look-up finds it. Of several values under one name, however, the map holds the last, and a
look-up finds the first.
-/

namespace CloudEmulator

namespace Script.Value

variable {name : String}

/-- What a script reads under a name of a value, if the value holds something there. -/
def read? (v : Value) (name : String) : Option Value :=
  match v.property name with
  | .ok (.held w _) => some w
  | _ => none

/-- A script reads the entries of a map. -/
theorem read?_map (name : String) (entries : List (String × Value)) :
    (map entries).read? name = find? name entries := by
  cases hfound : find? name entries <;> simp [read?, property, hfound]

/-- With one more entry a map holds that value under its name, and all others as before. -/
theorem find?_insertEntry (other name : String) (value : Value)
    (entries : List (String × Value)) :
    find? other (insertEntry name value entries) =
      if name = other then some value else find? other entries := by
  induction entries with
  | nil => simp [insertEntry, find?]
  | cons first entries ih =>
    obtain ⟨n, v⟩ := first
    rw [insertEntry]
    split
    next hsame =>
      obtain rfl : name = n := beq_iff_eq.mp hsame
      by_cases hother : name = other <;> simp [find?, hother]
    next hne =>
      split
      next => simp [find?]
      next =>
        rw [find?, find?, ih]
        by_cases hother : name = other
        · subst hother
          have hn : (n == name) = false :=
            beq_eq_false_iff_ne.mpr fun heq => hne (beq_iff_eq.mpr heq.symm)
          simp [hn]
        · simp [hother]

/-- A map of some entries holds the last of those with a name. -/
theorem read?_ofEntries (name : String) (entries : List (String × Value)) :
    (ofEntries entries).read? name = (entries.filter (·.1 == name)).getLast?.map (·.2) := by
  rw [ofEntries, read?_map]
  induction entries using List.reverseRecOn with
  | nil => rfl
  | append_singleton front last ih =>
    rw [List.foldl_concat, find?_insertEntry, ih, List.filter_append]
    by_cases hname : last.1 = name
    · simp [hname]
    · simp [hname]

end Script.Value

namespace Headers

open Script (Value)

variable {h : Headers} {name : String}

/-- Under a name in lower case the map of the headers holds the last of its values. -/
theorem read?_toValue (h : Headers) (name : String) :
    h.toValue.read? (Text.lower name) = (h.values name).getLast?.map .str := by
  have hnamed : (fun entry : String × Value => entry.1 == Text.lower name) ∘
      (fun entry : String × String => (Text.lower entry.1, Value.str entry.2)) = named name := by
    funext entry
    exact Bool.eq_iff_iff.mpr (beq_iff_eq.trans named_iff.symm)
  rw [toValue, Value.read?_ofEntries, List.filter_map, hnamed, List.getLast?_map, values,
    List.getLast?_map, Option.map_map, Option.map_map]
  rfl

/-- The keys of the map of the headers are the names of the headers in lower case. -/
theorem isSome_read?_iff (h : Headers) (key : String) :
    (h.toValue.read? key).isSome = true ↔ key ∈ h.names := by
  rw [toValue, Value.read?_ofEntries, Option.isSome_map, List.getLast?_isSome]
  simp [names]

/-- What scripts see of a list of headers. -/
structure ViewLaws (h : Headers) : Prop where
  /-- Hooks get the map of the headers with a request, and with a response. -/
  request : ∀ r : ServiceRequest, r.headers = h → r.toValue.read? "headers" = some h.toValue
  response : ∀ r : Response, r.headers = h → r.toArguments[1]? = some h.toValue
  /-- A name is looked up as the first of its values, and read by a script as the last. -/
  first : ∀ name, h.get? name = (h.values name).head?
  last : ∀ name, h.toValue.read? (Text.lower name) = (h.values name).getLast?.map .str
  /-- The map lacks a name exactly where a look-up does. -/
  absent_iff : ∀ name, h.toValue.read? (Text.lower name) = none ↔ h.get? name = none
  /-- The map has no other names. -/
  keys : ∀ key, (h.toValue.read? key).isSome = true ↔ key ∈ h.names
  /-- Script and look-up come to the same exactly where the first and the last value do. -/
  same_iff : ∀ name, h.toValue.read? (Text.lower name) = (h.get? name).map .str ↔
    (h.values name).getLast? = (h.values name).head?
  /-- They come to the same for every name if no name occurs twice. -/
  same : h.names.Nodup → ∀ name, h.toValue.read? (Text.lower name) = (h.get? name).map .str

/-- A name that occurs once has one value at most. -/
theorem length_values_le_one (hnodup : h.names.Nodup) (name : String) :
    (h.values name).length ≤ 1 := by
  have hvalues : (h.values name).length = h.names.count (Text.lower name) := by
    rw [values, List.length_map, names, List.count, List.countP_map, List.countP_eq_length_filter]
    congr 2
    funext entry
    exact Bool.eq_iff_iff.mpr (named_iff.trans beq_iff_eq.symm)
  rw [hvalues]
  exact List.nodup_iff_count_le_one.mp hnodup _

/-- **Headers in scripts.** A hook sees exactly the names that a look-up finds. It sees the last
value of each, which is the one that the look-up finds where the first value is the same. -/
theorem viewLaws (h : Headers) : ViewLaws h where
  request := by
    rintro r rfl
    rw [ServiceRequest.toValue, Value.read?_ofEntries]
    rfl
  response := by
    rintro r rfl
    rfl
  first := h.get?_eq_head?
  last := h.read?_toValue
  absent_iff := by
    intro name
    rw [read?_toValue, get?_eq_head?, Option.map_eq_none_iff, List.getLast?_eq_none_iff,
      List.head?_eq_none_iff]
  keys := h.isSome_read?_iff
  same_iff := by
    intro name
    have hinj : Function.Injective Value.str := fun _ _ heq => Value.str.inj heq
    rw [read?_toValue, get?_eq_head?]
    exact (Option.map_injective hinj).eq_iff
  same := by
    intro hnodup name
    have hlength := length_values_le_one hnodup name
    rw [read?_toValue, get?_eq_head?]
    generalize h.values name = vs at hlength
    match vs, hlength with
    | [], _ => rfl
    | [v], _ => rfl

/-- A list with two targets under two spellings of one name. -/
def twoTargets : Headers :=
  ⟨[("X-Amz-Target", "DynamoDB_20120810.PutItem"), ("x-amz-target", "DynamoDB_20120810.GetItem")]⟩

/-- The operation is derived from the first target, and a hook reads the second one. -/
theorem twoTargets_differ :
    twoTargets.get? "X-Amz-Target" = some "DynamoDB_20120810.PutItem" ∧
      targetOperation? twoTargets = some "PutItem" ∧
      twoTargets.toValue.read? (Text.lower "X-Amz-Target") =
        some (.str "DynamoDB_20120810.GetItem") := by
  refine ⟨by decide +kernel, by decide +kernel, ?_⟩
  have hvalues : twoTargets.values "X-Amz-Target" =
      ["DynamoDB_20120810.PutItem", "DynamoDB_20120810.GetItem"] := by decide +kernel
  rw [read?_toValue, hvalues]
  rfl

end Headers

end CloudEmulator
