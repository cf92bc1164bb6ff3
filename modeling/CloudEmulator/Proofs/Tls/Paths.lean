import CloudEmulator.Proofs.Text.Cuts
import CloudEmulator.Tls.Path

/-!
# Where paths lead

A path is followed name by name, from a place in the tree of directories. Behind a directory, a
name that is neither empty nor made of one or two dots, and has no slash in it, leads to an entry
of this directory itself.
-/

namespace CloudEmulator.Path

variable {place : List String} {directory path name : String} {begun front back : List Char}

/-- The names between the slashes of a path, the first of which has begun. -/
def names (begun : List Char) : List Char → List String
  | [] => [String.ofList begun]
  | c :: cs => if c = '/' then String.ofList begun :: names [] cs else names (begun ++ [c]) cs

/-- Where a name leads. Places are told by the names on the way to them, the last one first. -/
def enter (place : List String) (name : String) : List String :=
  if name = "" ∨ name = "." then place
  else if name = ".." then place.tail
  else name :: place

/-- Where a path leads from a place, or from the root if it begins with a slash. -/
def follow (place : List String) (path : String) : List String :=
  (names [] path.toList).foldl enter (if path.toList.head? = some '/' then [] else place)

/-- The name is the name of an entry, and leads nowhere else. -/
structure IsPlain (name : String) : Prop where
  slash : '/' ∉ name.toList
  empty : name ≠ ""
  dot : name ≠ "."
  dots : name ≠ ".."

/-- A name without a slash is read as it is. -/
theorem names_of_notMem (hback : '/' ∉ back) :
    names begun back = [String.ofList (begun ++ back)] := by
  induction back generalizing begun with
  | nil => rw [names, List.append_nil]
  | cons c back ih =>
    obtain ⟨hc, hback⟩ := not_or.mp (List.mem_cons.not.mp hback)
    rw [names, if_neg (Ne.symm hc), ih hback, List.append_assoc, List.singleton_append]

/-- The names in front of a slash and those behind it are read apart. -/
theorem names_append (begun front back : List Char) :
    names begun (front ++ '/' :: back) = names begun front ++ names [] back := by
  induction front generalizing begun with
  | nil => simp [names]
  | cons c front ih =>
    rw [List.cons_append, names, names]
    split
    · rw [ih, List.cons_append]
    · rw [ih]

/-- The last name of a path leads on from where the rest leads. -/
theorem follow_behind (hdirectory : directory ≠ "") (hname : '/' ∉ name.toList)
    (place : List String) :
    follow place (directory ++ "/" ++ name) = enter (follow place directory) name := by
  have hlist : (directory ++ "/" ++ name).toList = directory.toList ++ '/' :: name.toList := by
    simp
  have hhead : (directory.toList ++ '/' :: name.toList).head? = directory.toList.head? := by
    cases hfirst : directory.toList with
    | nil => exact absurd (String.toList_eq_nil_iff.mp hfirst) hdirectory
    | cons c rest => rfl
  rw [follow, follow, hlist, hhead, names_append, names_of_notMem hname, List.nil_append,
    String.ofList_toList, List.foldl_append, List.foldl_cons, List.foldl_nil]

/-- A plain name leads to the entry of that name. -/
theorem IsPlain.enter (h : IsPlain name) (place : List String) :
    enter place name = name :: place := by
  rw [Path.enter, if_neg (not_or.mpr ⟨h.empty, h.dot⟩), if_neg h.dots]

/-- A plain name stands for a path that does not begin with a slash. -/
theorem IsPlain.head? (h : IsPlain name) : name.toList.head? ≠ some '/' := fun hhead =>
  h.slash (List.mem_of_mem_head? hhead)

/-- A path ends as it ends behind a directory. -/
theorem getLast?_join {c : Char} (hlast : path.toList.getLast? = some c) (directory : String) :
    (join directory path).toList.getLast? = some c := by
  unfold join
  split
  · exact hlast
  · split
    · rw [String.toList_append, List.getLast?_append, hlast, Option.some_or]
    · rw [String.toList_append, List.getLast?_append, hlast, Option.some_or]

/-- Behind a directory that does not end with a slash, one is put in front of a name. -/
theorem IsPlain.join {c : Char} (h : IsPlain name) (hlast : directory.toList.getLast? = some c)
    (hc : c ≠ '/') : join directory name = directory ++ "/" ++ name := by
  have hhead : (name.toList.head? == some '/') = false := beq_eq_false_iff_ne.mpr h.head?
  have hslash : (c == '/') = false := beq_eq_false_iff_ne.mpr hc
  simp [Path.join, hhead, hlast, hslash]

/-- The name behind the last slash is the one that is replaced. -/
theorem mapName_behind (hname : '/' ∉ name.toList) (rename : String → String)
    (directory : String) :
    mapName rename (directory ++ "/" ++ name) = directory ++ "/" ++ rename name := by
  have hback : (directory ++ "/" ++ name).toList.reverse =
      name.toList.reverse ++ '/' :: directory.toList.reverse := by
    simp
  have hplain : ∀ c ∈ name.toList.reverse, (c == '/') = false := fun c hc =>
    beq_eq_false_iff_ne.mpr fun heq => hname (heq ▸ List.mem_reverse.mp hc)
  have hslash : Text.cutAt (· == '/') ('/' :: directory.toList.reverse) =
      ([], '/' :: directory.toList.reverse) := Text.cutAt_of_head (by simp)
  have hcut := Text.cutAt_append hplain ('/' :: directory.toList.reverse)
  rw [hslash, List.append_nil] at hcut
  rw [mapName, hback, hcut]
  simp

end CloudEmulator.Path
