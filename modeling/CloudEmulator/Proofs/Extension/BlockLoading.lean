import CloudEmulator.Proofs.Extension.ExecutionOrder
import CloudEmulator.Proofs.Extension.LoadedTypes
import CloudEmulator.Proofs.Extension.Precedence

/-!
# Loading a file into the pipeline

A file is read as a whole before the first of its extensions is registered, so a load that
fails leaves no trace. One that succeeds replaces the extensions of the ids it brings, and
puts its own as one block behind all others of its priority and of lower ones.
-/

namespace CloudEmulator

namespace Extension

variable {clocks : Clocks} {catalog : OperationCatalog} {contents : Option Bytes}

/-- Why a file gives no extensions: it is no text, or no script that loads. -/
inductive FileFails (clocks : Clocks) (catalog : OperationCatalog) (contents : Option Bytes) :
    LoadError → Prop where
  | unreadable (noText : contents.bind Utf8.decode? = none) :
      FileFails clocks catalog contents .unreadable
  | script {source : String} {error : LoadError} (text : contents.bind Utf8.decode? = some source)
      (fails : Fails clocks catalog source error) : FileFails clocks catalog contents error

/-- The file holds a script, and the extensions are those of the types of the script. -/
def FileGives (clocks : Clocks) (catalog : OperationCatalog) (contents : Option Bytes)
    (es : List Extension) : Prop :=
  ∃ source program, contents.bind Utf8.decode? = some source ∧
    Script.Program.ofSource source = .ok program ∧ LoadedLaws clocks catalog program es

/-- A file fails to load exactly for one of the reasons. -/
theorem ofFile_eq_error {error : LoadError} :
    ofFile clocks catalog contents = .error error ↔ FileFails clocks catalog contents error := by
  unfold ofFile
  cases htext : contents.bind Utf8.decode? with
  | none =>
    constructor
    · intro h
      cases h
      exact .unreadable htext
    · intro h
      cases h with
      | unreadable => rfl
      | script text => cases htext.symm.trans text
  | some source =>
    refine ofSource_eq_error.trans ⟨.script htext, fun h => ?_⟩
    cases h with
    | unreadable noText => cases htext.symm.trans noText
    | script text fails =>
      cases htext.symm.trans text
      exact fails

/-- A file that loads gives the extensions of its script. -/
theorem fileGives_of_ofFile {es : List Extension} (h : ofFile clocks catalog contents = .ok es) :
    FileGives clocks catalog contents es := by
  obtain ⟨source, program, htext, hreads, hmade⟩ := ofFile_eq_ok.mp h
  exact ⟨source, program, htext, hreads, loadedLaws_of_ofProgram hmade⟩

end Extension

namespace Pipeline

variable {p next : Pipeline} {priority : Int} {e : Extension} {es : List Extension}
  {front block back : List Registered} {clocks : Extension.Clocks} {catalog : OperationCatalog}
  {contents : Option Bytes}

section Writing

/-- Steps that may write to a pipeline or fail, and leave what was written when they fail. -/
abbrev Writing (α : Type) := ExceptT Extension.LoadError (StateM Pipeline) α

/-- How the steps end from a pipeline on, and what they leave of it. -/
def Writing.from {α : Type} (steps : Writing α) (p : Pipeline) :
    Except Extension.LoadError α × Pipeline :=
  (ExceptT.run steps).run p

/-- A load, write by write: the file is read, and its extensions are registered one by one. -/
def loading (clocks : Extension.Clocks) (priority : Int) (catalog : OperationCatalog)
    (contents : Option Bytes) : Writing (List String) := do
  let es ← ofExcept (Extension.ofFile clocks catalog contents)
  es.forM fun e => modify fun p => p.register priority e
  return es.map (·.id)

/-- Extensions that are registered one by one are registered all. -/
theorem forM_register_from (priority : Int) (es : List Extension) (p : Pipeline) :
    Writing.from (es.forM fun e => modify fun p => p.register priority e) p =
      (.ok (), p.registerAll priority es) := by
  induction es generalizing p with
  | nil => rfl
  | cons e es ih => exact ih (p.register priority e)

/-- Write by write, a load ends as it does at once, and one that fails has written nothing. -/
theorem loading_from (clocks : Extension.Clocks) (priority : Int) (catalog : OperationCatalog)
    (contents : Option Bytes) (p : Pipeline) :
    Writing.from (loading clocks priority catalog contents) p =
      match p.load clocks priority catalog contents with
      | .ok (next, ids) => (.ok ids, next)
      | .error fault => (.error fault, p) := by
  unfold loading load
  cases Extension.ofFile clocks catalog contents with
  | error fault => rfl
  | ok es =>
    have hwrites := forM_register_from priority es p
    change Writing.from ((es.forM fun e => modify fun p => p.register priority e) >>=
      fun _ => pure (es.map (·.id))) p = (.ok (es.map (·.id)), p.registerAll priority es)
    simp only [Writing.from, ExceptT.run_bind, StateT.run_bind] at hwrites ⊢
    rw [hwrites]
    rfl

end Writing

/-- A load succeeds exactly where the file does, whose extensions it registers in turn. -/
theorem load_eq_ok {ids : List String} : p.load clocks priority catalog contents = .ok (next, ids) ↔
    ∃ es, Extension.ofFile clocks catalog contents = .ok es ∧ next = p.registerAll priority es ∧
      ids = es.map (·.id) := by
  rw [load, Fallible.bind_eq_ok]
  refine exists_congr fun es => and_congr_right fun _ => ?_
  rw [Fallible.pure_eq_ok, Prod.mk.injEq]
  exact and_congr eq_comm eq_comm

/-- The entries whose ids are not among some. -/
def without (ids : List String) (l : List Registered) : List Registered :=
  l.filter fun x => !ids.contains x.extension.id

/-- Leaving out one id and then others is leaving out all. -/
theorem without_cons (id : String) (ids : List String) (l : List Registered) :
    without (id :: ids) l = without ids (l.filter fun x => x.extension.id != id) := by
  unfold without
  rw [List.filter_filter]
  refine List.filter_congr fun x _ => ?_
  rw [List.contains_cons, Bool.not_or, Bool.and_comm]
  rfl

/-- The entries of a pipeline are parted around a priority. Those of the block have it, those
before do not have a higher one, and those behind do. -/
structure Parted (p : Pipeline) (priority : Int) (front block back : List Registered) : Prop where
  entries : p.entries = front ++ block ++ back
  front : ∀ x ∈ front, x.priority ≤ priority
  block : ∀ x ∈ block, x.priority = priority
  back : ∀ x ∈ back, priority < x.priority
  numbered : ∀ x ∈ p.entries, x.seq < p.nextSeq

/-- A new entry stands between the entries that do not have a higher priority and those that
do. -/
theorem place_append {r : Registered} {low high : List Registered}
    (hlow : ∀ x ∈ low, x.priority ≤ r.priority ∧ x.seq < r.seq)
    (hhigh : ∀ x ∈ high, r.priority < x.priority) :
    place r (low ++ high) = low ++ r :: high := by
  induction low with
  | nil =>
    cases high with
    | nil => rfl
    | cons x rest =>
      have hbefore : r.precedes x = true :=
        Registered.precedes_iff.mpr (.inl (hhigh x List.mem_cons_self))
      exact if_pos hbefore
  | cons x rest ih =>
    obtain ⟨hpriority, hseq⟩ := hlow x List.mem_cons_self
    have hbehind : ¬ r.precedes x = true := by
      rw [Registered.precedes_iff]
      omega
    rw [List.cons_append, place, if_neg hbehind, ih fun y hy => hlow y (List.mem_cons_of_mem _ hy)]
    rfl

/-- A registration at the priority joins the end of the block, if the block does not have the
id. -/
theorem Parted.register (h : p.Parted priority front block back)
    (hnew : ∀ x ∈ block, x.extension.id ≠ e.id) :
    (p.register priority e).Parted priority (front.filter fun x => x.extension.id != e.id)
      (block ++ [⟨priority, p.nextSeq, e⟩]) (back.filter fun x => x.extension.id != e.id) := by
  let new : Registered := ⟨priority, p.nextSeq, e⟩
  have hblock : block.filter (fun x => x.extension.id != e.id) = block := by
    rw [List.filter_eq_self]
    simpa using hnew
  have hrest : (p.remove e.id).entries =
      (front.filter (fun x => x.extension.id != e.id) ++ block) ++
        back.filter fun x => x.extension.id != e.id := by
    rw [remove, h.entries, List.filter_append, List.filter_append, hblock]
  have hlow : ∀ x ∈ front.filter (fun x => x.extension.id != e.id) ++ block,
      x.priority ≤ new.priority ∧ x.seq < new.seq := by
    intro x hx
    rcases List.mem_append.mp hx with hx | hx
    · have hfront := List.mem_of_mem_filter hx
      refine ⟨h.front x hfront, h.numbered x ?_⟩
      rw [h.entries]
      exact List.mem_append_left _ (List.mem_append_left _ hfront)
    · refine ⟨Int.le_of_eq (h.block x hx), h.numbered x ?_⟩
      rw [h.entries]
      exact List.mem_append_left _ (List.mem_append_right _ hx)
  have hhigh : ∀ x ∈ back.filter (fun x => x.extension.id != e.id), new.priority < x.priority :=
    fun x hx => h.back x (List.mem_of_mem_filter hx)
  constructor
  · change place new (p.remove e.id).entries = _
    rw [hrest, place_append hlow hhigh]
    simp [new]
  · exact fun x hx => h.front x (List.mem_of_mem_filter hx)
  · intro x hx
    rcases List.mem_append.mp hx with hx | hx
    · exact h.block x hx
    · rw [List.mem_singleton.mp hx]
  · exact hhigh
  · intro x hx
    change x ∈ place new (p.remove e.id).entries at hx
    change x.seq < p.nextSeq + 1
    rcases List.mem_cons.mp ((place_perm new _).mem_iff.mp hx) with rfl | hx
    · exact Nat.lt_succ_self _
    · exact Nat.lt_succ_of_lt (h.numbered x (List.mem_of_mem_filter hx))

/-- Registrations at the priority join the end of the block one after the other, and take the
places of their ids elsewhere. The induction is on the extensions; the block never has the id
of the next one. -/
theorem Parted.registerAll (h : p.Parted priority front block back)
    (hnew : ∀ x ∈ block, ∀ e ∈ es, x.extension.id ≠ e.id)
    (hdistinct : es.Pairwise fun x y => x.id ≠ y.id) :
    ∃ joined, joined.map (·.extension) = es ∧
      (p.registerAll priority es).Parted priority (without (es.map (·.id)) front)
        (block ++ joined) (without (es.map (·.id)) back) := by
  induction es generalizing p front block back with
  | nil =>
    refine ⟨[], rfl, ?_⟩
    simpa [without, Pipeline.registerAll] using h
  | cons e es ih =>
    obtain ⟨he, hes⟩ := List.pairwise_cons.mp hdistinct
    have hfirst := h.register (e := e) fun x hx => hnew x hx e List.mem_cons_self
    have hlater : ∀ x ∈ block ++ [⟨priority, p.nextSeq, e⟩], ∀ e' ∈ es,
        x.extension.id ≠ e'.id := by
      intro x hx e' he'
      rcases List.mem_append.mp hx with hx | hx
      · exact hnew x hx e' (List.mem_cons_of_mem _ he')
      · rw [List.mem_singleton.mp hx]
        exact he e' he'
    obtain ⟨joined, hjoined, hparted⟩ := ih hfirst hlater hes
    refine ⟨⟨priority, p.nextSeq, e⟩ :: joined, by rw [List.map_cons, hjoined], ?_⟩
    rw [List.map_cons, without_cons, without_cons]
    rw [List.append_assoc] at hparted
    exact hparted

/-- A pipeline that operations lead to is parted around every priority, with an empty block. -/
theorem exists_parted (ops : List Operation) (priority : Int) :
    ∃ front back, (({} : Pipeline).run ops).Parted priority front [] back := by
  obtain ⟨log, hlogged, -⟩ := reflects_run ops
  have hnumbered : ∀ x ∈ (({} : Pipeline).run ops).entries,
      x.seq < (({} : Pipeline).run ops).nextSeq := by
    intro x hx
    have hin : x.stateless ∈ log := hlogged.perm.mem_iff.mp (List.mem_map_of_mem hx)
    exact hlogged.bounded x.stateless hin
  have hordered := List.pairwise_map.mp hlogged.ordered
  let blank : Extension := { id := "", selector := [], hooks := .native none none }
  obtain ⟨front, back, hentries, -, hfront, hback⟩ :=
    exists_place_eq (r := ⟨priority, _, blank⟩) hordered hnumbered
  refine ⟨front, back, ?_, hfront, nofun, hback, hnumbered⟩
  rw [hentries, List.append_nil]

/-- The ids of entries without some ids are the ids without these. -/
theorem ids_without (ids : List String) (l : List Registered) :
    (without ids l).map (·.extension.id) =
      (l.map (·.extension.id)).filter fun id => !ids.contains id := by
  rw [without, List.filter_map]
  rfl

/-- The old entries and those of a file stand as a block among those that stay. The ones before
the block do not have a higher priority, and the ones behind it do. -/
structure Joined (p next : Pipeline) (priority : Int) (es : List Extension)
    (front block back : List Registered) : Prop where
  /-- The entries that stay are those before the block and those behind it. -/
  kept : without (es.map (·.id)) p.entries = front ++ back
  /-- The new order has the block between these. -/
  entries : next.entries = front ++ block ++ back
  /-- The block is the extensions of the file, in the order of the file. -/
  extensions : block.map (·.extension) = es
  /-- They have the priority of the load. -/
  priorities : ∀ x ∈ block, x.priority = priority
  /-- Before the block no priority is higher. -/
  front : ∀ x ∈ front, x.priority ≤ priority
  /-- Behind the block all priorities are higher. -/
  back : ∀ x ∈ back, priority < x.priority

/-- Extensions of distinct ids that are registered in turn join as a block. -/
theorem exists_joined (ops : List Operation) (priority : Int)
    (hdistinct : es.Pairwise fun x y => x.id ≠ y.id) :
    ∃ front block back, (({} : Pipeline).run ops).Joined
      ((({} : Pipeline).run ops).registerAll priority es) priority es front block back := by
  obtain ⟨front, back, hparted⟩ := exists_parted ops priority
  obtain ⟨block, hblock, hjoined⟩ := hparted.registerAll nofun hdistinct
  refine ⟨_, block, _, ?_, hjoined.entries, hblock, hjoined.block, hjoined.front, hjoined.back⟩
  rw [hparted.entries, List.append_nil, without, List.filter_append]
  rfl

/-- What holds of a load into a pipeline. -/
structure LoadingLaws (p : Pipeline) (clocks : Extension.Clocks) (priority : Int)
    (catalog : OperationCatalog) (contents : Option Bytes) : Prop where
  /-- A load fails exactly where the file does not give extensions, for whatever reason. -/
  fails_iff : ∀ fault, p.load clocks priority catalog contents = .error fault ↔
    Extension.ofFile clocks catalog contents = .error fault
  /-- It fails for the reasons for which there are none in the file. -/
  reasons : ∀ fault, p.load clocks priority catalog contents = .error fault ↔
    Extension.FileFails clocks catalog contents fault
  /-- A load that fails, write by write, leaves the pipeline as it was. -/
  refused : ∀ fault, p.load clocks priority catalog contents = .error fault →
    Writing.from (loading clocks priority catalog contents) p = (.error fault, p)
  /-- A load that succeeds, write by write, leaves the new pipeline. -/
  written : ∀ next ids, p.load clocks priority catalog contents = .ok (next, ids) →
    Writing.from (loading clocks priority catalog contents) p = (.ok ids, next)
  /-- The ids of a load ascend strictly. -/
  ascending : ∀ next ids, p.load clocks priority catalog contents = .ok (next, ids) →
    ids.Pairwise (· < ·)
  /-- The extensions of the file, which have these ids, join the entries of other ids as one
  block at the priority. -/
  block : ∀ next ids, p.load clocks priority catalog contents = .ok (next, ids) →
    ∃ es front block back, Extension.ofFile clocks catalog contents = .ok es ∧
      Extension.FileGives clocks catalog contents es ∧ ids = es.map (·.id) ∧
      p.Joined next priority es front block back
  /-- The new order of execution is the old one without the new ids, and has these as a block
  behind all that do not have a higher priority. -/
  order : ∀ next ids, p.load clocks priority catalog contents = .ok (next, ids) →
    ∃ front back : List Registered,
      p.ids.filter (fun id => !ids.contains id) =
        front.map (·.extension.id) ++ back.map (·.extension.id) ∧
      next.ids = front.map (·.extension.id) ++ ids ++ back.map (·.extension.id) ∧
      (∀ x ∈ front, x ∈ p.entries ∧ x.priority ≤ priority) ∧
      ∀ x ∈ back, x ∈ p.entries ∧ priority < x.priority

/-- A load fails where the file does. -/
theorem load_eq_error {fault : Extension.LoadError} :
    p.load clocks priority catalog contents = .error fault ↔
      Extension.ofFile clocks catalog contents = .error fault := by
  unfold load
  cases Extension.ofFile clocks catalog contents with
  | error other =>
    constructor <;>
    · intro h
      cases h
      rfl
  | ok es => exact ⟨nofun, nofun⟩

/-- Where a load succeeds, the file's extensions join as a block. -/
theorem joined_of_load {ids : List String} (ops : List Operation)
    (h : (({} : Pipeline).run ops).load clocks priority catalog contents = .ok (next, ids)) :
    ∃ es front block back, Extension.ofFile clocks catalog contents = .ok es ∧
      Extension.FileGives clocks catalog contents es ∧ ids = es.map (·.id) ∧
      (({} : Pipeline).run ops).Joined next priority es front block back := by
  obtain ⟨es, hes, rfl, rfl⟩ := load_eq_ok.mp h
  have hdistinct : es.Pairwise fun x y => x.id ≠ y.id :=
    (Extension.ascending_of_ofFile hes).imp fun hlt => Std.ne_of_lt hlt
  obtain ⟨front, block, back, hjoined⟩ := exists_joined ops priority hdistinct
  exact ⟨es, front, block, back, hes, Extension.fileGives_of_ofFile hes, rfl, hjoined⟩

/-- The order of the ids after extensions joined. -/
theorem Joined.order (h : p.Joined next priority es front block back) :
    p.ids.filter (fun id => !(es.map (·.id)).contains id) =
        front.map (·.extension.id) ++ back.map (·.extension.id) ∧
      next.ids = front.map (·.extension.id) ++ es.map (·.id) ++ back.map (·.extension.id) := by
  constructor
  · rw [ids, ← ids_without, h.kept, List.map_append]
  · rw [ids, h.entries, List.map_append, List.map_append, ← h.extensions, List.map_map]
    rfl

/-- What stays around the block was there before. -/
theorem Joined.mem (h : p.Joined next priority es front block back) :
    (∀ x ∈ front, x ∈ p.entries) ∧ ∀ x ∈ back, x ∈ p.entries := by
  have hkept : ∀ x ∈ front ++ back, x ∈ p.entries := by
    intro x hx
    rw [← h.kept] at hx
    exact List.mem_of_mem_filter hx
  exact ⟨fun x hx => hkept x (List.mem_append_left _ hx),
    fun x hx => hkept x (List.mem_append_right _ hx)⟩

/-- **A file is loaded as a whole.** Whatever happened to the pipeline before, a load that
fails leaves it as it was, and one that succeeds puts the extensions of the file, by ascending
ids, as one block where its priority ends. -/
theorem loadingLaws (ops : List Operation) (clocks : Extension.Clocks) (priority : Int)
    (catalog : OperationCatalog) (contents : Option Bytes) :
    LoadingLaws (({} : Pipeline).run ops) clocks priority catalog contents where
  fails_iff := fun _ => load_eq_error
  reasons := fun _ => load_eq_error.trans Extension.ofFile_eq_error
  refused := by
    intro fault h
    rw [loading_from, h]
  written := by
    intro next ids h
    rw [loading_from, h]
  ascending := by
    intro next ids h
    obtain ⟨es, hes, -, rfl⟩ := load_eq_ok.mp h
    exact List.pairwise_map.mpr (Extension.ascending_of_ofFile hes)
  block := fun next ids h => joined_of_load ops h
  order := by
    intro next ids h
    obtain ⟨es, front, block, back, -, -, rfl, hjoined⟩ := joined_of_load ops h
    obtain ⟨hrest, hids⟩ := hjoined.order
    obtain ⟨hfront, hback⟩ := hjoined.mem
    exact ⟨front, back, hrest, hids, fun x hx => ⟨hfront x hx, hjoined.front x hx⟩,
      fun x hx => ⟨hback x hx, hjoined.back x hx⟩⟩

end Pipeline

end CloudEmulator
