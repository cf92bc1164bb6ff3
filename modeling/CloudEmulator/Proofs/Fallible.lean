import Mathlib.Data.List.Forall2

/-!
# Steps that may fail

What the success of a computation made of several steps says about the steps.
-/

namespace CloudEmulator.Fallible

universe u v w

variable {ε : Type u} {α β : Type v}

/-- Two steps in a row succeed exactly when each does. -/
theorem bind_eq_ok {x : Except ε α} {f : α → Except ε β} {b : β} :
    (x >>= f) = .ok b ↔ ∃ a, x = .ok a ∧ f a = .ok b := by
  cases x <;> simp [bind, Except.bind]

/-- Two steps in a row fail exactly when the first does, or the second after it. -/
theorem bind_eq_error {x : Except ε α} {f : α → Except ε β} {e : ε} :
    (x >>= f) = .error e ↔ x = .error e ∨ ∃ a, x = .ok a ∧ f a = .error e := by
  cases x <;> simp [bind, Except.bind]

/-- What is made of the outcome of a step is there exactly when the step succeeds. -/
theorem map_eq_ok {x : Except ε α} {f : α → β} {b : β} :
    x.map f = .ok b ↔ ∃ a, x = .ok a ∧ f a = b := by
  cases x <;> simp [Except.map]

/-- There is an outcome exactly where the computation succeeds with it. -/
theorem toOption_eq_some {γ : Type w} {x : Except ε γ} {a : γ} :
    x.toOption = some a ↔ x = .ok a := by
  cases x <;> simp [Except.toOption]

/-- Why a computation fails, if it does. -/
def fault? {γ : Type w} : Except ε γ → Option ε
  | .ok _ => none
  | .error e => some e

/-- There is a fault exactly where the computation fails with it. -/
theorem fault?_eq_some {γ : Type w} {x : Except ε γ} {e : ε} :
    fault? x = some e ↔ x = .error e := by
  cases x <;> simp [fault?]

/-- A failure is no success. -/
theorem throw_ne_ok {e : ε} {a : α} : (throw e : Except ε α) ≠ .ok a := nofun

/-- Doing nothing succeeds with what is given. -/
theorem pure_eq_ok {a b : α} : (pure a : Except ε α) = .ok b ↔ a = b :=
  ⟨Except.ok.inj, congrArg Except.ok⟩

/-- A loop of checks succeeds exactly when every check passes. -/
theorem forIn_checks_eq_ok {γ : Type w} {xs : List γ} {bad : γ → Bool} {fault : γ → ε} :
    (forIn xs PUnit.unit fun x _ =>
      if bad x then do
        throw (fault x)
        pure (ForInStep.yield PUnit.unit)
      else pure (ForInStep.yield PUnit.unit) : Except ε PUnit) = .ok PUnit.unit ↔
      ∀ x ∈ xs, bad x = false := by
  induction xs with
  | nil => simp [pure_eq_ok]
  | cons x xs ih =>
    cases hx : bad x with
    | true =>
      simp only [List.forIn_cons, hx, if_true, List.forall_mem_cons, Bool.true_eq_false, false_and,
        iff_false]
      exact throw_ne_ok
    | false => simpa [List.forIn_cons, hx] using ih

section Each

variable {γ : Type w} {f : γ → Except ε β} {xs : List γ} {ys : List β}

/-- A step for every element succeeds with what comes out of it for each. -/
theorem mapM_eq_ok : xs.mapM f = .ok ys ↔ List.Forall₂ (fun x y => f x = .ok y) xs ys := by
  induction xs generalizing ys with
  | nil =>
    rw [List.mapM_nil, pure_eq_ok, List.forall₂_nil_left_iff]
    exact eq_comm
  | cons x xs ih =>
    simp only [List.mapM_cons, bind_eq_ok, pure_eq_ok, ih, List.forall₂_cons_left_iff]
    constructor
    · rintro ⟨y, hy, ys, hys, rfl⟩
      exact ⟨y, ys, hy, hys, rfl⟩
    · rintro ⟨y, ys, hy, hys, rfl⟩
      exact ⟨y, hy, ys, hys, rfl⟩

/-- A step for every element fails as it does for the first element for which it fails. -/
theorem mapM_eq_error {e : ε} : xs.mapM f = .error e ↔ ∃ front x later,
    xs = front ++ x :: later ∧ (∀ y ∈ front, ∃ z, f y = .ok z) ∧ f x = .error e := by
  induction xs with
  | nil =>
    rw [List.mapM_nil]
    constructor
    · nofun
    · rintro ⟨front, x, later, hxs, -⟩
      simp at hxs
  | cons x xs ih =>
    rw [List.mapM_cons, bind_eq_error]
    constructor
    · rintro (hx | ⟨y, hy, hrest⟩)
      · exact ⟨[], x, xs, rfl, nofun, hx⟩
      · rcases bind_eq_error.mp hrest with hrest | ⟨_, -, hpure⟩
        · obtain ⟨front, x', later, rfl, hfront, hx'⟩ := ih.mp hrest
          exact ⟨x :: front, x', later, rfl, List.forall_mem_cons.mpr ⟨⟨y, hy⟩, hfront⟩, hx'⟩
        · cases hpure
    · rintro ⟨front, x', later, hxs, hfront, hx'⟩
      cases front with
      | nil =>
        cases hxs
        exact .inl hx'
      | cons first front =>
        cases hxs
        obtain ⟨⟨y, hy⟩, hfront⟩ := List.forall_mem_cons.mp hfront
        have hrest := ih.mpr ⟨front, x', later, rfl, hfront, hx'⟩
        exact .inr ⟨y, hy, bind_eq_error.mpr (.inl hrest)⟩

/-- In related lists, every element of the first has one of the second. -/
theorem exists_of_forall₂ {α : Type u} {β : Type v} {related : α → β → Prop} {xs : List α}
    {ys : List β} (h : List.Forall₂ related xs ys) {x : α} (hx : x ∈ xs) :
    ∃ y ∈ ys, related x y := by
  induction h with
  | nil => cases hx
  | cons hfirst _ ih =>
    rcases List.mem_cons.mp hx with rfl | hx
    · exact ⟨_, List.mem_cons_self, hfirst⟩
    · obtain ⟨y, hy, hrelated⟩ := ih hx
      exact ⟨y, List.mem_cons_of_mem _ hy, hrelated⟩

/-- What goes into a step for every element has an outcome among those. -/
theorem exists_mem_of_mapM (h : xs.mapM f = .ok ys) {x : γ} (hx : x ∈ xs) :
    ∃ y ∈ ys, f x = .ok y :=
  exists_of_forall₂ (mapM_eq_ok.mp h) hx

/-- What comes out of a step for every element is the outcome for some element. -/
theorem exists_of_mem_mapM (h : xs.mapM f = .ok ys) {y : β} (hy : y ∈ ys) :
    ∃ x ∈ xs, f x = .ok y :=
  exists_of_forall₂ (mapM_eq_ok.mp h).flip hy

end Each

end CloudEmulator.Fallible
