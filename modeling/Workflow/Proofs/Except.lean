import Mathlib.Data.List.Forall2

/-!
# Computations that may fail

A composed computation succeeds exactly when each of its parts does.

## Main definitions

* `map_eq_ok_iff`, `bind_eq_ok_iff` — when a composed computation succeeds, and with what.
* `map_eq_error_iff`, `bind_eq_error_iff` — when it fails, and with what.
* `ErrorIs P` — if a computation fails, its error has the property `P`.
* `SameOutcome R` — two computations fail with one error, or give what `R` relates.
* `error? x` — the error of a computation; that of many is the first error among them.
* `forall₂_of_mapM`, `mapM_eq_some_of_forall₂` — results stand in the order of what they were
  computed from.
* `IsFirst P as a` — `a` is the first of several with the property `P`.
-/

namespace Workflow

variable {ε α β : Type}

theorem map_eq_ok_iff {f : α → β} {x : Except ε α} {b : β} :
    x.map f = .ok b ↔ ∃ a, x = .ok a ∧ b = f a := by
  cases x <;> simp [Except.map, eq_comm]

theorem bind_eq_ok_iff {f : α → Except ε β} {x : Except ε α} {b : β} :
    x >>= f = .ok b ↔ ∃ a, x = .ok a ∧ f a = .ok b := by
  cases x <;> simp [bind, Except.bind]

theorem bind_eq_error_iff {f : α → Except ε β} {x : Except ε α} {e : ε} :
    x >>= f = .error e ↔ x = .error e ∨ ∃ a, x = .ok a ∧ f a = .error e := by
  cases x <;> simp [bind, Except.bind]

theorem mapError_eq_ok_iff {ε' : Type} {f : ε → ε'} {x : Except ε α} {a : α} :
    x.mapError f = .ok a ↔ x = .ok a := by
  cases x with
  | error e => exact ⟨nofun, nofun⟩
  | ok b => constructor <;> rintro ⟨⟩ <;> rfl

theorem mapError_eq_error_iff {ε' : Type} {f : ε → ε'} {x : Except ε α} {e' : ε'} :
    x.mapError f = .error e' ↔ ∃ e, x = .error e ∧ f e = e' := by
  cases x with
  | error e =>
      constructor
      · rintro ⟨⟩
        exact ⟨e, rfl, rfl⟩
      · rintro ⟨_, ⟨⟩, rfl⟩
        rfl
  | ok a => exact ⟨nofun, nofun⟩

theorem map_eq_error_iff {f : α → β} {x : Except ε α} {e : ε} :
    x.map f = .error e ↔ x = .error e := by
  cases x with
  | error e' => constructor <;> rintro ⟨⟩ <;> rfl
  | ok a => exact ⟨nofun, nofun⟩

theorem map_mapError {ε' : Type} (f : α → β) (g : ε → ε') (x : Except ε α) :
    (x.mapError g).map f = (x.map f).mapError g := by
  cases x <;> rfl

theorem eq_ok_of_toOption {x : Except ε α} {a : α} (found : x.toOption = some a) : x = .ok a := by
  cases x with
  | error e => cases found
  | ok b => exact congrArg Except.ok (Option.some.inj found)

/-! ## Errors -/

/-- If the computation fails, its error has a property. -/
def ErrorIs (P : ε → Prop) (x : Except ε α) : Prop := ∀ e, x = .error e → P e

theorem errorIs_ok {P : ε → Prop} (a : α) : ErrorIs P (.ok a : Except ε α) := nofun

theorem errorIs_error {P : ε → Prop} {e : ε} (holds : P e) :
    ErrorIs P (.error e : Except ε α) := by
  rintro _ ⟨⟩
  exact holds

theorem ErrorIs.map {P : ε → Prop} {x : Except ε α} (first : ErrorIs P x) (f : α → β) :
    ErrorIs P (x.map f) := by
  cases x with
  | error e => exact errorIs_error (first e rfl)
  | ok a => exact errorIs_ok (f a)

theorem errorIs_mapError {ε' : Type} {P : ε' → Prop} {f : ε → ε'} (holds : ∀ e, P (f e))
    (x : Except ε α) : ErrorIs P (x.mapError f) := by
  cases x with
  | error e => exact errorIs_error (holds e)
  | ok a => exact errorIs_ok a

theorem ErrorIs.bind {P : ε → Prop} {x : Except ε α} {f : α → Except ε β} (first : ErrorIs P x)
    (later : ∀ a, x = .ok a → ErrorIs P (f a)) : ErrorIs P (x >>= f) := by
  cases x with
  | error e => exact errorIs_error (first e rfl)
  | ok a => exact later a rfl

theorem ErrorIs.mapM {P : ε → Prop} {f : α → Except ε β} (each : ∀ a, ErrorIs P (f a))
    (as : List α) : ErrorIs P (as.mapM f) := by
  induction as with
  | nil => exact errorIs_ok []
  | cons a as ih =>
      rw [List.mapM_cons]
      exact (each a).bind fun b _ => ih.bind fun bs _ => errorIs_ok (b :: bs)

/-! ## Two computations -/

/-- Both computations fail, with one error, or both give something, and that is related. -/
inductive SameOutcome (R : α → α → Prop) : Except ε α → Except ε α → Prop
  | error (e : ε) : SameOutcome R (.error e) (.error e)
  | ok {a b : α} (related : R a b) : SameOutcome R (.ok a) (.ok b)

namespace SameOutcome
variable {R : α → α → Prop} {x y : Except ε α}

theorem bind {S : β → β → Prop} {f g : α → Except ε β} (first : SameOutcome R x y)
    (later : ∀ a b, R a b → SameOutcome S (f a) (g b)) : SameOutcome S (x >>= f) (y >>= g) := by
  cases first with
  | error e => exact .error e
  | ok related => exact later _ _ related

theorem map {S : β → β → Prop} {f g : α → β} (same : SameOutcome R x y)
    (keeps : ∀ a b, R a b → S (f a) (g b)) : SameOutcome S (x.map f) (y.map g) := by
  cases same with
  | error e => exact .error e
  | ok related => exact .ok (keeps _ _ related)

theorem mapError {ε' : Type} (same : SameOutcome R x y) (f : ε → ε') :
    SameOutcome R (x.mapError f) (y.mapError f) := by
  cases same with
  | error e => exact .error (f e)
  | ok related => exact .ok related

/-- What is equal for results that are related is equal for the computations. -/
theorem map_eq {f : α → β} (same : SameOutcome R x y) (equal : ∀ a b, R a b → f a = f b) :
    x.map f = y.map f := by
  cases same with
  | error e => rfl
  | ok related => exact congrArg Except.ok (equal _ _ related)

theorem isOk_eq (same : SameOutcome R x y) : x.isOk = y.isOk := by
  cases same <;> rfl

end SameOutcome

/-! ## The error of a computation -/

/-- The error of a computation, if it fails. -/
def error? : Except ε α → Option ε
  | .error e => some e
  | .ok _ => none

theorem error?_eq_some_iff {x : Except ε α} {e : ε} : error? x = some e ↔ x = .error e := by
  cases x <;> simp [error?]

theorem error?_eq_none_iff {x : Except ε α} : error? x = none ↔ ∃ a, x = .ok a := by
  cases x <;> simp [error?]

theorem error?_map (f : α → β) (x : Except ε α) : error? (x.map f) = error? x := by
  cases x <;> rfl

/-- Nothing fails behind a computation whose result is only put to use. -/
theorem error?_bind_pure (f : α → β) (x : Except ε α) :
    error? (x >>= fun a => pure (f a)) = error? x := by
  cases x <;> rfl

/-- What fails behind a computation with one error, whatever that gives, counts after it. -/
theorem error?_bind {f : α → Except ε β} {x : Except ε α} {later : Option ε}
    (next : ∀ a, error? (f a) = later) : error? (x >>= f) = (error? x).or later := by
  cases x with
  | error e => rfl
  | ok a => exact next a

/-! ## Many computations -/

/-- Of several computations the first that fails decides. -/
theorem error?_mapM (f : α → Except ε β) (as : List α) :
    error? (as.mapM f) = as.findSome? fun a => error? (f a) := by
  induction as with
  | nil => rfl
  | cons a as ih =>
      have rest : ∀ b, error? ((as.mapM f) >>= fun bs => pure (b :: bs)) =
          as.findSome? fun a => error? (f a) := by
        intro b
        rw [error?_bind_pure, ih]
      rw [List.mapM_cons, error?_bind rest, List.findSome?_cons]
      cases error? (f a) <;> rfl

/-- Results stand in the order of what they were computed from. -/
theorem forall₂_of_mapM {f : α → Except ε β} {as : List α} {bs : List β}
    (all : as.mapM f = .ok bs) : List.Forall₂ (fun a b => f a = .ok b) as bs := by
  induction as generalizing bs with
  | nil =>
      cases all
      exact .nil
  | cons a as ih =>
      rw [List.mapM_cons, bind_eq_ok_iff] at all
      obtain ⟨b, first, all⟩ := all
      obtain ⟨rest, later, all⟩ := bind_eq_ok_iff.mp all
      cases all
      exact .cons first (ih later)

/-- What holds of every single result holds of all results. -/
theorem forall_mem_of_mapM {f : α → Except ε β} {P : β → Prop} (each : ∀ a b, f a = .ok b → P b)
    {as : List α} {bs : List β} (all : as.mapM f = .ok bs) : ∀ b ∈ bs, P b := by
  have results := forall₂_of_mapM all
  clear all
  induction results with
  | nil => simp
  | cons first _ ih => exact List.forall_mem_cons.mpr ⟨each _ _ first, ih⟩

/-- What is given for every single one is given for all. -/
theorem mapM_eq_some_of_forall₂ {f : α → Option β} {as : List α} {bs : List β}
    (each : List.Forall₂ (fun a b => f a = some b) as bs) : as.mapM f = some bs := by
  induction each with
  | nil => rfl
  | cons first _ ih => simp [List.mapM_cons, first, ih]

/-- What was given for all was given for every single one. -/
theorem forall₂_of_mapM_eq_some {f : α → Option β} {as : List α} {bs : List β}
    (all : as.mapM f = some bs) : List.Forall₂ (fun a b => f a = some b) as bs := by
  induction as generalizing bs with
  | nil =>
      cases all
      exact .nil
  | cons a as ih =>
      rw [List.mapM_cons] at all
      obtain ⟨b, first, all⟩ := Option.bind_eq_some_iff.mp all
      obtain ⟨rest, later, all⟩ := Option.bind_eq_some_iff.mp all
      cases all
      exact .cons first (ih later)

/-- What holds where a single one is given holds where all are given. -/
theorem forall_mem_of_mapM_eq_some {f : α → Option β} {P : α → Prop} {Q : β → Prop}
    (each : ∀ a b, f a = some b → P a ∧ Q b) {as : List α} {bs : List β}
    (all : as.mapM f = some bs) : (∀ a ∈ as, P a) ∧ ∀ b ∈ bs, Q b := by
  have results := forall₂_of_mapM_eq_some all
  clear all
  induction results with
  | nil => simp
  | cons first _ ih =>
      obtain ⟨here, there⟩ := each _ _ first
      exact ⟨List.forall_mem_cons.mpr ⟨here, ih.1⟩, List.forall_mem_cons.mpr ⟨there, ih.2⟩⟩

theorem mapM_eq_some {f : α → Option β} {g : α → β} {as : List α}
    (each : ∀ a ∈ as, f a = some (g a)) : as.mapM f = some (as.map g) :=
  mapM_eq_some_of_forall₂ (List.forall₂_map_right_iff.mpr (List.forall₂_same.mpr each))

/-! ## The first of several -/

/-- `a` is the first of several with the property `P`. -/
def IsFirst (P : α → Prop) (as : List α) (a : α) : Prop :=
  ∃ front back, as = front ++ a :: back ∧ P a ∧ ∀ b ∈ front, ¬ P b

theorem not_isFirst_nil {P : α → Prop} {a : α} : ¬ IsFirst P [] a := by
  rintro ⟨front, back, whole, -⟩
  simp at whole

theorem isFirst_cons_iff {P : α → Prop} {a b : α} {as : List α} :
    IsFirst P (a :: as) b ↔ (P a ∧ b = a) ∨ (¬ P a ∧ IsFirst P as b) := by
  constructor
  · rintro ⟨front, back, whole, holds, none⟩
    cases front with
    | nil =>
        cases whole
        exact .inl ⟨holds, rfl⟩
    | cons head front =>
        cases whole
        obtain ⟨here, later⟩ := List.forall_mem_cons.mp none
        exact .inr ⟨here, front, back, rfl, holds, later⟩
  · rintro (⟨holds, rfl⟩ | ⟨here, front, back, rfl, holds, later⟩)
    · exact ⟨[], as, rfl, holds, by simp⟩
    · exact ⟨a :: front, back, rfl, holds, List.forall_mem_cons.mpr ⟨here, later⟩⟩

theorem find?_eq_some_iff_isFirst {p : α → Bool} {as : List α} {a : α} :
    as.find? p = some a ↔ IsFirst (p · = true) as a := by
  rw [List.find?_eq_some_iff_append, IsFirst]
  constructor
  · rintro ⟨holds, front, back, whole, none⟩
    exact ⟨front, back, whole, holds, by simpa using none⟩
  · rintro ⟨front, back, whole, holds, none⟩
    exact ⟨holds, front, back, whole, by simpa using none⟩

end Workflow
