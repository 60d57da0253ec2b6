import Mathlib.Data.List.Forall2
import SchemaBridge.Error

/-!
# Results of conversions

A chain of conversions succeeds if every link does, and fails with the error of the first link that fails.
These equivalences take such a chain apart, so that no proof about a conversion has to split on the ways in
which it fails. `dottedPath` is the path that an error gets on its way out of enclosing members.
-/

namespace SchemaBridge

variable {ε ε' α β : Type} {r : Except ε α} {a : α} {b : β}

theorem bind_eq_ok_iff {f : α → Except ε β} : (r >>= f) = .ok b ↔ ∃ a, r = .ok a ∧ f a = .ok b := by
  cases r <;> simp [bind, Except.bind]

theorem bind_eq_error_iff {f : α → Except ε β} {e : ε} :
    (r >>= f) = .error e ↔ r = .error e ∨ ∃ a, r = .ok a ∧ f a = .error e := by
  cases r <;> simp [bind, Except.bind]

theorem ok_bind {f : α → Except ε β} : (Except.ok a >>= f) = f a :=
  rfl

theorem ite_error_eq_ok_iff {c : Prop} [Decidable c] {e : ε} :
    (if c then r else .error e) = .ok a ↔ c ∧ r = .ok a := by
  by_cases hc : c <;> simp [hc]

theorem pure_eq_ok_iff {a' : α} : (pure a : Except ε α) = .ok a' ↔ a' = a := by
  simp [pure, Except.pure, eq_comm]

theorem map_eq_ok_iff {f : α → β} : r.map f = .ok b ↔ ∃ a, r = .ok a ∧ b = f a := by
  cases r <;> simp [Except.map, eq_comm]

theorem map_eq_error_iff {f : α → β} {e : ε} : r.map f = .error e ↔ r = .error e := by
  cases r <;> simp [Except.map]

theorem mapError_eq_ok_iff {f : ε → ε'} : r.mapError f = .ok a ↔ r = .ok a := by
  cases r with
  | error e => constructor <;> intro h <;> cases h
  | ok a' => constructor <;> intro h <;> cases h <;> rfl

theorem mapError_eq_error_iff {f : ε → ε'} {e' : ε'} :
    r.mapError f = .error e' ↔ ∃ e, r = .error e ∧ e' = f e := by
  cases r <;> simp [Except.mapError, eq_comm]

/-- A list is converted item by item. -/
theorem mapM_eq_ok_iff {f : α → Except ε β} {as : List α} {bs : List β} :
    as.mapM f = .ok bs ↔ as.Forall₂ (f · = .ok ·) bs := by
  induction as generalizing bs with
  | nil =>
    rw [List.mapM_nil, pure_eq_ok_iff]
    exact ⟨fun h => h ▸ .nil, fun h => by cases h; rfl⟩
  | cons a as ih =>
    rw [List.mapM_cons, bind_eq_ok_iff]
    simp only [bind_eq_ok_iff, pure_eq_ok_iff, ih]
    constructor
    · rintro ⟨b, hb, bs, hbs, rfl⟩
      exact .cons hb hbs
    · rintro (_ | ⟨hb, hbs⟩)
      exact ⟨_, hb, _, hbs, rfl⟩

theorem within_eq_ok_iff {segment : String} {r : Except SchemaError α} :
    within segment r = .ok a ↔ r = .ok a :=
  mapError_eq_ok_iff

theorem within_eq_error_iff {segment : String} {r : Except SchemaError α} {e : SchemaError} :
    within segment r = .error e ↔ ∃ e', r = .error e' ∧ e = e'.within segment :=
  mapError_eq_error_iff

/-! ## Paths -/

/-- The path of an error that has passed through these members, the outermost one first. -/
def dottedPath : List String → String
  | [] => ""
  | name :: names => joinPath name (dottedPath names)

theorem dottedPath_append (names names' : List String) :
    dottedPath (names ++ names') = names.foldr joinPath (dottedPath names') := by
  induction names with
  | nil => rfl
  | cons name names ih => rw [List.cons_append, dottedPath, ih, List.foldr_cons]

theorem dottedPath_eq_empty_iff {names : List String} (h : "" ∉ names) :
    dottedPath names = "" ↔ names = [] := by
  cases names with
  | nil => simp [dottedPath]
  | cons name names =>
    have hname : name ≠ "" := fun hn => h (hn ▸ List.mem_cons_self ..)
    unfold dottedPath joinPath
    split <;> simp [hname]

/-- Names that are present are joined by dots. -/
theorem dottedPath_eq_intercalate {names : List String} (h : "" ∉ names) :
    dottedPath names = ".".intercalate names := by
  induction names with
  | nil => rfl
  | cons name names ih =>
    have htail : "" ∉ names := fun hn => h (List.mem_cons_of_mem _ hn)
    unfold dottedPath joinPath
    cases names with
    | nil => rfl
    | cons name' names =>
      rw [if_neg (mt (dottedPath_eq_empty_iff htail).1 (List.cons_ne_nil name' names)), ih htail,
        String.intercalate_cons_cons]

end SchemaBridge
