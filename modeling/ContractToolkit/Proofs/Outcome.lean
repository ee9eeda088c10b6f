import ContractToolkit.Error
import Mathlib.Data.List.Forall2

/-!
# Outcomes of steps in a row

When a row of steps succeeds, and what it can fail with. Each operation states
once which results it has and which failures it allows; a row of operations
inherits both from its steps.
-/

namespace ContractToolkit

variable {α β : Type}

namespace Outcome

/-- A row of two steps succeeds exactly when both do, whatever they may fail with. -/
theorem bind_eq_ok {ε : Type} {x : Except ε α} {f : α → Except ε β} {b : β} :
    (x >>= f) = .ok b ↔ ∃ a, x = .ok a ∧ f a = .ok b := by
  cases x with
  | error e =>
    constructor
    · intro h
      cases h
    · rintro ⟨a, h, -⟩
      cases h
  | ok a =>
    constructor
    · intro h
      exact ⟨a, rfl, h⟩
    · rintro ⟨c, hc, h⟩
      cases hc
      exact h

/-- A row of two steps fails where the first one does, or where the second one does with its result.
-/
theorem bind_eq_error {ε : Type} {x : Except ε α} {f : α → Except ε β} {e : ε} :
    (x >>= f) = .error e ↔ x = .error e ∨ ∃ a, x = .ok a ∧ f a = .error e := by
  cases x with
  | error fault =>
    constructor
    · intro h
      cases h
      exact Or.inl rfl
    · rintro (h | ⟨a, h, -⟩)
      · cases h
        rfl
      · cases h
  | ok a =>
    constructor
    · intro h
      exact Or.inr ⟨a, rfl, h⟩
    · rintro (h | ⟨b, h, hb⟩)
      · cases h
      · cases h
        exact hb

/-- A test in front of a step: both have to succeed. -/
theorem test_eq_ok {ε : Type} {x : Except ε Unit} {y : Except ε β} {b : β} :
    (x >>= fun _ => y) = .ok b ↔ x = .ok () ∧ y = .ok b := by
  rw [bind_eq_ok]
  constructor
  · rintro ⟨⟨⟩, hx, hy⟩
    exact ⟨hx, hy⟩
  · rintro ⟨hx, hy⟩
    exact ⟨(), hx, hy⟩

/-- The last step of a row only hands its result on. -/
theorem pure_eq_ok {ε : Type} {a b : α} : (pure a : Except ε α) = .ok b ↔ a = b := by
  constructor
  · intro h
    cases h
    rfl
  · rintro rfl
    rfl

/-- Changing the result of a step needs a result. -/
theorem map_eq_ok {ε : Type} {x : Except ε α} {f : α → β} {b : β} :
    x.map f = .ok b ↔ ∃ a, x = .ok a ∧ f a = b := by
  cases x with
  | error e =>
    constructor
    · intro h
      cases h
    · rintro ⟨a, h, -⟩
      cases h
  | ok a =>
    constructor
    · intro h
      cases h
      exact ⟨a, rfl, rfl⟩
    · rintro ⟨c, hc, rfl⟩
      cases hc
      rfl

/-- A refused declaration stays refused as an outcome. -/
theorem ofDescriptor_eq_ok {x : Except Abi.DescriptorFault α} {a : α} :
    ofDescriptor x = .ok a ↔ x = .ok a := by
  cases x with
  | ok b => simp [ofDescriptor]
  | error fault => simp [ofDescriptor]

/-- A list is read exactly when its members are, one result belonging to each of them. -/
theorem mapM_eq_ok {ε : Type} {read : α → Except ε β} {as : List α} {bs : List β} :
    as.mapM read = .ok bs ↔ ∃ members : List (α × β), as = members.map Prod.fst ∧
      bs = members.map Prod.snd ∧ ∀ m ∈ members, read m.1 = .ok m.2 := by
  induction as generalizing bs with
  | nil =>
    rw [List.mapM_nil, pure_eq_ok]
    constructor
    · rintro rfl
      exact ⟨[], rfl, rfl, fun _ h => absurd h List.not_mem_nil⟩
    · rintro ⟨members, hempty, rfl, -⟩
      rw [List.map_eq_nil_iff.mp hempty.symm, List.map_nil]
  | cons a rest ih =>
    simp only [List.mapM_cons, bind_eq_ok, pure_eq_ok, ih]
    constructor
    · rintro ⟨b, hfirst, -, ⟨members, rfl, rfl, hmembers⟩, rfl⟩
      exact ⟨(a, b) :: members, rfl, rfl, List.forall_mem_cons.mpr ⟨hfirst, hmembers⟩⟩
    · rintro ⟨members, has, rfl, hmembers⟩
      cases members with
      | nil => cases has
      | cons m members =>
        obtain ⟨rfl, rfl⟩ := List.cons.inj has
        obtain ⟨hfirst, hrest⟩ := List.forall_mem_cons.mp hmembers
        exact ⟨m.2, hfirst, members.map Prod.snd, ⟨members, rfl, rfl, hrest⟩, rfl⟩

/-- A list is read exactly when its members are read one by one. -/
theorem mapM_eq_ok_iff_forall₂ {ε : Type} {read : α → Except ε β} {as : List α} {bs : List β} :
    as.mapM read = .ok bs ↔ List.Forall₂ (fun a b => read a = .ok b) as bs := by
  rw [mapM_eq_ok]
  constructor
  · rintro ⟨members, rfl, rfl, hmembers⟩
    rw [List.forall₂_map_left_iff, List.forall₂_map_right_iff, List.forall₂_same]
    exact hmembers
  · intro h
    induction h with
    | nil => exact ⟨[], rfl, rfl, fun _ hm => absurd hm List.not_mem_nil⟩
    | @cons a b as bs hfirst _ ih =>
      obtain ⟨members, rfl, rfl, hmembers⟩ := ih
      exact ⟨(a, b) :: members, rfl, rfl, List.forall_mem_cons.mpr ⟨hfirst, hmembers⟩⟩

/-- A list is not read exactly when one of its members is not, and the first of these is told. -/
theorem mapM_eq_error {ε : Type} {read : α → Except ε β} {as : List α} {error : ε} :
    as.mapM read = .error error ↔ ∃ before a after, as = before ++ a :: after ∧
      (∀ b ∈ before, ∃ result, read b = .ok result) ∧ read a = .error error := by
  induction as with
  | nil =>
    rw [List.mapM_nil]
    constructor
    · intro h
      cases h
    · rintro ⟨before, a, after, hempty, -⟩
      cases before <;> cases hempty
  | cons first rest ih =>
    rw [List.mapM_cons]
    cases hfirst : read first with
    | error other =>
      constructor
      · intro h
        cases h
        exact ⟨[], first, rest, rfl, fun _ hb => absurd hb List.not_mem_nil, hfirst⟩
      · rintro ⟨before, a, after, hsplit, hbefore, ha⟩
        cases before with
        | nil =>
          obtain ⟨rfl, -⟩ := List.cons.inj hsplit
          rw [hfirst] at ha
          cases ha
          rfl
        | cons b before =>
          -- A member before the one that is told would have been read.
          obtain ⟨rfl, -⟩ := List.cons.inj hsplit
          obtain ⟨result, hresult⟩ := hbefore first List.mem_cons_self
          rw [hfirst] at hresult
          cases hresult
    | ok result =>
      have hrest : (Except.ok result >>= fun b => rest.mapM read >>= fun bs => pure (b :: bs)) =
          Except.error error ↔ rest.mapM read = .error error := by
        cases rest.mapM read with
        | ok results => exact ⟨fun h => (by cases h), fun h => (by cases h)⟩
        | error other => exact ⟨fun h => (by cases h; rfl), fun h => (by cases h; rfl)⟩
      rw [hrest, ih]
      constructor
      · rintro ⟨before, a, after, rfl, hbefore, ha⟩
        exact ⟨first :: before, a, after, rfl,
          List.forall_mem_cons.mpr ⟨⟨result, hfirst⟩, hbefore⟩, ha⟩
      · rintro ⟨before, a, after, hsplit, hbefore, ha⟩
        cases before with
        | nil =>
          obtain ⟨rfl, -⟩ := List.cons.inj hsplit
          rw [hfirst] at ha
          cases ha
        | cons b before =>
          obtain ⟨-, rfl⟩ := List.cons.inj hsplit
          exact ⟨before, a, after, rfl, (List.forall_mem_cons.mp hbefore).2, ha⟩

/-- A list is read member by member, whatever its members were written from. -/
theorem mapM_map_eq_map {γ ε : Type} {read : β → Except ε γ} {write : α → β} {result : α → γ}
    {as : List α} (h : ∀ a ∈ as, read (write a) = .ok (result a)) :
    (as.map write).mapM read = .ok (as.map result) := by
  have hwritten : as.map write = (as.map fun a => (write a, result a)).map Prod.fst := by
    rw [List.map_map]
    rfl
  have hresult : as.map result = (as.map fun a => (write a, result a)).map Prod.snd := by
    rw [List.map_map]
    rfl
  exact mapM_eq_ok.mpr ⟨_, hwritten, hresult, List.forall_mem_map.mpr h⟩

/-- A list is read back when each of its members is read back from what it was written as. -/
theorem mapM_map_eq_ok {ε : Type} {read : β → Except ε α} {write : α → β} {as : List α}
    (h : ∀ a ∈ as, read (write a) = .ok a) : (as.map write).mapM read = .ok as := by
  have hread : (as.map write).mapM read = .ok (as.map id) := mapM_map_eq_map h
  rw [List.map_id] at hread
  exact hread

/-- Steps over what members were written as, each of which succeeds, build up the same result as
steps over the members. -/
theorem foldlM_map_eq_ok {γ ε : Type} {step : γ → β → Except ε γ} {write : α → β}
    {add : γ → α → γ} {as : List α} (h : ∀ c, ∀ a ∈ as, step c (write a) = .ok (add c a))
    (start : γ) : (as.map write).foldlM step start = .ok (as.foldl add start) := by
  induction as generalizing start with
  | nil => rfl
  | cons a rest ih =>
    have hfirst := h start a List.mem_cons_self
    have hrest := ih fun c b hb => h c b (List.mem_cons_of_mem _ hb)
    rw [List.map_cons, List.foldlM_cons, hfirst, List.foldl_cons]
    exact hrest (add start a)

/-- Whatever an operation fails with is of a kind. -/
def FailsWith (P : Error → Prop) (x : Outcome α) : Prop := ∀ e, x = .error e → P e

namespace FailsWith

variable {P Q : Error → Prop}

/-- A success does not fail. -/
theorem ok (a : α) : FailsWith P (.ok a : Outcome α) := by
  intro e h
  cases h

/-- A failure is of its kind. -/
theorem error {e : Error} (h : P e) : FailsWith P (.error e : Outcome α) := by
  intro e' h'
  cases h'
  exact h

/-- A row fails as one of its steps does, the second being taken only after the first succeeds. -/
theorem bind {x : Outcome α} {f : α → Outcome β} (hx : FailsWith P x)
    (hf : ∀ a, x = .ok a → FailsWith P (f a)) : FailsWith P (x >>= f) := by
  intro e h
  cases x with
  | error e' =>
    cases h
    exact hx e rfl
  | ok a => exact hf a rfl e h

/-- Changing the result of a step leaves its failures. -/
theorem map {x : Outcome α} (h : FailsWith P x) (f : α → β) : FailsWith P (x.map f) := by
  cases x with
  | error e => exact .error (h e rfl)
  | ok a => exact .ok (f a)

/-- A kind of failure lies in every kind that holds it. -/
theorem mono {x : Outcome α} (h : FailsWith P x) (hPQ : ∀ e, P e → Q e) : FailsWith Q x :=
  fun e he => hPQ e (h e he)

end FailsWith

end Outcome

end ContractToolkit
