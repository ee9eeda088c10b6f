import ContractToolkit.Proofs.Interface.Documents
import Mathlib.Data.List.Nodup

/-!
# Members of an interface

What an interface has after members were added to it. A member takes the place
of those of its kind that have its signature, and leaves all others. So an
interface built up from nothing has only members that were added to it, and no
two of one kind and signature.
-/

namespace ContractToolkit.Interface

open Abi

/-- The kinds of members among which one can take the place of another. -/
inductive Kind where
  /-- Constructors. -/
  | constructor
  /-- Functions. -/
  | method
  /-- Events, with or without the digest of the signature in their logs. -/
  | event (anonymous : Bool)
  /-- Errors. -/
  | error
  deriving DecidableEq

namespace Member

/-- The kind of a member. -/
def kind : Member → Kind
  | constructor _ => .constructor
  | method _ => .method
  | event e => .event e.anonymous
  | error _ => .error

/-- The name of a member and the types of its parameters; a constructor has no name. -/
def title? : Member → Option (String × List Ty)
  | constructor _ => none
  | method m => some (m.name, tys m.inputs)
  | event e => some (e.name, e.types)
  | error e => some (e.name, tys e.inputs)

/-- The canonical signature of a member with a name. -/
def signature? : Member → Option String
  | constructor _ => none
  | method m => some m.signature
  | event e => some e.signature
  | error e => some e.signature

end Member

/-- Whether an interface has a member. -/
def Has (i : Interface) : Member → Prop
  | .constructor c => i.constructor? = some c
  | .method m => m ∈ i.methods
  | .event e => e ∈ i.events
  | .error e => e ∈ i.errors

/-- With a member added, an interface has that member and all others, except those of its kind and
signature. -/
theorem has_addTo (i : Interface) (d e : Member) :
    (d.addTo i).Has e ↔ e = d ∨ (i.Has e ∧ ¬ (e.kind = d.kind ∧ e.signature? = d.signature?)) := by
  cases d with
  | constructor c =>
    cases e <;> simp [Has, Member.addTo, setConstructor, Member.kind, Member.signature?, eq_comm]
  | method m =>
    cases e <;> simp [Has, Member.addTo, addMethod, Member.kind, Member.signature?, or_comm]
  | event f =>
    cases e <;> simp [Has, Member.addTo, addEvent, Member.kind, Member.signature?, or_comm,
      imp_iff_not_or]
  | error f =>
    cases e <;> simp [Has, Member.addTo, addError, Member.kind, Member.signature?, or_comm]

/-- An interface built up from another has only members of that one and those added to it. -/
theorem mem_of_has_foldl {members : List Member} {i : Interface} {e : Member}
    (h : (members.foldl Member.addTo i).Has e) : e ∈ members ∨ i.Has e := by
  induction members generalizing i with
  | nil => exact Or.inr h
  | cons d rest ih =>
    cases ih h with
    | inl hrest => exact Or.inl (List.mem_cons_of_mem _ hrest)
    | inr hadded =>
      cases (has_addTo i d e).mp hadded with
      | inl hd => exact Or.inl (hd ▸ List.mem_cons_self)
      | inr hkept => exact Or.inr hkept.1

/-- Nothing is a member of the empty interface. -/
theorem not_has_empty (e : Member) : ¬ empty.Has e := by
  cases e <;> simp [Has, empty]

/-- Members of an interface built up from declared ones are declared. -/
theorem declared_of_has {members : List Member} (hdeclared : ∀ d ∈ members, d.Declared)
    {e : Member} (h : (members.foldl Member.addTo empty).Has e) : e.Declared :=
  (mem_of_has_foldl h).elim (hdeclared e) (absurd · (not_has_empty e))

/-- An interface without two functions of one signature, two events of one signature that are alike
in whether they are anonymous, or two errors of one signature. -/
structure Distinct (i : Interface) : Prop where
  /-- No two functions have the same signature. -/
  methods : (i.methods.map Method.signature).Nodup
  /-- No two events are called the same and are alike in their topics. -/
  events : (i.events.map fun e => (e.signature, e.anonymous)).Nodup
  /-- No two errors have the same signature. -/
  errors : (i.errors.map CustomError.signature).Nodup

/-- Keys stay distinct when a member takes the place of those with its key. -/
theorem nodup_replace {α κ : Type} {key : α → κ} {kept : List α} {m : α}
    (hdistinct : (kept.map key).Nodup) (hother : ∀ other ∈ kept, key other ≠ key m) :
    ((kept ++ [m]).map key).Nodup := by
  rw [List.map_append, List.map_singleton, List.nodup_append]
  refine ⟨hdistinct, List.nodup_singleton _, ?_⟩
  intro k hk last hlast
  obtain ⟨other, hmem, rfl⟩ := List.mem_map.mp hk
  rw [List.mem_singleton.mp hlast]
  exact hother other hmem

/-- Members stay distinct when one is added. -/
theorem Distinct.addTo {i : Interface} (h : i.Distinct) (d : Member) : (d.addTo i).Distinct := by
  cases d with
  | constructor c => exact ⟨h.methods, h.events, h.errors⟩
  | method m =>
    refine ⟨nodup_replace (h.methods.sublist (List.filter_sublist.map _)) ?_, h.events, h.errors⟩
    intro other hother
    simpa using (List.mem_filter.mp hother).2
  | event e =>
    refine ⟨h.methods, nodup_replace (h.events.sublist (List.filter_sublist.map _)) ?_, h.errors⟩
    intro other hother hsame
    obtain ⟨hsignature, hanonymous⟩ := Prod.mk.inj hsame
    have hkept := (List.mem_filter.mp hother).2
    simp [hsignature, hanonymous] at hkept
  | error e =>
    refine ⟨h.methods, h.events, nodup_replace (h.errors.sublist (List.filter_sublist.map _)) ?_⟩
    intro other hother
    simpa using (List.mem_filter.mp hother).2

/-- Members of an interface built up from nothing are distinct. -/
theorem distinct_foldl (members : List Member) : (members.foldl Member.addTo empty).Distinct := by
  have hempty : empty.Distinct := ⟨List.nodup_nil, List.nodup_nil, List.nodup_nil⟩
  exact List.foldlRecOn members Member.addTo hempty fun i hi d _ => hi.addTo d

end ContractToolkit.Interface
