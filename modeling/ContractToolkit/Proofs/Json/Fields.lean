import ContractToolkit.Json.Basic
import Mathlib.Data.List.Induction
import Mathlib.Data.List.Nodup

/-!
# Fields of free-form objects

A free-form object is made by setting its fields one after another. The field
that is set last under a key is the one that is found there, so where keys are
distinct nothing is lost: the object has the fields that it was made of, in
another order.
-/

namespace ContractToolkit.Json

variable {key k : String} {value : Json} {fields : List (String × Json)}

/-- The first field is found under its key, and the others under theirs. -/
theorem field?_cons (first : String × Json) (rest : List (String × Json)) :
    (object (first :: rest)).field? k =
      if first.1 = k then some first.2 else (object rest).field? k := by
  rw [field?, List.find?_cons]
  by_cases hfirst : first.1 = k
  · simp [hfirst]
  · simp [hfirst, field?]

/-- A field that is set is found under its key, and all others under theirs. -/
theorem field?_put : (object (put key value fields)).field? k =
    if key = k then some value else (object fields).field? k := by
  induction fields with
  | nil => exact field?_cons (key, value) []
  | cons first rest ih =>
    rw [put]
    split
    · exact field?_cons (key, value) (first :: rest)
    · split
      · rename_i hsame
        rw [field?_cons, field?_cons, ← hsame]
        by_cases hkey : key = k
        · rw [if_pos hkey, if_pos hkey]
        · rw [if_neg hkey, if_neg hkey, if_neg hkey]
      · rename_i hother
        rw [field?_cons, field?_cons, ih]
        by_cases hkey : key = k
        · rw [if_neg fun hfirst => hother (hkey.trans hfirst.symm), if_pos hkey, if_pos hkey]
        · rw [if_neg hkey, if_neg hkey]

/-- The field that is set last is found under its key, and all others under theirs. -/
theorem field?_ofFields_concat : (ofFields (fields ++ [(key, value)])).field? k =
    if key = k then some value else (ofFields fields).field? k := by
  rw [ofFields, sortedFields, List.foldl_append]
  exact field?_put

/-- A field is found under its key when none is set there afterwards. -/
theorem field?_ofFields_last {before after : List (String × Json)}
    (h : ∀ field ∈ after, field.1 ≠ key) :
    (ofFields (before ++ (key, value) :: after)).field? key = some value := by
  induction after using List.reverseRecOn with
  | nil => rw [field?_ofFields_concat, if_pos rfl]
  | append_singleton after last ih =>
    obtain ⟨hafter, hlast⟩ := List.forall_mem_append.mp h
    rw [← List.cons_append, ← List.append_assoc, field?_ofFields_concat,
      if_neg (hlast last List.mem_cons_self)]
    exact ih hafter

/-- A field is found under its key when no other one has it. -/
theorem field?_ofFields_of_mem (hkeys : (fields.map Prod.fst).Nodup)
    (h : (key, value) ∈ fields) : (ofFields fields).field? key = some value := by
  obtain ⟨before, after, rfl⟩ := List.append_of_mem h
  rw [List.map_append, List.map_cons, List.nodup_append] at hkeys
  have hafter := (List.nodup_cons.mp hkeys.2.1).1
  refine field?_ofFields_last fun field hfield hsame => hafter ?_
  have hother : field.1 ∈ after.map Prod.fst := List.mem_map_of_mem hfield
  exact hsame ▸ hother

/-- A field under a new key is added to the others. -/
theorem put_perm (h : key ∉ fields.map Prod.fst) :
    (put key value fields).Perm ((key, value) :: fields) := by
  induction fields with
  | nil => exact .refl _
  | cons first rest ih =>
    rw [List.map_cons, List.mem_cons, not_or] at h
    rw [put]
    split
    · exact .refl _
    · rw [if_neg h.1]
      exact ((ih h.2).cons first).trans (.swap _ _ _)

/-- An object that is made of fields with distinct keys has just these fields. -/
theorem sortedFields_perm (h : (fields.map Prod.fst).Nodup) :
    (sortedFields fields).Perm fields := by
  induction fields using List.reverseRecOn with
  | nil => exact .refl _
  | append_singleton fields last ih =>
    rw [List.map_append, List.nodup_append] at h
    have hset := ih h.1
    have hnew : last.1 ∉ (sortedFields fields).map Prod.fst := fun hlast =>
      h.2.2 last.1 ((hset.map Prod.fst).mem_iff.mp hlast) last.1 List.mem_cons_self rfl
    rw [sortedFields, List.foldl_append]
    exact (put_perm hnew).trans ((hset.cons last).trans (List.perm_append_singleton last fields).symm)

end ContractToolkit.Json
