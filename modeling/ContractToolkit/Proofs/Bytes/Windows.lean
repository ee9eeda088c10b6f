import ContractToolkit.Bytes.Basic

/-!
# Octets inside data

Where octets stand in a longer byte string. What stands in data also stands in
every extension of the data, and data is cut at the same places as the octets
are.
-/

namespace ContractToolkit.Bytes

/-- Octets stand in data from a position on. -/
def HoldsAt (data : Bytes) (position : Nat) (octets : Bytes) : Prop :=
  ∃ before after, data = before ++ octets ++ after ∧ before.length = position

namespace HoldsAt

variable {data suffix first second : Bytes} {position : Nat}

/-- Data stands at the start of itself. -/
theorem self (data : Bytes) : HoldsAt data 0 data := ⟨[], [], by simp, rfl⟩

/-- No octets stand at every place up to the end of data. -/
theorem nil (h : position ≤ data.length) : HoldsAt data position [] :=
  ⟨data.take position, data.drop position, by simp, List.length_take_of_le h⟩

/-- Octets end where the data ends at the latest. -/
theorem le_length (h : HoldsAt data position first) :
    position + first.length ≤ data.length := by
  obtain ⟨before, after, rfl, rfl⟩ := h
  simp only [List.length_append]
  omega

/-- Octets stay where they are when the data goes on. -/
theorem extend (h : HoldsAt data position first) : HoldsAt (data ++ suffix) position first := by
  obtain ⟨before, after, rfl, rfl⟩ := h
  exact ⟨before, after ++ suffix, by simp, rfl⟩

/-- The front part of octets stands at their position. -/
theorem left (h : HoldsAt data position (first ++ second)) : HoldsAt data position first := by
  obtain ⟨before, after, rfl, rfl⟩ := h
  exact ⟨before, second ++ after, by simp, rfl⟩

/-- The rest of octets stands behind their front part. -/
theorem right (h : HoldsAt data position (first ++ second)) :
    HoldsAt data (position + first.length) second := by
  obtain ⟨before, after, rfl, rfl⟩ := h
  exact ⟨before ++ first, after, by simp, by simp⟩

end HoldsAt

/-- Cutting data gives the octets that stand there, if it is long enough. -/
theorem holdsAt_iff {data octets : Bytes} {position : Nat} :
    HoldsAt data position octets ↔
      position + octets.length ≤ data.length ∧
        (data.drop position).take octets.length = octets := by
  constructor
  · intro h
    refine ⟨h.le_length, ?_⟩
    obtain ⟨before, after, rfl, rfl⟩ := h
    rw [List.append_assoc, List.drop_left, List.take_left]
  · rintro ⟨hle, hcut⟩
    refine ⟨data.take position, (data.drop position).drop octets.length, ?_, ?_⟩
    · rw [← hcut, List.append_assoc, List.length_take, List.length_drop,
        Nat.min_eq_left (by omega), List.take_append_drop, List.take_append_drop]
    · rw [List.length_take]
      omega

/-- Octets that stand one behind the other stand together. -/
theorem HoldsAt.append {data first second : Bytes} {position : Nat}
    (hfirst : HoldsAt data position first)
    (hsecond : HoldsAt data (position + first.length) second) :
    HoldsAt data position (first ++ second) := by
  rw [holdsAt_iff] at hfirst hsecond ⊢
  rw [List.length_append]
  refine ⟨by omega, ?_⟩
  rw [List.take_add, hfirst.2, List.drop_drop, hsecond.2]

end ContractToolkit.Bytes
