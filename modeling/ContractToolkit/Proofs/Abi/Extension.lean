import ContractToolkit.Proofs.Abi.Reads

/-!
# Data that goes on

What data says at a position does not depend on the octets behind those that
are read, and every bound is an upper bound against the end of the data. So a
value that is read stays the same when octets are appended, wherever its
offsets point, and data that is cut off says the same values or none.
-/

namespace ContractToolkit.Abi

variable {data octets : Bytes} {position : Nat}

/-- A word stays where it is. -/
theorem wordAt_extend (suffix : Bytes) (h : wordAt data position = .ok octets) :
    wordAt (data ++ suffix) position = .ok octets := by
  rw [wordAt_eq_ok] at h ⊢
  exact ⟨h.1, h.2.1.extend, h.2.2⟩

/-- A size stays where it is. -/
theorem sizeAt_extend (suffix : Bytes) {n : Nat} (h : sizeAt data position = .ok n) :
    sizeAt (data ++ suffix) position = .ok n := by
  rw [sizeAt_eq_ok] at h ⊢
  exact ⟨h.1, wordAt_extend suffix h.2⟩

/-- A byte string stays where it is. -/
theorem packedAt_extend (suffix : Bytes) (h : packedAt data position = .ok octets) :
    packedAt (data ++ suffix) position = .ok octets := by
  rw [packedAt_eq_ok] at h ⊢
  exact ⟨sizeAt_extend suffix h.1, h.2.1.extend, h.2.2⟩

/-- Elements that have room have room in longer data. -/
theorem checkElementCount_extend (suffix : Bytes) {elem : Ty} {count : Nat}
    (h : checkElementCount elem count data position = .ok ()) :
    checkElementCount elem count (data ++ suffix) position = .ok () := by
  rw [checkElementCount_eq_ok] at h ⊢
  obtain ⟨size, hsize, hlimit, hroom⟩ := h
  refine ⟨size, hsize, hlimit, ?_⟩
  rw [List.length_append]
  omega

/-- An offset points to the same place in longer data. -/
theorem placeOf_extend (suffix : Bytes) {base head place : Nat} {t : Ty}
    (h : placeOf data base head t = .ok place) :
    placeOf (data ++ suffix) base head t = .ok place := by
  rw [placeOf_eq_ok] at h ⊢
  by_cases hdynamic : t.isDynamic
  · rw [if_pos hdynamic] at h ⊢
    obtain ⟨offset, hsize, hplace, hlimit, hinside⟩ := h
    refine ⟨offset, sizeAt_extend suffix hsize, hplace, hlimit, ?_⟩
    rw [List.length_append]
    omega
  · rw [if_neg hdynamic] at h ⊢
    exact h

mutual

/-- A value that data says is said by every extension of the data. -/
theorem Reads.extend (suffix : Bytes) {t : Ty} {position : Nat} {v : Value} :
    Reads data t position v → Reads (data ++ suffix) t position v
  | .word elementary typed stands => .word elementary typed (wordAt_extend suffix stands)
  | .bytes stands => .bytes (packedAt_extend suffix stands)
  | .string stands => .string (packedAt_extend suffix stands)
  | .array length room members =>
    .array (sizeAt_extend suffix length) (checkElementCount_extend suffix room)
      (members.extend suffix)
  | .fixedArray room members =>
    .fixedArray (checkElementCount_extend suffix room) (members.extend suffix)
  | .tuple members => .tuple (members.extend suffix)

/-- Values that data says one after another are said by every extension of the data. -/
theorem ReadsAll.extend (suffix : Bytes) {base head : Nat} {types : List Ty}
    {values : List Value} :
    ReadsAll data base head types values → ReadsAll (data ++ suffix) base head types values
  | .nil => .nil
  | .cons stands value step rest =>
    .cons (placeOf_extend suffix stands) (value.extend suffix) step (rest.extend suffix)

end

/-- Values that are decoded from data are decoded from every extension of it. -/
theorem decode_extend (suffix : Bytes) {types : List Ty} {values : List Value}
    (h : decode types data = .ok values) : decode types (data ++ suffix) = .ok values := by
  rw [decode_eq_ok] at h ⊢
  exact ⟨h.1, h.2.extend suffix⟩

/-- Decoding is stable when data goes on: what is decoded from its front is decoded from the whole,
and when the whole is decodable its front either fails or gives the values of the whole. -/
theorem decode_stable (types : List Ty) (front suffix : Bytes) :
    (∀ values, decode types front = .ok values → decode types (front ++ suffix) = .ok values) ∧
      ∀ values, decode types (front ++ suffix) = .ok values →
        (∃ e, decode types front = .error e) ∨ decode types front = .ok values := by
  refine ⟨fun values h => decode_extend suffix h, ?_⟩
  intro values hwhole
  cases hfront : decode types front with
  | error e => exact Or.inl ⟨e, rfl⟩
  | ok found =>
    have hfound := decode_extend suffix hfront
    rw [hwhole] at hfound
    exact Or.inr hfound.symm

/-- A byte string whose offset passes over a word that nothing points to, and what is decoded from
it when an octet follows. -/
theorem decode_stable_gap :
    let front := sizeWord 64 ++ sizeWord 7 ++ sizeWord 2 ++ [0xbe, 0xef]
    decode [.bytes] front = .ok [.bytes [0xbe, 0xef]] ∧
      decode [.bytes] (front ++ [0xff]) = .ok [.bytes [0xbe, 0xef]] := by
  have hfront : decode [.bytes] (sizeWord 64 ++ sizeWord 7 ++ sizeWord 2 ++ [0xbe, 0xef]) =
      .ok [.bytes [0xbe, 0xef]] := by
    rfl
  exact ⟨hfront, (decode_stable _ _ _).1 _ hfront⟩

end ContractToolkit.Abi
