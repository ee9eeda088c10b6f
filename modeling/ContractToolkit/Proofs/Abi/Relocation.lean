import ContractToolkit.Proofs.Abi.HeadRoom

/-!
# Offsets count from their own tuple

The offsets in a tuple count from where the tuple begins, so data says the same
values wherever it is put: the decoder makes its tests of sums and ends against
positions that all move by the octets put in front, and none of them decides
otherwise as long as the whole is no longer than a size can say. A tuple on its
own is therefore what its members are, behind the one word that leads to it.
-/

namespace ContractToolkit

namespace Bytes

/-- Octets stand in data as they stand in it behind others. -/
theorem holdsAt_behind {front data octets : Bytes} {position : Nat} :
    HoldsAt (front ++ data) (front.length + position) octets ↔ HoldsAt data position octets := by
  have hdrop : (front ++ data).drop (front.length + position) = data.drop position :=
    List.drop_length_add_append _
  rw [holdsAt_iff, holdsAt_iff, hdrop, List.length_append]
  refine and_congr_left fun _ => ?_
  omega

end Bytes

namespace Abi

section Readers

variable {front data octets : Bytes} {position : Nat}

/-- A word is read wherever the data is put. -/
theorem wordAt_behind (hlimit : (front ++ data).length < Machine.sizeLimit) :
    wordAt (front ++ data) (front.length + position) = .ok octets ↔
      wordAt data position = .ok octets := by
  rw [wordAt_eq_ok, wordAt_eq_ok, Bytes.holdsAt_behind]
  refine and_congr_right fun hlength => and_congr_right fun hstands => ?_
  have hinside := hstands.le_length
  rw [List.length_append] at hlimit
  omega

/-- A size is read wherever the data is put. -/
theorem sizeAt_behind (hlimit : (front ++ data).length < Machine.sizeLimit) {n : Nat} :
    sizeAt (front ++ data) (front.length + position) = .ok n ↔ sizeAt data position = .ok n := by
  rw [sizeAt_eq_ok, sizeAt_eq_ok, wordAt_behind hlimit]

/-- A byte string is read wherever the data is put. -/
theorem packedAt_behind (hlimit : (front ++ data).length < Machine.sizeLimit) :
    packedAt (front ++ data) (front.length + position) = .ok octets ↔
      packedAt data position = .ok octets := by
  rw [packedAt_eq_ok, packedAt_eq_ok, sizeAt_behind hlimit, Nat.add_assoc front.length,
    Bytes.holdsAt_behind]
  refine and_congr_right fun _ => and_congr_right fun hstands => ?_
  have hinside := hstands.le_length
  rw [List.length_append] at hlimit
  omega

/-- Elements have room wherever the data is put. -/
theorem checkElementCount_behind (hlimit : (front ++ data).length < Machine.sizeLimit) {elem : Ty}
    {count : Nat} :
    checkElementCount elem count (front ++ data) (front.length + position) = .ok () ↔
      checkElementCount elem count data position = .ok () := by
  rw [List.length_append] at hlimit
  rw [checkElementCount_eq_ok, checkElementCount_eq_ok, List.length_append]
  refine exists_congr fun size => and_congr_right fun _ => ?_
  omega

/-- A value stands at the same place from the base on wherever the data is put. -/
theorem placeOf_behind (hlimit : (front ++ data).length < Machine.sizeLimit)
    {base head place : Nat} {t : Ty} :
    placeOf (front ++ data) (front.length + base) (front.length + head) t =
        .ok (front.length + place) ↔ placeOf data base head t = .ok place := by
  rw [placeOf_eq_ok, placeOf_eq_ok]
  cases t.isDynamic with
  | true =>
    rw [if_pos rfl, if_pos rfl, List.length_append]
    refine exists_congr fun offset => ?_
    rw [sizeAt_behind hlimit]
    rw [List.length_append] at hlimit
    refine and_congr_right fun _ => ?_
    omega
  | false =>
    rw [if_neg Bool.false_ne_true, if_neg Bool.false_ne_true]
    omega

/-- A place of data that is put behind octets is behind them too. -/
theorem exists_place_behind {base head place : Nat} {t : Ty}
    (h : placeOf (front ++ data) (front.length + base) (front.length + head) t = .ok place) :
    ∃ rest, place = front.length + rest := by
  rw [placeOf_eq_ok] at h
  cases hdynamic : t.isDynamic with
  | true =>
    rw [hdynamic, if_pos rfl] at h
    obtain ⟨offset, -, hplace, -⟩ := h
    exact ⟨base + offset, by rw [hplace, Nat.add_assoc]⟩
  | false =>
    rw [hdynamic, if_neg Bool.false_ne_true] at h
    exact ⟨head, h⟩

end Readers

variable {front data : Bytes}

mutual

/-- What data says at a position inside it is said behind other octets. -/
theorem Reads.behind (hlimit : (front ++ data).length < Machine.sizeLimit) {t : Ty}
    {position : Nat} {v : Value} : Reads data t position v → position ≤ data.length →
      Reads (front ++ data) t (front.length + position) v
  | .word elementary typed stands => fun _ =>
    .word elementary typed ((wordAt_behind hlimit).mpr stands)
  | .bytes stands => fun _ => .bytes ((packedAt_behind hlimit).mpr stands)
  | .string stands => fun _ => .string ((packedAt_behind hlimit).mpr stands)
  | .array length room members => fun _ => by
    have hword := (wordAt_eq_ok.mp (sizeAt_eq_ok.mp length).2)
    have hinside := hword.2.1.le_length
    rw [hword.1] at hinside
    have hroom := (checkElementCount_behind hlimit).mpr room
    have hmembers := members.behind hlimit hinside
    rw [← Nat.add_assoc] at hroom hmembers
    exact .array ((sizeAt_behind hlimit).mpr length) hroom hmembers
  | .fixedArray room members => fun hinside =>
    .fixedArray ((checkElementCount_behind hlimit).mpr room) (members.behind hlimit hinside)
  | .tuple members => fun hinside => .tuple (members.behind hlimit hinside)

/-- What data says from a head inside it on is said behind other octets. -/
theorem ReadsAll.behind (hlimit : (front ++ data).length < Machine.sizeLimit) {base head : Nat}
    {types : List Ty} {values : List Value} : ReadsAll data base head types values →
      head ≤ data.length →
        ReadsAll (front ++ data) (front.length + base) (front.length + head) types values
  | .nil => fun _ => .nil
  | @ReadsAll.cons _ _ head place next t v types values stands value step rest => fun hinside => by
    have hend := next_le stands value step hinside
    have hvalue := value.behind hlimit (place_le stands hinside)
    have hrest := rest.behind hlimit hend
    have hmoved := (placeOf_behind hlimit).mpr stands
    -- The next head of the moved data is a size because it begins inside it.
    obtain ⟨size, hsize, rfl, -⟩ := nextHead_eq_ok.mp step
    rw [← Nat.add_assoc] at hrest
    rw [List.length_append] at hlimit
    exact .cons hmoved hvalue (nextHead_eq_ok.mpr ⟨size, hsize, rfl, by omega⟩) hrest

end

mutual

/-- What is said behind other octets is said by the data alone. -/
theorem Reads.alone (hlimit : (front ++ data).length < Machine.sizeLimit) {t : Ty} {place : Nat}
    {v : Value} : Reads (front ++ data) t place v → (position : Nat) →
      place = front.length + position → Reads data t position v
  | .word elementary typed stands => fun position hplace =>
    .word elementary typed ((wordAt_behind hlimit).mp (hplace ▸ stands))
  | .bytes stands => fun position hplace =>
    .bytes ((packedAt_behind hlimit).mp (hplace ▸ stands))
  | .string stands => fun position hplace =>
    .string ((packedAt_behind hlimit).mp (hplace ▸ stands))
  | .array length room members => fun position hplace => by
    have hstart : place + wordSize = front.length + (position + wordSize) := by
      rw [hplace, Nat.add_assoc]
    rw [hstart] at room
    exact .array ((sizeAt_behind hlimit).mp (hplace ▸ length))
      ((checkElementCount_behind hlimit).mp room) (members.alone hlimit _ _ hstart hstart)
  | .fixedArray room members => fun position hplace =>
    .fixedArray ((checkElementCount_behind hlimit).mp (hplace ▸ room))
      (members.alone hlimit _ _ hplace hplace)
  | .tuple members => fun position hplace => .tuple (members.alone hlimit _ _ hplace hplace)

/-- What is said behind other octets from a base and a head on is said by the data alone. -/
theorem ReadsAll.alone (hlimit : (front ++ data).length < Machine.sizeLimit)
    {movedBase movedHead : Nat} {types : List Ty} {values : List Value} :
    ReadsAll (front ++ data) movedBase movedHead types values → (base head : Nat) →
      movedBase = front.length + base → movedHead = front.length + head →
        ReadsAll data base head types values
  | .nil => fun _ _ _ _ => .nil
  | .cons stands value step rest => fun base head hbase hhead => by
    rw [hbase, hhead] at stands
    rw [hhead] at step
    obtain ⟨place, hplace⟩ := exists_place_behind stands
    obtain ⟨size, hsize, hnext, hlimit'⟩ := nextHead_eq_ok.mp step
    rw [hplace] at stands
    rw [Nat.add_assoc] at hnext
    exact .cons ((placeOf_behind hlimit).mp stands) (value.alone hlimit place hplace)
      (nextHead_eq_ok.mpr ⟨size, hsize, rfl, by omega⟩) (rest.alone hlimit _ _ hbase hnext)

end

/-- A sequence is decoded from data at its base alone as it is behind other octets. -/
theorem readsAll_behind_iff (hlimit : (front ++ data).length < Machine.sizeLimit)
    {types : List Ty} {values : List Value} :
    ReadsAll (front ++ data) front.length front.length types values ↔
      ReadsAll data 0 0 types values :=
  ⟨fun h => h.alone hlimit 0 0 rfl rfl, fun h => h.behind hlimit (Nat.zero_le _)⟩

/-! ### Tuples on their own -/

/-- A tuple is said where its members are. -/
theorem reads_tuple_iff {fields : List Ty} {position : Nat} {items : List Value} :
    Reads data (.tuple fields) position (.tuple items) ↔
      ReadsAll data position position fields items := by
  constructor
  · intro h
    cases h with
    | word elementary _ _ => cases elementary
    | tuple members => exact members
  · exact .tuple

/-- One value on its own stands behind what leads to it. -/
theorem placeOf_lead {t : Ty} (hlimit : (t.lead ++ data).length < Machine.sizeLimit) {place : Nat} :
    placeOf (t.lead ++ data) 0 0 t = .ok place ↔ place = t.lead.length := by
  rw [placeOf_eq_ok, Ty.lead]
  rw [Ty.lead] at hlimit
  cases hdynamic : t.isDynamic with
  | true =>
    rw [hdynamic, if_pos rfl] at hlimit
    rw [if_pos rfl, if_pos rfl]
    have hstands : Bytes.HoldsAt (sizeWord wordSize ++ data) 0 (sizeWord wordSize) :=
      (Bytes.HoldsAt.self (sizeWord wordSize)).extend
    have hoffset : sizeAt (sizeWord wordSize ++ data) 0 = .ok wordSize :=
      sizeAt_eq_ok.mpr ⟨by decide, wordAt_eq_ok.mpr ⟨length_sizeWord wordSize, hstands, by decide⟩⟩
    have hlead : (sizeWord wordSize ++ data).length = wordSize + data.length := by
      rw [List.length_append, length_sizeWord]
    rw [hoffset, hlead, length_sizeWord]
    rw [hlead] at hlimit
    constructor
    · rintro ⟨offset, hsame, rfl, -⟩
      rw [Except.ok.injEq] at hsame
      omega
    · rintro rfl
      exact ⟨wordSize, rfl, by omega, by omega, by omega⟩
  | false =>
    rw [if_neg Bool.false_ne_true, if_neg Bool.false_ne_true]
    rfl

/-- Behind the head of a tuple whose members are said inside data another head can begin. -/
theorem ReadsAll.exists_nextHead {fields : List Ty} {items : List Value}
    (h : ReadsAll data 0 0 fields items) : ∃ next, nextHead 0 (.tuple fields) = .ok next := by
  have hzero : 0 < Machine.sizeLimit := by decide
  simp only [nextHead_eq_ok]
  cases hdynamic : (Ty.tuple fields).isDynamic with
  | true =>
    have hword : (Ty.tuple fields).headSize = some wordSize := by
      rw [Ty.headSize, if_pos hdynamic]
    exact ⟨_, wordSize, hword, rfl, by decide⟩
  | false =>
    obtain ⟨sizes, hsizes, -, hend⟩ := h.heads_le (Nat.zero_le _)
    have htotal := (Ty.staticSizes_eq_some hdynamic hzero).mpr ⟨sizes, hsizes, rfl, hend hzero⟩
    have hsize : (Ty.tuple fields).headSize = some (0 + total sizes) := by
      rw [Ty.headSize_of_static hdynamic, Ty.staticSize, htotal]
    exact ⟨_, _, hsize, rfl, by rw [Nat.zero_add]; exact hend hzero⟩

/-- A tuple is decoded on its own as its members are in a row, from what stands behind the word that
leads to it. -/
theorem decodeSingle_tuple {types : List Ty}
    (hlimit : ((Ty.tuple types).lead ++ data).length < Machine.sizeLimit) {values : List Value} :
    decodeSingle (.tuple types) ((Ty.tuple types).lead ++ data) = .ok (.tuple values) ↔
      decode types data = .ok values := by
  have hdeclared : (Ty.tuple types).fault? = Ty.faults? types := rfl
  rw [decodeSingle_eq_ok, decode_eq_ok, hdeclared]
  refine and_congr_right fun _ => ?_
  simp only [placeOf_lead hlimit, exists_eq_left, reads_tuple_iff, readsAll_behind_iff hlimit]
  exact and_iff_left_of_imp ReadsAll.exists_nextHead

/-- A tuple is encoded on its own as its members are in a row, behind the word that leads to it, and
refused for the same reason. -/
theorem encodeSingle_tuple (values : List Value) :
    encodeSingle (.tuple values) =
      (encode values).map ((Ty.tuple (values.map Value.ty)).lead ++ ·) := by
  have hty : (Value.tuple values).ty = .tuple (values.map Value.ty) := by
    rw [Value.ty, Value.tys_eq_map]
  have hfaults : Value.faults? [.tuple values] = Value.faults? values := Option.or_none
  rw [encodeSingle, encode, encode, hfaults, layOut_single, hty, Value.octets]
  cases Value.faults? values with
  | some fault => rfl
  | none => rfl

/-- Offsets count from their own tuple. A tuple on its own is encoded and decoded as its members are
in a row, behind the word of 32 that leads to a dynamic one; and a sequence is decoded at its base
behind any other octets as it is at the start of the data. The whole must be no longer than a size
can say. -/
theorem offsets_relative :
    (∀ (types : List Ty) (data : Bytes) (values : List Value),
      ((Ty.tuple types).lead ++ data).length < Machine.sizeLimit →
        (decodeSingle (.tuple types) ((Ty.tuple types).lead ++ data) = .ok (.tuple values) ↔
          decode types data = .ok values)) ∧
      (∀ values : List Value, encodeSingle (.tuple values) =
        (encode values).map ((Ty.tuple (values.map Value.ty)).lead ++ ·)) ∧
      ∀ (types : List Ty) (front data : Bytes) (values : List Value),
        (front ++ data).length < Machine.sizeLimit →
          (decodeSequence types (front ++ data) front.length = .ok values ↔
            decodeSequence types data 0 = .ok values) := by
  refine ⟨fun types data values hlimit => decodeSingle_tuple hlimit, encodeSingle_tuple, ?_⟩
  intro types front data values hlimit
  rw [decodeSequence_eq_ok, decodeSequence_eq_ok, readsAll_behind_iff hlimit]

set_option maxRecDepth 4000 in
/-- A list that stands behind a word which nothing points to, and a number in front of it: alone, in
a tuple, and behind three octets. -/
theorem offsets_relative_gap :
    let types : List Ty := [.uint 8, .array .bool]
    let data := sizeWord 7 ++ sizeWord 96 ++ sizeWord 5 ++ sizeWord 1 ++ sizeWord 1
    let values : List Value := [.uint 7 8, .array .bool [.bool true]]
    (sizeWord 32 ++ data).length < Machine.sizeLimit ∧
      decode types data = .ok values ∧
      decodeSingle (.tuple types) (sizeWord 32 ++ data) = .ok (.tuple values) ∧
      encodeSingle (.tuple values) = (encode values).map (sizeWord 32 ++ ·) ∧
      ([1, 2, 3] ++ data).length < Machine.sizeLimit ∧
      decodeSequence types ([1, 2, 3] ++ data) 3 = .ok values := by
  intro types data values
  have hlead : (sizeWord 32 ++ data).length < Machine.sizeLimit := by decide
  have hfront : ([1, 2, 3] ++ data).length < Machine.sizeLimit := by decide
  have hdecode : decode types data = .ok values := by rfl
  have hsequence : decodeSequence types data 0 = .ok values := by rfl
  obtain ⟨hdecoded, hencoded, hmoved⟩ := offsets_relative
  exact ⟨hlead, hdecode, (hdecoded types data values hlead).mpr hdecode, hencoded values, hfront,
    (hmoved types [1, 2, 3] data values hfront).mpr hsequence⟩

end Abi

end ContractToolkit
