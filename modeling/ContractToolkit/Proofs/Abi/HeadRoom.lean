import ContractToolkit.Proofs.Abi.Layout
import ContractToolkit.Proofs.Abi.Reads

/-!
# Room for heads

Values that are read from inside data have their heads inside it: a dynamic
value has the word of its offset there, and a static one takes there what its
type takes. So elements that are read one by one have as much room as their
number asks for, and the test of the number refuses early what would fail later
on. It goes further in two places: it asks an octet for each element that takes
none, so that the data bounds their number, and it asks for a size of the
elements even where there are none.
-/

namespace ContractToolkit.Abi

variable {data : Bytes}

/-- As many equal sizes take their product. -/
theorem total_replicate (count size : Nat) : total (.replicate count size) = count * size := by
  induction count with
  | zero => rw [List.replicate_zero, Nat.zero_mul]; rfl
  | succ count ih =>
    rw [List.replicate_succ, total_cons, ih, Nat.succ_mul]
    omega

/-- Sizes in a row are known by what types in a row say of them. -/
theorem sizes_inj {sizes others : List Nat} (h : sizes.map some = others.map some) :
    sizes = others :=
  (List.map_inj_right fun _ _ => Option.some.inj).mp h

/-- A static type takes among the heads what its values take. -/
theorem Ty.headSize_of_static {t : Ty} (hstatic : t.isDynamic = false) :
    t.headSize = t.staticSize := by
  rw [headSize, hstatic, if_neg Bool.false_ne_true]

/-- Static types in a row take behind a start what each of them takes among the heads, if that is a
size. -/
theorem Ty.staticSizes_eq_some {types : List Ty} (hstatic : anyDynamic types = false)
    {start stop : Nat} (hstart : start < Machine.sizeLimit) :
    staticSizes start types = some stop ↔
      ∃ sizes, types.map headSize = sizes.map some ∧ stop = start + total sizes ∧
        start + total sizes < Machine.sizeLimit := by
  induction types generalizing start with
  | nil =>
    rw [staticSizes, Option.some.injEq]
    constructor
    · rintro rfl
      exact ⟨[], rfl, rfl, hstart⟩
    · rintro ⟨sizes, hsizes, rfl, -⟩
      rw [List.map_eq_nil_iff.mp hsizes.symm]
      rfl
  | cons t rest ih =>
    rw [anyDynamic, Bool.or_eq_false_iff] at hstatic
    have hhead := headSize_of_static hstatic.1
    rw [staticSizes, ← hhead]
    simp only [Option.bind_eq_some_iff, Machine.add?_eq_some]
    constructor
    · rintro ⟨next, ⟨size, hsize, rfl, hnext⟩, h⟩
      obtain ⟨sizes, hsizes, rfl, hlimit⟩ := (ih hstatic.2 hnext).mp h
      refine ⟨size :: sizes, by rw [List.map_cons, List.map_cons, hsize, hsizes], ?_, ?_⟩
      · rw [total_cons, Nat.add_assoc]
      · rw [total_cons]
        omega
    · rintro ⟨sizes, hsizes, hstop, hlimit⟩
      cases sizes with
      | nil => cases hsizes
      | cons size sizes =>
        rw [List.map_cons, List.map_cons, List.cons.injEq] at hsizes
        rw [total_cons] at hstop hlimit
        have hnext : start + size < Machine.sizeLimit := by omega
        refine ⟨start + size, ⟨size, hsizes.1, rfl, hnext⟩, ?_⟩
        exact (ih hstatic.2 hnext).mpr ⟨sizes, hsizes.2, by omega, by omega⟩

/-- The head of a dynamic value is inside the data, since its offset was read there. -/
theorem head_le_of_placeOf {base head place size : Nat} {t : Ty} (hdynamic : t.isDynamic = true)
    (stands : placeOf data base head t = .ok place) (hsize : t.headSize = some size) :
    head + size ≤ data.length := by
  rw [placeOf_eq_ok, if_pos hdynamic] at stands
  obtain ⟨offset, hoffset, -⟩ := stands
  obtain ⟨hlength, hstands, -⟩ := wordAt_eq_ok.mp (sizeAt_eq_ok.mp hoffset).2
  have hword := hstands.le_length
  rw [Ty.headSize, if_pos hdynamic, Option.some.injEq] at hsize
  omega

mutual

/-- A static value that is read from inside data ends inside the data. -/
theorem Reads.end_le {t : Ty} {position : Nat} {v : Value} :
    Reads data t position v → t.isDynamic = false → position ≤ data.length → (size : Nat) →
      t.headSize = some size → position + size ≤ data.length
  | .word elementary _ stands => fun _ _ size hsize => by
    obtain ⟨hlength, hstands, -⟩ := wordAt_eq_ok.mp stands
    have hword := hstands.le_length
    rw [(Ty.headSize_elementary elementary).2, Option.some.injEq] at hsize
    omega
  | .bytes _ => fun hstatic => by cases hstatic
  | .string _ => fun hstatic => by cases hstatic
  | .array _ _ _ => fun hstatic => by cases hstatic
  | @Reads.fixedArray _ elem length _ _ room _ => fun hstatic _ size hsize => by
    have helem : elem.isDynamic = false := hstatic
    obtain ⟨elemSize, helemSize, -, hroom⟩ := checkElementCount_eq_ok.mp room
    rw [Ty.headSize_of_static hstatic, Ty.staticSize, ← Ty.headSize_of_static helem, helemSize,
      Option.bind_some, Machine.mul?_eq_some] at hsize
    have hleast : elemSize * length ≤ length * max elemSize 1 := by
      rw [Nat.mul_comm]
      exact Nat.mul_le_mul_left _ (Nat.le_max_left _ _)
    omega
  | .tuple members => fun hstatic hinside size hsize => by
    obtain ⟨sizes, hsizes, hend, -⟩ := members.heads_le hinside
    rw [Ty.headSize_of_static hstatic, Ty.staticSize,
      Ty.staticSizes_eq_some hstatic (by decide)] at hsize
    obtain ⟨fieldSizes, hfields, rfl, -⟩ := hsize
    have hsame : sizes = fieldSizes := sizes_inj (hsizes.symm.trans hfields)
    rw [Nat.zero_add, ← hsame]
    exact hend

/-- Values that are read from a head inside data on have their heads inside it, which are as long as
their types say. -/
theorem ReadsAll.heads_le {base head : Nat} {types : List Ty} {values : List Value} :
    ReadsAll data base head types values → head ≤ data.length →
      ∃ sizes, types.map Ty.headSize = sizes.map some ∧ head + total sizes ≤ data.length ∧
        (head < Machine.sizeLimit → head + total sizes < Machine.sizeLimit)
  | .nil => fun hinside => ⟨[], rfl, hinside, id⟩
  | @ReadsAll.cons _ _ head place _ t v types values stands value step rest => fun hinside => by
    obtain ⟨size, hsize, rfl, hnext⟩ := nextHead_eq_ok.mp step
    have hend : head + size ≤ data.length := by
      cases hdynamic : t.isDynamic with
      | true => exact head_le_of_placeOf hdynamic stands hsize
      | false =>
        rw [placeOf_eq_ok, hdynamic, if_neg Bool.false_ne_true] at stands
        subst stands
        exact value.end_le hdynamic hinside size hsize
    obtain ⟨sizes, hsizes, hinside, hlimit⟩ := rest.heads_le hend
    refine ⟨size :: sizes, by rw [List.map_cons, List.map_cons, hsize, hsizes], ?_, fun _ => ?_⟩
    · rw [total_cons]
      omega
    · have hrest := hlimit hnext
      rw [total_cons]
      omega

end

/-- A value whose head is inside data stands inside the data. -/
theorem place_le {base head place : Nat} {t : Ty} (stands : placeOf data base head t = .ok place)
    (hinside : head ≤ data.length) : place ≤ data.length := by
  rw [placeOf_eq_ok] at stands
  cases hdynamic : t.isDynamic with
  | true =>
    rw [hdynamic, if_pos rfl] at stands
    obtain ⟨offset, -, rfl, -, hplace⟩ := stands
    exact hplace
  | false =>
    rw [hdynamic, if_neg Bool.false_ne_true] at stands
    exact stands ▸ hinside

/-- Behind a value that is read the next head begins inside the data. -/
theorem next_le {base head place next : Nat} {t : Ty} {v : Value}
    (stands : placeOf data base head t = .ok place) (value : Reads data t place v)
    (step : nextHead head t = .ok next) (hinside : head ≤ data.length) : next ≤ data.length := by
  obtain ⟨size, hsize, rfl, -⟩ := nextHead_eq_ok.mp step
  obtain ⟨sizes, hsizes, hend, -⟩ := (ReadsAll.cons stands value step .nil).heads_le hinside
  have hsame : sizes = [size] := by
    rw [List.map_singleton, hsize] at hsizes
    exact sizes_inj hsizes.symm
  rw [hsame] at hend
  exact hend

/-- Elements of one type that are read from inside data have room for all their heads there. -/
theorem ReadsAll.room {elem : Ty} {count start size : Nat} {items : List Value}
    (h : ReadsAll data start start (.replicate count elem) items) (hinside : start ≤ data.length)
    (hstart : start < Machine.sizeLimit) (hsize : elem.headSize = some size) :
    start + count * size ≤ data.length ∧ start + count * size < Machine.sizeLimit := by
  obtain ⟨sizes, hsizes, hend, hlimit⟩ := h.heads_le hinside
  have hsame : sizes = .replicate count size := by
    rw [List.map_replicate, hsize, ← List.map_replicate] at hsizes
    exact sizes_inj hsizes.symm
  rw [hsame, total_replicate] at hend hlimit
  exact ⟨hend, hlimit hstart⟩

/-- Elements of a type without a size are not read. -/
theorem ReadsAll.eq_zero_of_headSize {elem : Ty} {base head count : Nat} {items : List Value}
    (h : ReadsAll data base head (.replicate count elem) items) (hsize : elem.headSize = none) :
    count = 0 := by
  cases count with
  | zero => rfl
  | succ count =>
    rw [List.replicate_succ] at h
    cases h with
    | cons stands value step rest =>
      obtain ⟨size, helem, -⟩ := nextHead_eq_ok.mp step
      rw [hsize] at helem
      cases helem

/-- A number of elements is refused only where reading them one by one fails, but for elements that
take no octets, of which there may be no more than octets or positions behind the start, and for no
elements of a type without a size. A number that is not refused is bounded by the data. -/
theorem refused_elements_unread {elem : Ty} {count start : Nat} (hinside : start ≤ data.length)
    (hstart : start < Machine.sizeLimit) :
    ((∃ e, checkElementCount elem count data start = .error e) →
      (∃ e, decodeSequence (.replicate count elem) data start = .error e) ∨
        (elem.headSize = some 0 ∧
          (data.length < start + count ∨ Machine.sizeLimit ≤ start + count)) ∨
        elem.headSize = none ∧ count = 0) ∧
      (checkElementCount elem count data start = .ok () → start + count ≤ data.length) := by
  constructor
  · rintro ⟨e, hrefused⟩
    cases hread : decodeSequence (.replicate count elem) data start with
    | error e => exact Or.inl ⟨e, rfl⟩
    | ok items =>
      have hreads := decodeSequence_eq_ok.mp hread
      have hroom : ¬ checkElementCount elem count data start = .ok () := by
        rw [hrefused]
        exact fun h => by cases h
      rw [checkElementCount_eq_ok] at hroom
      cases hsize : elem.headSize with
      | none => exact Or.inr (Or.inr ⟨rfl, hreads.eq_zero_of_headSize hsize⟩)
      | some size =>
        obtain ⟨hend, hlimit⟩ := hreads.room hinside hstart hsize
        have hover : ¬ (count * max size 1 + start < Machine.sizeLimit ∧
            count * max size 1 + start ≤ data.length) := fun h => hroom ⟨size, hsize, h⟩
        cases size with
        | zero =>
          rw [Nat.max_eq_right (Nat.zero_le 1), Nat.mul_one] at hover
          exact Or.inr (Or.inl ⟨rfl, by omega⟩)
        | succ size =>
          have hleast : 1 ≤ size + 1 := by omega
          rw [Nat.max_eq_left hleast] at hover
          exact absurd ⟨by omega, by omega⟩ hover
  · intro haccepted
    obtain ⟨size, -, -, hroom⟩ := checkElementCount_eq_ok.mp haccepted
    have hleast : count * 1 ≤ count * max size 1 :=
      Nat.mul_le_mul_left _ (Nat.le_max_right _ _)
    omega

/-- Elements of four words, so many that their octets are no size. -/
theorem refused_elements_unread_overflow :
    let elem : Ty := .fixedArray (.tuple [.bool, .uint 8]) 2
    let data := sizeWord 32 ++ sizeWord 1
    elem.fault? = none ∧ 32 ≤ data.length ∧ 32 < Machine.sizeLimit ∧
      (∃ e, checkElementCount elem 144115188075855872 data 32 = .error e) ∧
        ∃ e, decodeSequence (.replicate 144115188075855872 elem) data 32 = .error e := by
  intro elem data
  have hinside : 32 ≤ data.length := by decide
  have hstart : 32 < Machine.sizeLimit := by decide
  have hrefused : ∃ e, checkElementCount elem 144115188075855872 data 32 = .error e := ⟨_, rfl⟩
  have hsize : elem.headSize = some 128 := rfl
  refine ⟨rfl, hinside, hstart, hrefused, ?_⟩
  obtain hread | ⟨hnone, -⟩ | ⟨hnone, -⟩ := (refused_elements_unread hinside hstart).1 hrefused
  · exact hread
  · rw [hsize] at hnone
    cases hnone
  · rw [hsize] at hnone
    cases hnone

/-- What is refused and read all the same: an empty tuple as an element, for which no octet is left,
and no elements of a type whose size is none. The encoder writes both sequences, and neither is
decoded. -/
theorem refused_elements_read :
    ((Ty.tuple []).fault? = none ∧
      encode [.array (.tuple []) [.tuple []]] = .ok (sizeWord 32 ++ sizeWord 1) ∧
      64 ≤ (sizeWord 32 ++ sizeWord 1).length ∧
      checkElementCount (.tuple []) 1 (sizeWord 32 ++ sizeWord 1) 64 =
        .error (.decode (.elementCount 1 (.tuple []) 64 64)) ∧
      decodeSequence (.replicate 1 (.tuple [])) (sizeWord 32 ++ sizeWord 1) 64 =
        .ok [.tuple []] ∧
      decode [.array (.tuple [])] (sizeWord 32 ++ sizeWord 1) =
        .error (.decode (.elementCount 1 (.tuple []) 64 64))) ∧
    ((Ty.fixedArray (.uint 256) 576460752303423488).fault? = none ∧
      encode [.array (.fixedArray (.uint 256) 576460752303423488) []] =
        .ok (sizeWord 32 ++ sizeWord 0) ∧
      checkElementCount (.fixedArray (.uint 256) 576460752303423488) 0
          (sizeWord 32 ++ sizeWord 0) 64 =
        .error (.decode (.elementCount 0 (.fixedArray (.uint 256) 576460752303423488) 64 64)) ∧
      decodeSequence (.replicate 0 (.fixedArray (.uint 256) 576460752303423488))
          (sizeWord 32 ++ sizeWord 0) 64 = .ok []) :=
  ⟨⟨rfl, rfl, by decide, rfl, rfl, rfl⟩, rfl, rfl, rfl, rfl⟩

end ContractToolkit.Abi
