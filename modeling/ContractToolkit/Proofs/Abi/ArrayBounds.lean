import ContractToolkit.Proofs.Abi.Nodes
import ContractToolkit.Proofs.Abi.Soundness

/-!
# Sequences are bounded by the data

A length is taken from the data or from a type, and may be forged there. Whatever
is decoded, no sequence in it has more elements than octets follow in the data
where its elements begin, even if the elements take none, and the heads of all of
them have room there. This holds at every depth, also where several offsets lead to
one place, since every value in a decoded one was read where it stands.
-/

namespace ContractToolkit.Abi

variable {data : Bytes} {types : List Ty} {values : List Value}

/-- A value as it is read of a type at a position. -/
structure Reading where
  /-- The type it is read of. -/
  ty : Ty
  /-- Where it stands. -/
  position : Nat
  /-- What is read. -/
  value : Value

/-- A value is one of those whose heads follow one another, and stands where its head says; offsets
count from a base. -/
inductive InRow (data : Bytes) (base : Nat) :
    (head : Nat) → List Ty → List Value → Reading → Prop
  | first {head place : Nat} {t : Ty} {v : Value} {types : List Ty} {values : List Value}
      (stands : placeOf data base head t = .ok place) :
      InRow data base head (t :: types) (v :: values) ⟨t, place, v⟩
  | later {head next : Nat} {t : Ty} {v : Value} {types : List Ty} {values : List Value}
      {r : Reading} (step : nextHead head t = .ok next) (others : InRow data base next types values r) :
      InRow data base head (t :: types) (v :: values) r

/-- What a reading is made of, each member where it stands. The elements of an array follow the word
of its length; those of a sequence with a declared length, and the components of a tuple, begin
where it stands itself. -/
inductive Reading.Member (data : Bytes) : Reading → Reading → Prop
  | array {elem : Ty} {position : Nat} {items : List Value} {r : Reading}
      (row : InRow data (position + wordSize) (position + wordSize) (.replicate items.length elem)
        items r) : Member data ⟨.array elem, position, .array elem items⟩ r
  | fixedArray {elem : Ty} {position : Nat} {items : List Value} {r : Reading}
      (row : InRow data position position (.replicate items.length elem) items r) :
      Member data ⟨.fixedArray elem items.length, position, .fixedArray elem items⟩ r
  | tuple {fields : List Ty} {position : Nat} {items : List Value} {r : Reading}
      (row : InRow data position position fields items r) :
      Member data ⟨.tuple fields, position, .tuple items⟩ r

/-- A reading in values that are decoded from the start of data on, at any depth. -/
inductive Reading.Within (data : Bytes) (types : List Ty) (values : List Value) : Reading → Prop
  | outermost {r : Reading} (row : InRow data 0 0 types values r) : Within data types values r
  | member {outer r : Reading} (within : Within data types values outer)
      (part : outer.Member data r) : Within data types values r

/-- The elements of a sequence: their type, what they are, and where they begin. -/
def Reading.elements? (r : Reading) : Option (Ty × List Value × Nat) :=
  match r.value with
  | .array elem items => some (elem, items, r.position + wordSize)
  | .fixedArray elem items => some (elem, items, r.position)
  | _ => none

/-- Data says what a reading reads. -/
def Reading.Said (data : Bytes) (r : Reading) : Prop := Reads data r.ty r.position r.value

/-! ### Everything is read where it stands -/

/-- What data says of a row it says of each value in it. -/
theorem InRow.said {base head : Nat} {r : Reading} (h : InRow data base head types values r)
    (hreads : ReadsAll data base head types values) : r.Said data := by
  induction h with
  | first stands =>
    cases hreads with
    | cons stands' value _ _ =>
      obtain rfl := Except.ok.inj (stands.symm.trans stands')
      exact value
  | later step _ ih =>
    cases hreads with
    | cons _ _ step' rest =>
      obtain rfl := Except.ok.inj (step.symm.trans step')
      exact ih rest

/-- Each value of a row stands somewhere. -/
theorem ReadsAll.exists_inRow {base head : Nat} (h : ReadsAll data base head types values) :
    ∀ v ∈ values, ∃ r : Reading, r.value = v ∧ InRow data base head types values r := by
  induction values generalizing head types with
  | nil => exact fun v hv => absurd hv List.not_mem_nil
  | cons first rest ih =>
    cases h with
    | @cons _ _ place _ t _ _ _ stands _ step others =>
      refine List.forall_mem_cons.mpr ⟨⟨⟨t, place, first⟩, rfl, .first stands⟩, fun v hv => ?_⟩
      obtain ⟨r, hr, hrow⟩ := ih others v hv
      exact ⟨r, hr, .later step hrow⟩

/-- Elements that are read are as many as were asked for. -/
theorem ReadsAll.length_items {base head count : Nat} {elem : Ty} {items : List Value}
    (h : ReadsAll data base head (.replicate count elem) items) : items.length = count := by
  rw [h.haveTypes.length_eq, List.length_replicate]

/-- What data says of a value it says of its members. -/
theorem Reading.Member.said {outer r : Reading} (h : outer.Member data r)
    (hreads : outer.Said data) : r.Said data := by
  cases h with
  | array row =>
    cases hreads with
    | word elementary _ _ => cases elementary
    | array _ _ members =>
      have hcount := members.length_items
      rw [← hcount] at members
      exact row.said members
  | fixedArray row =>
    cases hreads with
    | word elementary _ _ => cases elementary
    | fixedArray _ members => exact row.said members
  | tuple row =>
    cases hreads with
    | word elementary _ _ => cases elementary
    | tuple members => exact row.said members

/-- A value of an elementary type has no members. -/
theorem HasType.members?_of_elementary {t : Ty} {v : Value} (h : HasType v t)
    (elementary : t.isHashed = false) : v.members? = none := by
  cases h with
  | array _ => cases elementary
  | fixedArray _ => cases elementary
  | tuple _ => cases elementary
  | _ => rfl

/-- Each member of a value that is read stands somewhere. -/
theorem Reading.Said.exists_member {outer : Reading} (h : outer.Said data) :
    ∀ item ∈ outer.value.members, ∃ r : Reading, r.value = item ∧ outer.Member data r := by
  obtain ⟨t, position, v⟩ := outer
  intro item hitem
  cases h with
  | word elementary typed _ =>
    rw [Value.members, typed.members?_of_elementary elementary] at hitem
    cases hitem
  | bytes _ => cases hitem
  | string _ => cases hitem
  | array _ _ members =>
    have hcount := members.length_items
    rw [← hcount] at members
    obtain ⟨r, hr, hrow⟩ := members.exists_inRow item hitem
    exact ⟨r, hr, .array hrow⟩
  | fixedArray _ members =>
    obtain rfl := members.length_items
    obtain ⟨r, hr, hrow⟩ := members.exists_inRow item hitem
    exact ⟨r, hr, .fixedArray hrow⟩
  | tuple members =>
    obtain ⟨r, hr, hrow⟩ := members.exists_inRow item hitem
    exact ⟨r, hr, .tuple hrow⟩

/-- Everything in decoded values is read where it stands. -/
theorem Reading.Within.said {r : Reading} (h : r.Within data types values)
    (hreads : ReadsAll data 0 0 types values) : r.Said data := by
  induction h with
  | outermost row => exact row.said hreads
  | member _ part ih => exact part.said ih

/-- Everything in decoded values stands somewhere. -/
theorem exists_within (h : ReadsAll data 0 0 types values) :
    ∀ node ∈ Value.nodesOf values, ∃ r : Reading, r.value = node ∧ r.Within data types values := by
  refine Value.forall_nodesOf ?_ values fun v hv => ?_
  · rintro - ⟨outer, rfl, hwithin⟩ item hitem
    obtain ⟨r, hr, hmember⟩ := (hwithin.said h).exists_member item hitem
    exact ⟨r, hr, .member hwithin hmember⟩
  · obtain ⟨r, hr, hrow⟩ := h.exists_inRow v hv
    exact ⟨r, hr, .outermost hrow⟩

/-! ### Bounds -/

/-- So many elements end inside data from a start on: no more of them than octets, and their heads
one behind the other. -/
structure Fits (data : Bytes) (elem : Ty) (count start : Nat) : Prop where
  /-- The elements begin inside the data. -/
  inside : start ≤ data.length
  /-- There are no more elements than octets from there on. -/
  count_le : count ≤ data.length - start
  /-- The heads of all elements take no more octets than there are from there on. -/
  heads_le : ∃ size, elem.headSize = some size ∧ count * size ≤ data.length - start

/-- A number of elements that is not refused fits. -/
theorem fits_of_checkElementCount {elem : Ty} {count start : Nat}
    (h : checkElementCount elem count data start = .ok ()) : Fits data elem count start := by
  obtain ⟨size, hsize, -, hroom⟩ := checkElementCount_eq_ok.mp h
  have hcount : count * 1 ≤ count * max size 1 := Nat.mul_le_mul_left _ (Nat.le_max_right _ _)
  have hheads : count * size ≤ count * max size 1 := Nat.mul_le_mul_left _ (Nat.le_max_left _ _)
  exact ⟨by omega, by omega, size, hsize, by omega⟩

/-- The elements of a sequence that is read fit where they begin. -/
theorem Reading.Said.fits {r : Reading} (h : r.Said data) {elem : Ty} {items : List Value}
    {start : Nat} (helements : r.elements? = some (elem, items, start)) :
    Fits data elem items.length start := by
  obtain ⟨t, position, v⟩ := r
  cases v with
  | array _ _ =>
    obtain ⟨rfl, rfl, rfl⟩ := helements
    cases h with
    | word elementary typed _ => cases typed; cases elementary
    | array _ room members =>
      rw [members.length_items]
      exact fits_of_checkElementCount room
  | fixedArray _ _ =>
    obtain ⟨rfl, rfl, rfl⟩ := helements
    cases h with
    | word elementary typed _ => cases typed; cases elementary
    | fixedArray room members =>
      rw [members.length_items]
      exact fits_of_checkElementCount room
  | _ => cases helements

/-- Everything in decoded values stands somewhere in the data, and every sequence among it has no
more elements than octets follow where its elements begin, let alone than there are octets, and the
heads of its elements take no more than these. Nothing is asked of the types: the elements may take
no octets, and a declared length may be any number. -/
theorem decoded_sequences_fit (h : decode types data = .ok values) :
    (∀ node ∈ Value.nodesOf values,
      ∃ r : Reading, r.value = node ∧ r.Within data types values) ∧
    (∀ r : Reading, r.Within data types values → ∀ elem items start,
      r.elements? = some (elem, items, start) →
        items.length ≤ data.length ∧ Fits data elem items.length start) := by
  have hreads := (decode_eq_ok.mp h).2
  refine ⟨exists_within hreads, fun r hwithin elem items start helements => ?_⟩
  have hfits := (hwithin.said hreads).fits helements
  exact ⟨Nat.le_trans hfits.count_le (Nat.sub_le _ _), hfits⟩

set_option maxRecDepth 4000 in
/-- Two elements at one offset, each an array of three elements that take no octets. No octet but
the last three follows them. -/
theorem decoded_sequences_fit_shared :
    let inner : Value := .array (.tuple []) [.tuple [], .tuple [], .tuple []]
    let values : List Value := [.array (.array (.tuple [])) [inner, inner]]
    let data := sizeWord 32 ++ sizeWord 2 ++ sizeWord 64 ++ sizeWord 64 ++ sizeWord 3 ++ [0, 0, 0]
    let r : Reading := ⟨.array (.tuple []), 128, inner⟩
    decode [.array (.array (.tuple []))] data = .ok values ∧
      r.Within data [.array (.array (.tuple []))] values ∧
        r.elements? = some (.tuple [], [.tuple [], .tuple [], .tuple []], 160) ∧
          Fits data (.tuple []) 3 160 := by
  intro inner values data r
  have hdata : decode [.array (.array (.tuple []))] data = .ok values := by rfl
  have hplace : placeOf data 0 0 (.array (.array (.tuple []))) = .ok 32 := rfl
  have hnext : nextHead 64 (.array (.tuple [])) = .ok 96 := rfl
  have hwithin : r.Within data [.array (.array (.tuple []))] values :=
    .member (.outermost (.first hplace)) (.array (.later hnext (.first rfl)))
  exact ⟨hdata, hwithin, rfl, ((decoded_sequences_fit hdata).2 r hwithin _ _ _ rfl).2⟩

end ContractToolkit.Abi
