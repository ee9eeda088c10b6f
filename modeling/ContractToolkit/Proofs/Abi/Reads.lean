import ContractToolkit.Proofs.Abi.Readers

/-!
# What data says

The relation between data, a type, a position and the value that is read there,
without the order of the tests that the decoder makes. The decoder succeeds
exactly where the relation holds, with its value; what is shown of the relation
by induction on its rules is shown of the decoder.
-/

namespace ContractToolkit.Abi

/-- Where the value of a head stands: behind the offset in the head when the type is dynamic, in the
head itself otherwise. -/
def placeOf (data : Bytes) (base head : Nat) (t : Ty) : Outcome Nat :=
  if t.isDynamic then do
    let offset ← sizeAt data head
    match (Machine.add? base offset).filter (· ≤ data.length) with
    | some start => return start
    | none => .error (.decode (.offsetOutside offset head data.length))
  else return head

/-- Where the head of the next value begins. -/
def nextHead (head : Nat) (t : Ty) : Outcome Nat :=
  match t.headSize.bind fun size => Machine.add? head size with
  | some next => return next
  | none => .error (.decode (.headOverflow t head))

/-- A sequence is read value by value: where it stands, what it is, and where the next head is. -/
theorem readSequence_cons (data : Bytes) (base head : Nat) (t : Ty) (read : Nat → Outcome Value)
    (rest : List Reader) :
    readSequence data base head ((t, read) :: rest) = do
      let v ← placeOf data base head t >>= read
      let next ← nextHead head t
      let vs ← readSequence data base next rest
      return v :: vs := by
  have hstep (v : Value) : (match t.headSize.bind fun size => Machine.add? head size with
      | some next => do
        let vs ← readSequence data base next rest
        return v :: vs
      | none => .error (.decode (.headOverflow t head))) = (do
      let next ← nextHead head t
      let vs ← readSequence data base next rest
      return v :: vs : Outcome (List Value)) := by
    rw [nextHead]
    cases t.headSize.bind fun size => Machine.add? head size with
    | none => rfl
    | some next => rfl
  by_cases hdynamic : t.isDynamic
  · rw [readSequence, placeOf, if_pos hdynamic, if_pos hdynamic]
    cases sizeAt data head with
    | error e => rfl
    | ok offset =>
      dsimp only [bind, Except.bind]
      cases (Machine.add? base offset).filter (· ≤ data.length) with
      | none => rfl
      | some start => exact congrArg (Except.bind (read start)) (funext hstep)
  · rw [readSequence, placeOf, if_neg hdynamic, if_neg hdynamic]
    exact congrArg (Except.bind (read head)) (funext hstep)

/-- A static value stands in its head, a dynamic one inside the data at its offset from the base. -/
theorem placeOf_eq_ok {data : Bytes} {base head place : Nat} {t : Ty} :
    placeOf data base head t = .ok place ↔
      if t.isDynamic then
        ∃ offset, sizeAt data head = .ok offset ∧ place = base + offset ∧
          base + offset < Machine.sizeLimit ∧ base + offset ≤ data.length
      else place = head := by
  by_cases hdynamic : t.isDynamic
  · rw [placeOf, if_pos hdynamic, if_pos hdynamic, Outcome.bind_eq_ok]
    refine exists_congr fun offset => and_congr_right fun _ => ?_
    rw [← Machine.add?_filter_eq_some]
    cases (Machine.add? base offset).filter (· ≤ data.length) with
    | none => simp
    | some start => rw [Outcome.pure_eq_ok, Option.some.injEq]
  · rw [placeOf, if_neg hdynamic, if_neg hdynamic, Outcome.pure_eq_ok]
    exact eq_comm

/-- The next head begins where this one ends. -/
theorem nextHead_eq_ok {head next : Nat} {t : Ty} :
    nextHead head t = .ok next ↔
      ∃ size, t.headSize = some size ∧ next = head + size ∧ head + size < Machine.sizeLimit := by
  rw [nextHead]
  cases t.headSize with
  | none => simp
  | some size =>
    simp only [Option.bind_some, Option.some.injEq, exists_eq_left', ← Machine.add?_eq_some]
    cases Machine.add? head size with
    | none => simp
    | some sum => rw [Outcome.pure_eq_ok, Option.some.injEq]

mutual

/-- Data says a value of a type at a position. -/
inductive Reads (data : Bytes) : Ty → Nat → Value → Prop
  | word {t : Ty} {position : Nat} {v : Value} (elementary : t.isHashed = false)
      (typed : HasType v t) (stands : wordAt data position = .ok v.octets) : Reads data t position v
  | bytes {position : Nat} {octets : Bytes} (stands : packedAt data position = .ok octets) :
      Reads data .bytes position (.bytes octets)
  | string {position : Nat} {s : String} (stands : packedAt data position = .ok (Text.utf8 s)) :
      Reads data .string position (.string s)
  | array {elem : Ty} {position count : Nat} {items : List Value}
      (length : sizeAt data position = .ok count)
      (room : checkElementCount elem count data (position + wordSize) = .ok ())
      (members : ReadsAll data (position + wordSize) (position + wordSize) (.replicate count elem)
        items) : Reads data (.array elem) position (.array elem items)
  | fixedArray {elem : Ty} {length position : Nat} {items : List Value}
      (room : checkElementCount elem length data position = .ok ())
      (members : ReadsAll data position position (.replicate length elem) items) :
      Reads data (.fixedArray elem length) position (.fixedArray elem items)
  | tuple {fields : List Ty} {position : Nat} {items : List Value}
      (members : ReadsAll data position position fields items) :
      Reads data (.tuple fields) position (.tuple items)

/-- Data says values of types whose heads follow one another, offsets being counted from a base. -/
inductive ReadsAll (data : Bytes) : (base head : Nat) → List Ty → List Value → Prop
  | nil {base head : Nat} : ReadsAll data base head [] []
  | cons {base head place next : Nat} {t : Ty} {v : Value} {types : List Ty} {values : List Value}
      (stands : placeOf data base head t = .ok place) (value : Reads data t place v)
      (step : nextHead head t = .ok next) (rest : ReadsAll data base next types values) :
      ReadsAll data base head (t :: types) (v :: values)

end

variable {data : Bytes} {base head position : Nat}

/-- An elementary type says in one word what the encoder writes for its value. -/
theorem reads_word_iff {t : Ty} {v : Value} (elementary : t.isHashed = false) :
    Reads data t position v ↔ HasType v t ∧ wordAt data position = .ok v.octets := by
  constructor
  · intro h
    cases h with
    | word _ typed stands => exact ⟨typed, stands⟩
    | _ => cases elementary
  · rintro ⟨typed, stands⟩
    exact .word elementary typed stands

/-- The readers of types one by one. -/
theorem readers_eq_map (data : Bytes) (types : List Ty) :
    readers data types = types.map fun t => (t, fun position => decodeValue data t position) := by
  induction types with
  | nil => rfl
  | cons t rest ih => rw [readers, ih, List.map_cons]

/-- The elements of a sequence are read like components of one type. -/
theorem replicate_reader (data : Bytes) (elem : Ty) (count : Nat) :
    List.replicate count (elem, fun position => decodeValue data elem position) =
      readers data (.replicate count elem) := by
  rw [readers_eq_map, List.map_replicate]

/-- A sequence of readers reads what data says, if each of them does. -/
theorem readSequence_eq_ok_of_mem {types : List Ty} {values : List Value}
    (hreaders : ∀ t ∈ types, ∀ position v,
      decodeValue data t position = .ok v ↔ Reads data t position v) :
    readSequence data base head (readers data types) = .ok values ↔
      ReadsAll data base head types values := by
  induction types generalizing head values with
  | nil =>
    rw [readers, readSequence]
    constructor
    · intro h
      cases h
      exact .nil
    · intro h
      cases h
      rfl
  | cons t rest ih =>
    have hhere := hreaders t List.mem_cons_self
    have hrest {next : Nat} {vs : List Value} :
        readSequence data base next (readers data rest) = .ok vs ↔
          ReadsAll data base next rest vs :=
      ih fun t ht => hreaders t (List.mem_cons_of_mem _ ht)
    rw [readers, readSequence_cons, Outcome.bind_eq_ok]
    simp only [Outcome.bind_eq_ok, Outcome.pure_eq_ok, hhere, hrest]
    constructor
    · rintro ⟨v, ⟨place, stands, value⟩, next, step, vs, rest, rfl⟩
      exact .cons stands value step rest
    · intro h
      cases h with
      | cons stands value step rest => exact ⟨_, ⟨_, stands, value⟩, _, step, _, rest, rfl⟩

mutual

/-- The decoder reads at a position what data says there, and fails where data says nothing. -/
theorem decodeValue_eq_ok : ∀ (t : Ty) (position : Nat) (v : Value),
    decodeValue data t position = .ok v ↔ Reads data t position v
  | .address, position, v => by rw [decodeValue, addressAt_eq_ok, reads_word_iff rfl]
  | .uint bits, position, v => by rw [decodeValue, uintAt_eq_ok, reads_word_iff rfl]
  | .int bits, position, v => by rw [decodeValue, intAt_eq_ok, reads_word_iff rfl]
  | .bool, position, v => by rw [decodeValue, boolAt_eq_ok, reads_word_iff rfl]
  | .fixedBytes size, position, v => by rw [decodeValue, fixedBytesAt_eq_ok, reads_word_iff rfl]
  | .bytes, position, v => by
    simp only [decodeValue, Outcome.bind_eq_ok, Outcome.pure_eq_ok]
    constructor
    · rintro ⟨octets, stands, rfl⟩
      exact .bytes stands
    · intro h
      cases h with
      | word elementary _ _ => cases elementary
      | bytes stands => exact ⟨_, stands, rfl⟩
  | .string, position, v => by
    rw [decodeValue, stringAt_eq_ok]
    constructor
    · rintro ⟨s, rfl, stands⟩
      exact .string stands
    · intro h
      cases h with
      | word elementary _ _ => cases elementary
      | string stands => exact ⟨_, rfl, stands⟩
  | .array elem, position, v => by
    have hmembers {count start : Nat} {items : List Value} :
        readSequence data start start (readers data (.replicate count elem)) = .ok items ↔
          ReadsAll data start start (.replicate count elem) items :=
      readSequence_eq_ok_of_mem fun t ht =>
        List.eq_of_mem_replicate ht ▸ decodeValue_eq_ok elem
    simp only [decodeValue, replicate_reader, Outcome.bind_eq_ok, Outcome.pure_eq_ok, hmembers,
      addTrapping_eq_ok]
    constructor
    · rintro ⟨count, length, start, ⟨rfl, -⟩, ⟨⟩, room, items, members, rfl⟩
      exact .array length room members
    · intro h
      cases h with
      | word elementary _ _ => cases elementary
      | array length room members =>
        have hlimit := (wordAt_eq_ok.mp (sizeAt_eq_ok.mp length).2).2.2
        exact ⟨_, length, _, ⟨rfl, hlimit⟩, (), room, _, members, rfl⟩
  | .fixedArray elem length, position, v => by
    have hmembers {items : List Value} :
        readSequence data position position (readers data (.replicate length elem)) = .ok items ↔
          ReadsAll data position position (.replicate length elem) items :=
      readSequence_eq_ok_of_mem fun t ht =>
        List.eq_of_mem_replicate ht ▸ decodeValue_eq_ok elem
    simp only [decodeValue, replicate_reader, Outcome.bind_eq_ok, Outcome.pure_eq_ok, hmembers]
    constructor
    · rintro ⟨⟨⟩, room, items, members, rfl⟩
      exact .fixedArray room members
    · intro h
      cases h with
      | word elementary _ _ => cases elementary
      | fixedArray room members => exact ⟨(), room, _, members, rfl⟩
  | .tuple fields, position, v => by
    simp only [decodeValue, Outcome.bind_eq_ok, Outcome.pure_eq_ok,
      readSequence_eq_ok_of_mem (decodeValue_eq_ok_of_mem fields)]
    constructor
    · rintro ⟨items, members, rfl⟩
      exact .tuple members
    · intro h
      cases h with
      | word elementary _ _ => cases elementary
      | tuple members => exact ⟨_, members, rfl⟩

/-- The decoder reads what data says for each type of a list. -/
theorem decodeValue_eq_ok_of_mem : ∀ (types : List Ty), ∀ t ∈ types, ∀ (position : Nat) (v : Value),
    decodeValue data t position = .ok v ↔ Reads data t position v
  | [], _, h => by cases h
  | t :: rest, s, h =>
    match List.mem_cons.mp h with
    | .inl h => h ▸ decodeValue_eq_ok t
    | .inr h => decodeValue_eq_ok_of_mem rest s h

end

/-- A sequence is decoded exactly where data says it from its base on. -/
theorem decodeSequence_eq_ok {types : List Ty} {values : List Value} :
    decodeSequence types data base = .ok values ↔ ReadsAll data base base types values :=
  readSequence_eq_ok_of_mem (decodeValue_eq_ok_of_mem types)

/-- Decoding succeeds exactly where types that can be declared are said by the data from its start
on. -/
theorem decode_eq_ok {types : List Ty} {values : List Value} :
    decode types data = .ok values ↔
      Ty.faults? types = none ∧ ReadsAll data 0 0 types values := by
  rw [← decodeSequence_eq_ok]
  cases hfaults : Ty.faults? types with
  | some fault => simp [decode, hfaults]
  | none => simp [decode, hfaults]

/-- One value is decoded exactly where data says it for the head at its start, and that head ends at
a size. -/
theorem decodeSingle_eq_ok {t : Ty} {v : Value} :
    decodeSingle t data = .ok v ↔
      t.fault? = none ∧ (∃ place, placeOf data 0 0 t = .ok place ∧ Reads data t place v) ∧
        ∃ next, nextHead 0 t = .ok next := by
  have hfaults : Ty.faults? [t] = t.fault? := Option.or_none
  simp only [decodeSingle, Outcome.bind_eq_ok, decode_eq_ok, hfaults]
  constructor
  · rintro ⟨values, ⟨hdeclared, h⟩, hlast⟩
    cases h with
    | cons stands value step rest =>
      cases rest with
      | nil =>
        obtain rfl := Outcome.pure_eq_ok.mp hlast
        exact ⟨hdeclared, ⟨_, stands, value⟩, _, step⟩
  · rintro ⟨hdeclared, ⟨place, stands, value⟩, next, step⟩
    exact ⟨[v], ⟨hdeclared, .cons stands value step .nil⟩, rfl⟩

end ContractToolkit.Abi
