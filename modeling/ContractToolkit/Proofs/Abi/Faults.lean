import ContractToolkit.Proofs.Abi.Reads

/-!
# How decoding fails

Decoding fails with a report about the octets and with nothing else. The sums
and cuts that nothing checks trap outside their range, so each of them is shown
to stand behind a test that keeps it inside: a word that was read ends inside
the data, and a type that can be declared has a width with a sign bit and a
length of one word at most.
-/

namespace ContractToolkit

/-- An error that reports octets that cannot be decoded. -/
def Error.IsDecode (e : Error) : Prop := ∃ fault, e = .decode fault

/-- A fault of decoding is such an error. -/
theorem Error.IsDecode.intro (fault : Abi.DecodeFault) : Error.IsDecode (.decode fault) :=
  ⟨fault, rfl⟩

/-- Whether a fault is found in octets that are read as values, and not in what is around them: the
topics of a log, a selector, or what was expected of a reply. -/
def Abi.DecodeFault.isOfOctets : DecodeFault → Bool
  | .invalidType _ | .noValue | .offsetOutside _ _ _ | .headOverflow _ _ | .addressPadding _
  | .uintRange _ _ _ | .intRange _ _ | .truthValue _ _ | .bytesPadding _ _ | .notText _ _
  | .elementCount _ _ _ _ | .wordOutside _ _ | .sizeRange _ _ | .bytesOutside _ _ _ => true
  | _ => false

/-- An error that reports octets that cannot be read as values. -/
def Error.IsOctetFault (e : Error) : Prop := ∃ fault, e = .decode fault ∧ fault.isOfOctets = true

/-- A fault that is found in octets is such an error. -/
theorem Error.IsOctetFault.intro {fault : Abi.DecodeFault} (h : fault.isOfOctets = true) :
    Error.IsOctetFault (.decode fault) :=
  ⟨fault, rfl, h⟩

/-- Octets that cannot be read as values cannot be decoded. -/
theorem Error.IsOctetFault.isDecode {e : Error} (h : e.IsOctetFault) : e.IsDecode := by
  obtain ⟨fault, rfl, -⟩ := h
  exact .intro fault

namespace Abi

open Outcome

variable {data : Bytes} {position : Nat}

/-- A cut inside the data does not trap. -/
theorem sliceTrapping_of_le {length : Nat} (h : position + length ≤ data.length) :
    sliceTrapping data position length = .ok ((data.drop position).take length) :=
  if_pos h

/-- A word is cut inside the data only. -/
theorem wordAt_failsWith : FailsWith Error.IsOctetFault (wordAt data position) := by
  rw [wordAt]
  split
  · rename_i hroom
    obtain ⟨rfl, -, hle⟩ := Machine.add?_filter_eq_some.mp hroom
    rw [sliceTrapping_of_le hle]
    exact .ok _
  · exact .error (.intro rfl)

/-- A size is a word or is reported. -/
theorem sizeAt_failsWith : FailsWith Error.IsOctetFault (sizeAt data position) := by
  refine wordAt_failsWith.bind fun octets _ => ?_
  dsimp only
  split
  · exact .ok _
  · exact .error (.intro rfl)

/-- The end of a word that was read is a size. -/
theorem addTrapping_wordSize {n : Nat} (h : sizeAt data position = .ok n) :
    addTrapping position wordSize = .ok (position + wordSize) :=
  addTrapping_eq_ok.mpr ⟨rfl, (wordAt_eq_ok.mp (sizeAt_eq_ok.mp h).2).2.2⟩

/-- The octets behind a length are cut inside the data only. -/
theorem packedAt_failsWith : FailsWith Error.IsOctetFault (packedAt data position) := by
  refine sizeAt_failsWith.bind fun length hlength => ?_
  rw [addTrapping_wordSize hlength]
  dsimp only [bind, Except.bind]
  split
  · rename_i hroom
    obtain ⟨rfl, -, hle⟩ := Machine.add?_filter_eq_some.mp hroom
    rw [sliceTrapping_of_le hle]
    exact .ok _
  · exact .error (.intro rfl)

/-- A count of elements is in range or is reported. -/
theorem checkElementCount_failsWith {elem : Ty} {count : Nat} :
    FailsWith Error.IsOctetFault (checkElementCount elem count data position) := by
  rw [checkElementCount]
  split
  · exact .ok _
  · exact .error (.intro rfl)

/-- An address is cut inside its word. -/
theorem addressAt_failsWith : FailsWith Error.IsOctetFault (addressAt data position) := by
  refine wordAt_failsWith.bind fun octets hword => ?_
  have hlength : octets.length = 32 := (wordAt_eq_ok.mp hword).1
  rw [sliceTrapping_of_le (by omega), sliceTrapping_of_le (by omega)]
  dsimp only [bind, Except.bind]
  split
  · exact .error (.intro rfl)
  · exact .ok _

/-- An unsigned integer is in range or is reported. -/
theorem uintAt_failsWith {bits : Nat} : FailsWith Error.IsOctetFault (uintAt bits data position) := by
  refine wordAt_failsWith.bind fun octets _ => ?_
  dsimp only
  split
  · exact .error (.intro rfl)
  · exact .ok _

/-- A signed integer with a sign bit is in range or is reported. -/
theorem intAt_failsWith {bits : Nat} (h : 0 < bits) :
    FailsWith Error.IsOctetFault (intAt bits data position) := by
  refine wordAt_failsWith.bind fun octets _ => ?_
  dsimp only
  rw [if_neg (by omega)]
  split
  · exact .ok _
  · exact .error (.intro rfl)

/-- A truth value is one of two words or is reported. -/
theorem boolAt_failsWith : FailsWith Error.IsOctetFault (boolAt data position) := by
  refine wordAt_failsWith.bind fun octets _ => ?_
  dsimp only
  split
  · exact .ok _
  · split
    · exact .ok _
    · exact .error (.intro rfl)

/-- A byte string that is no longer than a word is cut inside its word. -/
theorem fixedBytesAt_failsWith {size : Nat} (h : size ≤ wordSize) :
    FailsWith Error.IsOctetFault (fixedBytesAt size data position) := by
  refine wordAt_failsWith.bind fun octets hword => ?_
  have hlength := (wordAt_eq_ok.mp hword).1
  rw [sliceTrapping_of_le (by omega), sliceTrapping_of_le (by omega)]
  dsimp only [bind, Except.bind]
  split
  · exact .error (.intro rfl)
  · exact .ok _

/-- A text is UTF-8 or is reported. -/
theorem stringAt_failsWith : FailsWith Error.IsOctetFault (stringAt data position) := by
  refine packedAt_failsWith.bind fun octets _ => ?_
  split
  · exact .ok _
  · exact .error (.intro rfl)

/-- An offset points into the data or is reported. -/
theorem placeOf_failsWith {base head : Nat} {t : Ty} :
    FailsWith Error.IsOctetFault (placeOf data base head t) := by
  rw [placeOf]
  split
  · refine sizeAt_failsWith.bind fun offset _ => ?_
    split
    · exact .ok _
    · exact .error (.intro rfl)
  · exact .ok _

/-- The next head begins at a size or is reported. -/
theorem nextHead_failsWith {head : Nat} {t : Ty} :
    FailsWith Error.IsOctetFault (nextHead head t) := by
  rw [nextHead]
  split
  · exact .ok _
  · exact .error (.intro rfl)

/-- A sequence fails as its readers do, and by its own tests. -/
theorem readSequence_failsWith {base head : Nat} {types : List Ty}
    (h : ∀ t ∈ types, ∀ place, FailsWith Error.IsOctetFault (decodeValue data t place)) :
    FailsWith Error.IsOctetFault (readSequence data base head (readers data types)) := by
  induction types generalizing head with
  | nil => exact .ok _
  | cons t rest ih =>
    have hhere := h t List.mem_cons_self
    have hrest := fun next => @ih next fun s hs => h s (List.mem_cons_of_mem _ hs)
    rw [readers, readSequence_cons]
    refine (placeOf_failsWith.bind fun place _ => hhere place).bind fun v _ => ?_
    exact nextHead_failsWith.bind fun next _ => (hrest next).bind fun vs _ => .ok _

mutual

/-- A value of a type that can be declared is read at any position or reported. -/
theorem decodeValue_failsWith : ∀ (t : Ty), t.fault? = none → ∀ (position : Nat),
    FailsWith Error.IsOctetFault (decodeValue data t position)
  | .address, _, _ => addressAt_failsWith
  | .uint _, _, _ => uintAt_failsWith
  | .int bits, h, _ => intAt_failsWith (Ty.pos_of_widthFault? h)
  | .bool, _, _ => boolAt_failsWith
  | .fixedBytes _, h, _ => fixedBytesAt_failsWith (Ty.fixedBytes_fault?_eq_none.mp h).2
  | .bytes, _, _ => packedAt_failsWith.bind fun _ _ => .ok _
  | .string, _, _ => stringAt_failsWith
  | .array elem, h, position => by
    have helem : elem.fault? = none := h
    have hmembers (count : Nat) : ∀ t ∈ List.replicate count elem, ∀ place,
        FailsWith Error.IsOctetFault (decodeValue data t place) :=
      fun t ht => List.eq_of_mem_replicate ht ▸ decodeValue_failsWith elem helem
    rw [decodeValue]
    refine sizeAt_failsWith.bind fun count hcount => ?_
    rw [addTrapping_wordSize hcount, replicate_reader]
    refine checkElementCount_failsWith.bind fun _ _ => ?_
    exact (readSequence_failsWith (hmembers count)).bind fun _ _ => .ok _
  | .fixedArray elem length, h, position => by
    have helem := (Ty.fixedArray_fault?_eq_none.mp h).2
    have hmembers : ∀ t ∈ List.replicate length elem, ∀ place,
        FailsWith Error.IsOctetFault (decodeValue data t place) :=
      fun t ht => List.eq_of_mem_replicate ht ▸ decodeValue_failsWith elem helem
    rw [decodeValue, replicate_reader]
    refine checkElementCount_failsWith.bind fun _ _ => ?_
    exact (readSequence_failsWith hmembers).bind fun _ _ => .ok _
  | .tuple fields, h, position => by
    rw [decodeValue]
    exact (readSequence_failsWith (decodeValue_failsWith_of_mem fields h)).bind fun _ _ => .ok _

/-- Values of types that can be declared are read at any position or reported. -/
theorem decodeValue_failsWith_of_mem : ∀ (types : List Ty), Ty.faults? types = none →
    ∀ t ∈ types, ∀ (position : Nat), FailsWith Error.IsOctetFault (decodeValue data t position)
  | [], _, _, ht => by cases ht
  | t :: rest, h, s, hs => by
    rw [Ty.faults?, Option.or_eq_none_iff] at h
    obtain hs | hs := List.mem_cons.mp hs
    · exact hs ▸ decodeValue_failsWith t h.1
    · exact decodeValue_failsWith_of_mem rest h.2 s hs

end

/-- Whatever the types and the octets are, decoding gives values or tells what it found in the
octets. -/
theorem decode_octetFault (types : List Ty) (data : Bytes) :
    FailsWith Error.IsOctetFault (decode types data) := by
  cases hfaults : Ty.faults? types with
  | some fault =>
    rw [decode, hfaults]
    exact .error (.intro rfl)
  | none =>
    rw [decode, hfaults]
    exact readSequence_failsWith (decodeValue_failsWith_of_mem types hfaults)

/-- Decoding one value gives it or tells what it found in the octets. -/
theorem decodeSingle_octetFault (t : Ty) (data : Bytes) :
    FailsWith Error.IsOctetFault (decodeSingle t data) := by
  refine (decode_octetFault [t] data).bind fun values _ => ?_
  split
  · exact .ok _
  · exact .error (.intro rfl)

/-- Whatever the types and the octets are, decoding gives values or reports the octets. -/
theorem decode_failsWith (types : List Ty) (data : Bytes) :
    FailsWith Error.IsDecode (decode types data) :=
  (decode_octetFault types data).mono fun _ => Error.IsOctetFault.isDecode

/-- Decoding one value gives it or reports the octets. -/
theorem decodeSingle_failsWith (t : Ty) (data : Bytes) :
    FailsWith Error.IsDecode (decodeSingle t data) :=
  (decodeSingle_octetFault t data).mono fun _ => Error.IsOctetFault.isDecode

end Abi

end ContractToolkit
