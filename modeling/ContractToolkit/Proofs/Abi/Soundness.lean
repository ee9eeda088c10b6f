import ContractToolkit.Proofs.Abi.Reads

/-!
# Decoded values are well typed

The decoder and the encoder are strict apart from each other: one tests words
against types, the other tests values. Whatever data says, at any offset, has
the declared type at every depth, so the encoder accepts everything that the
decoder returns.
-/

namespace ContractToolkit.Abi

variable {data : Bytes}

mutual

/-- A value that data says has the type it is read as. -/
theorem Reads.hasType {t : Ty} {position : Nat} {v : Value} :
    Reads data t position v → HasType v t
  | .word _ typed _ => typed
  | .bytes _ => .bytes _
  | .string _ => .string _
  | @Reads.array _ elem _ count items _ _ members => by
    have typed := members.haveTypes
    have hcount : items.length = count := by rw [typed.length_eq, List.length_replicate]
    rw [← hcount] at typed
    exact .array typed
  | @Reads.fixedArray _ elem length _ items _ members => by
    have typed := members.haveTypes
    have hcount : items.length = length := by rw [typed.length_eq, List.length_replicate]
    rw [← hcount] at typed ⊢
    exact .fixedArray typed
  | .tuple members => .tuple members.haveTypes

/-- Values that data says one after another have the types they are read as. -/
theorem ReadsAll.haveTypes {base head : Nat} {types : List Ty} {values : List Value} :
    ReadsAll data base head types values → HaveTypes values types
  | .nil => .nil
  | .cons _ value _ rest => .cons value.hasType rest.haveTypes

end

/-- Decoded values have the types they are decoded as. -/
theorem haveTypes_of_decode {types : List Ty} {values : List Value}
    (h : decode types data = .ok values) : HaveTypes values types :=
  (decode_eq_ok.mp h).2.haveTypes

/-- A value that is decoded by itself has the type it is decoded as. -/
theorem hasType_of_decodeSingle {t : Ty} {v : Value} (h : decodeSingle t data = .ok v) :
    HasType v t := by
  obtain ⟨-, ⟨place, -, hreads⟩, -⟩ := decodeSingle_eq_ok.mp h
  exact hreads.hasType

/-- Every list of values that is decoded has one value for each declared type, each of its type at
every depth, and is accepted by the encoder for these types. -/
theorem decode_sound {types : List Ty} {values : List Value}
    (h : decode types data = .ok values) :
    values.length = types.length ∧ values.map Value.ty = types ∧ HaveTypes values types ∧
      ∃ octets, encodeParams types values = .ok octets := by
  obtain ⟨hdeclared, hreads⟩ := decode_eq_ok.mp h
  have typed := hreads.haveTypes
  have htys := typed.tys_eq
  refine ⟨typed.length_eq, by rw [← Value.tys_eq_map, htys], typed,
    layOut (Value.parts values), ?_⟩
  rw [encodeParams_eq_ok, encode_eq_ok, htys]
  exact ⟨rfl, typed, hdeclared, rfl⟩

set_option maxRecDepth 4000 in
/-- Both members of an array may stand at one offset; they are read twice and each is well typed. -/
theorem decode_sound_shared :
    let data := sizeWord 32 ++ sizeWord 2 ++ sizeWord 64 ++ sizeWord 64 ++ sizeWord 1 ++
      padTo 32 [0x61]
    let values : List Value := [.array .string [.string "a", .string "a"]]
    decode [.array .string] data = .ok values ∧
      values.length = 1 ∧ values.map Value.ty = [.array .string] ∧
        HaveTypes values [.array .string] ∧
          ∃ octets, encodeParams [.array .string] values = .ok octets := by
  have hdata : decode [.array .string] (sizeWord 32 ++ sizeWord 2 ++ sizeWord 64 ++ sizeWord 64 ++
      sizeWord 1 ++ padTo 32 [0x61]) = .ok [.array .string [.string "a", .string "a"]] := by
    rfl
  exact ⟨hdata, decode_sound hdata⟩

end ContractToolkit.Abi
