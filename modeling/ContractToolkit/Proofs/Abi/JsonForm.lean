import ContractToolkit.Proofs.Abi.IntegerTexts
import ContractToolkit.Proofs.Abi.Typing
import ContractToolkit.Proofs.Bytes.HexText
import ContractToolkit.Proofs.Text.Digits

/-!
# Values read back from their JSON forms

The JSON form of a value names neither its kind nor its width: an integer is the
text of its decimal digits, octets are the text of their hexadecimal ones, and
sequences and tuples are arrays alike. What was lost is in the type by which the
form is read, so a value comes back whenever it has that type; whether its
integers are in range does not matter.
-/

namespace ContractToolkit

open Text

namespace Abi

namespace Value

/-- A word without a sign is read back from its digits. -/
theorem unsignedOfChars_ofNat (w : Word) : unsignedOfChars (ofNat w.toNat).toList = .ok w := by
  rw [Text.ofNat, String.toList_ofList, unsignedOfChars_eq_ok, (solid_decimal _).trimmed.trim_eq]
  exact .of_decimal w.toNat

/-- A word with a sign is read back from its digits, the least of all too. -/
theorem signedOfChars_ofInt (w : Word) : signedOfChars (ofInt w.toInt).toList = .ok w := by
  rw [signedOfChars_eq_ok]
  cases w.toInt with
  | ofNat n =>
    rw [ofInt, Text.ofNat, String.toList_ofList, (solid_decimal n).trimmed.trim_eq]
    exact .plain (.of_decimal n)
  | negSucc n =>
    have hsolid : Solid ('-' :: decimal (n + 1)) :=
      List.forall_mem_cons.mpr ⟨by decide, solid_decimal (n + 1)⟩
    have hchars : (ofInt (.negSucc n)).toList = '-' :: decimal (n + 1) := by
      rw [ofInt, Text.ofNat, String.toList_append, String.toList_ofList, String.toList_ofList]
      rfl
    have hread : ReadAs (trim (decimal (n + 1))) (n + 1) := by
      rw [(solid_decimal (n + 1)).trimmed.trim_eq]
      exact .of_decimal (n + 1)
    rw [hchars, hsolid.trimmed.trim_eq]
    exact .minus hread (Nat.succ_pos n)

/-- Octets are read back from their digits. -/
theorem octetsOfText_hex (octets : Bytes) : octetsOfText octets.hex = .ok octets := by
  rw [octetsOfText, Hex.withoutMark_hex, Hex.decode_hexDigits]
  rfl

end Value

/-- A value is of a type when every member of a sequence in it is of the type that is declared for
it, at any depth; the range of integers is left open. -/
inductive Shaped : Value → Ty → Prop
  | address (a : Address) : Shaped (.address a) .address
  | uint (w : Word) (bits : Nat) : Shaped (.uint w bits) (.uint bits)
  | int (w : Word) (bits : Nat) : Shaped (.int w bits) (.int bits)
  | bool (b : Bool) : Shaped (.bool b) .bool
  | bytes (octets : Bytes) : Shaped (.bytes octets) .bytes
  | fixedBytes (octets : Bytes) : Shaped (.fixedBytes octets) (.fixedBytes octets.length)
  | string (s : String) : Shaped (.string s) .string
  | array {elem : Ty} {items : List Value} (members : ∀ item ∈ items, Shaped item elem) :
      Shaped (.array elem items) (.array elem)
  | fixedArray {elem : Ty} {items : List Value} (members : ∀ item ∈ items, Shaped item elem) :
      Shaped (.fixedArray elem items) (.fixedArray elem items.length)
  | tuple {items : List Value} (members : ∀ item ∈ items, Shaped item item.ty) :
      Shaped (.tuple items) (.tuple (Value.tys items))

/-- Members that have one type are of that type. -/
theorem HaveTypes.ty_eq_of_mem {values : List Value} {elem : Ty} {count : Nat}
    (h : HaveTypes values (.replicate count elem)) {v : Value} (hv : v ∈ values) : v.ty = elem := by
  have hty : v.ty ∈ Value.tys values := by
    rw [Value.tys_eq_map]
    exact List.mem_map_of_mem hv
  rw [h.tys_eq] at hty
  exact List.eq_of_mem_replicate hty

mutual

/-- A value in range is of its type. -/
theorem HasType.shaped {v : Value} {t : Ty} : HasType v t → Shaped v t
  | .address a => .address a
  | .uint _ => .uint _ _
  | .int _ _ _ => .int _ _
  | .bool b => .bool b
  | .bytes octets => .bytes octets
  | .fixedBytes octets => .fixedBytes octets
  | .string s => .string s
  | .array members => .array fun item hitem =>
      members.ty_eq_of_mem hitem ▸ members.shaped item hitem
  | .fixedArray members => .fixedArray fun item hitem =>
      members.ty_eq_of_mem hitem ▸ members.shaped item hitem
  | .tuple members => members.tys_eq ▸ .tuple members.shaped

/-- Values in range are of their own types. -/
theorem HaveTypes.shaped {values : List Value} {types : List Ty} :
    HaveTypes values types → ∀ v ∈ values, Shaped v v.ty
  | .nil => fun _ h => absurd h List.not_mem_nil
  | .cons head tail => List.forall_mem_cons.mpr ⟨head.ty_eq.symm ▸ head.shaped, tail.shaped⟩

end

namespace Value

/-- The JSON forms of values one by one. -/
theorem toJsons_eq_map (values : List Value) : toJsons values = values.map toJson := by
  induction values with
  | nil => rfl
  | cons v rest ih => rw [toJsons, List.map_cons, ih]

/-- Components are read back when each of them is. -/
theorem ofJsons_toJsons {values : List Value} (h : ∀ v ∈ values, ofJson v.ty v.toJson = .ok v) :
    ofJsons (tys values) (toJsons values) = .ok values := by
  induction values with
  | nil => rfl
  | cons v rest ih =>
    obtain ⟨hv, hrest⟩ := List.forall_mem_cons.mp h
    rw [tys, toJsons, ofJsons, hv]
    change (ofJsons (tys rest) (toJsons rest) >>= _) = _
    rw [ih hrest]
    rfl

end Value

/-- A value is read back from its JSON form by its type. -/
theorem Shaped.ofJson_toJson {v : Value} {t : Ty} (h : Shaped v t) :
    Value.ofJson t v.toJson = .ok v := by
  induction h with
  | address a =>
    simp only [Value.toJson, Value.ofJson, Value.textFor, bind, Except.bind, Address.ofText_hex]
  | uint w bits =>
    rw [Value.toJson, Value.ofJson]
    rw [Value.unsignedOfChars_ofNat]
    rfl
  | int w bits =>
    rw [Value.toJson, Value.ofJson]
    rw [Value.signedOfChars_ofInt]
    rfl
  | bool b => rfl
  | bytes octets =>
    simp only [Value.toJson, Value.ofJson, Value.textFor, bind, Except.bind, Value.octetsOfText_hex]
    rfl
  | fixedBytes octets =>
    simp only [Value.toJson, Value.ofJson, Value.textFor, bind, Except.bind, Value.octetsOfText_hex]
    exact if_pos trivial
  | string s => rfl
  | @array elem items members ih =>
    have hitems : (Value.toJsons items).mapM (Value.ofJson elem) = .ok items := by
      rw [Value.toJsons_eq_map]
      exact Outcome.mapM_map_eq_ok ih
    rw [Value.toJson, Value.ofJson]
    change ((Value.toJsons items).mapM (Value.ofJson elem) >>= _) = _
    rw [hitems]
    rfl
  | @fixedArray elem items members ih =>
    have hlength : (Value.toJsons items).length = items.length := by
      rw [Value.toJsons_eq_map, List.length_map]
    have hitems : (Value.toJsons items).mapM (Value.ofJson elem) = .ok items := by
      rw [Value.toJsons_eq_map]
      exact Outcome.mapM_map_eq_ok ih
    rw [Value.toJson, Value.ofJson]
    change (if (Value.toJsons items).length = items.length then
      (Value.toJsons items).mapM (Value.ofJson elem) >>= _ else _) = _
    rw [if_pos hlength, hitems]
    rfl
  | @tuple items members ih =>
    have hlength : (Value.toJsons items).length = (Value.tys items).length := by
      rw [Value.toJsons_eq_map, List.length_map, Value.length_tys]
    rw [Value.toJson, Value.ofJson]
    change (if (Value.toJsons items).length = (Value.tys items).length then
      Value.ofJsons (Value.tys items) (Value.toJsons items) >>= _ else _) = _
    rw [if_pos hlength, Value.ofJsons_toJsons ih]
    rfl

end Abi

end ContractToolkit
