import ContractToolkit.CommandLine.Argument
import ContractToolkit.Proofs.Abi.JsonForm
import ContractToolkit.Proofs.Json.BareWords

/-!
# Arguments mean what they say

A value is written on the command line as the text of its JSON form, without
quotes where that form is a text. Such a word is looked at as JSON first, so the
digits of an integer become a number before the type is consulted, and a number
of more than 64 bits is a double that no integer type takes. Every other value
is read back, as long as the brackets in its word are nested no deeper than JSON
allows; and no word is ever read as another value than the one it was written
from.
-/

namespace ContractToolkit

open Abi

namespace Abi

mutual

/-- The JSON form of a value is plain. -/
theorem Value.plain_toJson : ∀ v : Value, v.toJson.Plain
  | .address _ => .string _
  | .uint _ _ => .string _
  | .int _ _ => .string _
  | .bool b => .bool b
  | .bytes _ => .string _
  | .fixedBytes _ => .string _
  | .string s => .string s
  | .array _ items => .array (Value.plain_toJsons items)
  | .fixedArray _ items => .array (Value.plain_toJsons items)
  | .tuple items => .array (Value.plain_toJsons items)

/-- The JSON forms of values are plain. -/
theorem Value.plain_toJsons : ∀ values : List Value, ∀ json ∈ Value.toJsons values, json.Plain
  | [] => fun _ h => absurd h List.not_mem_nil
  | v :: rest => List.forall_mem_cons.mpr ⟨v.plain_toJson, Value.plain_toJsons rest⟩

end

/-- The word that a value is written as: the text that its JSON form is, or the compact text of
that form. -/
def Value.word (v : Value) : String :=
  match v.toJson with
  | .string s => s
  | json => json.compact

/-- A value whose word is read back. -/
structure Value.Legible (v : Value) : Prop where
  /-- An unsigned integer by itself has 64 bits. -/
  unsigned : ∀ w ∈ v.uint?, w.toNat < Machine.sizeLimit
  /-- A signed integer by itself has 64 bits. -/
  signed : ∀ n ∈ v.int?, -2 ^ 63 ≤ n ∧ n < 2 ^ 63
  /-- Brackets are nested no deeper than JSON allows. -/
  nesting : v.toJson.levels ≤ Json.maxDepth

instance (v : Value) : Decidable v.Legible :=
  decidable_of_iff ((v.uint?.all (·.toNat < Machine.sizeLimit) = true ∧
      v.int?.all (fun n => -2 ^ 63 ≤ n ∧ n < 2 ^ 63) = true) ∧
        v.toJson.levels ≤ Json.maxDepth) (by
    simp only [Option.all_eq_true, decide_eq_true_eq]
    exact ⟨fun h => ⟨h.1.1, h.1.2, h.2⟩, fun h => ⟨⟨h.unsigned, h.signed⟩, h.nesting⟩⟩)

/-- The word of an unsigned integer is legible up to 64 bits. -/
theorem Value.legible_uint {w : Word} {bits : Nat} :
    (uint w bits).Legible ↔ w.toNat < Machine.sizeLimit := by
  refine ⟨fun h => h.unsigned w rfl, fun h => ⟨fun v hv => ?_, fun n hn => ?_, Nat.zero_le _⟩⟩
  · cases hv
    exact h
  · cases hn

/-- The word of a signed integer is legible up to 64 bits. -/
theorem Value.legible_int {w : Word} {bits : Nat} :
    (int w bits).Legible ↔ -2 ^ 63 ≤ w.toInt ∧ w.toInt < 2 ^ 63 := by
  refine ⟨fun h => h.signed _ rfl, fun h => ⟨fun v hv => ?_, fun n hn => ?_, Nat.zero_le _⟩⟩
  · cases hv
  · cases hn
    exact h

/-- The word of any other value is legible up to the nesting that JSON allows. -/
theorem Value.legible_iff {v : Value} (hunsigned : v.uint? = none) (hsigned : v.int? = none) :
    v.Legible ↔ v.toJson.levels ≤ Json.maxDepth := by
  refine ⟨fun h => h.nesting, fun h => ⟨fun w hw => ?_, fun n hn => ?_, h⟩⟩
  · rw [hunsigned] at hw
    cases hw
  · rw [hsigned] at hn
    cases hn

end Abi

namespace CommandLine

variable {t : Ty} {word : String}

/-- Where no text is wanted, a word is JSON if it can be. -/
theorem argumentJson_eq (ht : t ≠ .string) :
    argumentJson t word = (Json.ofText word).getD (.string word) := by
  cases t with
  | string => exact absurd rfl ht
  | _ => rfl

/-- Where no text is wanted, digits that 64 bits hold are an integer. -/
theorem argumentJson_integer (ht : t ≠ .string) {n : Int} (low : -2 ^ 63 ≤ n)
    (high : n < Machine.sizeLimit) : argumentJson t (Text.ofInt n) = .integer n := by
  rw [argumentJson_eq ht, Json.ofText_ofInt, if_pos ⟨low, high⟩]
  rfl

/-- Where no text is wanted, digits that 64 bits do not hold are a double. -/
theorem argumentJson_double (ht : t ≠ .string) {n : Int}
    (hlong : ¬ (-2 ^ 63 ≤ n ∧ n < Machine.sizeLimit)) (h : n.natAbs < 10 ^ 78) :
    ∃ d, argumentJson t (Text.ofInt n) = .double d := by
  obtain ⟨d, hd⟩ := Option.isSome_iff_exists.mp (Json.NumberText.toDouble_isSome h)
  refine ⟨d, ?_⟩
  rw [argumentJson_eq ht, Json.ofText_ofInt, if_neg hlong, hd]
  rfl

/-- A value is read back from its word, or its word is refused. -/
structure ReadsBack (v : Value) (t : Ty) : Prop where
  /-- The value comes back when its word is legible. -/
  back : v.Legible → readArgument t v.word = .ok v
  /-- No value comes back when it is not. -/
  refused : ¬ v.Legible → ∃ fault, readArgument t v.word = .error fault

/-- A value comes back when its word stands for its JSON form. -/
theorem readArgument_of_json {v : Value} (h : Shaped v t)
    (hjson : argumentJson t v.word = v.toJson) : readArgument t v.word = .ok v := by
  rw [readArgument, hjson, h.ofJson_toJson]
  rfl

/-- The word of an unsigned integer is read up to 64 bits. -/
theorem readsBack_uint (w : Word) (bits : Nat) : ReadsBack (.uint w bits) (.uint bits) := by
  have hw := w.isLt
  have hlimit : Machine.sizeLimit = 2 ^ 64 := rfl
  have hkind : Ty.uint bits ≠ .string := by simp
  have hword : Value.word (.uint w bits) = Text.ofInt (w.toNat : Int) := rfl
  constructor
  · intro hlegible
    rw [Value.legible_uint] at hlegible
    have hnumber : (Json.integer w.toNat).unsigned? = some w.toNat := by
      rw [Json.unsigned?, if_pos (by omega), Int.toNat_natCast]
    rw [hword, readArgument, argumentJson_integer hkind (by omega) (by omega), Value.ofJson]
    simp only [hnumber, BitVec.ofNat_toNat, BitVec.setWidth_eq]
    rfl
  · intro hlegible
    rw [Value.legible_uint] at hlegible
    obtain ⟨d, hd⟩ := argumentJson_double hkind (n := w.toNat) (by omega) (by omega)
    rw [hword, readArgument, hd]
    exact ⟨_, rfl⟩

/-- The word of a signed integer is read up to 64 bits. -/
theorem readsBack_int (w : Word) (bits : Nat) : ReadsBack (.int w bits) (.int bits) := by
  have hhigh := BitVec.toInt_lt (x := w)
  have hlow := BitVec.le_toInt w
  have hlimit : Machine.sizeLimit = 2 ^ 64 := rfl
  have hkind : Ty.int bits ≠ .string := by simp
  have hword : Value.word (.int w bits) = Text.ofInt w.toInt := rfl
  constructor
  · intro hlegible
    rw [Value.legible_int] at hlegible
    have hnumber : (Json.integer w.toInt).signed? = some w.toInt := if_pos hlegible
    rw [hword, readArgument, argumentJson_integer hkind hlegible.1 (by omega), Value.ofJson]
    simp only [hnumber, BitVec.ofInt_toInt]
    rfl
  · intro hlegible
    rw [Value.legible_int] at hlegible
    by_cases hlong : -2 ^ 63 ≤ w.toInt ∧ w.toInt < Machine.sizeLimit
    · -- An integer without a sign is no value of a signed type from the first sign bit on.
      have hnumber : (Json.integer w.toInt).signed? = none := if_neg hlegible
      rw [hword, readArgument, argumentJson_integer hkind hlong.1 hlong.2, Value.ofJson]
      simp only [hnumber]
      exact ⟨_, rfl⟩
    · obtain ⟨d, hd⟩ := argumentJson_double hkind (n := w.toInt) hlong (by omega)
      rw [hword, readArgument, hd]
      exact ⟨_, rfl⟩

/-- The word of octets is read, since it is no JSON. -/
theorem readsBack_hex {v : Value} {octets : Bytes} (ht : t ≠ .string) (h : Shaped v t)
    (hjson : v.toJson = .string octets.hex) (hlegible : v.Legible) : ReadsBack v t := by
  have hword : v.word = octets.hex := by
    rw [Value.word, hjson]
  refine ⟨fun _ => readArgument_of_json h ?_, fun hnot => absurd hlegible hnot⟩
  rw [argumentJson_eq ht, hword, Json.ofText_hex, hjson]
  rfl

/-- A truth value or a word in brackets is read when it is not nested too deep. -/
theorem readsBack_compact {v : Value} (ht : t ≠ .string) (h : Shaped v t)
    (hword : v.word = v.toJson.compact) (hlegible : v.Legible ↔ v.toJson.levels ≤ Json.maxDepth)
    (hrefused : ∀ s, ∃ fault, Value.ofJson t (.string s) = .error fault) : ReadsBack v t := by
  have hread := v.plain_toJson.ofText_compact
  constructor
  · intro hv
    rw [if_pos (hlegible.mp hv)] at hread
    refine readArgument_of_json h ?_
    rw [argumentJson_eq ht, hword, hread]
    rfl
  · intro hv
    rw [if_neg (mt hlegible.mpr hv)] at hread
    obtain ⟨fault, hfault⟩ := hrefused v.toJson.compact
    rw [readArgument, argumentJson_eq ht, hword, hread, Option.getD_none, hfault]
    exact ⟨_, rfl⟩

/-- Every value is read back from its word, or its word is refused. -/
theorem readsBack_of_shaped {v : Value} (h : Shaped v t) : ReadsBack v t := by
  have hshape := h
  have hflat (hv : v.uint? = none ∧ v.int? = none ∧ v.toJson.levels = 0) : v.Legible :=
    (Value.legible_iff hv.1 hv.2.1).mpr (hv.2.2 ▸ Nat.zero_le _)
  cases h with
  | address a => exact readsBack_hex (by simp) hshape rfl (hflat ⟨rfl, rfl, rfl⟩)
  | uint w bits => exact readsBack_uint w bits
  | int w bits => exact readsBack_int w bits
  | bool b =>
    exact readsBack_compact (by simp) hshape rfl (Value.legible_iff rfl rfl) fun s => ⟨_, rfl⟩
  | bytes octets => exact readsBack_hex (by simp) hshape rfl (hflat ⟨rfl, rfl, rfl⟩)
  | fixedBytes octets => exact readsBack_hex (by simp) hshape rfl (hflat ⟨rfl, rfl, rfl⟩)
  | string s => exact ⟨fun _ => rfl, fun hnot => absurd (hflat ⟨rfl, rfl, rfl⟩) hnot⟩
  | array members =>
    exact readsBack_compact (by simp) hshape rfl (Value.legible_iff rfl rfl) fun s => ⟨_, rfl⟩
  | fixedArray members =>
    exact readsBack_compact (by simp) hshape rfl (Value.legible_iff rfl rfl) fun s => ⟨_, rfl⟩
  | tuple members =>
    exact readsBack_compact (by simp) hshape rfl (Value.legible_iff rfl rfl) fun s => ⟨_, rfl⟩

/-- Words are read one by one: the values come back exactly when all of them are legible, and no
other values come in their place. -/
theorem readEach_words {values : List Value} (h : ∀ v ∈ values, ReadsBack v v.ty) :
    (readEach (Value.tys values) (values.map Value.word) = .ok values ↔
      ∀ v ∈ values, v.Legible) ∧
    ∀ read, readEach (Value.tys values) (values.map Value.word) = .ok read → read = values := by
  induction values with
  | nil => exact ⟨⟨fun _ _ hv => absurd hv List.not_mem_nil, fun _ => rfl⟩, fun _ hread => by
      cases hread
      rfl⟩
  | cons v rest ih =>
    obtain ⟨hv, hrest⟩ := List.forall_mem_cons.mp h
    obtain ⟨hall, honly⟩ := ih hrest
    rw [Value.tys, List.map_cons, readEach, List.forall_mem_cons]
    by_cases hlegible : v.Legible
    · rw [hv.back hlegible]
      simp only [Outcome.bind_eq_ok, Outcome.pure_eq_ok, Except.ok.injEq]
      refine ⟨⟨?_, ?_⟩, ?_⟩
      · rintro ⟨_, rfl, more, hmore, hcons⟩
        rw [(List.cons.inj hcons).2] at hmore
        exact ⟨hlegible, hall.mp hmore⟩
      · intro hboth
        exact ⟨v, rfl, rest, hall.mpr hboth.2, rfl⟩
      · rintro read ⟨_, rfl, more, hmore, rfl⟩
        rw [honly more hmore]
    · obtain ⟨fault, hfault⟩ := hv.refused hlegible
      rw [hfault]
      refine ⟨⟨fun hread => ?_, fun hboth => absurd hboth.1 hlegible⟩, fun read hread => ?_⟩
      · cases hread
      · cases hread

/-- The values that the encoder accepts are read back from their words exactly when each of them is
legible: an integer by itself is of 64 bits, and brackets are nested no deeper than JSON allows. No
other values are read from the words. -/
theorem readArguments_words {values : List Value} {encoded : Bytes}
    (h : encode values = .ok encoded) :
    (readArguments (Value.tys values) (values.map Value.word) = .ok values ↔
      ∀ v ∈ values, v.Legible) ∧
    ∀ read, readArguments (Value.tys values) (values.map Value.word) = .ok read →
      read = values := by
  have hlength : (Value.tys values).length = (values.map Value.word).length := by
    rw [Value.length_tys, List.length_map]
  rw [readArguments, if_pos hlength]
  exact readEach_words fun v hv => readsBack_of_shaped ((encode_eq_ok.mp h).1.shaped v hv)

/-- Integers of either sign, a text that is JSON too, octets, and texts in brackets. -/
theorem readArguments_words_mixed :
    let values : List Value :=
      [.int (-5) 16, .uint 18446744073709551615 256, .string "null", .bytes [0xbe, 0xef],
        .array (.tuple [.bool, .string]) [.tuple [.bool true, .string "a,\"]"]]]
    let words := ["-5", "18446744073709551615", "null", "0xbeef", "[[true,\"a,\\\"]\"]]"]
    let encoded := layOut (Value.parts values)
    encode values = .ok encoded ∧ values.map Value.word = words ∧
      readArguments (Value.tys values) words = .ok values := by
  intro values words encoded
  have hencode : encode values = .ok encoded := encode_eq_ok_iff.mpr ⟨rfl, rfl⟩
  have hwords : values.map Value.word = words := by decide +kernel
  have hlegible : ∀ v ∈ values, v.Legible := by decide +kernel
  refine ⟨hencode, hwords, ?_⟩
  rw [← hwords]
  exact (readArguments_words hencode).1.mpr hlegible

/-- An integer of 65 bits is encoded, and its digits are refused: they are read as a double. -/
theorem long_integer_refused :
    let value := Value.uint 18446744073709551616 256
    encode [value] = .ok (Word.bytes 18446744073709551616) ∧ value.word = "18446744073709551616" ∧
      ∃ d, readArguments [value.ty] [value.word] =
        .error (.argument value.word (.uint 256) (.jsonMismatch (.uint 256) (.double d))) := by
  intro value
  have hencode : encode [value] = .ok (Word.bytes 18446744073709551616) :=
    encode_eq_ok_iff.mpr ⟨rfl, rfl⟩
  have hword : value.word = "18446744073709551616" := by decide +kernel
  have hdigits : value.word = Text.ofInt 18446744073709551616 := rfl
  obtain ⟨d, hd⟩ := argumentJson_double (t := .uint 256) (n := 18446744073709551616) (by simp)
    (by decide) (by decide)
  refine ⟨hencode, hword, d, ?_⟩
  have hread : readArgument (.uint 256) value.word =
      .error (.argument value.word (.uint 256) (.jsonMismatch (.uint 256) (.double d))) := by
    rw [readArgument, hdigits, hd]
    rfl
  change (readArgument (.uint 256) value.word >>= _) = _
  rw [hread]
  rfl

end CommandLine

end ContractToolkit
