import ContractToolkit.Proofs.Abi.TypeReading

/-!
# Types are read back from their texts

The canonical text of a type is printed along its structure, and the grammar of
types derives it for that type. So its brackets match, it has no white space,
and reading gives the type again.
-/

namespace ContractToolkit.Abi

namespace Ty

/-- Whether the text of a type is one word of letters and digits. -/
def isWord : Ty → Bool
  | array _ => false
  | fixedArray _ _ => false
  | tuple _ => false
  | _ => true

/-- What holds of words and passes to sequences and to tuples of types holds of all types. -/
@[induction_eliminator]
theorem shapes {motive : Ty → Prop} (word : ∀ t, t.isWord = true → motive t)
    (array : ∀ elem, motive elem → motive (array elem))
    (fixedArray : ∀ elem length, motive elem → motive (fixedArray elem length))
    (tuple : ∀ fields, (∀ t ∈ fields, motive t) → motive (tuple fields)) (t : Ty) : motive t :=
  Ty.rec (motive_1 := motive) (motive_2 := fun fields => ∀ t ∈ fields, motive t)
    (word _ rfl) (fun _ => word _ rfl) (fun _ => word _ rfl) (word _ rfl) (word _ rfl)
    (fun _ => word _ rfl) (word _ rfl) array fixedArray tuple
    (fun _ h => absurd h List.not_mem_nil)
    (fun _ _ ihHead ihTail _ h => (List.mem_cons.mp h).elim (· ▸ ihHead) (ihTail _ ·)) t

/-- Texts of types have commas between them, if each text goes in front of any other. -/
theorem listOnto_eq {types : List Ty}
    (h : ∀ t ∈ types, ∀ after, charsOnto after t = t.chars ++ after) (after : List Char) :
    listOnto after types = [','].intercalate (types.map chars) ++ after := by
  induction types with
  | nil => rfl
  | cons t rest ih =>
    have ht := h t List.mem_cons_self
    cases rest with
    | nil =>
      change charsOnto after t = _
      rw [ht, List.map_singleton, List.intercalate_singleton]
    | cons next rest =>
      have hrest := ih fun u hu => h u (List.mem_cons_of_mem _ hu)
      have hjoined : [','].intercalate ((t :: next :: rest).map chars) =
          t.chars ++ [','] ++ [','].intercalate ((next :: rest).map chars) :=
        List.intercalate_cons_cons
      change charsOnto (',' :: listOnto after (next :: rest)) t = _
      rw [ht, hrest, hjoined]
      simp

/-- The text of a type in front of a text. -/
theorem charsOnto_eq (t : Ty) (after : List Char) : charsOnto after t = t.chars ++ after := by
  induction t generalizing after with
  | word t ht =>
    cases t with
    | address => rfl
    | bool => rfl
    | bytes => rfl
    | string => rfl
    | uint bits =>
      change "uint".toList ++ (Text.decimal bits ++ after) =
        "uint".toList ++ (Text.decimal bits ++ []) ++ after
      simp
    | int bits =>
      change "int".toList ++ (Text.decimal bits ++ after) =
        "int".toList ++ (Text.decimal bits ++ []) ++ after
      simp
    | fixedBytes size =>
      change "bytes".toList ++ (Text.decimal size ++ after) =
        "bytes".toList ++ (Text.decimal size ++ []) ++ after
      simp
    | array elem => cases ht
    | fixedArray elem length => cases ht
    | tuple fields => cases ht
  | array elem ih =>
    change charsOnto ('[' :: ']' :: after) elem = charsOnto ['[', ']'] elem ++ after
    rw [ih, ih, List.append_assoc]
    rfl
  | fixedArray elem length ih =>
    change charsOnto ('[' :: (Text.decimal length ++ ']' :: after)) elem =
      charsOnto ('[' :: (Text.decimal length ++ [']'])) elem ++ after
    rw [ih, ih]
    simp
  | tuple fields ih =>
    change '(' :: listOnto (')' :: after) fields = '(' :: listOnto [')'] fields ++ after
    rw [listOnto_eq ih, listOnto_eq ih]
    simp

theorem chars_array (elem : Ty) : (array elem).chars = elem.chars ++ ['[', ']'] :=
  charsOnto_eq elem ['[', ']']

theorem chars_fixedArray (elem : Ty) (length : Nat) :
    (fixedArray elem length).chars = elem.chars ++ '[' :: (Text.decimal length ++ [']']) :=
  charsOnto_eq elem ('[' :: (Text.decimal length ++ [']']))

theorem chars_tuple (fields : List Ty) :
    (tuple fields).chars = '(' :: ([','].intercalate (fields.map chars) ++ [')']) :=
  congrArg ('(' :: ·) (listOnto_eq (fun t _ => t.charsOnto_eq) [')'])

theorem chars_uint (bits : Nat) : (uint bits).chars = "uint".toList ++ Text.decimal bits :=
  congrArg ("uint".toList ++ ·) (List.append_nil _)

theorem chars_int (bits : Nat) : (int bits).chars = "int".toList ++ Text.decimal bits :=
  congrArg ("int".toList ++ ·) (List.append_nil _)

theorem chars_fixedBytes (size : Nat) :
    (fixedBytes size).chars = "bytes".toList ++ Text.decimal size :=
  congrArg ("bytes".toList ++ ·) (List.append_nil _)

/-- The text of a word is a name of the type. -/
theorem names_chars {t : Ty} (hword : t.isWord = true) : Names t.chars t := by
  cases t with
  | address => exact .address
  | bool => exact .bool
  | bytes => exact .bytes
  | string => exact .string
  | uint bits =>
    have hname := Names.uintOf (Text.isDecimal_decimal bits)
    rw [Text.decimalValue_decimal] at hname
    rwa [chars_uint]
  | int bits =>
    have hname := Names.intOf (Text.isDecimal_decimal bits)
    rw [Text.decimalValue_decimal] at hname
    rwa [chars_int]
  | fixedBytes size =>
    have hname := Names.bytesOf (Text.isDecimal_decimal size)
    rw [Text.decimalValue_decimal] at hname
    rwa [chars_fixedBytes]
  | array elem => cases hword
  | fixedArray elem length => cases hword
  | tuple fields => cases hword

/-- The text of a type is derived for the type. -/
theorem spells_chars (t : Ty) : Spells t.chars t := by
  induction t with
  | word t hword => exact .word (names_chars hword)
  | array elem ih =>
    rw [chars_array]
    exact .array ih
  | fixedArray elem length ih =>
    rw [chars_fixedArray]
    exact .fixedArray ih (Text.writesSize_decimal length)
  | tuple fields ih =>
    have hmembers : ∀ m ∈ fields.map (fun t => (t.chars, t)), Spells m.1 m.2 :=
      List.forall_mem_map.mpr ih
    have htuple := Spells.tuple (Or.inl rfl) hmembers
    rw [List.map_map, List.map_map] at htuple
    rw [chars_tuple]
    simpa [Function.comp_def] using htuple

/-- The text of a type has no white space. -/
theorem solid_chars (t : Ty) : Text.Solid t.chars := t.spells_chars.solid

/-- The brackets in the text of a type match, with no comma and no white space outside of them. -/
theorem bracketed_chars (t : Ty) : Bracketed Bare t.chars := t.spells_chars.bracketed

/-- The text of a type is not empty. -/
theorem chars_ne_nil (t : Ty) : t.chars ≠ [] := t.spells_chars.ne_nil

/-- The text of a type that can be declared declares the type. -/
theorem ofChars_chars {t : Ty} (hdeclared : t.fault? = none) (hsized : t.isSized = true) :
    ofChars t.chars = .ok t :=
  (ofChars_eq_ok t.solid_chars).mpr ⟨t.spells_chars, check_eq_ok.mpr hdeclared, hsized⟩

/-- The canonical text of a type declares that type exactly when the type passes the check and its
lengths are sizes. -/
theorem ofText_canonical {t : Ty} :
    ofText t.canonical = .ok t ↔ t.check = .ok () ∧ t.isSized = true := by
  rw [ofText, canonical, String.toList_ofList, ofChars_eq_ok t.solid_chars]
  exact and_iff_right t.spells_chars

end Ty

/-- A signature is a name, and the texts of types between parentheses. -/
theorem toList_signature (name : String) (types : List Ty) :
    (signature name types).toList =
      name.toList ++ '(' :: ([','].intercalate (types.map Ty.chars) ++ [')']) := by
  rw [signature, String.toList_ofList, Ty.chars_tuple]

end ContractToolkit.Abi
