import ContractToolkit.Abi.Ty.Grammar
import ContractToolkit.Proofs.Abi.Depth
import ContractToolkit.Proofs.Abi.TypeGrammar
import ContractToolkit.Proofs.Abi.Typing
import ContractToolkit.Proofs.Outcome

/-!
# How the reader of types takes a text apart

The reader peels suffixes off the end of a text, cuts the body of a tuple at
commas outside of brackets and takes the first word of each piece; only what is
left is looked up as a name. Which texts are read, and as which types, is told
by these cuts alone: the fuel of the reader is enough for every text.
-/

namespace ContractToolkit.Abi

namespace Ty

/-- The text after a word is what stands behind it. -/
theorem after?_eq_some {word : String} {s rest : List Char} :
    after? word s = some rest ↔ s = word.toList ++ rest := by
  rw [after?]
  constructor
  · intro h
    split at h
    · rename_i hprefix
      obtain ⟨behind, rfl⟩ := List.isPrefixOf_iff_prefix.mp hprefix
      rw [List.drop_left] at h
      cases h
      rfl
    · cases h
  · rintro rfl
    have hprefix : word.toList.isPrefixOf (word.toList ++ rest) = true :=
      List.isPrefixOf_iff_prefix.mpr (List.prefix_append _ _)
    rw [if_pos hprefix, List.drop_left]

/-- A word is taken off the front of a text. -/
theorem after?_append (word : String) (s : List Char) : after? word (word.toList ++ s) = some s :=
  after?_eq_some.mpr rfl

/-- A text that begins with another character is not introduced as a tuple. -/
theorem after?_tuple_eq_none {first : Char} (h : first ≠ 't') (s : List Char) :
    after? "tuple" (first :: s) = none := by
  rw [Option.eq_none_iff_forall_ne_some]
  intro rest hrest
  have hcons := after?_eq_some.mp hrest
  exact h (List.cons.inj hcons).1

/-- There is no last occurrence of a character exactly in a text without it. -/
theorem splitAtLast?_eq_none {c : Char} {s : List Char} : splitAtLast? c s = none ↔ c ∉ s := by
  induction s with
  | nil => simp [splitAtLast?]
  | cons d rest ih =>
    rw [splitAtLast?]
    cases hrest : splitAtLast? c rest with
    | some parts =>
      have hmem : c ∈ rest := by
        by_contra hnone
        rw [ih.mpr hnone] at hrest
        cases hrest
      simp [hmem]
    | none =>
      have hnone := ih.mp hrest
      by_cases hd : d = c
      · simp [hd]
      · simp [hd, Ne.symm hd, hnone]

/-- The last occurrence of a character is the one with none behind it. -/
theorem splitAtLast?_append {c : Char} {after : List Char} (h : c ∉ after) (before : List Char) :
    splitAtLast? c (before ++ c :: after) = some (before, after) := by
  induction before with
  | nil =>
    rw [List.nil_append, splitAtLast?, splitAtLast?_eq_none.mpr h]
    exact if_pos rfl
  | cons d rest ih => rw [List.cons_append, splitAtLast?, ih]

/-- The last occurrence of a character splits the text. -/
theorem eq_append_of_splitAtLast? {c : Char} {s before after : List Char}
    (h : splitAtLast? c s = some (before, after)) : s = before ++ c :: after ∧ c ∉ after := by
  induction s generalizing before with
  | nil => cases h
  | cons d rest ih =>
    rw [splitAtLast?] at h
    split at h
    · rename_i front back hrest
      cases h
      obtain ⟨rfl, hafter⟩ := ih hrest
      exact ⟨rfl, hafter⟩
    · rename_i hnone
      split_ifs at h with hd
      cases h
      rw [hd]
      exact ⟨rfl, splitAtLast?_eq_none.mp hnone⟩

/-- The body of a tuple is between the parenthesis that begins it and the last character. -/
theorem tupleBody?_append {keyword : List Char} (h : keyword = [] ∨ keyword = "tuple".toList)
    (body : List Char) : tupleBody? (keyword ++ '(' :: (body ++ [')'])) = some body := by
  rcases h with rfl | rfl
  · have hafter : after? "tuple" ('(' :: (body ++ [')'])) = none :=
      after?_tuple_eq_none (by decide) _
    rw [List.nil_append, tupleBody?, hafter]
    simp
  · rw [tupleBody?, after?_append]
    simp

/-- A text with the body of a tuple is that body in parentheses, introduced or not. -/
theorem exists_keyword_of_tupleBody? {s body : List Char} (h : tupleBody? s = some body) :
    ∃ keyword, (keyword = [] ∨ keyword = "tuple".toList) ∧
      s = keyword ++ '(' :: (body ++ [')']) := by
  have hkeyword : ∃ keyword, (keyword = [] ∨ keyword = "tuple".toList) ∧
      s = keyword ++ (after? "tuple" s).getD s := by
    cases hafter : after? "tuple" s with
    | none => exact ⟨[], Or.inl rfl, rfl⟩
    | some rest => exact ⟨"tuple".toList, Or.inr rfl, after?_eq_some.mp hafter⟩
  obtain ⟨keyword, hintroduction, hs⟩ := hkeyword
  refine ⟨keyword, hintroduction, ?_⟩
  rw [tupleBody?] at h
  split at h
  · rename_i rest hrest
    split at h
    · rename_i hlast
      obtain ⟨front, rfl⟩ := List.getLast?_eq_some_iff.mp hlast
      rw [List.dropLast_concat] at h
      cases h
      rw [← hrest]
      exact hs
    · cases h
  · cases h

/-- The number behind the name of a sized type. -/
theorem sized?_append (name : String) {digits : List Char} (hdigits : Text.isDecimal digits = true)
    (hlimit : Text.decimalValue digits < Machine.sizeLimit) :
    sized? name (name.toList ++ digits) = some (.ok (Text.decimalValue digits)) := by
  have hsize : Text.size? digits = some (Text.decimalValue digits) :=
    Text.size?_eq_some.mpr ⟨.plain hdigits, hlimit⟩
  rw [sized?, after?_append]
  simp [hdigits, hsize]

/-- A number behind the name of a sized type is written in digits. -/
theorem exists_digits_of_sized? {name : String} {s : List Char} {n : Nat}
    (h : sized? name s = some (.ok n)) :
    ∃ digits, s = name.toList ++ digits ∧ Text.isDecimal digits = true ∧
      n = Text.decimalValue digits := by
  rw [sized?] at h
  split at h
  · cases h
  · rename_i digits hafter
    split at h
    · rename_i hdigits
      split at h
      · rename_i size hsize
        cases h
        obtain ⟨hwritten, -⟩ := Text.size?_eq_some.mp hsize
        exact ⟨digits, after?_eq_some.mp hafter, hdigits, hwritten.eq_decimalValue hdigits⟩
      · cases h
    · cases h

/-- Whatever is read as an elementary type is a name of it. -/
theorem names_of_elementary {s : List Char} {t : Ty} (h : elementary s = .ok t) : Names s t := by
  rw [elementary] at h
  split_ifs at h with haddress hbool hstring hbytes huint hint hfunction
  · cases h
    exact haddress ▸ .address
  · cases h
    exact hbool ▸ .bool
  · cases h
    exact hstring ▸ .string
  · cases h
    exact hbytes ▸ .bytes
  · cases h
    exact huint ▸ .uint
  · cases h
    exact hint ▸ .int
  · cases h
    exact hfunction ▸ .function
  · split at h
    · rename_i bits hbits
      obtain ⟨n, rfl, rfl⟩ := Outcome.map_eq_ok.mp h
      obtain ⟨digits, rfl, hdigits, rfl⟩ := exists_digits_of_sized? hbits
      exact .uintOf hdigits
    · rename_i bits _ hbits
      obtain ⟨n, rfl, rfl⟩ := Outcome.map_eq_ok.mp h
      obtain ⟨digits, rfl, hdigits, rfl⟩ := exists_digits_of_sized? hbits
      exact .intOf hdigits
    · rename_i size _ _ hsize
      obtain ⟨n, rfl, rfl⟩ := Outcome.map_eq_ok.mp h
      obtain ⟨digits, rfl, hdigits, rfl⟩ := exists_digits_of_sized? hsize
      exact .bytesOf hdigits
    · cases h

/-- Reading goes to the names of types where there are no brackets. -/
theorem readWith_word {s : List Char} (hne : s ≠ []) (hlast : s.getLast? ≠ some ']')
    (hbody : tupleBody? s = none) (fuel : Nat) : readWith (fuel + 1) s = elementary s := by
  have hempty : s.isEmpty = false := by simpa using hne
  rw [readWith, hempty, if_neg Bool.false_ne_true, if_neg hlast, hbody]

/-- What the text inside the brackets of a suffix makes of the type of the elements. -/
inductive Suffix : (inside : List Char) → (elem whole : Ty) → Prop
  | array {elem : Ty} : Suffix [] elem (.array elem)
  | fixedArray {length : List Char} {elem : Ty} {n : Nat} (written : Text.WritesSize length n)
      (limit : n < Machine.sizeLimit) : Suffix length elem (.fixedArray elem n)

/-- A text with the suffix of a sequence is read exactly when what stands before it is and there is
a size, or nothing, inside the brackets. -/
theorem readWith_suffix_eq_ok {before inside : List Char} (hopening : '[' ∉ inside) {fuel : Nat}
    {t : Ty} :
    readWith (fuel + 1) (before ++ '[' :: (inside ++ [']'])) = .ok t ↔
      ∃ u, readWith fuel (Text.trimEnd before) = .ok u ∧ Suffix (Text.trim inside) u t := by
  have hsuffix : before ++ '[' :: (inside ++ [']']) = before ++ '[' :: inside ++ [']'] := by simp
  have hempty : (before ++ '[' :: (inside ++ [']'])).isEmpty = false := by simp
  have hlast : (before ++ '[' :: (inside ++ [']'])).getLast? = some ']' := by
    rw [hsuffix, List.getLast?_concat]
  have hsplit : splitAtLast? '[' (before ++ '[' :: (inside ++ [']'])).dropLast =
      some (before, inside) := by
    rw [hsuffix, List.dropLast_concat, splitAtLast?_append hopening]
  rw [readWith, hempty, if_neg Bool.false_ne_true, if_pos hlast, hsplit]
  dsimp only
  rw [Outcome.bind_eq_ok]
  refine exists_congr fun u => and_congr_right fun _ => ?_
  generalize Text.trim inside = length
  constructor
  · intro h
    split at h
    · rename_i hnone
      cases h
      rw [List.isEmpty_iff.mp hnone]
      exact .array
    · split at h
      · rename_i n hsize
        cases h
        obtain ⟨hwritten, hlimit⟩ := Text.size?_eq_some.mp hsize
        exact .fixedArray hwritten hlimit
      · cases h
  · intro h
    cases h with
    | array => rfl
    | @fixedArray _ _ n written limit =>
      have hsize := Text.size?_eq_some.mpr ⟨written, limit⟩
      have hsome : length.isEmpty = false := by
        cases length with
        | nil => cases hsize
        | cons c rest => rfl
      rw [hsome, if_neg Bool.false_ne_true, hsize]

/-- A text that ends with a bracket and is read has the suffix of a sequence. -/
theorem exists_suffix_of_readWith {fuel : Nat} {s : List Char} {t : Ty}
    (hlast : s.getLast? = some ']') (h : readWith (fuel + 1) s = .ok t) :
    ∃ elem inside, s = elem ++ '[' :: (inside ++ [']']) ∧ '[' ∉ inside := by
  obtain ⟨front, rfl⟩ := List.getLast?_eq_some_iff.mp hlast
  have hempty : (front ++ [']']).isEmpty = false := by simp
  rw [readWith, hempty, if_neg Bool.false_ne_true, if_pos hlast, List.dropLast_concat] at h
  split at h
  · cases h
  · rename_i elem inside hsplit
    obtain ⟨rfl, hopening⟩ := eq_append_of_splitAtLast? hsplit
    exact ⟨elem, inside, by simp, hopening⟩

/-- A text with the body of a tuple is read exactly when the body is cut into components and the
first word of each of them is read. -/
theorem readWith_tuple_eq_ok {s body : List Char} (hbody : tupleBody? s = some body) {fuel : Nat}
    {t : Ty} :
    readWith (fuel + 1) s = .ok t ↔ ∃ members : List (List Char × Ty),
      components body = .ok (members.map Prod.fst) ∧ t = tuple (members.map Prod.snd) ∧
        ∀ m ∈ members, readWith fuel (firstWord m.1).1 = .ok m.2 := by
  obtain ⟨keyword, -, rfl⟩ := exists_keyword_of_tupleBody? hbody
  have hempty : (keyword ++ '(' :: (body ++ [')'])).isEmpty = false := by simp
  have hlast : (keyword ++ '(' :: (body ++ [')'])).getLast? = some ')' := by
    rw [← List.cons_append, ← List.append_assoc, List.getLast?_concat]
  rw [readWith, hempty, if_neg Bool.false_ne_true, hlast, if_neg (by decide), hbody]
  dsimp only
  simp only [Outcome.bind_eq_ok, Outcome.mapM_eq_ok]
  constructor
  · rintro ⟨_, hparts, _, ⟨members, rfl, rfl, hread⟩, hresult⟩
    exact ⟨members, hparts, (Except.ok.inj hresult).symm, hread⟩
  · rintro ⟨members, hparts, rfl, hread⟩
    exact ⟨_, hparts, _, ⟨members, rfl, rfl, hread⟩, rfl⟩

end Ty

/-- A text that is read, taken apart as the reader does, and its type. -/
inductive Written : List Char → Ty → Prop
  | word {s : List Char} {t : Ty} (named : Ty.elementary s = .ok t) : Written s t
  | suffix {s gap inside : List Char} {t u : Ty} (elem : Written s t) (blank : Text.Blank gap)
      (opening : '[' ∉ inside) (length : Ty.Suffix (Text.trim inside) t u) :
      Written (s ++ gap ++ '[' :: (inside ++ [']'])) u
  | tuple {keyword body : List Char} {members : List (List Char × Ty)}
      (introduction : keyword = [] ∨ keyword = "tuple".toList)
      (cut : components body = .ok (members.map Prod.fst))
      (written : ∀ m ∈ members, Written (firstWord m.1).1 m.2) :
      Written (keyword ++ '(' :: (body ++ [')'])) (.tuple (members.map Prod.snd))

namespace Written

variable {s : List Char} {t : Ty}

/-- Such a text is not empty. -/
theorem ne_nil (h : Written s t) : s ≠ [] := by
  cases h with
  | word named => exact (Ty.names_of_elementary named).ne_nil
  | suffix _ _ _ _ => simp
  | tuple _ _ _ => simp

/-- Such a text has no white space at its ends. -/
theorem trimmed (h : Written s t) : Text.Trimmed s := by
  induction h with
  | word named =>
    have hname := Ty.names_of_elementary named
    have hsolid : Text.Solid _ := fun c hc => (bare_of_isNamePart (hname.isNamePart c hc)).2.2.2
    exact hsolid.trimmed
  | @suffix s gap inside t u elem _ _ _ ih =>
    have hclosing : Text.Trimmed [']'] := by decide
    have hends := ih.append hclosing elem.ne_nil (List.cons_ne_nil _ _) (gap ++ '[' :: inside)
    simpa using hends
  | @tuple keyword body members introduction _ _ _ =>
    have hopening : Text.Trimmed ['('] := by decide
    have hkeyword : Text.Trimmed "tuple".toList := by decide
    have hclosing : Text.Trimmed [')'] := by decide
    rcases introduction with rfl | rfl
    · exact hopening.append hclosing (List.cons_ne_nil _ _) (List.cons_ne_nil _ _) body
    · have hends := hkeyword.append hclosing (by decide) (List.cons_ne_nil _ _) ('(' :: body)
      simpa using hends

/-- Such a text is read, given fuel for it. -/
theorem readWith_eq (h : Written s t) {fuel : Nat} (hfuel : s.length ≤ fuel) :
    Ty.readWith (fuel + 1) s = .ok t := by
  induction h generalizing fuel with
  | @word s t named =>
    have name := Ty.names_of_elementary named
    have hlast : s.getLast? ≠ some ']' := by
      intro hlast
      exact absurd (name.isNamePart _ (List.mem_of_getLast? hlast)) (by decide)
    have hbody : Ty.tupleBody? s = none := by
      obtain ⟨first, rest, rfl, hkeyword, hopening⟩ := name.exists_eq_cons
      rw [Ty.tupleBody?, Ty.after?_tuple_eq_none hkeyword, Option.getD_none]
      split
      · rename_i hcons
        exact absurd (List.cons.inj hcons).1 hopening
      · rfl
    rw [Ty.readWith_word name.ne_nil hlast hbody]
    exact named
  | @suffix s gap inside t u elem blank opening length ih =>
    simp only [List.length_append, List.length_cons] at hfuel
    cases fuel with
    | zero => exact absurd hfuel (by omega)
    | succ fuel =>
      have hfits : s.length ≤ fuel := by omega
      refine (Ty.readWith_suffix_eq_ok opening).mpr ⟨t, ?_, length⟩
      rw [Text.trimEnd_append s blank, elem.trimmed.trimEnd_eq]
      exact ih hfits
  | @tuple keyword body members introduction cut written ih =>
    rw [List.length_append, List.length_cons, List.length_append] at hfuel
    cases fuel with
    | zero => exact absurd hfuel (by omega)
    | succ fuel =>
      refine (Ty.readWith_tuple_eq_ok (Ty.tupleBody?_append introduction body)).mpr
        ⟨members, cut, rfl, fun m hm => ih m hm ?_⟩
      have hpart := (ends_of_components cut (List.mem_map_of_mem hm)).2.2
      have hword := length_firstWord_le m.1
      omega

end Written

/-- Whatever is read is taken apart as the reader does. -/
theorem written_of_readWith {fuel : Nat} {s : List Char} {t : Ty}
    (h : Ty.readWith fuel s = .ok t) : Written s t := by
  induction fuel generalizing s t with
  | zero => cases h
  | succ fuel ih =>
    by_cases hlast : s.getLast? = some ']'
    · obtain ⟨before, inside, rfl, hopening⟩ := Ty.exists_suffix_of_readWith hlast h
      obtain ⟨u, hread, hlength⟩ := (Ty.readWith_suffix_eq_ok hopening).mp h
      obtain ⟨gap, hgap, hbefore⟩ := Text.exists_eq_trimEnd_append before
      rw [hbefore]
      exact .suffix (ih hread) hgap hopening hlength
    · cases hbody : Ty.tupleBody? s with
      | none =>
        have hne : s ≠ [] := by
          rintro rfl
          cases h
        rw [Ty.readWith_word hne hlast hbody] at h
        exact .word h
      | some body =>
        obtain ⟨members, hparts, rfl, hread⟩ := (Ty.readWith_tuple_eq_ok hbody).mp h
        obtain ⟨keyword, hkeyword, rfl⟩ := Ty.exists_keyword_of_tupleBody? hbody
        exact .tuple hkeyword hparts fun m hm => ih (hread m hm)

/-- A type passes the check exactly when it can be declared. -/
theorem Ty.check_eq_ok {t : Ty} : t.check = .ok () ↔ t.fault? = none := by
  rw [check]
  cases t.fault? with
  | none => simp
  | some fault => simp

/-- The texts that are read are those that are taken apart as the reader does. -/
theorem Ty.read_eq_ok {s : List Char} {t : Ty} : Ty.read s = .ok t ↔ Written s t :=
  ⟨written_of_readWith, fun h => h.readWith_eq (Nat.le_refl _)⟩

/-- A text declares a type exactly when it is read as one that can be declared. -/
theorem Ty.ofChars_eq_ok_iff_written {s : List Char} {t : Ty} :
    Ty.ofChars s = .ok t ↔ Written (Text.trim s) t ∧ t.fault? = none := by
  rw [Ty.ofChars, Outcome.bind_eq_ok]
  simp only [Outcome.test_eq_ok, Outcome.pure_eq_ok, Ty.check_eq_ok, Ty.read_eq_ok]
  constructor
  · rintro ⟨u, hwritten, hdeclared, rfl⟩
    exact ⟨hwritten, hdeclared⟩
  · rintro ⟨hwritten, hdeclared⟩
    exact ⟨t, hwritten, hdeclared, rfl⟩

/-- Whatever is taken apart as a type that can be declared declares it. -/
theorem Written.ofChars_eq {s : List Char} {t : Ty} (h : Written s t) (hdeclared : t.fault? = none) :
    Ty.ofChars s = .ok t :=
  Ty.ofChars_eq_ok_iff_written.mpr ⟨h.trimmed.trim_eq.symm ▸ h, hdeclared⟩

end ContractToolkit.Abi
