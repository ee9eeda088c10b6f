import ContractToolkit.Proofs.Interface.Members

/-!
# Signatures tell members apart

A signature is a name and, between parentheses, the canonical texts of types.
The text of a type is decomposed from its end, since the last character says
what it closes, and a tuple along its commas; so a signature belongs to one name
and one list of types. Members that share a digest by being spelled alike, or
replace each other in an interface, are therefore called the same and take the
same.
-/

namespace ContractToolkit

open Abi Interface

namespace Abi.Ty

/-- Words are known by their texts: they differ in their letters or in the digits behind them. -/
theorem eq_of_chars_of_isWord {t u : Ty} (ht : t.isWord = true) (hu : u.isWord = true)
    (h : t.chars = u.chars) : t = u := by
  have hdecimal (n : Nat) : Text.decimal n ≠ [] := Nat.toDigits_ne_nil
  have haddress : address.chars = "address".toList := rfl
  have hbool : bool.chars = "bool".toList := rfl
  have hbytes : bytes.chars = "bytes".toList := rfl
  have hstring : string.chars = "string".toList := rfl
  cases t <;> cases u <;>
    simp_all [isWord, chars_uint, chars_int, chars_fixedBytes, Text.decimal_inj]

/-- The bracket or parenthesis that the text of a type ends with, if it is no word. -/
def closing? : Ty → Option Char
  | array _ => some ']'
  | fixedArray _ _ => some ']'
  | tuple _ => some ')'
  | _ => none

/-- Texts of words, and no others, end with a letter or a digit. -/
theorem closing?_eq_none {t : Ty} : t.closing? = none ↔ t.isWord = true := by
  cases t <;> simp [closing?, isWord]

/-- The last character of a text says what it closes. -/
theorem closing?_eq (t : Ty) :
    t.closing? = t.chars.getLast?.filter (fun c => c = ']' || c = ')') := by
  induction t with
  | word t hword =>
    rw [closing?_eq_none.mpr hword, eq_comm, Option.filter_eq_none_iff]
    intro c hlast hcloses
    have hpart := (names_chars hword).isNamePart c (List.mem_of_getLast? hlast)
    rw [Bool.or_eq_true, decide_eq_true_iff, decide_eq_true_iff] at hcloses
    rcases hcloses with rfl | rfl
    · exact absurd hpart (by decide)
    · exact absurd hpart (by decide)
  | array elem _ =>
    rw [chars_array, List.append_cons, List.getLast?_concat]
    rfl
  | fixedArray elem length _ =>
    rw [chars_fixedArray, ← List.cons_append, ← List.append_assoc, List.getLast?_concat]
    rfl
  | tuple fields _ =>
    rw [chars_tuple, ← List.cons_append, List.getLast?_concat]
    rfl

/-- Types of one text end alike. -/
theorem closing?_congr {t u : Ty} (h : t.chars = u.chars) : t.closing? = u.closing? := by
  rw [closing?_eq, closing?_eq, h]

/-- Texts that end with brackets are known by what stands in front of the last brackets and between
them. -/
theorem brackets_inj {s t inside other : List Char} (hinside : '[' ∉ inside) (hother : '[' ∉ other)
    (h : s ++ '[' :: (inside ++ [']']) = t ++ '[' :: (other ++ [']'])) :
    s = t ∧ inside = other := by
  have hclosed : (s ++ '[' :: inside) ++ [']'] = (t ++ '[' :: other) ++ [']'] := by simpa using h
  have hfront := List.append_cancel_right hclosed
  have hsplit := splitAtLast?_append hinside s
  rw [hfront, splitAtLast?_append hother t] at hsplit
  cases hsplit
  exact ⟨rfl, rfl⟩

/-- The types of a list are known by the texts with commas between them, if each of them is known by
its text. -/
theorem eq_of_intercalate_chars {types others : List Ty}
    (hknown : ∀ t ∈ types, ∀ u : Ty, t.chars = u.chars → t = u)
    (h : [','].intercalate (types.map chars) = [','].intercalate (others.map chars)) :
    types = others := by
  have hparts (ts : List Ty) : ∀ p ∈ ts.map chars, Component p :=
    List.forall_mem_map.mpr fun t _ => t.spells_chars.component
  have htypes := components_intercalate [] (by decide) (hparts types)
  rw [h, components_intercalate [] (by decide) (hparts others)] at htypes
  have hmap : others.map chars = types.map chars := Except.ok.inj htypes
  clear h htypes
  induction types generalizing others with
  | nil => exact (List.map_eq_nil_iff.mp hmap).symm
  | cons t rest ih =>
    obtain ⟨u, others, rfl, hu, hrest⟩ := List.map_eq_cons_iff.mp hmap
    rw [hknown t List.mem_cons_self u hu.symm,
      ih (fun v hv => hknown v (List.mem_cons_of_mem _ hv)) hrest]

/-- A type is known by its text. -/
theorem chars_injective {t u : Ty} (h : t.chars = u.chars) : t = u := by
  have hnone : '[' ∉ [] := List.not_mem_nil
  have hdigits (n : Nat) : '[' ∉ Text.decimal n := fun hc =>
    absurd (isNamePart_of_isDecimal (Text.isDecimal_decimal n) _ hc) (by decide)
  have hdecimal (n : Nat) : Text.decimal n ≠ [] := Nat.toDigits_ne_nil
  -- Only shapes that end alike are left: words, sequences, and tuples.
  have hclosing := closing?_congr h
  induction t generalizing u with
  | word t ht =>
    have hu := closing?_eq_none.mp (hclosing ▸ closing?_eq_none.mpr ht)
    exact eq_of_chars_of_isWord ht hu h
  | array elem ih =>
    cases u with
    | array other =>
      rw [chars_array, chars_array] at h
      have helem := (brackets_inj hnone hnone h).1
      exact congrArg array (ih helem (closing?_congr helem))
    | fixedArray other length =>
      rw [chars_array, chars_fixedArray] at h
      exact absurd (brackets_inj hnone (hdigits length) h).2.symm (hdecimal length)
    | _ => cases hclosing
  | fixedArray elem length ih =>
    cases u with
    | array other =>
      rw [chars_array, chars_fixedArray] at h
      exact absurd (brackets_inj (hdigits length) hnone h).2 (hdecimal length)
    | fixedArray other count =>
      rw [chars_fixedArray, chars_fixedArray] at h
      obtain ⟨helem, hlength⟩ := brackets_inj (hdigits length) (hdigits count) h
      rw [ih helem (closing?_congr helem), Text.decimal_inj.mp hlength]
    | _ => cases hclosing
  | tuple fields ih =>
    cases u with
    | tuple others =>
      rw [chars_tuple, chars_tuple] at h
      have hinside := List.append_cancel_right (List.cons.inj h).2
      refine congrArg tuple (eq_of_intercalate_chars (fun t ht u hu => ?_) hinside)
      exact ih t ht hu (closing?_congr hu)
    | _ => cases hclosing

end Abi.Ty

namespace Interface

/-- A signature gives the name, which ends at the first parenthesis, and the types behind it. -/
theorem signature_inj {name other : String} {types others : List Ty}
    (hname : isIdentifier name.toList = true) (hother : isIdentifier other.toList = true) :
    signature name types = signature other others ↔ name = other ∧ types = others := by
  constructor
  · intro h
    have hchars := congrArg String.toList h
    rw [toList_signature, toList_signature] at hchars
    obtain ⟨hnames, hbehind⟩ := Text.append_cons_inj (word_of_isIdentifier hname).2.2
      (word_of_isIdentifier hother).2.2 hchars
    have htypes := Ty.eq_of_intercalate_chars (fun _ _ _ => Ty.chars_injective)
      (List.append_cancel_right hbehind)
    exact ⟨String.toList_inj.mp hnames, htypes⟩
  · rintro ⟨rfl, rfl⟩
    rfl

namespace Member

/-- The octets whose digest stands for a member. -/
def preimage? (d : Member) : Option Bytes := d.signature?.map Text.utf8

/-- The signature of a member is that of its name and the types of its parameters. -/
theorem signature?_eq (d : Member) :
    d.signature? = d.title?.map fun title => signature title.1 title.2 := by
  cases d <;> rfl

/-- The name of a declared member is an identifier. -/
theorem Declared.isIdentifier {d : Member} (h : d.Declared) {title : String × List Ty}
    (htitle : title ∈ d.title?) : isIdentifier title.1.toList = true := by
  cases d with
  | constructor c => cases htitle
  | method m =>
    cases htitle
    exact (Method.declared_iff.mp h).1
  | event e =>
    cases htitle
    exact (Event.declared_iff.mp h).1
  | error e =>
    cases htitle
    exact (CustomError.declared_iff.mp h).1

/-- Declared members of one signature have the same name and take the same types. -/
theorem signature?_inj {d e : Member} (hd : d.Declared) (he : e.Declared) :
    d.signature? = e.signature? ↔ d.title? = e.title? := by
  rw [signature?_eq, signature?_eq]
  cases hdTitle : d.title? with
  | none => cases e.title? <;> simp
  | some title =>
    cases heTitle : e.title? with
    | none => simp
    | some other =>
      have hinj : signature title.1 title.2 = signature other.1 other.2 ↔
          title.1 = other.1 ∧ title.2 = other.2 :=
        signature_inj (hd.isIdentifier hdTitle) (he.isIdentifier heTitle)
      rw [Option.map_some, Option.map_some, Option.some_inj, Option.some_inj, hinj,
        Prod.ext_iff]

end Member

/-- Signatures are unambiguous: names that are accepted and types are known by the signature. So
members share the octets that are digested only when they are called the same and take the same
types, and a member takes the place of those of its kind that do. -/
theorem signatures_tell_apart :
    (∀ (name other : String) (types others : List Ty),
      checkName name = .ok () → checkName other = .ok () →
      signature name types = signature other others → name = other ∧ types = others) ∧
    (∀ d e : Member, d.Declared → e.Declared →
      d.preimage? = e.preimage? → d.title? = e.title?) ∧
    (∀ (i : Interface) (d e : Member), (∀ member, i.Has member → member.Declared) → d.Declared →
      ((d.addTo i).Has e ↔
        e = d ∨ (i.Has e ∧ ¬ (e.kind = d.kind ∧ e.title? = d.title?)))) := by
  refine ⟨?names, ?preimages, ?places⟩
  case names =>
    intro name other types others hname hother
    exact (signature_inj (checkName_eq_ok.mp hname) (checkName_eq_ok.mp hother)).mp
  case preimages =>
    intro d e hd he h
    exact (Member.signature?_inj hd he).mp (Option.map_injective (fun _ _ => Text.utf8_inj.mp) h)
  case places =>
    intro i d e hdeclared hd
    rw [has_addTo]
    refine or_congr_right (and_congr_right fun he => ?_)
    rw [Member.signature?_inj (hdeclared e he) hd]

/-- A function and an error share their octets when they take the same nested types, and the
function takes the place of one whose parameters have other names. -/
theorem signatures_tell_apart_nested :
    let types : List Ty := [.tuple [.tuple [], .fixedArray (.array .bytes) 3], .fixedBytes 3]
    let earlier : Method := ⟨"f", types.map (⟨"", ·⟩), [], .write⟩
    let later : Method := ⟨"f", types.map (⟨"x", ·⟩), [⟨"", .bool⟩], .read⟩
    let e : CustomError := ⟨"f", types.map (⟨"", ·⟩)⟩
    ("f" = "f" ∧ types = types) ∧
      (Member.method earlier).title? = (Member.error e).title? ∧
      ¬ ((Member.method later).addTo ⟨none, [earlier], [], [e]⟩).Has (.method earlier) := by
  refine ⟨signatures_tell_apart.1 "f" "f" _ _ rfl rfl rfl,
    signatures_tell_apart.2.1 (.method _) (.error _) rfl rfl rfl, fun h => ?_⟩
  refine absurd ((signatures_tell_apart.2.2 _ _ _ ?members ?added).mp h) ?replaced
  case members =>
    intro member hmember
    cases member with
    | constructor c => cases hmember
    | method m => exact List.mem_singleton.mp hmember ▸ rfl
    | event f => cases hmember
    | error f => exact List.mem_singleton.mp hmember ▸ rfl
  case added => rfl
  case replaced =>
    rintro (heq | ⟨-, hplace⟩)
    · exact absurd (Member.method.inj heq) (by decide)
    · exact hplace ⟨rfl, rfl⟩

end Interface

end ContractToolkit
