import ContractToolkit.Proofs.Interface.Payloads
import ContractToolkit.Proofs.Interface.Reasons
import ContractToolkit.Proofs.Interface.Topics

/-!
# Reasons of reverts are faithful

The selector of revert data says how the octets behind it are to be decoded: as the
text of `Error(string)`, as the code of `Panic(uint256)`, or as the arguments of the
first declared error with that selector, the first two coming before all declared
errors. What is decoded is told as it is, so whoever reverts with a text, a code or a
declared error is told by it; and where nothing is decoded the octets are told, every
one of them.
-/

namespace ContractToolkit

namespace Abi

/-- One value is decoded by itself exactly when it is decoded as the only one of a list. -/
theorem decodeSingle_eq_ok_iff_decode {t : Ty} {data : Bytes} {v : Value} :
    decodeSingle t data = .ok v ↔ decode [t] data = .ok [v] := by
  rw [decodeSingle, Outcome.bind_eq_ok]
  constructor
  · rintro ⟨values, hdecoded, hlast⟩
    cases haveTypes_of_decode hdecoded with
    | cons _ rest =>
      cases rest with
      | nil =>
        obtain rfl := Outcome.pure_eq_ok.mp hlast
        exact hdecoded
  · intro hdecoded
    exact ⟨[v], hdecoded, rfl⟩

end Abi

namespace Interface

open Abi Outcome

/-- An error is declared, and none with its selector is declared in front of it. -/
def Foremost (errors : List CustomError) (e : CustomError) : Prop :=
  ∃ before after, errors = before ++ e :: after ∧ ∀ other ∈ before, other.selector ≠ e.selector

/-- The types of what stands behind a selector in revert data. -/
inductive Selects (errors : List CustomError) : Selector → List Ty → Prop
  /-- A text stands behind the selector of `Error(string)`, whatever is declared. -/
  | text : Selects errors textSelector [.string]
  /-- A code stands behind the selector of `Panic(uint256)`, whatever is declared. -/
  | panic : Selects errors panicSelector [.uint 256]
  /-- Arguments stand behind any other selector of a declared error. -/
  | raised {e : CustomError} (first : Foremost errors e) (noText : e.selector ≠ textSelector)
      (noPanic : e.selector ≠ panicSelector) : Selects errors e.selector (tys e.inputs)

variable {errors : List CustomError} {data payload octets : Bytes} {e : CustomError}
  {args : List Value}

/-- The first error that is found with a selector is the foremost one with it. -/
theorem find?_selector {selector : Selector} :
    errors.find? (·.selector = selector) = some e ↔ Foremost errors e ∧ e.selector = selector := by
  simp only [List.find?_eq_some_iff_append, decide_eq_true_eq, Bool.not_eq_true',
    decide_eq_false_iff_not]
  constructor
  · rintro ⟨rfl, before, after, hsplit, hbefore⟩
    exact ⟨⟨before, after, hsplit, hbefore⟩, rfl⟩
  · rintro ⟨⟨before, after, hsplit, hbefore⟩, rfl⟩
    exact ⟨rfl, before, after, hsplit, hbefore⟩

/-- A selector selects one list of types. -/
theorem Selects.unique {selector : Selector} {types others : List Ty}
    (h : Selects errors selector types) (hother : Selects errors selector others) :
    types = others := by
  have hbuiltin : panicSelector ≠ textSelector := by decide
  generalize hselector : selector = wanted at hother
  cases h with
  | text =>
    cases hother with
    | text => rfl
    | panic => exact absurd hselector.symm hbuiltin
    | raised _ noText _ => exact absurd hselector.symm noText
  | panic =>
    cases hother with
    | text => exact absurd hselector hbuiltin
    | panic => rfl
    | raised _ _ noPanic => exact absurd hselector.symm noPanic
  | raised first noText noPanic =>
    cases hother with
    | text => exact absurd hselector noText
    | panic => exact absurd hselector noPanic
    | raised other _ _ =>
      have hfirst := find?_selector.mpr ⟨first, hselector⟩
      have hother := find?_selector.mpr ⟨other, rfl⟩
      obtain rfl := Option.some.inj (hfirst.symm.trans hother)
      rfl

/-- Data with a selector in front is long enough, begins with that selector, and goes on with what
stands behind it. -/
theorem cut_selector (selector : Selector) (payload : Bytes) :
    (selector.bytes ++ payload).isEmpty = false ∧ ¬ (selector.bytes ++ payload).length < 4 ∧
      Selector.ofBytes ((selector.bytes ++ payload).take 4) = selector ∧
      (selector.bytes ++ payload).drop 4 = payload := by
  have hlength := Selector.length_bytes selector
  have hlong : ¬ (selector.bytes ++ payload).length < 4 := by
    rw [List.length_append, hlength]
    omega
  refine ⟨?_, hlong, ?_, List.drop_left' hlength⟩
  · rw [List.isEmpty_eq_false_iff]
    rintro hnil
    rw [hnil] at hlong
    exact hlong (by decide)
  · rw [List.take_left' hlength, Selector.ofBytes_bytes]

/-- A text that is decoded is the reason. -/
theorem reasonOf_text {s : String} (h : decode [.string] payload = .ok [.string s]) :
    reasonOf errors (textSelector.bytes ++ payload) = s := by
  obtain ⟨hempty, hlong, hselector, hpayload⟩ := cut_selector textSelector payload
  rw [reasonOf, hempty, if_neg Bool.false_ne_true, if_neg hlong]
  dsimp only
  rw [hselector, hpayload, if_pos rfl, decodeSingle_eq_ok_iff_decode.mpr h]

/-- A code that is decoded is explained. -/
theorem reasonOf_panic {code : Word} (h : decode [.uint 256] payload = .ok [.uint code 256]) :
    reasonOf errors (panicSelector.bytes ++ payload) = panicReason code := by
  have hother : panicSelector ≠ textSelector := by decide
  obtain ⟨hempty, hlong, hselector, hpayload⟩ := cut_selector panicSelector payload
  rw [reasonOf, hempty, if_neg Bool.false_ne_true, if_neg hlong]
  dsimp only
  rw [hselector, hpayload, if_neg hother, if_pos rfl, decodeSingle_eq_ok_iff_decode.mpr h]

/-- Arguments of a declared error that are decoded are held by the data. -/
theorem raises_append (first : Foremost errors e) (noText : e.selector ≠ textSelector)
    (noPanic : e.selector ≠ panicSelector) (h : decode (tys e.inputs) payload = .ok args) :
    Raises errors (e.selector.bytes ++ payload) e args := by
  obtain ⟨-, hlong, hselector, -⟩ := cut_selector e.selector payload
  have hdecoded : e.decode (e.selector.bytes ++ payload) = .ok args := by
    rw [e.decode_eq, decodeBehind_append, h]
  refine ⟨Nat.not_lt.mp hlong, ?_, ?_, ?_, hdecoded⟩
  · rw [hselector]
    exact noText
  · rw [hselector]
    exact noPanic
  · rw [hselector]
    exact find?_selector.mpr ⟨first, rfl⟩

/-- Where no payload is decoded as its selector says, the octets are told. -/
theorem reasonOf_undecoded (hne : data ≠ [])
    (h : 4 ≤ data.length → ∀ types, Selects errors (Selector.ofBytes (data.take 4)) types →
      ∀ values, decode types (data.drop 4) ≠ .ok values) :
    reasonOf errors data = unrecognized data := by
  have hempty : data.isEmpty = false := List.isEmpty_eq_false_iff.mpr hne
  rw [reasonOf, hempty, if_neg Bool.false_ne_true]
  split
  · rfl
  · rename_i hlong
    have hundecoded := h (Nat.not_lt.mp hlong)
    dsimp only
    split
    · rename_i htext
      -- Only a value that is decoded as a text could be a reason here.
      split
      · rename_i s hdecoded
        rw [htext] at hundecoded
        exact absurd (decodeSingle_eq_ok_iff_decode.mp hdecoded) (hundecoded _ .text _)
      · rfl
    · rename_i hnoText
      split
      · rename_i hpanic
        split
        · rename_i code bits hdecoded
          rw [hpanic] at hundecoded
          exact absurd (decodeSingle_eq_ok_iff_decode.mp hdecoded) (hundecoded _ .panic _)
        · rfl
      · rename_i hnoPanic
        split
        · rfl
        · rename_i e hfound
          obtain ⟨hfirst, hselector⟩ := find?_selector.mp hfound
          rw [← hselector] at hnoText hnoPanic hundecoded
          cases hdecoded : e.decode data with
          | error fault => rfl
          | ok args =>
            rw [CustomError.decode] at hdecoded
            split at hdecoded
            · exact absurd hdecoded (hundecoded _ (.raised hfirst hnoText hnoPanic) _)
            · cases hdecoded

/-- Values for a reader are those of each of them. -/
theorem displays_eq_map (values : List Value) : Value.displays values = values.map Value.display := by
  induction values with
  | nil => rfl
  | cons v rest ih => rw [Value.displays, ih, List.map_cons]

/-- A text is encoded whatever it is, and decoded again. -/
theorem exists_encoded_text (s : String) : ∃ octets, encode [.string s] = .ok octets ∧
    (octets.length < Machine.sizeLimit → decode [.string] octets = .ok [.string s]) := by
  have hencoded : encode [.string s] = .ok (layOut (Value.parts [.string s])) :=
    encode_eq_ok.mpr ⟨.cons (.string s) .nil, rfl, rfl⟩
  have hroomy : Value.allRoomy [.string s] = true := rfl
  have htypes : Value.tys [.string s] = [.string] := rfl
  refine ⟨_, hencoded, fun hlimit => ?_⟩
  have hdecoded := decode_encode_of_roomy hencoded hlimit hroomy
  rwa [htypes] at hdecoded

/-- A code is encoded whatever it is, and decoded again. -/
theorem exists_encoded_code (code : Word) : ∃ octets, encode [.uint code 256] = .ok octets ∧
    decode [.uint 256] octets = .ok [.uint code 256] := by
  have typed : HasType (.uint code 256) (.uint 256) := .uint code.isLt
  have hencoded : encodeSingle (.uint code 256) = .ok (Word.bytes code) :=
    (encodeSingle_eq_ok rfl).mpr ⟨typed, rfl, rfl⟩
  have hdecoded : decodeSingle (.uint 256) (Word.bytes code) = .ok (.uint code 256) :=
    (decodeSingle_elementary rfl rfl).mpr ⟨typed, rfl⟩
  exact ⟨Word.bytes code, hencoded, decodeSingle_eq_ok_iff_decode.mp hdecoded⟩

/-- Reasons are faithful, whatever errors are declared. The text and the code that a revert encodes
are told as they are, and an error that is the first declared one with its selector is told with its
arguments, if the selector is not that of a text or of a code. Where the octets behind the selector
are not decoded as the selector says, where the selector is not known, and where the data is too
short for one, all octets are told; no data gives no reason. -/
theorem reasonOf_encode (errors : List CustomError) :
    (∀ s : String, ∃ octets, encode [.string s] = .ok octets ∧
      (octets.length < Machine.sizeLimit →
        reasonOf errors (textSelector.bytes ++ octets) = s)) ∧
    (∀ code : Word, ∃ octets, encode [.uint code 256] = .ok octets ∧
      reasonOf errors (panicSelector.bytes ++ octets) = panicReason code) ∧
    (∀ (e : CustomError) (args : List Value) (data : Bytes), Foremost errors e →
      e.selector ≠ textSelector → e.selector ≠ panicSelector → e.encode args = .ok data →
      data.length < Machine.sizeLimit → Value.allRoomy args = true →
        reasonOf errors data =
          e.name ++ "(" ++ ", ".intercalate (args.map Value.display) ++ ")") ∧
    (∀ data : Bytes, data ≠ [] →
      (4 ≤ data.length → ∀ types, Selects errors (Selector.ofBytes (data.take 4)) types →
        ∀ values, decode types (data.drop 4) ≠ .ok values) →
        reasonOf errors data = "unrecognized revert data " ++ data.hex ∧
          Hex.decode data.hexDigits = .ok data) ∧
    reasonOf errors [] = "execution reverted without a reason" := by
  refine ⟨?texts, ?codes, ?declared, ?undecoded, rfl⟩
  case texts =>
    intro s
    obtain ⟨octets, hencoded, hdecoded⟩ := exists_encoded_text s
    exact ⟨octets, hencoded, fun hlimit => reasonOf_text (hdecoded hlimit)⟩
  case codes =>
    intro code
    obtain ⟨octets, hencoded, hdecoded⟩ := exists_encoded_code code
    exact ⟨octets, hencoded, reasonOf_panic hdecoded⟩
  case declared =>
    intro e args data first noText noPanic hencoded hlimit hroomy
    obtain ⟨octets, hoctets, hdata⟩ := bind_eq_ok.mp hencoded
    obtain rfl := pure_eq_ok.mp hdata
    have hsize : octets.length < Machine.sizeLimit := by
      rw [List.length_append] at hlimit
      omega
    have hcarries : Carries (tys e.inputs) octets args := ⟨hoctets, hsize, hroomy⟩
    have hraises := raises_append first noText noPanic hcarries.decode_eq
    rw [hraises.reasonOf_eq, raised, displays_eq_map]
  case undecoded =>
    intro data hne hundecoded
    exact ⟨reasonOf_undecoded hne hundecoded, Hex.decode_hexDigits data⟩

set_option maxRecDepth 4000 in
/-- A declared error stands in front of another one with its selector and is told with a number and a
quoted text; a text is told; and of a text that is cut off all octets are told. -/
theorem reasonOf_encode_shadowed :
    let e : CustomError := ⟨"Short", [⟨"need", .uint 256⟩, ⟨"why", .string⟩]⟩
    let again : CustomError := ⟨"Short", [⟨"", .uint 256⟩, ⟨"", .string⟩]⟩
    let errors := [e, again]
    let args : List Value := [.uint 5 256, .string "a\"b"]
    let data := e.selector.bytes ++ layOut (Value.parts args)
    Foremost errors e ∧ e.encode args = .ok data ∧
      reasonOf errors data = "Short(5, \"a\\\"b\")" ∧
      (∃ octets, encode [.string "Denied()"] = .ok octets ∧
        reasonOf errors (textSelector.bytes ++ octets) = "Denied()") ∧
      reasonOf errors [0x08, 0xc3, 0x79, 0xa0, 0] = "unrecognized revert data 0x08c379a000" := by
  intro e again errors args data
  have hselector : e.selector = 0x9913d4ed#32 := by decide +kernel
  have hfirst : Foremost errors e := ⟨[], [again], rfl, nofun⟩
  have hencoded : e.encode args = .ok data := rfl
  have hlength : data.length = 4 + (layOut (Value.parts args)).length := by
    rw [List.length_append, Selector.length_bytes]
  obtain ⟨htexts, -, hdeclared, hundecoded, -⟩ := reasonOf_encode errors
  refine ⟨hfirst, hencoded, ?_, ?_, ?_⟩
  · refine hdeclared e args data hfirst ?_ ?_ hencoded ?_ rfl
    · rw [hselector]
      decide
    · rw [hselector]
      decide
    · rw [hlength]
      decide
  · obtain ⟨octets, htext, hreason⟩ := htexts "Denied()"
    obtain rfl : layOut (Value.parts [.string "Denied()"]) = octets := Except.ok.inj htext
    exact ⟨_, htext, hreason (by decide)⟩
  · refine (hundecoded [0x08, 0xc3, 0x79, 0xa0, 0] (List.cons_ne_nil _ _) fun _ types h => ?_).1
    obtain rfl : types = [.string] := h.unique .text
    intro values hdecoded
    cases hdecoded

end Interface

end ContractToolkit
