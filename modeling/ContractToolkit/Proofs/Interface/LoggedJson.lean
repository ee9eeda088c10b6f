import ContractToolkit.Proofs.Abi.JsonForm
import ContractToolkit.Proofs.Abi.RoundTrip
import ContractToolkit.Proofs.Interface.LogAcceptance
import ContractToolkit.Proofs.Interface.ParameterText
import ContractToolkit.Proofs.Json.Fields
import Mathlib.Data.List.Forall2

/-!
# Logged events keep their arguments in JSON

In the JSON form of a logged event the arguments stand under their names, and
under their positions where they have none. Names and positions share one set of
keys, but an identifier does not begin with a digit; so when names differ there
is one entry for each parameter. An entry gives back its argument by the type of
the parameter, or holds the digest that was logged for it.
-/

namespace ContractToolkit

namespace Interface

open Abi Outcome

/-- No identifier begins with a digit. -/
theorem isDigit_of_isNameStart {c : Char} (h : isNameStart c = true) : c.isDigit = false := by
  have hclass : (c.isUpper || c.isLower || c == '_' || c == '$') = true := h
  simp only [Bool.or_eq_true, beq_iff_eq] at hclass
  refine Bool.eq_false_iff.mpr fun hdigit => ?_
  have hrange : 48 ≤ c.toNat ∧ c.toNat ≤ 57 := Char.isDigit_iff_toNat.mp hdigit
  rcases hclass with ((hupper | hlower) | rfl) | rfl
  · have hlow : 65 ≤ c.toNat := (of_decide_eq_true hupper : 65 ≤ c.toNat ∧ c.toNat ≤ 90).1
    omega
  · have hlow : 97 ≤ c.toNat := of_decide_eq_true (Bool.and_eq_true_iff.mp hlower).1
    omega
  · exact absurd hdigit (by decide)
  · exact absurd hdigit (by decide)

/-- The key of an argument: the name of its parameter, or its position where it has none. -/
def argKey (index : Nat) (name : String) : String := if name.isEmpty then Text.ofNat index else name

/-- An argument of a parameter with a name stands under that name. -/
theorem argKey_of_ne {name : String} (h : name ≠ "") (index : Nat) : argKey index name = name := by
  rw [argKey, if_neg (mt String.isEmpty_iff.mp h)]

/-- No identifier is a position. -/
theorem ofNat_ne_of_isIdentifier {name : String} (h : isIdentifier name.toList = true) (n : Nat) :
    Text.ofNat n ≠ name := by
  rintro rfl
  obtain ⟨c, rest, hcons, hdigit⟩ := Text.decimal_eq_cons n
  rw [Text.ofNat, String.toList_ofList, hcons, isIdentifier, Bool.and_eq_true] at h
  rw [isDigit_of_isNameStart h.1] at hdigit
  cases hdigit

/-- Keys are the same for one name only, and without a name for one position only. -/
theorem argKey_inj {m n : Nat} {name other : String}
    (hname : name ≠ "" → isIdentifier name.toList = true)
    (hother : other ≠ "" → isIdentifier other.toList = true) (h : argKey m name = argKey n other) :
    name = other ∧ (name = "" → m = n) := by
  by_cases hempty : name = ""
  · by_cases hotherEmpty : other = ""
    · subst hempty hotherEmpty
      have hdigits : String.ofList (Text.decimal m) = String.ofList (Text.decimal n) := h
      exact ⟨rfl, fun _ => Text.decimal_inj.mp (String.ofList_inj.mp hdigits)⟩
    · rw [argKey_of_ne hotherEmpty, hempty] at h
      exact absurd h (ofNat_ne_of_isIdentifier (hother hotherEmpty) m)
  · by_cases hotherEmpty : other = ""
    · rw [argKey_of_ne hempty, hotherEmpty] at h
      exact absurd h.symm (ofNat_ne_of_isIdentifier (hname hempty) n)
    · rw [argKey_of_ne hempty, argKey_of_ne hotherEmpty] at h
      exact ⟨h, fun h => absurd h hempty⟩

/-- The arguments under their keys, one after another. -/
theorem argFields_eq (params : List DecodedParam) (index : Nat) :
    DecodedEvent.argFields index params =
      params.mapIdx fun k d => (argKey (index + k) d.name, d.arg.toJson) := by
  induction params generalizing index with
  | nil => rfl
  | cons d rest ih =>
    rw [DecodedEvent.argFields, ih, List.mapIdx_cons]
    simp only [Nat.add_zero, Nat.add_assoc, Nat.add_comm 1]
    rfl

/-- The keys come of the names. -/
theorem keys_argFields (params : List DecodedParam) :
    (DecodedEvent.argFields 0 params).map Prod.fst =
      (params.map DecodedParam.name).mapIdx argKey := by
  rw [argFields_eq]
  exact List.ext_getElem (by simp) fun index _ _ => by simp

/-- Every argument stands under its key. -/
theorem mem_argFields {params : List DecodedParam} {index : Nat} {d : DecodedParam}
    (h : params[index]? = some d) :
    (argKey index d.name, d.arg.toJson) ∈ DecodedEvent.argFields 0 params := by
  rw [argFields_eq, List.mem_iff_getElem?]
  refine ⟨index, ?_⟩
  rw [List.getElem?_mapIdx, h, Option.map_some, Nat.zero_add]

/-- Names that are identifiers, and differ, where they are not empty. -/
structure NamesApart (names : List String) : Prop where
  /-- A name is an identifier. -/
  identifiers : ∀ name ∈ names, name ≠ "" → isIdentifier name.toList = true
  /-- No name is given twice. -/
  distinct : names.Pairwise fun name other => name ≠ "" → name ≠ other

namespace NamesApart

variable {names : List String}

/-- A name is not given again later. -/
theorem ne_of_lt (h : NamesApart names) {m n : Nat} (hlt : m < n) (hn : n < names.length)
    (hname : names[m] ≠ "") : names[m] ≠ names[n] :=
  List.pairwise_iff_getElem.mp h.distinct m n (hlt.trans hn) hn hlt hname

/-- Where names differ, keys do. -/
theorem nodup_keys (h : NamesApart names) : (names.mapIdx argKey).Nodup := by
  rw [List.nodup_iff_pairwise_ne, List.pairwise_iff_getElem]
  intro m n hm hn hlt hsame
  rw [List.getElem_mapIdx, List.getElem_mapIdx] at hsame
  rw [List.length_mapIdx] at hm hn
  obtain ⟨hnames, hposition⟩ := argKey_inj (h.identifiers _ (List.getElem_mem hm))
    (h.identifiers _ (List.getElem_mem hn)) hsame
  by_cases hempty : names[m] = ""
  · exact Nat.ne_of_lt hlt (hposition hempty)
  · exact h.ne_of_lt hlt hn hempty hnames

/-- An argument is found under the name of its parameter. -/
theorem get?_eq {ev : DecodedEvent} (h : NamesApart (ev.params.map DecodedParam.name))
    {index : Nat} {d : DecodedParam} (hd : ev.params[index]? = some d) (hname : d.name ≠ "") :
    ev.get? d.name = some d.arg := by
  obtain ⟨hindex, rfl⟩ := List.getElem?_eq_some_iff.mp hd
  have hfound : ev.params.find? (·.name = ev.params[index].name) = some ev.params[index] := by
    rw [List.find?_eq_some_iff_getElem]
    refine ⟨by simp, index, hindex, rfl, fun k hk => ?_⟩
    have hearlier : ev.params[k].name ≠ ev.params[index].name := by
      intro hsame
      have hlater := h.ne_of_lt hk (by simpa using hindex) (by simpa using hsame ▸ hname)
      exact hlater (by simpa using hsame)
    simpa using hearlier
  rw [DecodedEvent.get?, hfound]
  rfl

end NamesApart

/-- Arguments have the names of their parameters. -/
theorem names_of_decodedFor {params : List EventParam} {decoded : List DecodedParam}
    (h : List.Forall₂ DecodedFor params decoded) :
    decoded.map DecodedParam.name = params.map EventParam.name := by
  induction h with
  | nil => rfl
  | cons head _ ih => rw [List.map_cons, List.map_cons, head.name, ih]

namespace Event

/-- The arguments of a decoded log are those of the parameters of the event. -/
theorem decodedFor_of_decode {e : Event} {log : Log} {ev : DecodedEvent}
    (h : e.decode log = .ok ev) : List.Forall₂ DecodedFor e.params ev.params := by
  obtain ⟨decoded, hdecoded, h⟩ := bind_eq_ok.mp h
  have hev : ev.params = decoded.params := by
    split at h
    · split at h
      · cases h
      · cases h
        rfl
    · cases h
      rfl
  exact hev ▸ decodedFor_of_decodeLog hdecoded

/-- The arguments of a logged event are a field of its JSON form. -/
theorem field?_args (ev : DecodedEvent) :
    ev.toJson.field? "args" = some (Json.ofFields (DecodedEvent.argFields 0 ev.params)) := by
  rw [DecodedEvent.toJson]
  dsimp only
  simp only [List.append_assoc, List.cons_append, List.nil_append]
  -- What is known of the place of the log is set afterwards, under keys of its own.
  refine @Json.field?_ofFields_last _ _ [("event", .string ev.name),
    ("signature", .string ev.signature)] _ ?_
  simp only [List.forall_mem_append]
  refine ⟨?_, ?_, ?_, ?_⟩
  all_goals split <;> simp

/-- The JSON form of a decoded log has one entry for each parameter of an event whose names are
identifiers and differ: under the name of the parameter, or under its position where it has none. The
entry of a value is read back as the value by the type of the parameter, that of a digest holds the
digest, and under a name stands what the event has there. -/
theorem toJson_keeps_args {e : Event} (hnames : NamesApart (e.params.map EventParam.name))
    {log : Log} {ev : DecodedEvent} (h : e.decode log = .ok ev) :
    ∃ args, ev.toJson.field? "args" = some (.object args) ∧ (args.map Prod.fst).Nodup ∧
      (args.map Prod.fst).Perm ((e.params.map EventParam.name).mapIdx argKey) ∧
      ∀ index p, e.params[index]? = some p →
        ∃ arg entry, ev.params[index]? = some ⟨p.name, p.indexed, arg⟩ ∧
          (Json.object args).field? (argKey index p.name) = some entry ∧
          (p.name ≠ "" → (ev.get? p.name).map EventArg.toJson = some entry) ∧
          match arg with
          | .value v => Value.ofJson p.ty entry = .ok v
          | .hashed digest => entry = .object [("hash", .string (Word.hex digest))] ∧
              Value.octetsOfText (Word.hex digest) = .ok (Word.bytes digest) := by
  have hdecoded := decodedFor_of_decode h
  have hsame := names_of_decodedFor hdecoded
  rw [← hsame] at hnames
  have hdistinct : ((DecodedEvent.argFields 0 ev.params).map Prod.fst).Nodup := by
    rw [keys_argFields]
    exact hnames.nodup_keys
  have hperm := (Json.sortedFields_perm hdistinct).map Prod.fst
  refine ⟨_, field?_args ev, hperm.nodup_iff.mpr hdistinct, ?keys, ?entries⟩
  case keys =>
    rw [← hsame, ← keys_argFields]
    exact hperm
  case entries =>
    intro index p hp
    obtain ⟨hindex, rfl⟩ := List.getElem?_eq_some_iff.mp hp
    have hindex' : index < ev.params.length := hdecoded.length_eq ▸ hindex
    have hfor : DecodedFor e.params[index] ev.params[index] := hdecoded.get hindex hindex'
    have hd : ev.params[index]? = some ev.params[index] := List.getElem?_eq_getElem hindex'
    generalize ev.params[index] = d at hfor hd
    obtain ⟨name, indexed, arg⟩ := d
    obtain ⟨rfl, rfl, harg⟩ := hfor
    refine ⟨arg, arg.toJson, hd, ?entry, ?named, ?arg⟩
    case entry => exact Json.field?_ofFields_of_mem hdistinct (mem_argFields hd)
    case named =>
      intro hname
      rw [hnames.get?_eq hd hname]
      rfl
    case arg =>
      cases harg with
      | value typed => exact typed.shaped.ofJson_toJson
      | hashed digest _ _ => exact ⟨rfl, Value.octetsOfText_hex _⟩

set_option maxRecDepth 4000 in
/-- A digest and a truth value stand under their positions, a list and an address under their
names. -/
theorem toJson_keeps_args_unnamed :
    let params : List EventParam := [⟨"", .string, true⟩, ⟨"amounts", .array (.uint 16), false⟩,
      ⟨"", .bool, false⟩, ⟨"to", .address, true⟩]
    let e : Event := ⟨"Sent", params, false⟩
    let list : Value := .array (.uint 16) [.uint 1 16, .uint 2 16]
    let log : Log := { address := 9, topics := [e.topic, 7, 5],
                       data := layOut (Value.parts [list, .bool true]), logIndex := some 3 }
    let ev : DecodedEvent :=
      { name := "Sent", signature := e.signature, address := some 9, logIndex := some 3
        params := [⟨"", true, .hashed 7⟩, ⟨"amounts", false, .value list⟩,
          ⟨"", false, .value (.bool true)⟩, ⟨"to", true, .value (.address 5)⟩] }
    e.decode log = .ok ev ∧
      ∃ args, ev.toJson.field? "args" = some (.object args) ∧
        (args.map Prod.fst).Perm ["0", "amounts", "2", "to"] ∧
        (Json.object args).field? "0" = some (.object [("hash", .string (Word.hex 7))]) ∧
        (∃ entry, (Json.object args).field? "amounts" = some entry ∧
          (ev.get? "amounts").map EventArg.toJson = some entry ∧
          Value.ofJson (.array (.uint 16)) entry = .ok list) := by
  intro params e list log ev
  have hnames : NamesApart (e.params.map EventParam.name) := by
    change NamesApart ["", "amounts", "", "to"]
    exact ⟨by decide, by decide⟩
  have hencoded : encode [list, .bool true] = .ok log.data := rfl
  have hroomy : Value.allRoomy [list, .bool true] = true := rfl
  have hlimit : log.data.length < Machine.sizeLimit := by decide
  have htypes : Value.tys [list, .bool true] = e.dataTypes := rfl
  have hvalues := decode_encode_of_roomy hencoded hlimit hroomy
  rw [htypes] at hvalues
  have hmerge : mergeArgs params [7, 5] [list, .bool true] = .ok ev.params := rfl
  have hdecoded : e.decodeLog log.topics log.data =
      .ok { name := e.name, signature := e.signature, params := ev.params } :=
    decodeLog_eq_ok.mpr ⟨[7, 5], _, _, rfl, rfl, hvalues, hmerge, rfl⟩
  have hdecode : e.decode log = .ok ev := by
    rw [decode, hdecoded]
    rfl
  obtain ⟨args, hargs, -, hkeys, hentries⟩ := toJson_keeps_args hnames hdecode
  refine ⟨hdecode, args, hargs, hkeys, ?digest, ?list⟩
  case digest =>
    obtain ⟨arg, entry, harg, hentry, -, hform⟩ := hentries 0 _ rfl
    obtain rfl : EventArg.hashed 7 = arg := by simpa [ev] using harg
    rw [← hform.1]
    exact hentry
  case list =>
    obtain ⟨arg, entry, harg, hentry, hget, hform⟩ := hentries 1 _ rfl
    obtain rfl : EventArg.value list = arg := by simpa [ev] using harg
    exact ⟨entry, hentry, hget (by decide), hform⟩

end Event

end Interface

end ContractToolkit
