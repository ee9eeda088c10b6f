import ContractToolkit.Proofs.Interface.Lookup
import ContractToolkit.Proofs.Interface.Signatures

/-!
# Events are found by their names and signatures

A name stands for the only event that has it. A signature stands for the first
event that has it, and two events have the same signature when one of them is
anonymous and the other one is not. Then the event that was added later is
hidden by the other one: no key stands for it. Where no two events share a
signature, each one is found by its signature, and a key stands for no more than
one event.
-/

namespace ContractToolkit.Interface

open Abi Outcome

variable {i : Interface} {e first other : Event} {key : String}

/-- The keys that fit an event: its name, and the spellings of its signature. -/
inductive Event.Matches (e : Event) (key : String) : Prop
  /-- A key without a parenthesis is the name. -/
  | name (plain : '(' ∉ key.toList) (named : e.name = key)
  /-- Any other key is read as a declaration, and has the signature. -/
  | spelling (opened : '(' ∈ key.toList) (spelled : canonicalSignature key.toList = .ok e.signature)

/-- A key without a parenthesis fits the events that it is the name of. -/
theorem Event.matches_name (hkey : '(' ∉ key.toList) : e.Matches key ↔ e.name = key := by
  constructor
  · rintro (⟨-, hname⟩ | ⟨hopened, -⟩)
    · exact hname
    · exact absurd hopened hkey
  · exact .name hkey

/-- A key with a parenthesis fits the events whose signature it spells. -/
theorem Event.matches_spelling (hkey : '(' ∈ key.toList) :
    e.Matches key ↔ canonicalSignature key.toList = .ok e.signature := by
  constructor
  · rintro (⟨hplain, -⟩ | ⟨-, hspelled⟩)
    · exact absurd hkey hplain
    · exact hspelled
  · exact .spelling hkey

/-- Whether an event is listed, and in front of all others that have its signature. -/
def Leads (i : Interface) (e : Event) : Prop :=
  ∃ before after, i.events = before ++ e :: after ∧
    ∀ other ∈ before, other.signature ≠ e.signature

/-- The first event with a signature is in front of all others that have it. -/
theorem find?_signature {wanted : String} :
    i.events.find? (fun other => other.signature = wanted) = some e ↔
      i.Leads e ∧ e.signature = wanted := by
  rw [List.find?_eq_some_iff_append]
  constructor
  · rintro ⟨hwanted, before, after, hevents, hbefore⟩
    obtain rfl : e.signature = wanted := by simpa using hwanted
    exact ⟨⟨before, after, hevents, by simpa using hbefore⟩, rfl⟩
  · rintro ⟨⟨before, after, hevents, hbefore⟩, rfl⟩
    exact ⟨by simp, before, after, hevents, by simpa using hbefore⟩

/-- An event that leads is listed. -/
theorem Leads.mem (h : i.Leads e) : e ∈ i.events :=
  List.mem_of_find?_eq_some (find?_signature.mpr ⟨h, rfl⟩)

/-- No two events with the same signature both lead. -/
theorem Leads.eq_of_signature (h : i.Leads e) (hother : i.Leads other)
    (hsame : other.signature = e.signature) : other = e := by
  have hfound := find?_signature.mpr ⟨hother, hsame⟩
  rw [find?_signature.mpr ⟨h, rfl⟩] at hfound
  exact (Option.some.inj hfound).symm

/-- Of the events with the signature of a listed one, one leads. -/
theorem exists_leads (he : e ∈ i.events) : ∃ first, i.Leads first ∧ first.signature = e.signature := by
  cases hfound : i.events.find? (fun other => other.signature = e.signature) with
  | none =>
    have hnone := List.find?_eq_none.mp hfound e he
    simp at hnone
  | some first => exact ⟨first, find?_signature.mp hfound⟩

/-- An event that does not lead has another one with its signature in front of it. -/
theorem exists_leads_ne (he : e ∈ i.events) (hhidden : ¬ i.Leads e) :
    ∃ first, i.Leads first ∧ first.signature = e.signature ∧ first ≠ e := by
  obtain ⟨first, hfirst, hsame⟩ := exists_leads he
  exact ⟨first, hfirst, hsame, fun heq => hhidden (heq ▸ hfirst)⟩

/-- An event that is added leads unless one that is not as anonymous has its signature. -/
theorem leads_addEvent : (i.addEvent e).Leads e ↔
    ∀ other ∈ i.events, other.signature = e.signature → other.anonymous = e.anonymous := by
  have hkept {other : Event} : other ∈ i.events.filter (fun other =>
        other.signature ≠ e.signature ∨ other.anonymous ≠ e.anonymous) ↔
      other ∈ i.events ∧ (other.signature = e.signature → other.anonymous ≠ e.anonymous) := by
    simp [imp_iff_not_or]
  constructor
  · intro h other hother hsame
    by_contra hanonymous
    have hfound := find?_signature.mpr ⟨h, rfl⟩
    have hbefore := hkept.mpr ⟨hother, fun _ => hanonymous⟩
    rw [addEvent, List.find?_append] at hfound
    cases hfirst : List.find? (fun other => other.signature = e.signature) (i.events.filter _) with
    | none =>
      have hnone := List.find?_eq_none.mp hfirst other hbefore
      simp [hsame] at hnone
    | some first =>
      -- The event itself is not among those that were kept.
      rw [hfirst, Option.some_or, Option.some_inj] at hfound
      obtain ⟨-, hother⟩ := hkept.mp (List.mem_of_find?_eq_some hfirst)
      rw [hfound] at hother
      exact hother rfl rfl
  · intro halike
    refine ⟨_, [], rfl, fun other hother hsame => ?_⟩
    obtain ⟨hmem, hanonymous⟩ := hkept.mp hother
    exact hanonymous hsame (halike other hmem hsame)

/-- A key with a parenthesis stands for the first event whose signature it spells. -/
theorem event_spelling (hkey : '(' ∈ key.toList) :
    i.event key = .ok e ↔ i.Leads e ∧ e.Matches key := by
  rw [event, find, if_pos (by simpa using hkey), Event.matches_spelling hkey]
  cases hwanted : canonicalSignature key.toList with
  | error fault => simp [Bind.bind, Except.bind]
  | ok wanted =>
    dsimp only [Bind.bind, Except.bind]
    rw [Except.ok.injEq, eq_comm (a := wanted), ← find?_signature]
    cases i.events.find? (fun other => other.signature = wanted) with
    | none => simp
    | some found => simp

/-- The signature of an event stands for the first event that has it. -/
theorem event_signature (hread : canonicalSignature e.signature.toList = .ok e.signature) :
    i.event e.signature = .ok first ↔ i.Leads first ∧ first.signature = e.signature := by
  have hkey := opening_mem_of_canonicalSignature hread
  rw [event_spelling hkey, Event.matches_spelling hkey, hread, Except.ok.injEq, eq_comm]

namespace Distinct

/-- A name stands for the only event that has it. -/
theorem event_name (h : i.Distinct) (hkey : '(' ∉ key.toList) : i.event key = .ok e ↔
    e ∈ i.events ∧ e.Matches key ∧ ∀ other ∈ i.events, other.Matches key → other = e := by
  simp only [Event.matches_name hkey]
  exact find_name (h.events.of_map _) hkey

/-- Two events of one signature that are alike in their topics are the same. -/
theorem event_eq (h : i.Distinct) (he : e ∈ i.events) (hother : other ∈ i.events)
    (hsame : other.signature = e.signature) (hanonymous : other.anonymous = e.anonymous) :
    other = e :=
  List.inj_on_of_nodup_map h.events hother he (Prod.ext hsame hanonymous)

/-- Of two events with the same signature one is anonymous, and one leads. -/
theorem leads_iff_not_leads (h : i.Distinct) (he : e ∈ i.events) (hother : other ∈ i.events)
    (hsame : other.signature = e.signature) (hne : other ≠ e) :
    other.anonymous ≠ e.anonymous ∧ (i.Leads other ↔ ¬ i.Leads e) := by
  have hanonymous : other.anonymous ≠ e.anonymous := fun halike =>
    hne (h.event_eq he hother hsame halike)
  refine ⟨hanonymous, fun hlead hleads => hne (hleads.eq_of_signature hlead hsame),
    fun hhidden => ?_⟩
  obtain ⟨first, hfirst, hfirstSame, hfirstNe⟩ := exists_leads_ne he hhidden
  have hfirstAnonymous : first.anonymous ≠ e.anonymous := fun halike =>
    hfirstNe (h.event_eq he hfirst.mem hfirstSame halike)
  have halike : first.anonymous = other.anonymous := by
    rw [Bool.eq_not_of_ne hfirstAnonymous, Bool.eq_not_of_ne hanonymous]
  exact h.event_eq hother hfirst.mem (hfirstSame.trans hsame.symm) halike ▸ hfirst

/-- No key stands for an event that another one with its signature is in front of. -/
theorem event_ne (h : i.Distinct) (hdeclared : ∀ e ∈ i.events, e.Declared) (he : e ∈ i.events)
    (hhidden : ¬ i.Leads e) : i.event key ≠ .ok e := by
  intro hfound
  by_cases hkey : '(' ∈ key.toList
  · exact hhidden ((event_spelling hkey).mp hfound).1
  · obtain ⟨-, hname, honly⟩ := (h.event_name hkey).mp hfound
    obtain ⟨first, hfirst, hsame, hne⟩ := exists_leads_ne he hhidden
    have hnames : first.name = e.name :=
      ((signature_inj (Event.declared_iff.mp (hdeclared first hfirst.mem)).1
        (Event.declared_iff.mp (hdeclared e he)).1).mp hsame).1
    rw [Event.matches_name hkey] at hname
    exact hne (honly first hfirst.mem ((Event.matches_name hkey).mpr (hnames.trans hname)))

/-- Every event is found by its signature, and no key that fits two events stands for one of them,
exactly when no two events have the same signature. -/
theorem nodup_signature_iff (h : i.Distinct)
    (hread : ∀ e ∈ i.events, canonicalSignature e.signature.toList = .ok e.signature) :
    (i.events.map Event.signature).Nodup ↔
      (∀ e ∈ i.events, i.event e.signature = .ok e) ∧
        ∀ (key : String) (e : Event), i.event key = .ok e →
          ∀ other ∈ i.events, other.Matches key → other = e := by
  rw [List.nodup_map_iff_inj_on (h.events.of_map _)]
  constructor
  · intro hinj
    refine ⟨fun e he => ?reached, fun key e hfound other hother hfits => ?alone⟩
    case reached =>
      obtain ⟨first, hfirst, hsame⟩ := exists_leads he
      obtain rfl := hinj first hfirst.mem e he hsame
      exact (event_signature (hread first he)).mpr ⟨hfirst, rfl⟩
    case alone =>
      by_cases hkey : '(' ∈ key.toList
      · obtain ⟨hlead, hwanted⟩ := (event_spelling hkey).mp hfound
        rw [Event.matches_spelling hkey] at hwanted hfits
        rw [hwanted, Except.ok.injEq] at hfits
        exact hinj other hother e hlead.mem hfits.symm
      · exact ((h.event_name hkey).mp hfound).2.2 other hother hfits
  · rintro ⟨hreached, -⟩ e he other hother hsame
    have hfound := hreached e he
    rw [hsame, hreached other hother] at hfound
    exact (Except.ok.inj hfound).symm

end Distinct

/-- Lookup of events in every interface built up from declared members. A name stands for the only
event that has it, and any other key for the first event whose signature it spells. So every event is
found by its signature, and alone, exactly when no two events have the same signature; else one of
two hides the other one, which is the one that was added later, from every key. -/
theorem event_lookup {members : List Member} (hdeclared : ∀ d ∈ members, d.Declared)
    (hsized : ∀ e, .event e ∈ members → ∀ t ∈ e.types, t.isSized = true) :
    let i := members.foldl Member.addTo empty
    (∀ (key : String) (e : Event), '(' ∉ key.toList →
      (i.event key = .ok e ↔
        e ∈ i.events ∧ e.Matches key ∧ ∀ other ∈ i.events, other.Matches key → other = e)) ∧
    (∀ (key : String) (e : Event), '(' ∈ key.toList →
      (i.event key = .ok e ↔ i.Leads e ∧ e.Matches key)) ∧
    (∀ e ∈ i.events, (i.event e.signature = .ok e ↔ i.Leads e) ∧
      (¬ i.Leads e → ∀ key, i.event key ≠ .ok e)) ∧
    (∀ e ∈ i.events, ∀ other ∈ i.events, other.signature = e.signature → other ≠ e →
      other.anonymous ≠ e.anonymous ∧ (i.Leads other ↔ ¬ i.Leads e)) ∧
    (∀ e, (i.addEvent e).Leads e ↔
      ∀ other ∈ i.events, other.signature = e.signature → other.anonymous = e.anonymous) ∧
    ((i.events.map Event.signature).Nodup ↔
      (∀ e ∈ i.events, i.event e.signature = .ok e) ∧
        ∀ (key : String) (e : Event), i.event key = .ok e →
          ∀ other ∈ i.events, other.Matches key → other = e) := by
  intro i
  have hdistinct : i.Distinct := distinct_foldl members
  have hmember (e : Event) (he : e ∈ i.events) : Member.event e ∈ members :=
    (@mem_of_has_foldl members empty (.event e) he).elim id (absurd · (not_has_empty _))
  have hevents (e : Event) (he : e ∈ i.events) : e.Declared := hdeclared _ (hmember e he)
  have hread (e : Event) (he : e ∈ i.events) :
      canonicalSignature e.signature.toList = .ok e.signature := by
    obtain ⟨hname, htypes, -⟩ := Event.declared_iff.mp (hevents e he)
    exact canonicalSignature_signature hname htypes (hsized e (hmember e he))
  refine ⟨fun _ _ => hdistinct.event_name, fun _ _ => event_spelling, fun e he => ⟨?own, ?hidden⟩,
    fun e he other hother => hdistinct.leads_iff_not_leads he hother, fun _ => leads_addEvent,
    hdistinct.nodup_signature_iff hread⟩
  case own => simp [event_signature (hread e he)]
  case hidden => exact fun hhidden _ => hdistinct.event_ne hevents he hhidden

/-- An event that is added again comes to stand behind the anonymous one of its signature, and no key
stands for it any more; the events of other names are found. -/
theorem event_lookup_added_again :
    let quiet : Event := ⟨"Note", [⟨"value", .uint 256, false⟩], true⟩
    let paid : Event := ⟨"Paid", [⟨"", .tuple [.bool, .array .bytes], false⟩], false⟩
    let again : Event := ⟨"Note", [⟨"id", .uint 256, false⟩], false⟩
    let members : List Member := [.event ⟨"Note", [⟨"tag", .uint 256, true⟩], false⟩,
      .event ⟨"Note", [⟨"value", .uint 256, false⟩], true⟩,
      .event ⟨"Paid", [⟨"", .tuple [.bool, .array .bytes], false⟩], false⟩,
      .event ⟨"Note", [⟨"id", .uint 256, false⟩], false⟩]
    let i := members.foldl Member.addTo empty
    i.events = [quiet, paid, again] ∧ i.Leads quiet ∧ i.event quiet.signature = .ok quiet ∧
      (∀ key, i.event key ≠ .ok again) ∧ i.event "Paid" = .ok paid := by
  intro quiet paid again members i
  have hdeclared : ∀ d ∈ members, d.Declared := by
    simp only [members, List.forall_mem_cons]
    exact ⟨rfl, rfl, rfl, rfl, nofun⟩
  have hsized : ∀ e, .event e ∈ members → ∀ t ∈ e.types, t.isSized = true := by
    intro e he
    simp only [members, List.mem_cons, Member.event.injEq, List.not_mem_nil, or_false] at he
    rcases he with rfl | rfl | rfl | rfl
    all_goals decide
  have hevents : i.events = [⟨"Note", [⟨"value", .uint 256, false⟩], true⟩,
    ⟨"Paid", [⟨"", .tuple [.bool, .array .bytes], false⟩], false⟩,
    ⟨"Note", [⟨"id", .uint 256, false⟩], false⟩] := rfl
  obtain ⟨hnames, -, hsignatures, htwins, -⟩ := event_lookup hdeclared hsized
  have hquiet : quiet ∈ i.events := hevents ▸ List.mem_cons_self
  have hagain : again ∈ i.events := List.mem_append_right _ List.mem_cons_self
  have hlead : i.Leads quiet := ⟨[], _, hevents, nofun⟩
  have hsame : again.signature = quiet.signature := rfl
  have hhidden : ¬ i.Leads again := fun h =>
    ((htwins quiet hquiet again hagain hsame (by decide)).2.mp h) hlead
  refine ⟨hevents, hlead, (hsignatures quiet hquiet).1.mpr hlead,
    (hsignatures again hagain).2 hhidden, (hnames "Paid" paid (by decide)).mpr ?_⟩
  simp only [Event.matches_name (show '(' ∉ "Paid".toList by decide)]
  change _ ∈ i.events ∧ _ ∧ ∀ other ∈ i.events, _
  rw [hevents]
  decide

/-- The signature of an event stands for the anonymous event that was added before it and that it
fits as well. -/
theorem event_hidden_by_anonymous :
    let quiet : Event := ⟨"Note", [⟨"value", .uint 256, false⟩], true⟩
    let named : Event := ⟨"Note", [⟨"value", .uint 256, false⟩], false⟩
    let i := [⟨"Note", [⟨"value", .uint 256, false⟩], true⟩,
      ⟨"Note", [⟨"value", .uint 256, false⟩], false⟩].foldl addEvent empty
    named ∈ i.events ∧ i.event named.signature = .ok quiet ∧
      ¬ (∀ e ∈ i.events, i.event e.signature = .ok e) ∧
      ¬ (∀ (key : String) (e : Event), i.event key = .ok e →
        ∀ other ∈ i.events, other.Matches key → other = e) := by
  intro quiet named i
  have hnamed : named ∈ i.events := List.mem_append_right _ List.mem_cons_self
  have hread : canonicalSignature named.signature.toList = .ok named.signature :=
    canonicalSignature_signature (by decide) (by decide) (by decide)
  have hkey := opening_mem_of_canonicalSignature hread
  have hevents : i.events = [⟨"Note", [⟨"value", .uint 256, false⟩], true⟩,
    ⟨"Note", [⟨"value", .uint 256, false⟩], false⟩] := rfl
  have hlead : i.Leads quiet := ⟨[], [named], hevents, nofun⟩
  have hsame : quiet.signature = named.signature := rfl
  have hfits : named.Matches named.signature := .spelling hkey hread
  have hfound : i.event named.signature = .ok quiet :=
    (event_spelling hkey).mpr ⟨hlead, .spelling hkey (hsame ▸ hread)⟩
  have hne : named ≠ quiet := by decide
  refine ⟨hnamed, hfound, fun hreached => ?_, fun halone => ?_⟩
  · rw [hreached named hnamed] at hfound
    exact hne (Except.ok.inj hfound)
  · exact hne (halone _ _ hfound named hnamed hfits)

end ContractToolkit.Interface
