import ContractToolkit.Proofs.Interface.Signatures

/-!
# An interface holds what was added last

Each collection of an interface that is built up from nothing holds what was
added last under each key, in the order of these last additions. The key of a
function or an error is its signature; that of an event is its signature
together with whether it is anonymous. Both loaders build up interfaces from
declared members, so that this holds of every interface that is loaded.
-/

namespace ContractToolkit.Interface

open Abi Outcome

section Keys

variable {α κ : Type} [DecidableEq κ]

/-- What is last under each key, in order: everything behind which nothing has its key. -/
def lastOfEach (key : α → κ) : List α → List α
  | [] => []
  | a :: rest => if key a ∈ rest.map key then lastOfEach key rest else a :: lastOfEach key rest

/-- What is put at the end takes the place of everything under its key. -/
theorem lastOfEach_concat (key : α → κ) (as : List α) (a : α) :
    lastOfEach key (as ++ [a]) =
      (lastOfEach key as).filter (fun other => key other ≠ key a) ++ [a] := by
  induction as with
  | nil => rfl
  | cons b rest ih =>
    have hlater : key b ∈ (rest ++ [a]).map key ↔ key b ∈ rest.map key ∨ key b = key a := by simp
    rw [List.cons_append, lastOfEach, lastOfEach, ih]
    by_cases hrest : key b ∈ rest.map key
    · rw [if_pos (hlater.mpr (Or.inl hrest)), if_pos hrest]
    · rw [if_neg hrest]
      by_cases hsame : key b = key a
      · rw [if_pos (hlater.mpr (Or.inr hsame)), List.filter_cons_of_neg (by simp [hsame])]
      · rw [if_neg (by simp [hrest, hsame]), List.filter_cons_of_pos (by simp [hsame]),
          List.cons_append]

/-- What is last under its key is the last of everything that has this key. -/
theorem mem_lastOfEach {key : α → κ} {as : List α} {a : α} :
    a ∈ lastOfEach key as ↔ (as.filter fun other => key other = key a).getLast? = some a := by
  induction as using List.reverseRecOn with
  | nil => simp [lastOfEach]
  | append_singleton as last ih =>
    rw [lastOfEach_concat, List.mem_append, List.mem_singleton, List.mem_filter, ih,
      List.filter_append]
    by_cases hsame : key last = key a
    · rw [List.filter_cons_of_pos (by simpa using hsame), List.filter_nil, List.getLast?_concat]
      simp [hsame, eq_comm]
    · have hother : a ≠ last := fun h => hsame (congrArg key h.symm)
      rw [List.filter_cons_of_neg (by simpa using hsame), List.filter_nil, List.append_nil]
      simp [hother, Ne.symm hsame]

/-- Under distinct keys everything is last. -/
theorem lastOfEach_of_nodup {key : α → κ} {as : List α} (h : (as.map key).Nodup) :
    lastOfEach key as = as := by
  induction as with
  | nil => rfl
  | cons a rest ih =>
    obtain ⟨hfirst, hrest⟩ := List.nodup_cons.mp h
    rw [lastOfEach, if_neg hfirst, ih hrest]

end Keys

/-- What events are kept apart by. -/
def Event.key (e : Event) : String × Bool := (e.signature, e.anonymous)

namespace Member

/-- The constructor, of a constructor. -/
def constructor? : Member → Option Constructor
  | constructor c => some c
  | _ => none

/-- The function, of a function. -/
def method? : Member → Option Method
  | method m => some m
  | _ => none

/-- The event, of an event. -/
def event? : Member → Option Event
  | event e => some e
  | _ => none

/-- The error, of an error. -/
def error? : Member → Option CustomError
  | error e => some e
  | _ => none

end Member

/-- The last constructor, and the last functions, events and errors under their keys. -/
def lastAdded (members : List Member) : Interface where
  constructor? := (members.filterMap Member.constructor?).getLast?
  methods := lastOfEach Method.signature (members.filterMap Member.method?)
  events := lastOfEach Event.key (members.filterMap Member.event?)
  errors := lastOfEach CustomError.signature (members.filterMap Member.error?)

/-- An added member is the last one under its key, and leaves the other collections. -/
theorem addTo_lastAdded (members : List Member) (d : Member) :
    d.addTo (lastAdded members) = lastAdded (members ++ [d]) := by
  have hselected {α : Type} (select : Member → Option α) :
      (members ++ [d]).filterMap select = members.filterMap select ++ (select d).toList := by
    cases h : select d <;> simp [h]
  rw [lastAdded, lastAdded]
  simp only [hselected]
  cases d with
  | constructor c =>
    simp [Member.addTo, setConstructor, Member.constructor?, Member.method?, Member.event?,
      Member.error?]
  | method m =>
    simp [Member.addTo, addMethod, Member.constructor?, Member.method?, Member.event?,
      Member.error?, lastOfEach_concat]
  | event e =>
    simp [Member.addTo, addEvent, Member.constructor?, Member.method?, Member.event?,
      Member.error?, lastOfEach_concat, Event.key, imp_iff_not_or]
  | error e =>
    simp [Member.addTo, addError, Member.constructor?, Member.method?, Member.event?,
      Member.error?, lastOfEach_concat]

/-- An interface that is built up from nothing holds what was added last. -/
theorem foldl_addTo (members : List Member) :
    members.foldl Member.addTo empty = lastAdded members := by
  induction members using List.reverseRecOn with
  | nil => rfl
  | append_singleton members d ih =>
    rw [List.foldl_append, ih, List.foldl_cons, List.foldl_nil, addTo_lastAdded]

/-- What is added to one collection leaves the others as they are. -/
structure Apart (i : Interface) (d : Member) : Prop where
  /-- Only a constructor changes the constructor. -/
  constructor? : d.constructor? = none → (d.addTo i).constructor? = i.constructor?
  /-- Only a function changes the functions. -/
  methods : d.method? = none → (d.addTo i).methods = i.methods
  /-- Only an event changes the events. -/
  events : d.event? = none → (d.addTo i).events = i.events
  /-- Only an error changes the errors. -/
  errors : d.error? = none → (d.addTo i).errors = i.errors

/-- Every addition leaves the other collections as they are. -/
theorem apart (i : Interface) (d : Member) : i.Apart d := by
  cases d with
  | constructor c => exact ⟨nofun, fun _ => rfl, fun _ => rfl, fun _ => rfl⟩
  | method m => exact ⟨fun _ => rfl, nofun, fun _ => rfl, fun _ => rfl⟩
  | event e => exact ⟨fun _ => rfl, fun _ => rfl, nofun, fun _ => rfl⟩
  | error e => exact ⟨fun _ => rfl, fun _ => rfl, fun _ => rfl, nofun⟩

/-- What an item of a source adds to every interface: a declared member, or nothing. -/
structure Adds (add : Interface → Except DescriptorFault Interface) (added : Option Member) :
    Prop where
  /-- The member is declared. -/
  declared : ∀ d ∈ added, d.Declared
  /-- Whatever the interface is, the member is added to it. -/
  eq_ok : ∀ i, add i = .ok (added.toList.foldl Member.addTo i)

/-- An item that adds a declared member. -/
theorem Adds.some {add : Interface → Except DescriptorFault Interface} {d : Member}
    (hd : d.Declared) (h : ∀ i, add i = .ok (d.addTo i)) : Adds add (some d) :=
  ⟨fun _ he => Option.some.inj he ▸ hd, h⟩

/-- An item that is passed over. -/
theorem Adds.none {add : Interface → Except DescriptorFault Interface} (h : ∀ i, add i = .ok i) :
    Adds add none := ⟨nofun, h⟩

/-- An item of a document adds a declared member or is passed over. -/
theorem adds_of_addMember {i j : Interface} {item : Json} (h : addMember i item = .ok j) :
    ∃ added, Adds (addMember · item) added := by
  rw [addMember] at h
  split at h
  · rename_i hkind
    simp only [bind_eq_ok, pure_eq_ok] at h
    obtain ⟨inputs, hinputs, mutability, hmutability, c, hc, -⟩ := h
    refine ⟨_, .some (d := .constructor c) (Constructor.declared_of_declare hc) fun k => ?_⟩
    rw [addMember, if_pos hkind]
    simp only [bind_eq_ok, pure_eq_ok]
    exact ⟨inputs, hinputs, mutability, hmutability, c, hc, rfl⟩
  rename_i hconstructor
  split at h
  · rename_i hkind
    simp only [bind_eq_ok, pure_eq_ok] at h
    obtain ⟨name, hname, inputs, hinputs, outputs, houtputs, mutability, hmutability, m, hm, -⟩ := h
    refine ⟨_, .some (d := .method m) (Method.declared_of_declare hm) fun k => ?_⟩
    rw [addMember, if_neg hconstructor, if_pos hkind]
    simp only [bind_eq_ok, pure_eq_ok]
    exact ⟨name, hname, inputs, hinputs, outputs, houtputs, mutability, hmutability, m, hm, rfl⟩
  rename_i hmethod
  split at h
  · rename_i hkind
    simp only [bind_eq_ok, pure_eq_ok] at h
    obtain ⟨name, hname, params, hparams, e, he, -⟩ := h
    refine ⟨_, .some (d := .event e) (Event.declared_of_declare he) fun k => ?_⟩
    rw [addMember, if_neg hconstructor, if_neg hmethod, if_pos hkind]
    simp only [bind_eq_ok, pure_eq_ok]
    exact ⟨name, hname, params, hparams, e, he, rfl⟩
  rename_i hevent
  split at h
  · rename_i hkind
    simp only [bind_eq_ok, pure_eq_ok] at h
    obtain ⟨name, hname, inputs, hinputs, e, he, -⟩ := h
    refine ⟨_, .some (d := .error e) (CustomError.declared_of_declare he) fun k => ?_⟩
    rw [addMember, if_neg hconstructor, if_neg hmethod, if_neg hevent, if_pos hkind]
    simp only [bind_eq_ok, pure_eq_ok]
    exact ⟨name, hname, inputs, hinputs, e, he, rfl⟩
  · rename_i herror
    refine ⟨_, .none fun k => ?_⟩
    rw [addMember, if_neg hconstructor, if_neg hmethod, if_neg hevent, if_neg herror]
    rfl

/-- An item that is read before a member is added, in the same way for every interface. -/
theorem Adds.of_read {α : Type} (member : α → Member) {read : Except DescriptorFault α}
    {add : Interface → Except DescriptorFault Interface} {i j : Interface}
    (hadd : ∀ k, add k = do return (member (← read)).addTo k)
    (hdeclared : ∀ a, read = .ok a → (member a).Declared)
    (h : (do return (member (← read)).addTo i) = .ok j) : ∃ added, Adds add added := by
  obtain ⟨a, ha, -⟩ := bind_eq_ok.mp h
  refine ⟨_, .some (hdeclared a ha) fun k => ?_⟩
  rw [hadd, ha]
  rfl

/-- A text adds a declared member or is blank. -/
theorem adds_of_addText {i j : Interface} {text : String} (h : addText i text = .ok j) :
    ∃ added, Adds (addText · text) added := by
  rw [addText] at h
  split at h
  · rename_i hblank
    refine ⟨_, .none fun k => ?_⟩
    rw [addText, if_pos hblank]
    rfl
  rename_i hblank
  split at h
  · rename_i hkeyword
    refine Adds.of_read .event (fun k => ?_) (fun _ => Event.declared_of_ofText) h
    rw [addText, if_neg hblank, if_pos hkeyword]
    rfl
  rename_i hevent
  split at h
  · rename_i hkeyword
    refine Adds.of_read .error (fun k => ?_) (fun _ => CustomError.declared_of_ofText) h
    rw [addText, if_neg hblank, if_neg hevent, if_pos hkeyword]
    rfl
  rename_i herror
  split at h
  · rename_i hkeyword
    refine Adds.of_read .constructor (fun k => ?_) (fun _ => Constructor.declared_of_ofText) h
    rw [addText, if_neg hblank, if_neg hevent, if_neg herror, if_pos hkeyword]
    rfl
  · rename_i hconstructor
    refine Adds.of_read .method (fun k => ?_) (fun _ => Method.declared_of_ofText) h
    rw [addText, if_neg hblank, if_neg hevent, if_neg herror, if_neg hconstructor]
    rfl

/-- Whether an interface has the members that the items of a source add one after the other. -/
def LoadedFrom {α : Type} (add : Interface → α → Except DescriptorFault Interface)
    (items : List α) (i : Interface) : Prop :=
  ∃ loaded : List (α × Option Member), items = loaded.map Prod.fst ∧
    (∀ l ∈ loaded, Adds (add · l.1) l.2) ∧
    i = (loaded.filterMap Prod.snd).foldl Member.addTo empty

/-- Items that are added one after the other each add a declared member or nothing. -/
theorem loadedFrom_of_foldlM {α : Type} (add : Interface → α → Except DescriptorFault Interface)
    (hadd : ∀ i j a, add i a = .ok j → ∃ added, Adds (add · a) added) {items : List α}
    {i : Interface} (h : items.foldlM add empty = .ok i) : LoadedFrom add items i := by
  have hloaded {start : Interface} (h : items.foldlM add start = .ok i) :
      ∃ loaded : List (α × Option Member), items = loaded.map Prod.fst ∧
        (∀ l ∈ loaded, Adds (add · l.1) l.2) ∧
        i = (loaded.filterMap Prod.snd).foldl Member.addTo start := by
    clear * - hadd h
    induction items generalizing start with
    | nil => exact ⟨[], rfl, fun _ hl => absurd hl List.not_mem_nil, (pure_eq_ok.mp h).symm⟩
    | cons a rest ih =>
      rw [List.foldlM_cons] at h
      obtain ⟨next, hnext, hrest⟩ := bind_eq_ok.mp h
      obtain ⟨added, hadded⟩ := hadd _ _ _ hnext
      obtain ⟨loaded, hitems, hadds, hfold⟩ := ih hrest
      rw [hadded.eq_ok start, Except.ok.injEq] at hnext
      refine ⟨(a, added) :: loaded, by rw [hitems, List.map_cons],
        List.forall_mem_cons.mpr ⟨hadded, hadds⟩, ?_⟩
      rw [hfold, ← hnext]
      cases added <;> rfl
  exact hloaded h

/-- The interface of a document has the members that its items add. -/
theorem loadedFrom_of_ofJson {document : Json} {i : Interface} (h : ofJson document = .ok i) :
    ∃ items, document.items?.or ((document.field? "abi").bind Json.items?) = some items ∧
      LoadedFrom addMember items i := by
  rw [ofJson] at h
  split at h
  · rename_i items hitems
    exact ⟨items, hitems, loadedFrom_of_foldlM addMember (fun _ _ _ => adds_of_addMember) h⟩
  · cases h

/-- The interface of declarations has the members that they add. -/
theorem loadedFrom_of_ofTexts {texts : List String} {i : Interface} (h : ofTexts texts = .ok i) :
    LoadedFrom addText texts i :=
  loadedFrom_of_foldlM addText (fun _ _ _ => adds_of_addText) h

/-- A member that was added is still there, or one of its kind and signature in its place. -/
theorem exists_has_of_mem {members : List Member} {d : Member} (hd : d ∈ members) :
    ∃ e ∈ members, (members.foldl Member.addTo empty).Has e ∧ e.kind = d.kind ∧
      e.signature? = d.signature? := by
  induction members using List.reverseRecOn with
  | nil => cases hd
  | append_singleton members last ih =>
    rw [List.foldl_append, List.foldl_cons, List.foldl_nil]
    have hlast : last ∈ members ++ [last] := List.mem_append_right _ List.mem_cons_self
    obtain hd | hd := List.mem_append.mp hd
    · obtain ⟨e, hmem, hhas, hkind, hsignature⟩ := ih hd
      by_cases hreplaced : e.kind = last.kind ∧ e.signature? = last.signature?
      · exact ⟨last, hlast, (has_addTo _ _ _).mpr (Or.inl rfl), hreplaced.1.symm.trans hkind,
          hreplaced.2.symm.trans hsignature⟩
      · exact ⟨e, List.mem_append_left _ hmem, (has_addTo _ _ _).mpr (Or.inr ⟨hhas, hreplaced⟩),
          hkind, hsignature⟩
    · obtain rfl := List.mem_singleton.mp hd
      exact ⟨d, hlast, (has_addTo _ _ _).mpr (Or.inl rfl), rfl, rfl⟩

/-- The store of an interface. Whatever is added in whatever order, the constructor is the last one,
and functions, events and errors are the last ones under their keys, in the order in which these were
added, so that no two share a key. No name is lost together with the types that it takes, each
addition leaves the other collections as they are, and loading adds one declared member, or nothing,
for each item of the source. -/
theorem holds_last_added :
    (∀ members : List Member,
      let i := members.foldl Member.addTo empty
      i.constructor? = (members.filterMap Member.constructor?).getLast? ∧
        i.methods = lastOfEach Method.signature (members.filterMap Member.method?) ∧
        i.events = lastOfEach Event.key (members.filterMap Member.event?) ∧
        i.errors = lastOfEach CustomError.signature (members.filterMap Member.error?) ∧
        i.Distinct) ∧
      (∀ members : List Member, (∀ d ∈ members, d.Declared) → ∀ d ∈ members,
        ∃ e, (members.foldl Member.addTo empty).Has e ∧ e.kind = d.kind ∧ e.title? = d.title?) ∧
      (∀ (i : Interface) (d : Member), i.Apart d) ∧
      (∀ (document : Json) (i : Interface), ofJson document = .ok i →
        ∃ items, document.items?.or ((document.field? "abi").bind Json.items?) = some items ∧
          LoadedFrom addMember items i) ∧
      (∀ (texts : List String) (i : Interface), ofTexts texts = .ok i →
        LoadedFrom addText texts i) := by
  refine ⟨?last, ?kept, apart, fun _ _ => loadedFrom_of_ofJson, fun _ _ => loadedFrom_of_ofTexts⟩
  case last =>
    intro members i
    have hlast : i = lastAdded members := foldl_addTo members
    refine ⟨?_, ?_, ?_, ?_, distinct_foldl members⟩
    · rw [hlast, lastAdded]
    · rw [hlast, lastAdded]
    · rw [hlast, lastAdded]
    · rw [hlast, lastAdded]
  case kept =>
    intro members hdeclared d hd
    obtain ⟨e, he, hhas, hkind, hsignature⟩ := exists_has_of_mem hd
    have htitle := (Member.signature?_inj (hdeclared e he) (hdeclared d hd)).mp hsignature
    exact ⟨e, hhas, hkind, htitle⟩

/-- Additions to all collections in turn: of two overloads the first one is replaced and moves to the
end, and so is a named event, while an anonymous one of the same signature stays. -/
theorem holds_last_added_interleaved :
    let members : List Member := [.method ⟨"f", [⟨"", .uint 256⟩], [], .write⟩,
      .event ⟨"E", [⟨"n", .uint 8, false⟩], false⟩, .constructor ⟨[], false⟩,
      .method ⟨"f", [⟨"", .bool⟩], [], .write⟩, .event ⟨"E", [⟨"n", .uint 8, false⟩], true⟩,
      .error ⟨"f", [⟨"", .uint 256⟩]⟩, .method ⟨"f", [⟨"x", .uint 256⟩], [⟨"", .string⟩], .read⟩,
      .constructor ⟨[⟨"", .bool⟩], true⟩, .event ⟨"E", [⟨"n", .uint 8, true⟩], false⟩]
    let i := members.foldl Member.addTo empty
    let document : Json := .array [.object [("type", .string "error"), ("name", .string "Stop")]]
    let texts := ["  ", "error Stop()"]
    (i.constructor? = some ⟨[⟨"", .bool⟩], true⟩ ∧
        i.methods = [⟨"f", [⟨"", .bool⟩], [], .write⟩,
          ⟨"f", [⟨"x", .uint 256⟩], [⟨"", .string⟩], .read⟩] ∧
        i.events = [⟨"E", [⟨"n", .uint 8, false⟩], true⟩, ⟨"E", [⟨"n", .uint 8, true⟩], false⟩] ∧
        i.errors = [⟨"f", [⟨"", .uint 256⟩]⟩]) ∧
      ((∀ d ∈ members, d.Declared) ∧
        ∃ d, i.Has d ∧ d.kind = .method ∧ d.title? = some ("f", [.uint 256])) ∧
      (ofJson document = .ok ⟨none, [], [], [⟨"Stop", []⟩]⟩ ∧
        ∃ items, document.items?.or ((document.field? "abi").bind Json.items?) = some items ∧
          LoadedFrom addMember items ⟨none, [], [], [⟨"Stop", []⟩]⟩) ∧
      (ofTexts texts = .ok ⟨none, [], [], [⟨"Stop", []⟩]⟩ ∧
        LoadedFrom addText texts ⟨none, [], [], [⟨"Stop", []⟩]⟩) := by
  intro members i document texts
  obtain ⟨hlast, hkept, -, hdocument, htexts⟩ := holds_last_added
  obtain ⟨hconstructor, hmethods, hevents, herrors, -⟩ := hlast members
  have hdeclared : ∀ d ∈ members, d.Declared := by
    simp only [members, List.forall_mem_cons]
    exact ⟨rfl, rfl, rfl, rfl, rfl, rfl, rfl, rfl, rfl, nofun⟩
  have hread : ofJson document = .ok ⟨none, [], [], [⟨"Stop", []⟩]⟩ := rfl
  have hreadTexts : ofTexts texts = .ok ⟨none, [], [], [⟨"Stop", []⟩]⟩ := by decide +kernel
  exact ⟨⟨hconstructor, hmethods.trans rfl, hevents.trans rfl, herrors⟩,
    ⟨hdeclared, hkept members hdeclared (.method _) List.mem_cons_self⟩,
    ⟨hread, hdocument document _ hread⟩, hreadTexts, htexts _ _ hreadTexts⟩

end ContractToolkit.Interface
