import ContractToolkit.Proofs.Abi.Acceptance
import ContractToolkit.Proofs.Abi.Faults
import ContractToolkit.Proofs.Interface.Topics

/-!
# Queries for logs

A query asks for the topic of the signature and for one topic for each argument
that is wanted, each in its own slot. A log of the event matches the query
exactly when its arguments are the wanted ones: texts and byte strings by their
digests, all others by their values.
-/

namespace ContractToolkit

/-- Topics match a query: where a slot is set, the topic of that place is there and is the one that
is asked for. -/
def LogFilter.Matches (f : LogFilter) (topics : List Hash) : Prop :=
  ∀ (place : Nat) (topic : Hash), f.topics[place]? = some (some topic) → topics[place]? = some topic

namespace Interface

open Abi Outcome

/-- How an indexed argument is logged: as its value, or a text or a byte string as the digest of its
octets. -/
inductive LoggedAs : Value → EventArg → Prop
  | value (v : Value) : LoggedAs v (.value v)
  | string (s : String) : LoggedAs (.string s) (.hashed (keccak256 (Text.utf8 s)))
  | bytes (octets : Bytes) : LoggedAs (.bytes octets) (.hashed (keccak256 octets))

/-- A logged event has the wanted values as its indexed arguments, wherever one is wanted. -/
def DecodedEvent.Holds (ev : DecodedEvent) (wanted : List (Option Value)) : Prop :=
  ∀ (place : Nat) (v : Value), wanted[place]? = some (some v) →
    ∃ p, (ev.params.filter DecodedParam.indexed)[place]? = some p ∧ LoggedAs v p.arg

namespace Event

/-- The topic of a text or of a byte string is its digest; no other hashed type has a topic. -/
theorem topicFor_hashed {t : Ty} {v : Value} {topic : Hash} (hashed : t.isHashed = true)
    (h : topicFor t v = .ok topic) :
    (∃ s, v = .string s ∧ topic = keccak256 (Text.utf8 s)) ∨
      ∃ octets, v = .bytes octets ∧ topic = keccak256 octets := by
  rw [topicFor.eq_def] at h
  split at h
  · cases h
  · split at h
    · cases h
      exact Or.inl ⟨_, rfl, rfl⟩
    · cases h
      exact Or.inr ⟨_, rfl, rfl⟩
    · cases h

/-- A topic is the one of a value exactly when the argument that it is decoded as is that value as
it is logged. -/
theorem eq_topicFor_iff {t : Ty} {v : Value} {wanted topic : Hash} {arg : EventArg}
    (hdeclared : t.fault? = none) (hwanted : topicFor t v = .ok wanted)
    (harg : argOfTopic t topic = .ok arg) : topic = wanted ↔ LoggedAs v arg := by
  cases hashed : t.isHashed with
  | true =>
    rw [argOfTopic, hashed, if_pos rfl, Except.ok.injEq] at harg
    subst harg
    obtain ⟨s, rfl, rfl⟩ | ⟨octets, rfl, rfl⟩ := topicFor_hashed hashed hwanted
    · constructor
      · rintro rfl
        exact .string s
      · intro h
        cases h
        rfl
    · constructor
      · rintro rfl
        exact .bytes octets
      · intro h
        cases h
        rfl
  | false =>
    obtain ⟨u, hu, rfl⟩ := (argOfTopic_elementary hashed).mp harg
    obtain ⟨htyped, hoctets⟩ := (topicFor_elementary hashed hdeclared).mp hwanted
    constructor
    · rintro rfl
      have hv := (decodeSingle_elementary hashed hdeclared).mpr ⟨htyped, hoctets⟩
      rw [hu, Except.ok.injEq] at hv
      subst hv
      exact .value u
    · intro h
      cases h
      -- The topic that is decoded as the value is written by the encoder for it.
      have htopic := (topicFor_elementary hashed hdeclared).mpr
        ((decodeSingle_elementary hashed hdeclared).mp hu)
      rw [hwanted, Except.ok.injEq] at htopic
      exact htopic.symm

/-- A value has a topic as a parameter or is reported. -/
theorem topicFor_failsWith {t : Ty} (hdeclared : t.fault? = none) (v : Value) :
    FailsWith Error.IsEncode (topicFor t v) := by
  rw [topicFor.eq_def]
  split
  · exact .error ⟨_, rfl⟩
  · rename_i hty
    split
    · exact .ok _
    · exact .ok _
    · split
      · exact .error ⟨_, rfl⟩
      · rename_i hhashed
        have elementary : t.isHashed = false := Bool.eq_false_iff.mpr hhashed
        have hstatic : v.isDynamic = false := by
          rw [← v.isDynamic_ty, Decidable.not_not.mp hty]
          exact (Ty.headSize_elementary elementary).1
        refine (encode_failsWith [v]).bind fun octets hoctets => ?_
        obtain ⟨typed, -, rfl⟩ := (encodeSingle_eq_ok hstatic).mp hoctets
        rw [Decidable.not_not.mp hty] at typed
        have hlength := typed.length_octets elementary hdeclared
        rw [sliceTrapping_of_le (by omega)]
        exact .ok _

/-- The slot for the wanted value of a parameter. -/
def wantedSlot (p : EventParam) : Option Value → Outcome (Option Hash)
  | none => .ok none
  | some v => (topicFor p.ty v).map some

/-- The slots for the wanted values of parameters, in order. -/
def wantedSlots : List EventParam → List (Option Value) → Outcome (List (Option Hash))
  | p :: params, wanted :: rest => do
    let slot ← wantedSlot p wanted
    let slots ← wantedSlots params rest
    return slot :: slots
  | _, _ => .ok []

/-- The slot behind those that are taken is set. -/
theorem setSlot_append (taken free : List (Option Hash)) (topic : Hash) :
    setSlot (taken ++ none :: free) taken.length topic = .ok (taken ++ some topic :: free) := by
  have hinside : taken.length < (taken ++ none :: free).length := by
    rw [List.length_append, List.length_cons]
    omega
  rw [setSlot, if_pos hinside, List.set_append_right _ _ (Nat.le_refl _), Nat.sub_self,
    List.set_cons_zero]

/-- Setting the slots of arguments behind slots that are taken gives the slots of the wanted
values, if there is room for them. -/
theorem setArgs_eq (params : List EventParam) (wanted : List (Option Value))
    (taken : List (Option Hash)) (room : Nat) (h : params.length ≤ room) :
    setArgs (taken ++ List.replicate room none) taken.length params wanted =
      (wantedSlots params wanted).map fun slots =>
        taken ++ slots ++ List.replicate (room - slots.length) none := by
  induction params generalizing wanted taken room with
  | nil => simp [setArgs, wantedSlots, Except.map]
  | cons p params ih =>
    cases wanted with
    | nil => simp [setArgs, wantedSlots, Except.map]
    | cons wanted rest =>
      obtain ⟨room, rfl⟩ : ∃ less, room = less + 1 :=
        ⟨room - 1, by rw [List.length_cons] at h; omega⟩
      have hroom : params.length ≤ room := Nat.succ_le_succ_iff.mp h
      have hstep (slot : Option Hash) :
          setArgs (taken ++ slot :: List.replicate room none) (taken.length + 1) params rest =
            (wantedSlots params rest).map fun slots =>
              taken ++ slot :: slots ++ List.replicate (room - slots.length) none := by
        have hrest := ih rest (taken ++ [slot]) room hroom
        simpa using hrest
      have hset : setArgs (taken ++ List.replicate (room + 1) none) taken.length (p :: params)
          (wanted :: rest) = (do
            let slot ← wantedSlot p wanted
            setArgs (taken ++ slot :: List.replicate room none) (taken.length + 1) params rest) := by
        rw [List.replicate_succ]
        cases wanted with
        | none => rfl
        | some v =>
          rw [setArgs, wantedSlot]
          dsimp only
          cases topicFor p.ty v with
          | error e => rfl
          | ok topic =>
            dsimp only [bind, Except.bind, Except.map]
            rw [setSlot_append]
      rw [hset, wantedSlots]
      cases wantedSlot p wanted with
      | error e => rfl
      | ok slot =>
        dsimp only [bind, Except.bind]
        rw [hstep]
        cases wantedSlots params rest with
        | error e => rfl
        | ok slots => simp [Except.map, pure, Except.pure]

/-- Values are looked for in vain only as they are reported. -/
theorem wantedSlots_failsWith {params : List EventParam}
    (hdeclared : ∀ p ∈ params, p.ty.fault? = none) (wanted : List (Option Value)) :
    FailsWith Error.IsEncode (wantedSlots params wanted) := by
  induction params generalizing wanted with
  | nil => exact .ok _
  | cons p params ih =>
    cases wanted with
    | nil => exact .ok _
    | cons wanted rest =>
      have hrest := ih (fun q hq => hdeclared q (List.mem_cons_of_mem _ hq)) rest
      have hslot : FailsWith Error.IsEncode (wantedSlot p wanted) := by
        cases wanted with
        | none => exact .ok _
        | some v => exact (topicFor_failsWith (hdeclared p List.mem_cons_self) v).map some
      rw [wantedSlots]
      exact hslot.bind fun slot _ => hrest.bind fun slots _ => .ok _

/-- There is one slot for each wanted value, and it is that of the value for its parameter. -/
theorem wantedSlots_getElem? {params : List EventParam} {wanted : List (Option Value)}
    {slots : List (Option Hash)} (hcount : wanted.length ≤ params.length)
    (h : wantedSlots params wanted = .ok slots) :
    slots.length = wanted.length ∧ ∀ (place : Nat) (w : Option Value), wanted[place]? = some w →
      ∃ p slot, params[place]? = some p ∧ wantedSlot p w = .ok slot ∧
        slots[place]? = some slot := by
  induction params generalizing wanted slots with
  | nil =>
    obtain rfl : wanted = [] := List.length_eq_zero_iff.mp (Nat.le_zero.mp hcount)
    cases h
    refine ⟨rfl, fun place w hw => ?_⟩
    cases hw
  | cons p params ih =>
    cases wanted with
    | nil =>
      cases h
      refine ⟨rfl, fun place w hw => ?_⟩
      cases hw
    | cons first rest =>
      simp only [wantedSlots, bind_eq_ok, pure_eq_ok] at h
      obtain ⟨slot, hslot, others, hothers, rfl⟩ := h
      obtain ⟨hlength, hplaces⟩ := ih (Nat.succ_le_succ_iff.mp hcount) hothers
      refine ⟨by rw [List.length_cons, List.length_cons, hlength], fun place w hw => ?_⟩
      cases place with
      | zero =>
        obtain rfl : first = w := by simpa using hw
        exact ⟨p, slot, rfl, hslot, rfl⟩
      | succ place =>
        rw [List.getElem?_cons_succ] at hw
        simpa only [List.getElem?_cons_succ] using hplaces place w hw

/-- The indexed arguments of a decoded log come from its topics one by one. -/
theorem mergeArgs_getElem? {params : List EventParam} {topics : List Hash} {values : List Value}
    {decoded : List DecodedParam} (h : mergeArgs params topics values = .ok decoded) (place : Nat)
    (p : EventParam) (hp : (params.filter EventParam.indexed)[place]? = some p) :
    ∃ topic arg, topics[place]? = some topic ∧ argOfTopic p.ty topic = .ok arg ∧
      (decoded.filter DecodedParam.indexed)[place]? = some ⟨p.name, true, arg⟩ := by
  induction params generalizing topics values decoded place with
  | nil => cases hp
  | cons q rest ih =>
    cases hindexed : q.indexed with
    | false =>
      rw [List.filter_cons_of_neg (by simp [hindexed])] at hp
      cases values with
      | nil => simp [mergeArgs, hindexed] at h
      | cons v values =>
        rw [mergeArgs_plain hindexed] at h
        simp only [bind_eq_ok, pure_eq_ok] at h
        obtain ⟨others, hothers, rfl⟩ := h
        rw [List.filter_cons_of_neg (by simp)]
        exact ih hothers place hp
    | true =>
      rw [List.filter_cons_of_pos hindexed] at hp
      cases topics with
      | nil => simp [mergeArgs, hindexed] at h
      | cons topic topics =>
        rw [mergeArgs_indexed hindexed] at h
        simp only [bind_eq_ok, pure_eq_ok] at h
        obtain ⟨arg, harg, others, hothers, rfl⟩ := h
        rw [List.filter_cons_of_pos (by rfl)]
        cases place with
        | zero =>
          obtain rfl : q = p := by simpa using hp
          exact ⟨topic, arg, rfl, harg, rfl⟩
        | succ place =>
          rw [List.getElem?_cons_succ] at hp
          simpa only [List.getElem?_cons_succ] using ih hothers place hp

/-- The slots of wanted values match the topics of a decoded log exactly when its indexed arguments
are the wanted values. -/
theorem wantedSlots_match_iff {params : List EventParam} {wanted : List (Option Value)}
    {slots : List (Option Hash)} {topics : List Hash} {values : List Value}
    {decoded : List DecodedParam} (hdeclared : ∀ p ∈ params, p.ty.fault? = none)
    (hcount : wanted.length ≤ (params.filter EventParam.indexed).length)
    (hslots : wantedSlots (params.filter EventParam.indexed) wanted = .ok slots)
    (hdecoded : mergeArgs params topics values = .ok decoded) :
    (∀ (place : Nat) (topic : Hash), slots[place]? = some (some topic) →
        topics[place]? = some topic) ↔
      ∀ (place : Nat) (v : Value), wanted[place]? = some (some v) →
        ∃ p, (decoded.filter DecodedParam.indexed)[place]? = some p ∧ LoggedAs v p.arg := by
  obtain ⟨hlength, hplaces⟩ := wantedSlots_getElem? hcount hslots
  have hfault {place : Nat} {p : EventParam}
      (hp : (params.filter EventParam.indexed)[place]? = some p) : p.ty.fault? = none :=
    hdeclared p (List.mem_filter.mp (List.mem_of_getElem? hp)).1
  constructor
  · intro hmatch place v hv
    obtain ⟨p, slot, hp, hslot, hplace⟩ := hplaces place (some v) hv
    obtain ⟨topic, arg, htopic, harg, hdecodedAt⟩ := mergeArgs_getElem? hdecoded place p hp
    rw [wantedSlot] at hslot
    cases hfor : topicFor p.ty v with
    | error fault =>
      rw [hfor] at hslot
      cases hslot
    | ok wantedTopic =>
      rw [hfor] at hslot
      cases hslot
      have hsame : topic = wantedTopic := by
        have hmatched := hmatch place wantedTopic hplace
        rwa [htopic, Option.some.injEq] at hmatched
      exact ⟨_, hdecodedAt, (eq_topicFor_iff (hfault hp) hfor harg).mp hsame⟩
  · intro hholds place wantedTopic hslot
    have hinside : place < wanted.length := by
      rw [← hlength]
      exact (List.getElem?_eq_some_iff.mp hslot).1
    obtain ⟨p, slot, hp, hslotOf, hplace⟩ :=
      hplaces place wanted[place] (List.getElem?_eq_getElem hinside)
    rw [hslot, Option.some.injEq] at hplace
    subst hplace
    cases hw : wanted[place] with
    | none =>
      rw [hw] at hslotOf
      cases hslotOf
    | some v =>
      rw [hw, wantedSlot] at hslotOf
      have hv : wanted[place]? = some (some v) := by
        rw [List.getElem?_eq_getElem hinside, hw]
      obtain ⟨q, hq, hlogged⟩ := hholds place v hv
      obtain ⟨topic, arg, htopic, harg, hdecodedAt⟩ := mergeArgs_getElem? hdecoded place p hp
      rw [hdecodedAt, Option.some.injEq] at hq
      subst hq
      cases hfor : topicFor p.ty v with
      | error fault =>
        rw [hfor] at hslotOf
        cases hslotOf
      | ok found =>
        rw [hfor] at hslotOf
        cases hslotOf
        rw [htopic, (eq_topicFor_iff (hfault hp) hfor harg).mpr hlogged]

/-- Slots that ask for the same topics in front match when those behind do, and empty slots at the
end match anything. -/
theorem slots_match_append (front topics : List Hash) (slots : List (Option Hash)) (room : Nat) :
    (∀ (place : Nat) (topic : Hash),
        (front.map some ++ slots ++ List.replicate room none)[place]? = some (some topic) →
          (front ++ topics)[place]? = some topic) ↔
      ∀ (place : Nat) (topic : Hash), slots[place]? = some (some topic) →
        topics[place]? = some topic := by
  constructor
  · intro hmatch place topic hslot
    have hinside := (List.getElem?_eq_some_iff.mp hslot).1
    have hplace := hmatch (front.length + place) topic (by
      rw [List.append_assoc, List.getElem?_append_right (by rw [List.length_map]; omega),
        List.length_map, Nat.add_sub_cancel_left, List.getElem?_append_left hinside, hslot])
    rwa [List.getElem?_append_right (by omega), Nat.add_sub_cancel_left] at hplace
  · intro hmatch place topic hslot
    by_cases hfront : place < front.length
    · rw [List.append_assoc, List.getElem?_append_left (by rwa [List.length_map]),
        List.getElem?_map] at hslot
      rw [List.getElem?_append_left hfront]
      simpa using hslot
    · rw [List.append_assoc, List.getElem?_append_right (by rw [List.length_map]; omega),
        List.length_map] at hslot
      rw [List.getElem?_append_right (by omega)]
      by_cases hinside : place - front.length < slots.length
      · rw [List.getElem?_append_left hinside] at hslot
        exact hmatch _ _ hslot
      · rw [List.getElem?_append_right (by omega), List.getElem?_replicate] at hslot
        split at hslot
        · cases hslot
        · cases hslot

/-- A query asks for the topics in front and for the slots of the wanted values, and leaves all
slots behind them empty. -/
theorem filter_eq {e : Event} (he : e.Declared) (address : Address)
    (wanted : List (Option Value)) :
    e.filter address wanted =
      if e.indexedCount < wanted.length then
        .error (.encode (.filterCount e.signature e.indexedCount wanted.length))
      else (wantedSlots e.indexed wanted).map fun slots =>
        { address
          topics := e.front.map some ++ slots ++
            List.replicate (topicSlots - e.signatureTopics - slots.length) none } := by
  have hroom := he.indexedCount_le
  have hargs := setArgs_eq e.indexed wanted (e.front.map some) (topicSlots - e.signatureTopics)
    (by rw [indexedCount] at hroom; omega)
  rw [List.length_map, length_front] at hargs
  have hbuilt : (do
      let slots ← setArgs (e.front.map some ++
        List.replicate (topicSlots - e.signatureTopics) none) e.signatureTopics e.indexed wanted
      return ({ address, topics := slots } : LogFilter)) =
        (wantedSlots e.indexed wanted).map fun slots =>
          { address
            topics := e.front.map some ++ slots ++
              List.replicate (topicSlots - e.signatureTopics - slots.length) none } := by
    rw [hargs]
    cases wantedSlots e.indexed wanted with
    | error fault => rfl
    | ok slots => rfl
  rw [filter]
  split
  · rfl
  · rw [← hbuilt]
    cases hanonymous : e.anonymous with
    | true =>
      have htaken : (List.replicate topicSlots none : List (Option Hash)) =
          e.front.map some ++ List.replicate (topicSlots - e.signatureTopics) none := by
        rw [front, signatureTopics, hanonymous]
        rfl
      rw [← htaken]
      rfl
    | false =>
      have htaken : setSlot (List.replicate topicSlots none) 0 e.topic =
          .ok (e.front.map some ++ List.replicate (topicSlots - e.signatureTopics) none) := by
        rw [front, signatureTopics, hanonymous]
        rfl
      dsimp only
      rw [htaken]
      rfl

/-- A query for wanted values is built or the values are reported, no slot but the four being set;
and it matches exactly those logs of the event that hold the wanted values. -/
theorem filter_selects {e : Event} (he : e.Declared) (address : Address)
    (wanted : List (Option Value)) :
    FailsWith Error.IsEncode (e.filter address wanted) ∧
      ∀ f, e.filter address wanted = .ok f →
        f.address = address ∧ f.topics.length = topicSlots ∧
          ∀ (topics : List Hash) (data : Bytes) (ev : DecodedEvent),
            e.decodeLog topics data = .ok ev → (f.Matches topics ↔ ev.Holds wanted) := by
  have hdeclared : ∀ p ∈ e.indexed, p.ty.fault? = none :=
    fun p hp => he.fault?_eq_none (List.mem_filter.mp hp).1
  rw [filter_eq he]
  split
  · exact ⟨.error ⟨_, rfl⟩, fun f hf => by cases hf⟩
  · rename_i hcount
    refine ⟨(wantedSlots_failsWith hdeclared wanted).map _, fun f hf => ?_⟩
    cases hslots : wantedSlots e.indexed wanted with
    | error fault =>
      rw [hslots] at hf
      cases hf
    | ok slots =>
      rw [hslots] at hf
      cases hf
      rw [Nat.not_lt, indexedCount] at hcount
      have hroom := he.indexedCount_le
      have hlength := (wantedSlots_getElem? hcount hslots).1
      rw [indexedCount] at hroom
      refine ⟨rfl, ?_, fun topics data ev hev => ?_⟩
      · simp only [List.length_append, List.length_map, List.length_replicate, length_front]
        omega
      · obtain ⟨args, values, params, rfl, -, -, hparams, rfl⟩ := decodeLog_eq_ok.mp hev
        rw [LogFilter.Matches, slots_match_append]
        exact wantedSlots_match_iff (fun p hp => he.fault?_eq_none hp) hcount hslots hparams

/-- An anonymous event has its first argument in the first slot; the text is not asked for. -/
theorem filter_selects_anonymous :
    let e : Event :=
      ⟨"Noted", [⟨"kind", .uint 8, true⟩, ⟨"seen", .bool, false⟩, ⟨"text", .string, true⟩], true⟩
    let wanted : List (Option Value) := [some (.uint 5 8), none]
    let f : LogFilter := { address := 9, topics := [some 5, none, none, none] }
    let ev : DecodedEvent :=
      { name := "Noted", signature := e.signature
        params := [⟨"kind", true, .value (.uint 5 8)⟩, ⟨"seen", false, .value (.bool true)⟩,
          ⟨"text", true, .hashed 7⟩] }
    e.Declared ∧ e.filter 9 wanted = .ok f ∧ e.decodeLog [5, 7] (sizeWord 1) = .ok ev ∧
      (f.Matches [5, 7] ↔ ev.Holds wanted) := by
  intro e wanted f ev
  have hdeclared : e.Declared := declared_iff.mpr ⟨by decide, rfl, by decide⟩
  have hfilter : e.filter 9 wanted = .ok f := rfl
  have hlog : e.decodeLog [5, 7] (sizeWord 1) = .ok ev := rfl
  have hselects := (filter_selects hdeclared 9 wanted).2 f hfilter
  exact ⟨hdeclared, hfilter, hlog, hselects.2.2 _ _ _ hlog⟩

end Event

end Interface

end ContractToolkit
