import ContractToolkit.Proofs.Interface.Additions
import ContractToolkit.Proofs.Interface.LogAcceptance
import ContractToolkit.Proofs.Interface.Lookup

/-!
# Logs find their events

A log belongs to an event whose digest is its first topic, and otherwise to the
only anonymous event whose logs have as many topics. Where digests tell events
apart this depends on the events of the interface alone, and not on the order in
which they were added; and a log that is given to an anonymous event has the
right number of topics for it.
-/

namespace ContractToolkit

/-- An error about the topics of a log: they are those of another event, or too many, or too few. -/
def Error.IsTopicFault : Error → Prop
  | .topicMismatch _ _ => True
  | .decode (.topicCount _ _ _) => True
  | .decode (.missingTopic _) => True
  | _ => False

/-- An error about anything else. -/
def Error.SparesTopics (e : Error) : Prop := ¬ e.IsTopicFault

/-- Octets that cannot be read as values say nothing about topics. -/
theorem Error.IsOctetFault.sparesTopics {e : Error} (h : e.IsOctetFault) : e.SparesTopics := by
  obtain ⟨fault, rfl, hoctets⟩ := h
  intro htopics
  cases fault <;> cases hoctets <;> exact htopics

namespace Interface

open Abi Outcome

namespace Event

/-- Whether the logs of the event begin with the first of the topics. -/
def Opens (e : Event) (topics : List Hash) : Prop :=
  e.anonymous = false ∧ topics.head? = some e.topic

/-- Whether the event is anonymous and its logs have as many topics. -/
def Fits (e : Event) (topics : List Hash) : Prop :=
  e.anonymous = true ∧ e.topicCount = topics.length

/-- A log with as many topics as an anonymous event has is not refused for its topics. -/
theorem decodeLog_spares {e : Event} {topics : List Hash} (h : e.Fits topics) (data : Bytes) :
    FailsWith Error.SparesTopics (e.decodeLog topics data) := by
  obtain ⟨hanonymous, hcount⟩ := h
  refine (decodeLog_reports (Or.inl hanonymous)).mono ?_
  rintro _ ⟨fault, rfl, hreports⟩
  obtain ⟨miscounted, -⟩ | ⟨cause, rfl⟩ | hoctets := hreports.kinds
  · exact absurd hcount.symm miscounted
  · exact id
  · exact (Error.IsOctetFault.intro hoctets).sparesTopics

/-- A log keeps its topics when its place on the chain is added. -/
theorem decode_spares {e : Event} {log : Log} (h : e.Fits log.topics) :
    FailsWith Error.SparesTopics (e.decode log) := by
  refine (decodeLog_spares h log.data).bind fun decoded _ => ?_
  split
  · split
    · exact .error id
    · exact .ok _
  · exact .ok _

end Event

/-- Whether events that log the digests of their signatures are told apart by them. -/
def TopicsTellApart (i : Interface) : Prop :=
  ∀ e ∈ i.events, ∀ other ∈ i.events, e.anonymous = false → other.anonymous = false →
    e.topic = other.topic → e.signature = other.signature

/-- Whether an event is the only anonymous one with as many topics. -/
def OnlyFits (i : Interface) (e : Event) (topics : List Hash) : Prop :=
  e ∈ i.events ∧ e.Fits topics ∧ ∀ other ∈ i.events, other.Fits topics → other = e

variable {i j : Interface} {topics : List Hash}

/-- An event that is found by the first topic has logs that begin with it. -/
theorem opens_of_eventByTopic? {e : Event}
    (h : topics.head?.bind i.eventByTopic? = some e) : e ∈ i.events ∧ e.Opens topics := by
  obtain ⟨topic, hhead, hfound⟩ := Option.bind_eq_some_iff.mp h
  have hopens := List.find?_some hfound
  simp only [Bool.and_eq_true, Bool.not_eq_true', decide_eq_true_eq] at hopens
  exact ⟨List.mem_of_find?_eq_some hfound, hopens.1, hhead.trans (congrArg some hopens.2.symm)⟩

/-- No event is found by the first topic when there is none whose logs begin with it. -/
theorem eventByTopic?_eq_none :
    topics.head?.bind i.eventByTopic? = none ↔ ∀ e ∈ i.events, ¬ e.Opens topics := by
  constructor
  · rintro h e he ⟨hanonymous, hhead⟩
    rw [hhead, Option.bind_some, eventByTopic?, List.find?_eq_none] at h
    exact h e he (by simp [hanonymous])
  · intro h
    rw [Option.eq_none_iff_forall_ne_some]
    intro e hfound
    obtain ⟨he, hopens⟩ := opens_of_eventByTopic? hfound
    exact h e he hopens

/-- A log with the digest of an event belongs to an event with this digest. -/
theorem eventFor?_of_opens (h : ∃ e ∈ i.events, e.Opens topics) :
    ∃ e ∈ i.events, e.Opens topics ∧ i.eventFor? topics = some e := by
  obtain ⟨e, he, hopens⟩ := h
  cases hfound : topics.head?.bind i.eventByTopic? with
  | none => exact absurd hopens (eventByTopic?_eq_none.mp hfound e he)
  | some found =>
    obtain ⟨hmem, hfoundOpens⟩ := opens_of_eventByTopic? hfound
    exact ⟨found, hmem, hfoundOpens, by rw [eventFor?, hfound]⟩

/-- A log without the digest of any event belongs to the only anonymous event that it fits. -/
theorem eventFor?_of_not_opens (hdistinct : i.Distinct) (h : ∀ e ∈ i.events, ¬ e.Opens topics)
    (e : Event) : i.eventFor? topics = some e ↔ i.OnlyFits e topics := by
  have hnodup : i.events.Nodup := hdistinct.events.of_map _
  have hanonymous : i.eventFor? topics = some e ↔ i.anonymousEvents topics.length = [e] := by
    rw [eventFor?, eventByTopic?_eq_none.mpr h]
    dsimp only
    split
    · rename_i only honly
      rw [honly, Option.some_inj, List.singleton_inj]
    · rename_i hmany
      simpa using hmany e
  rw [hanonymous, anonymousEvents, filter_eq_singleton hnodup]
  simp only [Bool.and_eq_true, decide_eq_true_eq]
  exact Iff.rfl

/-- Without the digest of any event and without an anonymous event that alone fits, a log belongs to
none. -/
theorem eventFor?_eq_none (hdistinct : i.Distinct) (h : ∀ e ∈ i.events, ¬ e.Opens topics) :
    i.eventFor? topics = none ↔
      (∀ e ∈ i.events, ¬ e.Fits topics) ∨
        ∃ e ∈ i.events, ∃ other ∈ i.events, e ≠ other ∧ e.Fits topics ∧ other.Fits topics := by
  rw [Option.eq_none_iff_forall_ne_some]
  constructor
  · intro hnone
    by_cases hfits : ∃ e ∈ i.events, e.Fits topics
    · obtain ⟨e, he, hefits⟩ := hfits
      have honly : ¬ i.OnlyFits e topics := fun honly =>
        hnone e ((eventFor?_of_not_opens hdistinct h e).mpr honly)
      simp only [OnlyFits, he, hefits, true_and, not_forall] at honly
      obtain ⟨other, hother, hotherFits, hne⟩ := honly
      exact Or.inr ⟨other, hother, e, he, hne, hotherFits, hefits⟩
    · exact Or.inl fun e he hefits => hfits ⟨e, he, hefits⟩
  · intro hambiguous e hsome
    obtain ⟨he, hefits, honly⟩ := (eventFor?_of_not_opens hdistinct h e).mp hsome
    obtain hnone | ⟨f, hf, g, hg, hne, hfFits, hgFits⟩ := hambiguous
    · exact hnone e he hefits
    · exact hne ((honly f hf hfFits).trans (honly g hg hgFits).symm)

/-- Where digests tell events apart, logs begin with the digest of one event at most. -/
theorem eq_of_opens (hdistinct : i.Distinct) (hapart : i.TopicsTellApart) {e other : Event}
    (he : e ∈ i.events) (hother : other ∈ i.events) (hopens : e.Opens topics)
    (hotherOpens : other.Opens topics) : e = other := by
  have htopic : e.topic = other.topic :=
    Option.some.inj (hopens.2.symm.trans hotherOpens.2)
  have hsignature := hapart e he other hother hopens.1 hotherOpens.1 htopic
  have hkey : (e.signature, e.anonymous) = (other.signature, other.anonymous) := by
    rw [hsignature, hopens.1, hotherOpens.1]
  exact List.inj_on_of_nodup_map hdistinct.events he hother hkey

/-- Where digests tell events apart, the event of a log is known from the events of the interface. -/
theorem eventFor?_eq_some (hdistinct : i.Distinct) (hapart : i.TopicsTellApart) {e : Event} :
    i.eventFor? topics = some e ↔
      (e ∈ i.events ∧ e.Opens topics) ∨
        ((∀ other ∈ i.events, ¬ other.Opens topics) ∧ i.OnlyFits e topics) := by
  by_cases hopens : ∃ other ∈ i.events, other.Opens topics
  · obtain ⟨found, hfound, hfoundOpens, hfor⟩ := eventFor?_of_opens hopens
    rw [hfor, Option.some_inj]
    constructor
    · rintro rfl
      exact Or.inl ⟨hfound, hfoundOpens⟩
    · rintro (⟨he, heOpens⟩ | ⟨hnone, -⟩)
      · exact eq_of_opens hdistinct hapart hfound he hfoundOpens heOpens
      · exact absurd hfoundOpens (hnone found hfound)
  · have hnone : ∀ other ∈ i.events, ¬ other.Opens topics :=
      fun other hother hotherOpens => hopens ⟨other, hother, hotherOpens⟩
    rw [eventFor?_of_not_opens hdistinct hnone]
    constructor
    · exact fun honly => Or.inr ⟨hnone, honly⟩
    · rintro (⟨he, heOpens⟩ | ⟨-, honly⟩)
      · exact absurd heOpens (hnone e he)
      · exact honly

/-- Where digests tell events apart, interfaces with the same events give a log to the same one. -/
theorem eventFor?_congr (hi : i.Distinct) (hj : j.Distinct) (hapart : i.TopicsTellApart)
    (hsame : ∀ e, e ∈ j.events ↔ e ∈ i.events) (topics : List Hash) :
    j.eventFor? topics = i.eventFor? topics := by
  have hjApart : j.TopicsTellApart := fun e he other hother =>
    hapart e ((hsame e).mp he) other ((hsame other).mp hother)
  refine Option.ext fun e => ?_
  rw [eventFor?_eq_some hi hapart, eventFor?_eq_some hj hjApart]
  simp only [OnlyFits, hsame]

/-- An anonymous event that a log is given to has as many topics. -/
theorem fits_of_eventFor? (hdistinct : i.Distinct) {e : Event} (h : i.eventFor? topics = some e)
    (hanonymous : e.anonymous = true) : e.Fits topics := by
  by_cases hopens : ∃ other ∈ i.events, other.Opens topics
  · obtain ⟨found, -, hfoundOpens, hfor⟩ := eventFor?_of_opens hopens
    obtain rfl : found = e := Option.some.inj (hfor.symm.trans h)
    rw [hfoundOpens.1] at hanonymous
    cases hanonymous
  · have hnone : ∀ other ∈ i.events, ¬ other.Opens topics :=
      fun other hother hotherOpens => hopens ⟨other, hother, hotherOpens⟩
    exact ((eventFor?_of_not_opens hdistinct hnone e).mp h).2.1

/-- Events are added as members. -/
theorem foldl_addEvent (events : List Event) :
    events.foldl addEvent empty = (events.map Member.event).foldl Member.addTo empty := by
  rw [List.foldl_map]
  rfl

/-- Events with distinct keys are all that an interface has to which they are added. -/
theorem events_foldl {events : List Event} (h : (events.map Event.key).Nodup) :
    ((events.map Member.event).foldl Member.addTo empty).events = events := by
  have hevents : (events.map Member.event).filterMap Member.event? = events := by
    rw [List.filterMap_map]
    exact List.filterMap_some
  rw [foldl_addTo, lastAdded, hevents, lastOfEach_of_nodup h]

/-- The events of an interface depend on the order of the additions only as far as events with one
key are concerned. -/
theorem mem_events_congr {members others : List Member}
    (hsame : ∀ key, (others.filterMap Member.event?).filter (fun e => e.key = key) =
      (members.filterMap Member.event?).filter (fun e => e.key = key)) (e : Event) :
    e ∈ (others.foldl Member.addTo empty).events ↔
      e ∈ (members.foldl Member.addTo empty).events := by
  rw [foldl_addTo, foldl_addTo, lastAdded, lastAdded, mem_lastOfEach, mem_lastOfEach, hsame]

/-- The event of a log, in every interface that is built up from nothing: an event whose digest is
the first topic, whenever there is one; otherwise the only anonymous event with as many topics, and
none where there is none or where there are several. Where digests tell events apart, the event is
the same in every interface with the same events, whatever was added in whatever order: so it is
when the events are added in another order, and when all additions are rearranged and only those
under one key keep their order. A log that is given to an anonymous event is not refused for its
topics. -/
theorem eventFor?_selects (members : List Member) (topics : List Hash) :
    let i := members.foldl Member.addTo empty
    ((∃ e ∈ i.events, e.Opens topics) →
        ∃ e ∈ i.events, e.Opens topics ∧ i.eventFor? topics = some e) ∧
      ((∀ e ∈ i.events, ¬ e.Opens topics) →
        (∀ e, i.eventFor? topics = some e ↔ i.OnlyFits e topics) ∧
          (i.eventFor? topics = none ↔
            (∀ e ∈ i.events, ¬ e.Fits topics) ∨
              ∃ e ∈ i.events, ∃ other ∈ i.events,
                e ≠ other ∧ e.Fits topics ∧ other.Fits topics)) ∧
      (i.TopicsTellApart →
        (∀ others : List Member,
          (∀ e, e ∈ (others.foldl Member.addTo empty).events ↔ e ∈ i.events) →
          (others.foldl Member.addTo empty).eventFor? topics = i.eventFor? topics) ∧
        (∀ order : List Event, order.Perm i.events →
          (order.foldl addEvent empty).eventFor? topics = i.eventFor? topics) ∧
        ∀ others : List Member,
          (∀ key, (others.filterMap Member.event?).filter (fun e => e.key = key) =
            (members.filterMap Member.event?).filter (fun e => e.key = key)) →
          (others.foldl Member.addTo empty).eventFor? topics = i.eventFor? topics) ∧
      ∀ e, i.eventFor? topics = some e → e.anonymous = true →
        ∀ log : Log, log.topics = topics → FailsWith Error.SparesTopics (i.decodeLog log) := by
  intro i
  have hdistinct : i.Distinct := distinct_foldl members
  have hsame (hapart : i.TopicsTellApart) (others : List Member)
      (h : ∀ e, e ∈ (others.foldl Member.addTo empty).events ↔ e ∈ i.events) :
      (others.foldl Member.addTo empty).eventFor? topics = i.eventFor? topics :=
    eventFor?_congr hdistinct (distinct_foldl others) hapart h topics
  refine ⟨eventFor?_of_opens, fun h => ⟨eventFor?_of_not_opens hdistinct h,
    eventFor?_eq_none hdistinct h⟩, fun hapart => ⟨hsame hapart, ?order, ?rearranged⟩, ?topics⟩
  case order =>
    intro order hperm
    have hkeys : (order.map Event.key).Nodup := (hperm.map _).nodup_iff.mpr hdistinct.events
    rw [foldl_addEvent]
    refine hsame hapart _ fun e => ?_
    rw [events_foldl hkeys]
    exact hperm.mem_iff
  case rearranged =>
    intro others hothers
    exact hsame hapart others (mem_events_congr hothers)
  case topics =>
    rintro e hfor hanonymous log rfl
    rw [decodeLog, hfor]
    exact Event.decode_spares (fits_of_eventFor? hdistinct hfor hanonymous)

/-- A named event and two anonymous ones, of which one was declared otherwise before: a log with the
digest of the named one belongs to it, and a log without topics to the anonymous one that has none,
also when the events are added in the opposite order or the replaced one comes first. -/
theorem eventFor?_selects_quiet :
    let note : Event := ⟨"Note", [⟨"tag", .uint 256, true⟩], false⟩
    let members : List Member := [.event ⟨"Quiet", [⟨"n", .bool, true⟩], true⟩,
      .event ⟨"Note", [⟨"tag", .uint 256, true⟩], false⟩,
      .event ⟨"Quiet", [⟨"n", .bool, false⟩], true⟩,
      .event ⟨"Pair", [⟨"a", .bool, true⟩, ⟨"b", .bool, true⟩], true⟩]
    let i := members.foldl Member.addTo empty
    let order : List Event := [⟨"Pair", [⟨"a", .bool, true⟩, ⟨"b", .bool, true⟩], true⟩,
      ⟨"Quiet", [⟨"n", .bool, false⟩], true⟩, ⟨"Note", [⟨"tag", .uint 256, true⟩], false⟩]
    let others : List Member := [.event ⟨"Quiet", [⟨"n", .bool, true⟩], true⟩,
      .event ⟨"Quiet", [⟨"n", .bool, false⟩], true⟩,
      .event ⟨"Pair", [⟨"a", .bool, true⟩, ⟨"b", .bool, true⟩], true⟩,
      .event ⟨"Note", [⟨"tag", .uint 256, true⟩], false⟩]
    (note ∈ i.events ∧ note.Opens [note.topic, 9] ∧
        ∃ e ∈ i.events, e.Opens [note.topic, 9] ∧ i.eventFor? [note.topic, 9] = some e) ∧
      i.eventFor? [] = some ⟨"Quiet", [⟨"n", .bool, false⟩], true⟩ ∧
      (i.TopicsTellApart ∧ order.Perm i.events ∧
        (order.foldl addEvent empty).eventFor? [] = i.eventFor? [] ∧
        (others.foldl Member.addTo empty).eventFor? [] = i.eventFor? []) ∧
      FailsWith Error.SparesTopics (i.decodeLog { address := 0, topics := [], data := [] }) := by
  intro note members i order others
  have hevents : i.events = [⟨"Note", [⟨"tag", .uint 256, true⟩], false⟩,
      ⟨"Quiet", [⟨"n", .bool, false⟩], true⟩,
      ⟨"Pair", [⟨"a", .bool, true⟩, ⟨"b", .bool, true⟩], true⟩] := rfl
  have hnote : note ∈ i.events := hevents ▸ List.mem_cons_self
  have hopens : note.Opens [note.topic, 9] := ⟨rfl, rfl⟩
  have hnone : ∀ e ∈ i.events, ¬ e.Opens [] := fun e _ h => by cases h.2
  have hnamed : ∀ e ∈ i.events, e.anonymous = false → e.signature = "Note(uint256)" := by
    rw [hevents]
    decide
  have hapart : i.TopicsTellApart := fun e he other hother hanonymous hotherAnonymous _ =>
    (hnamed e he hanonymous).trans (hnamed other hother hotherAnonymous).symm
  have hperm : order.Perm i.events := List.reverse_perm i.events
  obtain ⟨hdigest, -⟩ := eventFor?_selects members [note.topic, 9]
  obtain ⟨-, hfits, hsame, htopics⟩ := eventFor?_selects members []
  have hquiet : i.eventFor? [] = some ⟨"Quiet", [⟨"n", .bool, false⟩], true⟩ := by
    refine ((hfits hnone).1 _).mpr ⟨?_, ⟨rfl, rfl⟩, fun other hother h => ?_⟩
    · rw [hevents]
      decide
    · have honly : ∀ e ∈ i.events, e.anonymous = true → e.topicCount = 0 →
          e = ⟨"Quiet", [⟨"n", .bool, false⟩], true⟩ := by
        rw [hevents]
        decide
      exact honly other hother h.1 h.2
  have hrearranged (key : String × Bool) :
      (others.filterMap Member.event?).filter (fun e => e.key = key) =
        (members.filterMap Member.event?).filter (fun e => e.key = key) := by
    obtain ⟨signature, anonymous⟩ := key
    cases anonymous <;> simp [others, members, Member.event?, Event.key, List.filter_cons]
  exact ⟨⟨hnote, hopens, hdigest ⟨note, hnote, hopens⟩⟩, hquiet,
    ⟨hapart, hperm, (hsame hapart).2.1 order hperm, (hsame hapart).2.2 others hrearranged⟩,
    htopics _ hquiet rfl _ rfl⟩

end Interface

end ContractToolkit
