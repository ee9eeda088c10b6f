import ContractToolkit.Proofs.Abi.Faults
import ContractToolkit.Proofs.Abi.Soundness
import ContractToolkit.Proofs.Interface.Topics
import Mathlib.Data.List.Forall2

/-!
# Which logs an event accepts

Parameters take topics and values in their order: an indexed one takes the next
topic, every other one the next value. When there are as many topics as indexed
parameters and as many values as other ones, each parameter is supplied, none is
ever without its topic or value, and only what a topic holds can still be wrong.
The number of topics is counted before the values are taken, and the values that
are decoded are as many as their types; so a log is decoded exactly when it
passes the count and all its parts can be read.
-/

namespace ContractToolkit.Interface

open Abi Outcome

/-- What can be known of an argument: a value of the type of its parameter, or a digest where one is
logged in its place. -/
inductive ArgOf (p : EventParam) : EventArg → Prop
  /-- A value of the type of the parameter. -/
  | value {v : Value} (typed : HasType v p.ty) : ArgOf p (.value v)
  /-- The digest of an indexed argument whose type is not elementary. -/
  | hashed (h : Hash) (indexed : p.indexed = true) (hashed : p.ty.isHashed = true) :
      ArgOf p (.hashed h)

/-- What is decoded for a parameter. -/
structure DecodedFor (p : EventParam) (d : DecodedParam) : Prop where
  /-- It has the name of the parameter. -/
  name : d.name = p.name
  /-- It says whether the parameter is logged as a topic. -/
  indexed : d.indexed = p.indexed
  /-- Its argument is one of the parameter. -/
  arg : ArgOf p d.arg

/-- A topic holds an argument of its parameter. -/
theorem argOf_of_argOfTopic {p : EventParam} (hindexed : p.indexed = true) {topic : Hash}
    {arg : EventArg} (h : Event.argOfTopic p.ty topic = .ok arg) : ArgOf p arg := by
  cases hashed : p.ty.isHashed with
  | true =>
    rw [Event.argOfTopic, if_pos hashed] at h
    cases h
    exact .hashed topic hindexed hashed
  | false =>
    obtain ⟨v, hv, rfl⟩ := (Event.argOfTopic_elementary hashed).mp h
    exact .value (hasType_of_decodeSingle hv)

/-- Arguments are decoded for their parameters one by one. -/
theorem decodedFor_of_mergeArgs {params : List EventParam} {topics : List Hash}
    {values : List Value} {decoded : List DecodedParam}
    (htypes : HaveTypes values ((params.filter fun p => !p.indexed).map EventParam.ty))
    (h : Event.mergeArgs params topics values = .ok decoded) :
    List.Forall₂ DecodedFor params decoded := by
  induction params generalizing topics values decoded with
  | nil =>
    cases h
    exact .nil
  | cons p rest ih =>
    cases hindexed : p.indexed with
    | true =>
      rw [List.filter_cons_of_neg (by simp [hindexed])] at htypes
      cases topics with
      | nil => simp [Event.mergeArgs, hindexed] at h
      | cons topic topics =>
        rw [Event.mergeArgs_indexed hindexed] at h
        simp only [bind_eq_ok, pure_eq_ok] at h
        obtain ⟨arg, harg, others, hothers, rfl⟩ := h
        exact .cons ⟨rfl, hindexed.symm, argOf_of_argOfTopic hindexed harg⟩ (ih htypes hothers)
    | false =>
      rw [List.filter_cons_of_pos (by simp [hindexed]), List.map_cons] at htypes
      cases htypes with
      | cons head tail =>
        rw [Event.mergeArgs_plain hindexed] at h
        simp only [bind_eq_ok, pure_eq_ok] at h
        obtain ⟨others, hothers, rfl⟩ := h
        exact .cons ⟨rfl, hindexed.symm, .value head⟩ (ih tail hothers)

/-- Whether a topic can hold an argument of a parameter: a digest can, and any other topic has to be
read as the type. -/
def EventParam.ReadFrom (p : EventParam) (topic : Hash) : Prop :=
  p.ty.isHashed = false → ∃ v, decodeSingle p.ty (Word.bytes topic) = .ok v

/-- A topic gives an argument exactly when it can hold one. -/
theorem argOfTopic_isOk {p : EventParam} {topic : Hash} :
    (∃ arg, Event.argOfTopic p.ty topic = .ok arg) ↔ p.ReadFrom topic := by
  rw [EventParam.ReadFrom]
  cases hashed : p.ty.isHashed with
  | true =>
    have harg : Event.argOfTopic p.ty topic = .ok (.hashed topic) := by
      rw [Event.argOfTopic, if_pos hashed]
    exact ⟨fun _ h => absurd h (by decide), fun _ => ⟨_, harg⟩⟩
  | false =>
    rw [exists_congr fun _ => Event.argOfTopic_elementary hashed]
    constructor
    · rintro ⟨-, v, hv, -⟩ -
      exact ⟨v, hv⟩
    · intro h
      obtain ⟨v, hv⟩ := h rfl
      exact ⟨_, v, hv, rfl⟩

/-- A topic that gives no argument fails to be read as the type. -/
theorem argOfTopic_failsWith (t : Ty) (topic : Hash) :
    FailsWith (fun error => decodeSingle t (Word.bytes topic) = .error error)
      (Event.argOfTopic t topic) := by
  rw [Event.argOfTopic]
  split
  · exact .ok _
  · exact FailsWith.map (fun _ herror => herror) EventArg.value

/-- Topics and values for all parameters: each indexed one has the next topic, and every other one
the next value. -/
inductive Supplied : List EventParam → List Hash → List Value → Prop
  /-- No parameter takes no topic and no value. -/
  | nil : Supplied [] [] []
  /-- An indexed parameter takes a topic. -/
  | topic {p : EventParam} {rest : List EventParam} {topics : List Hash} {values : List Value}
      (indexed : p.indexed = true) (topic : Hash) (others : Supplied rest topics values) :
      Supplied (p :: rest) (topic :: topics) values
  /-- Every other parameter takes a value. -/
  | value {p : EventParam} {rest : List EventParam} {topics : List Hash} {values : List Value}
      (plain : p.indexed = false) (v : Value) (others : Supplied rest topics values) :
      Supplied (p :: rest) topics (v :: values)

namespace Supplied

variable {params : List EventParam} {topics : List Hash} {values : List Value}

/-- Counts of both kinds are enough: how the parameters alternate does not matter. -/
theorem of_length (htopics : topics.length = (params.filter EventParam.indexed).length)
    (hvalues : values.length = (params.filter fun p => !p.indexed).length) :
    Supplied params topics values := by
  induction params generalizing topics values with
  | nil =>
    obtain rfl := List.length_eq_zero_iff.mp htopics
    obtain rfl := List.length_eq_zero_iff.mp hvalues
    exact .nil
  | cons p rest ih =>
    -- The parameter is counted on one side only, so the count of the other side is left as it is.
    cases hindexed : p.indexed with
    | true =>
      rw [List.filter_cons_of_pos hindexed, List.length_cons] at htopics
      rw [List.filter_cons_of_neg (by simp [hindexed])] at hvalues
      obtain ⟨topic, topics, rfl⟩ := List.exists_cons_of_length_eq_add_one htopics
      exact .topic hindexed topic (ih (Nat.succ.inj htopics) hvalues)
    | false =>
      rw [List.filter_cons_of_neg (by simp [hindexed])] at htopics
      rw [List.filter_cons_of_pos (by simp [hindexed]), List.length_cons] at hvalues
      obtain ⟨v, values, rfl⟩ := List.exists_cons_of_length_eq_add_one hvalues
      exact .value hindexed v (ih htopics (Nat.succ.inj hvalues))

/-- Supplied parameters have arguments exactly when each indexed one is read from its topic. -/
theorem mergeArgs_isOk (h : Supplied params topics values) :
    (∃ decoded, Event.mergeArgs params topics values = .ok decoded) ↔
      ∀ entry ∈ (params.filter EventParam.indexed).zip topics, entry.1.ReadFrom entry.2 := by
  induction h with
  | nil =>
    have hnone : ∀ entry ∈ ([] : List (EventParam × Hash)), entry.1.ReadFrom entry.2 :=
      fun _ hentry => absurd hentry List.not_mem_nil
    exact ⟨fun _ => hnone, fun _ => ⟨[], rfl⟩⟩
  | topic indexed topic others ih =>
    rw [List.filter_cons_of_pos indexed, List.zip_cons_cons, List.forall_mem_cons, ← ih,
      ← argOfTopic_isOk, Event.mergeArgs_indexed indexed]
    simp only [bind_eq_ok, pure_eq_ok]
    constructor
    · rintro ⟨-, arg, harg, decoded, hdecoded, -⟩
      exact ⟨⟨arg, harg⟩, decoded, hdecoded⟩
    · rintro ⟨⟨arg, harg⟩, decoded, hdecoded⟩
      exact ⟨_, arg, harg, decoded, hdecoded, rfl⟩
  | value plain v others ih =>
    rw [List.filter_cons_of_neg (by simp [plain]), ← ih, Event.mergeArgs_plain plain]
    simp only [bind_eq_ok, pure_eq_ok]
    constructor
    · rintro ⟨-, decoded, hdecoded, -⟩
      exact ⟨decoded, hdecoded⟩
    · rintro ⟨decoded, hdecoded⟩
      exact ⟨_, decoded, hdecoded, rfl⟩

/-- Supplied parameters lack an argument only where an indexed one is not read from its topic. -/
theorem mergeArgs_failsWith (h : Supplied params topics values) :
    FailsWith (fun error => ∃ entry ∈ (params.filter EventParam.indexed).zip topics,
        decodeSingle entry.1.ty (Word.bytes entry.2) = .error error)
      (Event.mergeArgs params topics values) := by
  induction h with
  | nil => exact .ok _
  | @topic p _ _ _ indexed topic others ih =>
    rw [List.filter_cons_of_pos indexed, List.zip_cons_cons, Event.mergeArgs_indexed indexed]
    have hhere := argOfTopic_failsWith p.ty topic
    refine (hhere.mono fun _ herror => ⟨_, List.mem_cons_self, herror⟩).bind fun _ _ => ?_
    refine (ih.mono ?_).bind fun _ _ => .ok _
    rintro _ ⟨entry, hentry, herror⟩
    exact ⟨entry, List.mem_cons_of_mem _ hentry, herror⟩
  | value plain v others ih =>
    rw [List.filter_cons_of_neg (by simp [plain]), Event.mergeArgs_plain plain]
    exact ih.bind fun _ _ => .ok _

end Supplied

namespace Event

variable {e : Event} {topics : List Hash} {data : Bytes}

/-- Whether topics begin as those of the event do. An anonymous event asks for nothing. -/
def Begins (e : Event) (topics : List Hash) : Prop :=
  e.anonymous = true ∨ topics.head? = some e.topic

/-- What the event asks of a log. -/
structure Accepts (e : Event) (topics : List Hash) (data : Bytes) : Prop where
  /-- The first topic is the digest of the signature unless the event is anonymous. -/
  begins : e.Begins topics
  /-- There are as many topics as the event has. -/
  count : topics.length = e.topicCount
  /-- The data is decoded as the parameters that are not indexed. -/
  values : ∃ values, Abi.decode e.dataTypes data = .ok values
  /-- Every other topic is read as its indexed parameter unless it is a digest. -/
  args : ∀ entry ∈ e.indexed.zip (topics.drop e.signatureTopics), entry.1.ReadFrom entry.2

/-- What is reported of a log that begins as those of the event do. -/
inductive Reports (e : Event) (topics : List Hash) (data : Bytes) : DecodeFault → Prop
  /-- The number of topics, which is not that of the event. -/
  | topicCount (miscounted : topics.length ≠ e.topicCount) :
      Reports e topics data (.topicCount e.signature e.topicCount topics.length)
  /-- Why the data is not decoded. -/
  | data {cause : DecodeFault} (counted : topics.length = e.topicCount)
      (undecoded : Abi.decode e.dataTypes data = .error (.decode cause)) :
      Reports e topics data (.eventData e.signature cause)
  /-- Why an indexed parameter is not read from its topic. -/
  | topic {cause : DecodeFault} {p : EventParam} {topic : Hash}
      (counted : topics.length = e.topicCount)
      (beside : (p, topic) ∈ e.indexed.zip (topics.drop e.signatureTopics))
      (unread : decodeSingle p.ty (Word.bytes topic) = .error (.decode cause)) :
      Reports e topics data cause

/-- Behind topics that begin as those of the event do stand those of the arguments. -/
theorem argTopics_of_begins (h : e.Begins topics) :
    e.argTopics topics = .ok (topics.drop e.signatureTopics) := by
  rw [argTopics_eq_ok, front, signatureTopics]
  cases hanonymous : e.anonymous with
  | true => rfl
  | false =>
    obtain h | h := h
    · rw [hanonymous] at h
      cases h
    · obtain ⟨rest, rfl⟩ := List.head?_eq_some_iff.mp h
      rfl

/-- Topics that begin otherwise are told with the first of them, if there is one. -/
theorem argTopics_of_not_begins (h : ¬ e.Begins topics) :
    e.argTopics topics =
      .error (.topicMismatch (Word.hex e.topic) (topics.head?.map Word.hex)) := by
  rw [Begins, not_or] at h
  obtain ⟨hanonymous, hfirst⟩ := h
  rw [argTopics.eq_def, if_neg hanonymous]
  cases topics with
  | nil => rfl
  | cons first rest =>
    have hne : first ≠ e.topic := fun heq => hfirst (congrArg some heq)
    dsimp only
    rw [if_neg hne]
    rfl

/-- A log that begins otherwise is refused as one of another event. -/
theorem decodeLog_of_not_begins (h : ¬ e.Begins topics) (data : Bytes) :
    e.decodeLog topics data =
      .error (.topicMismatch (Word.hex e.topic) (topics.head?.map Word.hex)) := by
  rw [decodeLog, argTopics_of_not_begins h]
  rfl

/-- Whatever stands behind the topics in front, topics begin with these. -/
theorem begins_front (args : List Hash) : e.Begins (e.front ++ args) := by
  rw [Begins, front]
  cases e.anonymous with
  | true => exact Or.inl rfl
  | false => exact Or.inr rfl

/-- Topics that are counted leave one for each indexed parameter. -/
theorem length_drop_signatureTopics (h : topics.length = e.topicCount) :
    (topics.drop e.signatureTopics).length = e.indexedCount := by
  rw [List.length_drop, h, topicCount, Nat.add_sub_cancel]

/-- Counted topics and decoded data supply all parameters. -/
theorem supplied_of_count (hcount : topics.length = e.topicCount) {values : List Value}
    (hvalues : Abi.decode e.dataTypes data = .ok values) :
    Supplied e.params (topics.drop e.signatureTopics) values := by
  have htypes := (haveTypes_of_decode hvalues).length_eq
  rw [dataTypes, List.length_map] at htypes
  exact .of_length (length_drop_signatureTopics hcount) htypes

/-- A log is decoded exactly when the event accepts it. -/
theorem decodeLog_isOk :
    (∃ ev, e.decodeLog topics data = .ok ev) ↔ e.Accepts topics data := by
  simp only [decodeLog_eq_ok]
  constructor
  · rintro ⟨-, args, values, params, rfl, hargs, hvalues, hparams, -⟩
    have hcount : (e.front ++ args).length = e.topicCount := by
      rw [List.length_append, length_front, hargs, topicCount, Nat.add_comm]
    have hdrop : (e.front ++ args).drop e.signatureTopics = args := by
      rw [← length_front, List.drop_left]
    have hsupplied := supplied_of_count hcount hvalues
    rw [hdrop] at hsupplied
    have hread := hsupplied.mergeArgs_isOk.mp ⟨params, hparams⟩
    exact ⟨begins_front args, hcount, ⟨values, hvalues⟩, by rw [hdrop]; exact hread⟩
  · rintro ⟨hbegins, hcount, ⟨values, hvalues⟩, hread⟩
    have htopics := argTopics_eq_ok.mp (argTopics_of_begins hbegins)
    obtain ⟨params, hparams⟩ := (supplied_of_count hcount hvalues).mergeArgs_isOk.mpr hread
    exact ⟨_, _, values, params, htopics, length_drop_signatureTopics hcount, hvalues, hparams, rfl⟩

/-- A log that begins as those of the event do is decoded, or what is wrong with it is reported. -/
theorem decodeLog_reports (h : e.Begins topics) :
    FailsWith (fun error => ∃ fault, error = .decode fault ∧ e.Reports topics data fault)
      (e.decodeLog topics data) := by
  rw [decodeLog, argTopics_of_begins h]
  refine FailsWith.bind (.ok _) fun args hargs => ?_
  obtain rfl := Except.ok.inj hargs
  -- The count comes before the data, so that what is taken from the topics is always supplied.
  by_cases hcount : topics.length = e.topicCount
  · rw [if_neg (not_not_intro hcount)]
    refine FailsWith.bind ?_ fun values hvalues => FailsWith.bind ?_ fun _ _ => .ok _
    · cases hdecoded : Abi.decode e.dataTypes data with
      | ok values => exact .ok _
      | error error =>
        obtain ⟨cause, rfl⟩ := decode_failsWith _ _ _ hdecoded
        exact .error ⟨_, rfl, .data hcount hdecoded⟩
    · have hsupplied := supplied_of_count hcount (forData_eq_ok.mp hvalues)
      refine hsupplied.mergeArgs_failsWith.mono ?_
      rintro error ⟨⟨p, topic⟩, hbeside, hunread⟩
      obtain ⟨cause, rfl⟩ := decodeSingle_failsWith _ _ _ hunread
      exact ⟨cause, rfl, .topic hcount hbeside hunread⟩
  · rw [if_pos hcount]
    exact .error ⟨_, rfl, .topicCount hcount⟩

/-- What is reported is the number of topics, the data, or octets that cannot be read. -/
theorem Reports.kinds {fault : DecodeFault} (h : e.Reports topics data fault) :
    (topics.length ≠ e.topicCount ∧
        fault = .topicCount e.signature e.topicCount topics.length) ∨
      (∃ cause, fault = .eventData e.signature cause) ∨ fault.isOfOctets = true := by
  cases h with
  | topicCount miscounted => exact Or.inl ⟨miscounted, rfl⟩
  | data _ _ => exact Or.inr (Or.inl ⟨_, rfl⟩)
  | topic _ _ unread =>
    obtain ⟨cause, heq, hoctets⟩ := decodeSingle_octetFault _ _ _ unread
    obtain rfl := Error.decode.inj heq
    exact Or.inr (Or.inr hoctets)

/-- It is not reported that a parameter is left without a topic or without a value. -/
theorem Reports.ne_missing {fault : DecodeFault} (h : e.Reports topics data fault)
    (name : String) : fault ≠ .missingTopic name ∧ fault ≠ .missingValue name := by
  obtain ⟨-, rfl⟩ | ⟨cause, rfl⟩ | hoctets := h.kinds
  · exact ⟨by simp, by simp⟩
  · exact ⟨by simp, by simp⟩
  · constructor
    · rintro rfl
      cases hoctets
    · rintro rfl
      cases hoctets

/-- The arguments of a decoded log are those of the parameters of the event. -/
theorem decodedFor_of_decodeLog {ev : DecodedEvent} (h : e.decodeLog topics data = .ok ev) :
    List.Forall₂ DecodedFor e.params ev.params := by
  obtain ⟨args, values, params, -, -, hvalues, hparams, rfl⟩ := decodeLog_eq_ok.mp h
  exact decodedFor_of_mergeArgs (haveTypes_of_decode hvalues) hparams

/-- A log is decoded exactly when it begins with the digest of the event, unless that is anonymous,
has as many topics as the event, and its data and each topic that is no digest can be read as what
they stand for. A log that begins otherwise is one of another event, and of every other log that is
not decoded it is reported what is wrong: never that a parameter is left without a topic or a value.
What is decoded has one argument for each parameter. -/
theorem decodeLog_accepts (e : Event) (topics : List Hash) (data : Bytes) :
    ((∃ ev, e.decodeLog topics data = .ok ev) ↔ e.Accepts topics data) ∧
      (¬ e.Begins topics → e.decodeLog topics data =
        .error (.topicMismatch (Word.hex e.topic) (topics.head?.map Word.hex))) ∧
      (e.Begins topics → ¬ e.Accepts topics data →
        ∃ fault, e.decodeLog topics data = .error (.decode fault) ∧ e.Reports topics data fault) ∧
      (∀ name, e.decodeLog topics data ≠ .error (.decode (.missingTopic name)) ∧
        e.decodeLog topics data ≠ .error (.decode (.missingValue name))) ∧
      ∀ ev, e.decodeLog topics data = .ok ev → List.Forall₂ DecodedFor e.params ev.params := by
  refine ⟨decodeLog_isOk, fun h => decodeLog_of_not_begins h data, ?reported, ?supplied,
    fun ev => decodedFor_of_decodeLog⟩
  case reported =>
    intro hbegins hrefused
    cases hlog : e.decodeLog topics data with
    | ok ev => exact absurd (decodeLog_isOk.mp ⟨ev, hlog⟩) hrefused
    | error error =>
      obtain ⟨fault, rfl, hreports⟩ := decodeLog_reports hbegins error hlog
      exact ⟨fault, rfl, hreports⟩
  case supplied =>
    intro name
    by_cases hbegins : e.Begins topics
    · have hnever (fault : DecodeFault) (hlog : e.decodeLog topics data = .error (.decode fault)) :
          fault ≠ .missingTopic name ∧ fault ≠ .missingValue name := by
        obtain ⟨reported, heq, hreports⟩ := decodeLog_reports hbegins _ hlog
        obtain rfl := Error.decode.inj heq
        exact hreports.ne_missing name
      exact ⟨fun hlog => (hnever _ hlog).1 rfl, fun hlog => (hnever _ hlog).2 rfl⟩
    · rw [decodeLog_of_not_begins hbegins]
      exact ⟨by simp, by simp⟩

/-- An event with a digest, a truth value and an address: a log with all its topics is decoded, one
without topics is one of another event, and a topic too few or one that is no address is reported. -/
theorem decodeLog_accepts_mixed :
    let e : Event := ⟨"Sent", [⟨"note", .string, true⟩, ⟨"paid", .bool, false⟩,
      ⟨"to", .address, true⟩], false⟩
    (∃ ev, e.decodeLog [e.topic, 7, 5] (sizeWord 1) = .ok ev ∧
        List.Forall₂ DecodedFor e.params ev.params) ∧
      e.decodeLog [] (sizeWord 1) = .error (.topicMismatch (Word.hex e.topic) none) ∧
      (∃ fault, e.decodeLog [e.topic, 7] (sizeWord 1) = .error (.decode fault) ∧
        e.Reports [e.topic, 7] (sizeWord 1) fault) ∧
      ∃ fault, e.decodeLog [e.topic, 7, -1] (sizeWord 1) = .error (.decode fault) ∧
        e.Reports [e.topic, 7, -1] (sizeWord 1) fault := by
  intro e
  have hvalues : Abi.decode e.dataTypes (sizeWord 1) = .ok [.bool true] := by rfl
  have hto : decodeSingle .address (Word.bytes 5) = .ok (.address 5) := by rfl
  have hwide : ∀ v, decodeSingle .address (Word.bytes (-1)) ≠ .ok v := by
    intro v hv
    cases hv
  have hargs : ∀ entry ∈ e.indexed.zip [7, 5], entry.1.ReadFrom entry.2 := by
    change ∀ entry ∈ [((⟨"note", .string, true⟩ : EventParam), (7 : Hash)),
      (⟨"to", .address, true⟩, 5)], entry.1.ReadFrom entry.2
    rw [List.forall_mem_cons, List.forall_mem_singleton]
    exact ⟨fun h => (by cases h), fun _ => ⟨_, hto⟩⟩
  have hbegins (args : List Hash) : e.Begins (e.topic :: args) := Or.inr rfl
  have hnone : ¬ e.Begins [] := by
    rintro (h | h)
    · cases h
    · cases h
  obtain ⟨haccepts, -, -, -, hfor⟩ := decodeLog_accepts e [e.topic, 7, 5] (sizeWord 1)
  obtain ⟨-, hother, -⟩ := decodeLog_accepts e [] (sizeWord 1)
  obtain ⟨-, -, hfew, -⟩ := decodeLog_accepts e [e.topic, 7] (sizeWord 1)
  obtain ⟨-, -, hunread, -⟩ := decodeLog_accepts e [e.topic, 7, -1] (sizeWord 1)
  obtain ⟨ev, hev⟩ := haccepts.mpr ⟨hbegins _, rfl, ⟨_, hvalues⟩, hargs⟩
  refine ⟨⟨ev, hev, hfor ev hev⟩, hother hnone, hfew (hbegins _) fun h => ?_,
    hunread (hbegins _) fun h => ?_⟩
  · exact absurd h.count (by decide)
  · obtain ⟨v, hv⟩ := h.args (⟨"to", .address, true⟩, -1)
      (List.mem_cons_of_mem _ List.mem_cons_self) rfl
    exact hwide v hv

end Event

end ContractToolkit.Interface
