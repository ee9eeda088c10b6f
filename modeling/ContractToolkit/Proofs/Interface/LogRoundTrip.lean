import ContractToolkit.Proofs.Abi.RoundTrip
import ContractToolkit.Proofs.Interface.Topics

/-!
# Logged events are read back

A contract logs the arguments of an event in two places: the indexed ones as
topics, all others encoded in the data, each in declared order. Decoding takes
them from both places again and gives every parameter its own argument, or the
digest that was logged for it.
-/

namespace ContractToolkit.Interface

open Abi Outcome

/-- An argument that is logged for a parameter. -/
structure LoggedArg where
  /-- The parameter. -/
  param : EventParam
  /-- The argument. -/
  value : Value
  /-- The digest that is logged where the type of the parameter is hashed. -/
  digest : Hash

namespace LoggedArg

/-- The topic of an indexed argument: any digest where the type is hashed, the word of the argument
otherwise. -/
def topic (a : LoggedArg) : Outcome Hash :=
  if a.param.ty.isHashed then .ok a.digest else Event.topicFor a.param.ty a.value

/-- What is known of an argument from the log. -/
def known (a : LoggedArg) : EventArg :=
  if a.param.indexed && a.param.ty.isHashed then .hashed a.digest else .value a.value

/-- The parameter as it is decoded. -/
def decoded (a : LoggedArg) : DecodedParam := ⟨a.param.name, a.param.indexed, a.known⟩

/-- The arguments that are logged as topics. -/
def indexed (args : List LoggedArg) : List LoggedArg := args.filter (·.param.indexed)

/-- The arguments that are logged in the data. -/
def plain (args : List LoggedArg) : List LoggedArg := args.filter (!·.param.indexed)

/-- The data of a log. -/
def data (args : List LoggedArg) : Outcome Bytes := encode ((plain args).map value)

/-- The topics of a log of an event. -/
def topics (e : Event) (args : List LoggedArg) : Outcome (List Hash) := do
  let topics ← (indexed args).mapM topic
  return e.front ++ topics

/-- An accepted argument of the type of its parameter has a topic, from which it is known. -/
theorem exists_topic {a : LoggedArg} (hindexed : a.param.indexed = true)
    (htype : a.value.ty = a.param.ty) (haccepted : a.value.fault? = none) :
    ∃ topic, a.topic = .ok topic ∧ Event.argOfTopic a.param.ty topic = .ok a.known := by
  rw [topic, known, hindexed, Bool.true_and]
  cases hashed : a.param.ty.isHashed with
  | true =>
    refine ⟨a.digest, if_pos rfl, ?_⟩
    rw [Event.argOfTopic, hashed, if_pos rfl, if_pos rfl]
  | false =>
    obtain ⟨typed, hdeclared⟩ := Value.hasType_of_fault? haccepted
    rw [htype] at typed hdeclared
    have hword := (Word.bytes_ofBytes (typed.length_octets hashed hdeclared)).symm
    refine ⟨Word.ofBytes a.value.octets, ?_, ?_⟩
    · rw [if_neg Bool.false_ne_true]
      exact (Event.topicFor_elementary hashed hdeclared).mpr ⟨typed, hword⟩
    · rw [if_neg Bool.false_ne_true]
      exact (Event.argOfTopic_elementary hashed).mpr
        ⟨a.value, (decodeSingle_elementary hashed hdeclared).mpr ⟨typed, hword⟩, rfl⟩

/-- The arguments are taken back in declared order from their topics and from the values of the
data. -/
theorem exists_topics {args : List LoggedArg} (htypes : ∀ a ∈ args, a.value.ty = a.param.ty)
    (haccepted : ∀ a ∈ args, a.value.fault? = none) :
    ∃ topics, (indexed args).mapM topic = .ok topics ∧ topics.length = (indexed args).length ∧
      Event.mergeArgs (args.map param) topics ((plain args).map value) =
        .ok (args.map decoded) := by
  induction args with
  | nil => exact ⟨[], rfl, rfl, rfl⟩
  | cons a rest ih =>
    obtain ⟨topics, htopics, hcount, hmerge⟩ := ih
      (fun b hb => htypes b (List.mem_cons_of_mem _ hb))
      (fun b hb => haccepted b (List.mem_cons_of_mem _ hb))
    cases hindexed : a.param.indexed with
    | true =>
      obtain ⟨first, hfirst, hknown⟩ := exists_topic hindexed (htypes a List.mem_cons_self)
        (haccepted a List.mem_cons_self)
      have hindexedArgs : indexed (a :: rest) = a :: indexed rest :=
        List.filter_cons_of_pos hindexed
      have hplainArgs : plain (a :: rest) = plain rest :=
        List.filter_cons_of_neg (by simp [hindexed])
      refine ⟨first :: topics, ?_, ?_, ?_⟩
      · rw [hindexedArgs, List.mapM_cons, hfirst, htopics]
        rfl
      · rw [hindexedArgs, List.length_cons, List.length_cons, hcount]
      · rw [hplainArgs, List.map_cons, List.map_cons, Event.mergeArgs_indexed hindexed, hknown,
          hmerge, decoded, hindexed]
        rfl
    | false =>
      have hindexedArgs : indexed (a :: rest) = indexed rest :=
        List.filter_cons_of_neg (by simp [hindexed])
      have hplainArgs : plain (a :: rest) = a :: plain rest :=
        List.filter_cons_of_pos (by simp [hindexed])
      have hknown : a.known = .value a.value := by
        rw [known, hindexed]
        rfl
      refine ⟨topics, ?_, ?_, ?_⟩
      · rw [hindexedArgs, htopics]
      · rw [hindexedArgs, hcount]
      · rw [hplainArgs, List.map_cons, List.map_cons, List.map_cons,
          Event.mergeArgs_plain hindexed, hmerge, decoded, hindexed, hknown]
        rfl

end LoggedArg

namespace Event

/-- Arguments of the types of the parameters that the encoder accepts can be logged, and the log is
decoded to every parameter in declared order with its argument, or with the digest that was logged
for it; the data must not be longer than a size can say, and the elements of all sequences in it
must take room. -/
theorem decodeLog_logged (e : Event) {args : List LoggedArg} {accepted : Bytes}
    (hparams : args.map LoggedArg.param = e.params)
    (htypes : ∀ a ∈ args, a.value.ty = a.param.ty)
    (haccepted : encode (args.map LoggedArg.value) = .ok accepted)
    (hroomy : ∀ a ∈ args, a.param.indexed = false → a.value.roomy = true) :
    ∃ topics data, LoggedArg.topics e args = .ok topics ∧ LoggedArg.data args = .ok data ∧
      (data.length < Machine.sizeLimit →
        e.decodeLog topics data = .ok
          { name := e.name
            signature := e.signature
            params := args.map LoggedArg.decoded }) := by
  rw [encode_eq_ok_iff, Value.faults?_eq_none] at haccepted
  have hfaults : ∀ a ∈ args, a.value.fault? = none :=
    fun a ha => haccepted.1 a.value (List.mem_map_of_mem ha)
  obtain ⟨argTopics, htopics, hcount, hmerge⟩ := LoggedArg.exists_topics htypes hfaults
  have hplain {a : LoggedArg} (ha : a ∈ LoggedArg.plain args) :
      a ∈ args ∧ a.param.indexed = false := by
    simpa [LoggedArg.plain] using ha
  have hdata : LoggedArg.data args =
      .ok (layOut (Value.parts ((LoggedArg.plain args).map LoggedArg.value))) := by
    refine encode_eq_ok_iff.mpr ⟨Value.faults?_eq_none.mpr fun v hv => ?_, rfl⟩
    obtain ⟨a, ha, rfl⟩ := List.mem_map.mp hv
    exact hfaults a (hplain ha).1
  refine ⟨e.front ++ argTopics, _, ?_, hdata, fun hlimit => ?_⟩
  · rw [LoggedArg.topics, htopics]
    rfl
  · have hroom : Value.allRoomy ((LoggedArg.plain args).map LoggedArg.value) = true := by
      refine Value.allRoomy_iff.mpr fun v hv => ?_
      obtain ⟨a, ha, rfl⟩ := List.mem_map.mp hv
      exact hroomy a (hplain ha).1 (hplain ha).2
    have hvalues := decode_encode_of_roomy hdata hlimit hroom
    have hdataTypes : e.dataTypes = Value.tys ((LoggedArg.plain args).map LoggedArg.value) := by
      rw [dataTypes, ← hparams, List.filter_map, List.map_map, Value.tys_eq_map, List.map_map]
      exact List.map_congr_left fun a ha => (htypes a (hplain ha).1).symm
    have hindexed : argTopics.length = e.indexedCount := by
      rw [hcount, indexedCount, Event.indexed, ← hparams, List.filter_map, List.length_map]
      rfl
    rw [hparams] at hmerge
    exact decodeLog_eq_ok.mpr
      ⟨argTopics, _, _, rfl, hindexed, hdataTypes ▸ hvalues, hmerge, rfl⟩

set_option maxRecDepth 4000 in
/-- Topics and data take turns: a text is known by its digest, an address by its word. -/
theorem decodeLog_logged_interleaved :
    let note : EventParam := ⟨"note", .string, true⟩
    let amounts : EventParam := ⟨"amounts", .array (.uint 16), false⟩
    let receiver : EventParam := ⟨"receiver", .address, true⟩
    let done : EventParam := ⟨"done", .bool, false⟩
    let e : Event := ⟨"Sent", [note, amounts, receiver, done], false⟩
    let list : Value := .array (.uint 16) [.uint 1 16, .uint 2 16]
    let args : List LoggedArg :=
      [⟨note, .string "paid", 7⟩, ⟨amounts, list, 0⟩, ⟨receiver, .address 5, 0⟩,
        ⟨done, .bool true, 0⟩]
    let data := layOut (Value.parts [list, .bool true])
    args.map LoggedArg.param = e.params ∧ (∀ a ∈ args, a.value.ty = a.param.ty) ∧
      (∃ accepted, encode (args.map LoggedArg.value) = .ok accepted) ∧
        (∀ a ∈ args, a.param.indexed = false → a.value.roomy = true) ∧
          e.decodeLog [e.topic, 7, 5] data = .ok
            { name := "Sent"
              signature := e.signature
              params := [⟨"note", true, .hashed 7⟩, ⟨"amounts", false, .value list⟩,
                ⟨"receiver", true, .value (.address 5)⟩,
                ⟨"done", false, .value (.bool true)⟩] } := by
  intro note amounts receiver done e list args data
  have hparams : args.map LoggedArg.param = e.params := rfl
  have htypes : ∀ a ∈ args, a.value.ty = a.param.ty := by
    simp [args, note, amounts, receiver, done, list, Value.ty]
  have haccepted : encode (args.map LoggedArg.value) =
      .ok (layOut (Value.parts (args.map LoggedArg.value))) := rfl
  have hroomy : ∀ a ∈ args, a.param.indexed = false → a.value.roomy = true := by
    simp [args, note, amounts, receiver, done, list, Value.roomy, Value.allRoomy]
    rfl
  obtain ⟨topics, octets, htopics, hdata, hdecoded⟩ :=
    decodeLog_logged e hparams htypes haccepted hroomy
  obtain rfl : [e.topic, 7, 5] = topics := Except.ok.inj htopics
  obtain rfl : data = octets := Except.ok.inj hdata
  exact ⟨hparams, htypes, ⟨_, haccepted⟩, hroomy, hdecoded (by decide)⟩

end Event

end ContractToolkit.Interface
