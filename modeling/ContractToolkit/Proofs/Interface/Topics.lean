import ContractToolkit.Proofs.Abi.SingleWords
import ContractToolkit.Proofs.Interface.Declared

/-!
# Topics of arguments

An argument of an elementary type is logged as the word that the encoder writes
for it, and is read back from that word; the topic that is asked for and the
argument that is decoded therefore determine each other. Every other argument
is logged as a digest, which is handed on as it is.
-/

namespace ContractToolkit

namespace Interface.Event

open Abi Outcome

/-- The topic of an elementary value is the word that the encoder writes for it. -/
theorem topicFor_elementary {t : Ty} {v : Value} {topic : Hash} (elementary : t.isHashed = false)
    (hdeclared : t.fault? = none) :
    topicFor t v = .ok topic ↔ HasType v t ∧ v.octets = Word.bytes topic := by
  by_cases hty : v.ty = t
  · subst hty
    have hstatic : v.isDynamic = false := by
      rw [← v.isDynamic_ty]
      exact (Ty.headSize_elementary elementary).1
    have hencode : topicFor v.ty v = (do
        let word ← sliceTrapping (← encodeSingle v) 0 wordSize
        return Word.ofBytes word) := by
      rw [topicFor.eq_def, if_neg (not_not_intro rfl)]
      split
      · contradiction
      · contradiction
      · rw [elementary, if_neg Bool.false_ne_true]
    have hslice {octets word : Bytes} (hlength : octets.length = wordSize) :
        sliceTrapping octets 0 wordSize = .ok word ↔ word = octets := by
      rw [sliceTrapping, if_pos (by omega), List.drop_zero,
        List.take_of_length_le (Nat.le_of_eq hlength), Except.ok.injEq]
      exact eq_comm
    rw [hencode]
    simp only [bind_eq_ok, pure_eq_ok, encodeSingle_eq_ok hstatic]
    constructor
    · rintro ⟨octets, ⟨typed, -, rfl⟩, word, hword, rfl⟩
      have hlength := typed.length_octets elementary hdeclared
      rw [hslice hlength] at hword
      rw [hword, Word.bytes_ofBytes hlength]
      exact ⟨typed, rfl⟩
    · rintro ⟨typed, hoctets⟩
      have hlength := typed.length_octets elementary hdeclared
      refine ⟨v.octets, ⟨typed, hdeclared, rfl⟩, v.octets, (hslice hlength).mpr rfl, ?_⟩
      rw [hoctets, Word.ofBytes_bytes]
  · constructor
    · intro h
      rw [topicFor.eq_def, if_pos hty] at h
      cases h
    · rintro ⟨typed, -⟩
      exact absurd typed.ty_eq hty

/-- The argument that a topic stands for. -/
def argOfTopic (t : Ty) (topic : Hash) : Outcome EventArg :=
  if t.isHashed then .ok (.hashed topic) else (decodeSingle t (Word.bytes topic)).map .value

/-- The argument of an elementary type is the value whose word the topic is. -/
theorem argOfTopic_elementary {t : Ty} {topic : Hash} {arg : EventArg}
    (elementary : t.isHashed = false) :
    argOfTopic t topic = .ok arg ↔
      ∃ v, decodeSingle t (Word.bytes topic) = .ok v ∧ arg = .value v := by
  rw [argOfTopic, elementary, if_neg Bool.false_ne_true]
  cases decodeSingle t (Word.bytes topic) with
  | error e => simp [Except.map]
  | ok v => simp [Except.map, eq_comm]

/-- An indexed parameter takes the first topic. -/
theorem mergeArgs_indexed {p : EventParam} (hindexed : p.indexed = true) (rest : List EventParam)
    (topic : Hash) (topics : List Hash) (values : List Value) :
    mergeArgs (p :: rest) (topic :: topics) values = do
      let arg ← argOfTopic p.ty topic
      let others ← mergeArgs rest topics values
      return ⟨p.name, true, arg⟩ :: others := by
  rw [mergeArgs.eq_def]
  dsimp only
  rw [if_pos hindexed, argOfTopic]
  cases p.ty.isHashed with
  | true => rfl
  | false => rfl

/-- Every other parameter takes the first value. -/
theorem mergeArgs_plain {p : EventParam} (hindexed : p.indexed = false) (rest : List EventParam)
    (topics : List Hash) (v : Value) (values : List Value) :
    mergeArgs (p :: rest) topics (v :: values) = do
      let others ← mergeArgs rest topics values
      return ⟨p.name, false, .value v⟩ :: others := by
  rw [mergeArgs.eq_def]
  dsimp only
  rw [hindexed, if_neg Bool.false_ne_true]

/-- The topics in front of those of the arguments. -/
def front (e : Event) : List Hash := if e.anonymous then [] else [e.topic]

/-- There is a topic for the signature unless the event is anonymous. -/
theorem length_front (e : Event) : e.front.length = e.signatureTopics := by
  rw [front, signatureTopics]
  cases e.anonymous with
  | true => rfl
  | false => rfl

/-- The topics of arguments stand behind those in front. -/
theorem argTopics_eq_ok {e : Event} {topics args : List Hash} :
    e.argTopics topics = .ok args ↔ topics = e.front ++ args := by
  rw [argTopics.eq_def, front]
  cases e.anonymous with
  | true => simp
  | false =>
    cases topics with
    | nil => simp
    | cons first rest =>
      by_cases hfirst : first = e.topic
      · simp [hfirst]
      · simp [hfirst]

/-- A report about the data of an event does not change the values. -/
theorem forData_eq_ok {α : Type} {signature : String} {x : Outcome α} {a : α} :
    forData signature x = .ok a ↔ x = .ok a := by
  cases x with
  | ok b => rfl
  | error fault => cases fault <;> simp [forData]

/-- A log is decoded exactly when it begins with the topics in front, has one more topic for each
indexed parameter, and its topics and data hold the arguments. -/
theorem decodeLog_eq_ok {e : Event} {topics : List Hash} {data : Bytes} {ev : DecodedEvent} :
    e.decodeLog topics data = .ok ev ↔
      ∃ args values params, topics = e.front ++ args ∧ args.length = e.indexedCount ∧
        Abi.decode e.dataTypes data = .ok values ∧ mergeArgs e.params args values = .ok params ∧
          ev = { name := e.name, signature := e.signature, params } := by
  simp only [decodeLog, bind_eq_ok, argTopics_eq_ok]
  refine exists_congr fun args => ?_
  constructor
  · rintro ⟨rfl, h⟩
    split at h
    · rw [test_eq_ok] at h
      cases h.1
    · rename_i hcount
      simp only [bind_eq_ok, forData_eq_ok, pure_eq_ok] at h
      obtain ⟨values, hvalues, params, hparams, rfl⟩ := h
      rw [topicCount, List.length_append, length_front] at hcount
      exact ⟨values, params, rfl, by omega, hvalues, hparams, rfl⟩
  · rintro ⟨values, params, rfl, hcount, hvalues, hparams, rfl⟩
    refine ⟨rfl, ?_⟩
    rw [if_neg (by rw [topicCount, List.length_append, length_front]; omega)]
    simp only [bind_eq_ok, forData_eq_ok, pure_eq_ok]
    exact ⟨values, hvalues, params, hparams, rfl⟩

end Interface.Event

end ContractToolkit
