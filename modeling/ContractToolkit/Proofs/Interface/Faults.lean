import ContractToolkit.Interface.CustomError
import ContractToolkit.Proofs.Interface.LogAcceptance

/-!
# How the decoding of logs, calls and reverts fails

Logs, call data and revert data come from outside like the octets of values. A
log is refused as one of another event or its octets are reported; call data
and revert data are reported; a reason is always given. Where data is cut
behind a selector, and where a reason passes over a failed decoding, the
operation is set beside one that traps wherever a cut or a decoder can trap.
-/

namespace ContractToolkit

/-- An error that reports a log: it is of another event, or it cannot be decoded. -/
def Error.IsLogFault (e : Error) : Prop :=
  e.IsDecode ∨ ∃ expected found, e = .topicMismatch expected found

namespace Outcome

/-- Passing over failures that are no traps always succeeds. -/
theorem passOver_eq {α : Type} {x : Outcome α} (h : FailsWith Error.IsDecode x) :
    passOver x = .ok x.toOption := by
  cases x with
  | ok a => rfl
  | error e =>
    obtain ⟨fault, rfl⟩ := h e rfl
    rfl

end Outcome

namespace Interface

open Abi Outcome

/-- The first octets of data that is long enough are cut without a trap, and so is the rest. -/
theorem sliceTrapping_selector {data : Bytes} (h : ¬ data.length < 4) :
    sliceTrapping data 0 4 = .ok (data.take 4) ∧
      sliceTrapping data 4 (data.length - 4) = .ok (data.drop 4) := by
  constructor
  · rw [sliceTrapping_of_le (by omega), List.drop_zero]
  · rw [sliceTrapping_of_le (by omega), List.take_of_length_le (Nat.le_of_eq List.length_drop)]

/-- Data begins with a selector exactly when it has four octets and these are its octets. -/
theorem isPrefixOf_selector {selector : Selector} {data : Bytes} :
    selector.bytes.isPrefixOf data = true ↔ ¬ data.length < 4 ∧ data.take 4 = selector.bytes := by
  rw [List.isPrefixOf_iff_prefix, List.prefix_iff_eq_take, Selector.length_bytes]
  constructor
  · intro h
    have hlength := congrArg List.length h
    rw [Selector.length_bytes, List.length_take] at hlength
    exact ⟨by omega, h.symm⟩
  · rintro ⟨-, h⟩
    exact h.symm

/-- Behind a selector nothing traps before the values are decoded. -/
theorem decodeBehind_eq (selector : Selector) (types : List Ty) (refused : DecodeFault)
    (data : Bytes) :
    decodeBehind selector types refused data =
      if selector.bytes.isPrefixOf data then decode types (data.drop 4)
      else .error (.decode refused) := by
  by_cases hshort : data.length < 4
  · rw [decodeBehind, if_pos hshort, if_neg fun h => (isPrefixOf_selector.mp h).1 hshort]
  · obtain ⟨hfirst, hrest⟩ := sliceTrapping_selector hshort
    rw [decodeBehind, if_neg hshort, hfirst, hrest]
    by_cases heq : data.take 4 = selector.bytes
    · rw [if_pos (isPrefixOf_selector.mpr ⟨hshort, heq⟩)]
      exact if_pos heq
    · rw [if_neg fun h => heq (isPrefixOf_selector.mp h).2]
      exact if_neg heq

/-- Decoding behind a selector gives values or reports the octets. -/
theorem decodeBehind_failsWith (selector : Selector) (types : List Ty) (refused : DecodeFault)
    (data : Bytes) : FailsWith Error.IsDecode (decodeBehind selector types refused data) := by
  rw [decodeBehind_eq]
  split
  · exact decode_failsWith types _
  · exact .error (.intro _)

/-- The arguments of a call are decoded behind the selector of the function. -/
theorem Method.decodeInput_eq (m : Method) (calldata : Bytes) :
    m.decodeInput calldata =
      decodeBehind m.selector (tys m.inputs) (.callSelector m.selector m.signature) calldata := by
  rw [decodeBehind_eq, decodeInput]

/-- The arguments of an error are decoded behind its selector. -/
theorem CustomError.decode_eq (e : CustomError) (data : Bytes) :
    e.decode data = decodeBehind e.selector (tys e.inputs) (.errorSelector e.signature) data := by
  rw [decodeBehind_eq, decode]

/-- A log is of another event, is reported, or is decoded. -/
theorem Event.decodeLog_failsWith (e : Event) (topics : List Hash) (data : Bytes) :
    FailsWith Error.IsLogFault (e.decodeLog topics data) := by
  by_cases hbegins : e.Begins topics
  · refine (decodeLog_reports hbegins).mono ?_
    rintro _ ⟨fault, rfl, -⟩
    exact Or.inl (.intro fault)
  · rw [decodeLog_of_not_begins hbegins]
    exact .error (Or.inr ⟨_, _, rfl⟩)

/-- A reason is given for all revert data, without a trap. -/
theorem reasonTrapping_eq (errors : List CustomError) (data : Bytes) :
    reasonTrapping errors data = .ok (reasonOf errors data) := by
  by_cases hempty : data.isEmpty
  · rw [reasonTrapping, reasonOf, if_pos hempty, if_pos hempty]
    rfl
  by_cases hshort : data.length < 4
  · rw [reasonTrapping, reasonOf, if_neg hempty, if_neg hempty, if_pos hshort, if_pos hshort]
    rfl
  obtain ⟨hfirst, hrest⟩ := sliceTrapping_selector hshort
  rw [reasonTrapping, reasonOf, if_neg hempty, if_neg hempty, if_neg hshort, if_neg hshort, hfirst,
    hrest]
  dsimp only [bind, Except.bind]
  by_cases htext : Selector.ofBytes (data.take 4) = textSelector
  · rw [if_pos htext, if_pos htext, passOver_eq (decodeSingle_failsWith .string _)]
    cases decodeSingle .string (data.drop 4) with
    | error e => rfl
    | ok v => cases v <;> rfl
  · rw [if_neg htext, if_neg htext]
    by_cases hpanic : Selector.ofBytes (data.take 4) = panicSelector
    · rw [if_pos hpanic, if_pos hpanic, passOver_eq (decodeSingle_failsWith (.uint 256) _)]
      cases decodeSingle (.uint 256) (data.drop 4) with
      | error e => rfl
      | ok v => cases v <;> rfl
    · rw [if_neg hpanic, if_neg hpanic]
      cases errors.find? (·.selector = Selector.ofBytes (data.take 4)) with
      | none => rfl
      | some e =>
        dsimp only
        rw [passOver_eq (decodeBehind_failsWith _ _ _ _), ← CustomError.decode_eq]
        cases e.decode data with
        | error fault => rfl
        | ok args => rfl

/-- Octets and topics of any origin trap nowhere, whatever the declarations are: types are decoded
or their octets reported, a log is decoded, reported or refused as one of another event, the
arguments of calls and errors are decoded or reported behind a selector, and revert data has a
reason. -/
theorem decoding_never_traps (data : Bytes) :
    (∀ types : List Ty, (∃ values, decode types data = .ok values) ∨
        ∃ fault, decode types data = .error (.decode fault)) ∧
      (∀ (e : Event) (topics : List Hash), FailsWith Error.IsLogFault (e.decodeLog topics data)) ∧
        (∀ m : Method, FailsWith Error.IsDecode (m.decodeInput data) ∧
          m.decodeInput data = decodeBehind m.selector (tys m.inputs)
            (.callSelector m.selector m.signature) data) ∧
        (∀ e : CustomError, FailsWith Error.IsDecode (e.decode data) ∧
          e.decode data = decodeBehind e.selector (tys e.inputs) (.errorSelector e.signature)
            data) ∧
          ∀ errors : List CustomError,
            reasonTrapping errors data = .ok (reasonOf errors data) := by
  refine ⟨fun types => ?_, fun e topics => e.decodeLog_failsWith topics data, fun m => ?_,
    fun e => ?_, fun errors => reasonTrapping_eq errors data⟩
  · cases h : decode types data with
    | ok values => exact Or.inl ⟨values, rfl⟩
    | error e =>
      obtain ⟨fault, rfl⟩ := decode_failsWith types data e h
      exact Or.inr ⟨fault, rfl⟩
  · have hbehind := m.decodeInput_eq data
    exact ⟨hbehind ▸ decodeBehind_failsWith _ _ _ _, hbehind⟩
  · have hbehind := e.decode_eq data
    exact ⟨hbehind ▸ decodeBehind_failsWith _ _ _ _, hbehind⟩

end Interface

end ContractToolkit
