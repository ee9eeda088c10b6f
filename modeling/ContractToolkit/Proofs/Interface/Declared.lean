import ContractToolkit.Interface.CustomError
import ContractToolkit.Interface.Event
import ContractToolkit.Proofs.Abi.Typing
import ContractToolkit.Proofs.Outcome

/-!
# Declared members

A member of an interface comes from a declaration that was checked: its name is
an identifier, its types can be declared, and an event has no more indexed
parameters than a log has topics for. All other modules take a member with
these facts and leave the checks closed.
-/

namespace ContractToolkit.Interface

open Abi Outcome

/-- A name is accepted exactly when it is an identifier. -/
theorem checkName_eq_ok {name : String} :
    checkName name = .ok () ↔ isIdentifier name.toList = true := by
  rw [checkName]
  by_cases hname : isIdentifier name.toList = true
  · simp [hname]
  · simp [hname]

/-- Parameters are accepted exactly when their types can be declared. -/
theorem checkParams_eq_ok {ps : List Param} :
    checkParams ps = .ok () ↔ Ty.faults? (tys ps) = none := by
  rw [checkParams]
  cases Ty.faults? (tys ps) with
  | none => simp
  | some fault => simp

/-- The types of the parameters of an event do not depend on their marks. -/
theorem tys_map_plain (ps : List EventParam) :
    tys (ps.map EventParam.plain) = ps.map EventParam.ty := by
  rw [tys, List.map_map]
  rfl

namespace Method

/-- The check that a function has passed. -/
def Declared (m : Method) : Prop := declare m.name m.inputs m.outputs m.mutability = .ok m

/-- A function is declared exactly when its name is an identifier and the types of its parameters
and return values can be declared. -/
theorem declared_iff {m : Method} :
    m.Declared ↔
      isIdentifier m.name.toList = true ∧ Ty.faults? (tys (m.inputs ++ m.outputs)) = none := by
  simp only [Declared, declare, test_eq_ok, pure_eq_ok, checkName_eq_ok, checkParams_eq_ok,
    and_true]

/-- The types of parameters and those of return values of a declared function can be declared. -/
theorem Declared.faults?_eq_none {m : Method} (h : m.Declared) :
    Ty.faults? (tys m.inputs) = none ∧ Ty.faults? (tys m.outputs) = none := by
  have htypes := Ty.faults?_eq_none.mp (declared_iff.mp h).2
  rw [tys, List.map_append, List.forall_mem_append] at htypes
  exact ⟨Ty.faults?_eq_none.mpr htypes.1, Ty.faults?_eq_none.mpr htypes.2⟩

/-- Whatever a declaration gives has passed the check. -/
theorem declared_of_declare {name : String} {inputs outputs : List Param} {mutability : Mutability}
    {m : Method} (h : declare name inputs outputs mutability = .ok m) : m.Declared := by
  have hsteps := h
  simp only [declare, test_eq_ok, pure_eq_ok] at hsteps
  obtain ⟨-, -, rfl⟩ := hsteps
  exact h

/-- The text of a function is checked as a declaration: its name stands in front of the first
parenthesis and its parameters behind it, whatever clause for return values there is. -/
theorem exists_declare_of_ofText {text : String} {m : Method} (h : ofText text = .ok m) :
    ∃ parts params outputs mutability, Declaration.ofChars "function" text.toList = .ok parts ∧
      paramList parts.params = .ok params ∧
      declare (String.ofList parts.name) (params.map EventParam.plain) outputs mutability =
        .ok m := by
  simp only [ofText, bind_eq_ok] at h
  obtain ⟨parts, hparts, params, hparams, mutability, -, h⟩ := h
  split at h
  · obtain ⟨outputs, -, hdeclare⟩ := bind_eq_ok.mp h
    exact ⟨parts, params, _, mutability, hparts, hparams, hdeclare⟩
  · split at h
    · obtain ⟨outputs, -, hdeclare⟩ := bind_eq_ok.mp h
      exact ⟨parts, params, _, mutability, hparts, hparams, hdeclare⟩
    · cases h

/-- A function that is read has passed the check. -/
theorem declared_of_ofText {text : String} {m : Method} (h : ofText text = .ok m) :
    m.Declared := by
  obtain ⟨_, _, _, _, -, -, hdeclare⟩ := exists_declare_of_ofText h
  exact declared_of_declare hdeclare

end Method

namespace Constructor

/-- The check that a constructor has passed. -/
def Declared (c : Constructor) : Prop := declare c.inputs c.payable = .ok c

/-- A constructor is declared exactly when the types of its parameters can be declared. -/
theorem declared_iff {c : Constructor} : c.Declared ↔ Ty.faults? (tys c.inputs) = none := by
  simp only [Declared, declare, test_eq_ok, pure_eq_ok, checkParams_eq_ok, and_true]

/-- Whatever a declaration gives has passed the check. -/
theorem declared_of_declare {inputs : List Param} {payable : Bool} {c : Constructor}
    (h : declare inputs payable = .ok c) : c.Declared := by
  have hsteps := h
  simp only [declare, test_eq_ok, pure_eq_ok] at hsteps
  obtain ⟨-, rfl⟩ := hsteps
  exact h

/-- A constructor that is read has passed the check. -/
theorem declared_of_ofText {text : String} {c : Constructor} (h : ofText text = .ok c) :
    c.Declared := by
  obtain ⟨parts, -, h⟩ := bind_eq_ok.mp h
  split at h
  · cases (test_eq_ok.mp h).1
  · obtain ⟨params, -, hdeclare⟩ := bind_eq_ok.mp h
    exact declared_of_declare hdeclare

end Constructor

namespace CustomError

/-- The check that an error has passed. -/
def Declared (e : CustomError) : Prop := declare e.name e.inputs = .ok e

/-- An error is declared exactly when its name is an identifier and the types of its parameters can
be declared. -/
theorem declared_iff {e : CustomError} :
    e.Declared ↔ isIdentifier e.name.toList = true ∧ Ty.faults? (tys e.inputs) = none := by
  simp only [Declared, declare, test_eq_ok, pure_eq_ok, checkName_eq_ok, checkParams_eq_ok,
    and_true]

/-- Whatever a declaration gives has passed the check. -/
theorem declared_of_declare {name : String} {inputs : List Param} {e : CustomError}
    (h : declare name inputs = .ok e) : e.Declared := by
  have hsteps := h
  simp only [declare, test_eq_ok, pure_eq_ok] at hsteps
  obtain ⟨-, -, rfl⟩ := hsteps
  exact h

/-- An error that is read has passed the check. -/
theorem declared_of_ofText {text : String} {e : CustomError} (h : ofText text = .ok e) :
    e.Declared := by
  obtain ⟨parts, -, h⟩ := bind_eq_ok.mp h
  split at h
  · cases (test_eq_ok.mp h).1
  · obtain ⟨params, -, hdeclare⟩ := bind_eq_ok.mp h
    exact declared_of_declare hdeclare

end CustomError

namespace Event

/-- The check that an event has passed. -/
def Declared (e : Event) : Prop := declare e.name e.params e.anonymous = .ok e

/-- An event is declared exactly when its name is an identifier, the types of its parameters can be
declared, and there is a topic for each indexed one. -/
theorem declared_iff {e : Event} :
    e.Declared ↔ isIdentifier e.name.toList = true ∧ Ty.faults? e.types = none ∧
      e.indexedCount ≤ mostIndexed e.anonymous := by
  simp only [Declared, declare, test_eq_ok, checkName_eq_ok, checkParams_eq_ok, tys_map_plain]
  refine and_congr_right fun _ => and_congr_right fun _ => ?_
  split
  · rename_i hmany
    simp only [test_eq_ok, reduceCtorEq, false_and, false_iff]
    exact Nat.not_le.mpr hmany
  · rename_i hfew
    simp only [pure_eq_ok, true_iff]
    exact Nat.not_lt.mp hfew

/-- Whatever a declaration gives has passed the check. -/
theorem declared_of_declare {name : String} {params : List EventParam} {anonymous : Bool}
    {e : Event} (h : declare name params anonymous = .ok e) : e.Declared := by
  have hsteps := h
  simp only [declare, test_eq_ok] at hsteps
  obtain ⟨-, -, hsteps⟩ := hsteps
  split at hsteps
  · rw [test_eq_ok] at hsteps
    cases hsteps.1
  · rw [pure_eq_ok] at hsteps
    obtain rfl := hsteps
    exact h

/-- An event that is read has passed the check. -/
theorem declared_of_ofText {text : String} {e : Event} (h : ofText text = .ok e) :
    e.Declared := by
  obtain ⟨parts, -, h⟩ := bind_eq_ok.mp h
  have hchecked (anonymous : Bool) (h : (paramList parts.params >>= fun params =>
      declare (String.ofList parts.name) params anonymous) = .ok e) : e.Declared := by
    obtain ⟨params, -, hdeclare⟩ := bind_eq_ok.mp h
    exact declared_of_declare hdeclare
  split at h
  · exact hchecked false h
  · split at h
    · exact hchecked true h
    · cases h

/-- Indexed parameters of a declared event fit the slots behind the digest of the signature. -/
theorem Declared.indexedCount_le {e : Event} (h : e.Declared) :
    e.signatureTopics + e.indexedCount ≤ topicSlots := by
  have hcount := (declared_iff.mp h).2.2
  rw [mostIndexed] at hcount
  rw [signatureTopics, topicSlots]
  cases hanonymous : e.anonymous with
  | true =>
    rw [if_pos hanonymous] at hcount
    simpa using hcount
  | false =>
    rw [if_neg (by simp [hanonymous])] at hcount
    rw [if_neg (by simp)]
    omega

/-- The types of indexed parameters of a declared event can be declared. -/
theorem Declared.fault?_eq_none {e : Event} (h : e.Declared) {p : EventParam} (hp : p ∈ e.params) :
    p.ty.fault? = none := by
  have htypes := (declared_iff.mp h).2.1
  exact Ty.faults?_eq_none.mp htypes p.ty (List.mem_map_of_mem hp)

end Event

end ContractToolkit.Interface
