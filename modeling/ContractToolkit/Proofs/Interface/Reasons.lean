import ContractToolkit.Interface.Store
import ContractToolkit.Proofs.Bytes.HexText

/-!
# Which declared error a revert tells

A declared error counts for a reason only where the revert data hold it: the
selector is neither that of a text nor that of a panic, the error is the first of
the declared ones with that selector, and its arguments are decoded. Anywhere else
the reason is the one that would be given if no errors were declared, and an error
that is held never reads like the octets themselves.
-/

namespace ContractToolkit.Interface

open Abi

/-- Revert data hold a declared error with its arguments. -/
structure Raises (errors : List CustomError) (data : Bytes) (e : CustomError)
    (args : List Value) : Prop where
  /-- There is a selector. -/
  long : 4 ≤ data.length
  /-- It is not that of `Error(string)`. -/
  noText : Selector.ofBytes (data.take 4) ≠ textSelector
  /-- It is not that of `Panic(uint256)`. -/
  noPanic : Selector.ofBytes (data.take 4) ≠ panicSelector
  /-- The error is the first one with this selector. -/
  first : errors.find? (·.selector = Selector.ofBytes (data.take 4)) = some e
  /-- The arguments are decoded. -/
  decoded : e.decode data = .ok args

variable {errors : List CustomError} {data : Bytes} {e : CustomError} {args : List Value}

/-- Revert data that hold an error are not empty. -/
theorem Raises.isEmpty_eq (h : Raises errors data e args) : data.isEmpty = false := by
  cases data with
  | nil => exact absurd h.long (Nat.not_succ_le_zero 3)
  | cons octet rest => rfl

/-- An error that revert data hold is told with its arguments. -/
theorem Raises.reasonOf_eq (h : Raises errors data e args) :
    reasonOf errors data = raised e args := by
  have hlong : ¬ data.length < 4 := Nat.not_lt.mpr h.long
  simp [reasonOf, h.isEmpty_eq, hlong, h.noText, h.noPanic, h.first, h.decoded]

/-- Revert data that hold no declared error are told as if none was declared. -/
theorem reasonOf_of_not_raises (h : ∀ e args, ¬ Raises errors data e args) :
    reasonOf errors data = reasonOf [] data := by
  simp only [reasonOf, List.find?_nil]
  split
  · rfl
  · split
    · rfl
    · rename_i hlong
      split
      · rfl
      · rename_i hnoText
        split
        · rfl
        · rename_i hnoPanic
          -- Only here the declared errors are looked at.
          cases hfirst : errors.find? (·.selector = Selector.ofBytes (data.take 4)) with
          | none => rfl
          | some e =>
            cases hdecoded : e.decode data with
            | ok args =>
              exact absurd ⟨Nat.not_lt.mp hlong, hnoText, hnoPanic, hfirst, hdecoded⟩ (h e args)
            | error error => simp only [hdecoded]

/-- Without declared errors, the data of one are told as they are. -/
theorem Raises.reasonOf_nil_eq (h : Raises errors data e args) :
    reasonOf [] data = unrecognized data := by
  have hlong : ¬ data.length < 4 := Nat.not_lt.mpr h.long
  simp [reasonOf, h.isEmpty_eq, hlong, h.noText, h.noPanic]

/-- No hexadecimal digit is a parenthesis. -/
theorem opening_not_mem_hex (data : Bytes) : '(' ∉ data.hex.toList := by
  have hdigit : ∀ n < 16, '(' ≠ Nat.digitChar n := by decide
  have hpair (b : UInt8) : '(' ∉ hexPair b := by
    simp [hexPair, hdigit _ (Hex.high_lt b), hdigit _ (Hex.low_lt b)]
  rw [Bytes.hex, String.toList_ofList, Bytes.hexDigits]
  simp [hpair]

/-- Octets that say nothing are told by their digits. -/
theorem toList_unrecognized (data : Bytes) :
    (unrecognized data).toList = "unrecognized revert data ".toList ++ data.hex.toList :=
  String.toList_append

/-- A declared error with its arguments never reads like the octets themselves. -/
theorem raised_ne_unrecognized (e : CustomError) (args : List Value) (data : Bytes) :
    raised e args ≠ unrecognized data := by
  intro h
  have hopening : '(' ∈ (raised e args).toList := by
    simp [raised]
  rw [h, toList_unrecognized, List.mem_append] at hopening
  obtain hwords | hhex := hopening
  · simp at hwords
  · exact opening_not_mem_hex data hhex

/-- The declared errors change the reason that revert data give exactly when the data hold one. -/
theorem reasonOf_nil_eq_iff :
    reasonOf [] data = reasonOf errors data ↔ ∀ e args, ¬ Raises errors data e args := by
  constructor
  · intro h e args hraises
    rw [hraises.reasonOf_nil_eq, hraises.reasonOf_eq] at h
    exact raised_ne_unrecognized e args data h.symm
  · intro h
    exact (reasonOf_of_not_raises h).symm

end ContractToolkit.Interface
