import ContractToolkit.Proofs.Bytes.FixedTexts
import ContractToolkit.Proofs.Settings.BlockTexts
import ContractToolkit.Proofs.Settings.PayablePrices

/-!
# Settings that can be used

A simulated call takes fees, a block and possibly a caller from settings. The check
of settings wants a block that can be read, and prices that are at least zero. It
leaves open whether these are amounts, and says nothing of the caller, so that
checked settings can still fail the call: exactly those with a price that cannot be
paid, or with a caller that is no address.
-/

namespace ContractToolkit

namespace Settings

/-- Settings from which a call can take what it needs. -/
structure Usable (s : Settings) : Prop where
  /-- There are fees. -/
  fees : ∃ fees, Fees.ofSettings s.fees = .ok fees
  /-- A caller is an address. -/
  caller : ∀ text, s.call.caller = some text → ∃ a, Address.ofText text = .ok a
  /-- There is a block to read from. -/
  block : ∃ b, Block.ofText? s.call.block = some b

variable {s : Settings}

/-- The check wants prices that pass and a block that can be read. -/
theorem checked_of_check (h : s.check = .ok ()) :
    Fees.Checked s.fees ∧ ∃ b, Block.ofText? s.call.block = some b := by
  obtain ⟨-, h⟩ := Outcome.test_eq_ok.mp h
  obtain ⟨-, h⟩ := Outcome.test_eq_ok.mp h
  obtain ⟨hprices, h⟩ := Outcome.test_eq_ok.mp h
  obtain ⟨-, hcall⟩ := Outcome.test_eq_ok.mp h
  refine ⟨Fees.checked_of_checkPrices hprices, ?_⟩
  rw [CallSettings.check] at hcall
  split at hcall
  · rename_i hblock
    rwa [isBlockTag_eq, Option.isSome_iff_exists] at hblock
  · cases hcall

/-- Checked settings can be used if and only if all prices that the mode needs can be paid and the
caller, if there is one, is an address. They are fees if and only if the prices can be paid: those
that the prices come to in wei. Otherwise one of the prices is refused, as a negative zero or for
its size. The block can be read in any case, and any caller passes the check. -/
theorem checked_usable_iff (h : s.check = .ok ()) :
    (s.Usable ↔ Fees.AllPayable s.fees ∧
      ∀ text, s.call.caller = some text → ∃ a : Address, a.IsText text) ∧
    (∀ fees, Fees.ofSettings s.fees = .ok fees ↔
      Fees.AllPayable s.fees ∧ Fees.Charges s.fees fees) ∧
    (∀ e, Fees.ofSettings s.fees = .error e → ∃ field price,
      (field, some price) ∈ Fees.neededPrices s.fees ∧ Fees.Refused field price e) ∧
    (∃ b, Block.ofText? s.call.block = some b) ∧
    ∀ caller, ({ s with call := { s.call with caller := caller } } : Settings).check = .ok () := by
  obtain ⟨hchecked, hblock⟩ := checked_of_check h
  refine ⟨⟨fun husable => ?_, fun ⟨hpayable, hcaller⟩ => ?_⟩, fun fees => hchecked.ofSettings_eq_ok,
    fun e => hchecked.refused, hblock, fun caller => h⟩
  · obtain ⟨fees, hfees⟩ := husable.fees
    refine ⟨(hchecked.ofSettings_eq_ok.mp hfees).1, fun text htext => ?_⟩
    obtain ⟨a, ha⟩ := husable.caller text htext
    exact ⟨a, Address.ofText_eq_ok.mp ha⟩
  · obtain ⟨fees, hcharges⟩ := hchecked.exists_charges
    have hfees := hchecked.ofSettings_eq_ok.mpr ⟨hpayable, hcharges⟩
    refine ⟨⟨fees, hfees⟩, fun text htext => ?_, hblock⟩
    obtain ⟨a, ha⟩ := hcaller text htext
    exact ⟨a, Address.ofText_eq_ok.mpr ha⟩

/-- Settings with a price of one and a half gwei, and a caller with a blank between its digits. -/
theorem checked_usable_iff_priced :
    let s : Settings := {
      fees := { mode := .legacy, gasPrice := some ⟨0x3ff8000000000000⟩ }
      call := { caller := some "0x0000000000000000000 00000000000000000000A" } }
    s.check = .ok () ∧ s.Usable ∧ Fees.ofSettings s.fees = .ok (.legacy 1500000000 none) := by
  intro s
  have hcheck : s.check = .ok () := by decide
  have hwei : Fees.wei ⟨0x3ff8000000000000⟩ = 1500000000 := by decide +kernel
  have hpayable : Fees.AllPayable s.fees := by
    intro field price hneed
    cases List.mem_singleton.mp hneed
    exact ⟨rfl, by rw [hwei]; decide⟩
  have hcaller : ∀ text, s.call.caller = some text → ∃ a : Address, a.IsText text := by
    rintro _ ⟨⟩
    exact ⟨10, by decide, Text.hexValue?_eq_some.mp (by decide)⟩
  obtain ⟨husable, hfees, -⟩ := checked_usable_iff hcheck
  refine ⟨hcheck, husable.mpr ⟨hpayable, hcaller⟩, (hfees _).mpr ⟨hpayable, ?_⟩⟩
  have hcharges : Fees.Charges s.fees
      (.legacy (BitVec.ofNat 256 (Fees.wei ⟨0x3ff8000000000000⟩)) none) := .legacy
  rwa [hwei] at hcharges

/-- Checked settings that cannot be used: a price of zero with a minus sign, one that a word holds
in gwei but not in wei, and a caller that is no address. -/
theorem checked_not_usable :
    let priced (price : Double) : Settings :=
      { fees := { mode := .legacy, gasPrice := some price } }
    let negativeZero := priced ⟨0x8000000000000000⟩
    let large := priced ⟨0x4e772ebad6ddc73d⟩
    let called : Settings := { call := { caller := some "nobody" } }
    (negativeZero.check = .ok () ∧ ¬ negativeZero.Usable ∧ Fees.ofSettings negativeZero.fees =
      .error (.config (.amount "gas_price_gwei" .signedRange))) ∧
    (large.check = .ok () ∧ ¬ large.Usable ∧ Fees.ofSettings large.fees = .error .trap) ∧
    called.check = .ok () ∧ ¬ called.Usable ∧
      Address.ofText "nobody" = .error (.notDigit 'n' 0) := by
  intro priced negativeZero large called
  have hzero : Fees.ofSettings negativeZero.fees =
      .error (.config (.amount "gas_price_gwei" .signedRange)) := by rfl
  have hlarge : Fees.ofSettings large.fees = .error .trap := by
    have hrefused : Fees.Refused "gas_price_gwei" ⟨0x4e772ebad6ddc73d⟩ .trap :=
      .scaled rfl (by decide +kernel) (by decide +kernel)
    exact Outcome.bind_eq_error.mpr (Or.inl ((Fees.amountOf_eq_error (by decide)).mpr hrefused))
  have hcalled : Address.ofText "nobody" = .error (.notDigit 'n' 0) := by rfl
  refine ⟨⟨by decide, fun husable => ?_, hzero⟩, ⟨by decide, fun husable => ?_, hlarge⟩, by decide,
    fun husable => ?_, hcalled⟩
  · obtain ⟨fees, hfees⟩ := husable.fees
    rw [hzero] at hfees
    cases hfees
  · obtain ⟨fees, hfees⟩ := husable.fees
    rw [hlarge] at hfees
    cases hfees
  · obtain ⟨a, ha⟩ := husable.caller _ rfl
    rw [hcalled] at ha
    cases ha

end Settings

end ContractToolkit
