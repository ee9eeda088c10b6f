import ContractToolkit.Fees.Amount
import ContractToolkit.Proofs.Decimal.PlainText
import ContractToolkit.Proofs.Outcome
import ContractToolkit.Settings.Check
import Mathlib.Data.List.TakeWhile

/-!
# Prices that can be paid

A price that passes the check of settings is at least zero, but need not be an
amount: a zero with a minus sign is refused, as no number with a sign is a negative
zero, and so is a price that 256 bits do not hold in wei. Every other price is the
amount of its decimals in wei.
-/

namespace ContractToolkit.Fees

open Double Settings

/-- The wei of a price, by the decimals in which it is set out. What is less than one is cut off. -/
def wei (price : Double) : Nat := (price.shortest .up).units gweiDecimals

/-- The digits of a price that count, as one number: decimals behind those of a gwei are left out,
and absent ones are not filled up. -/
def countedDigits (price : Double) : Nat :=
  let digits := price.shortest .up
  digits.units (min gweiDecimals digits.decimals)

/-- A price that is an amount: it has no minus sign, and a word holds its wei. -/
def Payable (price : Double) : Prop := price.isNegative = false ∧ wei price < 2 ^ 256

/-- Why a price that is at least zero is no amount. -/
inductive Refused (field : String) (price : Double) : Error → Prop
  /-- A zero with a minus sign. -/
  | negativeZero (sign : price.isNegative = true) :
      Refused field price (.config (.amount field .signedRange))
  /-- So many digits that a word does not hold them. -/
  | digits (plain : price.isNegative = false) (large : 2 ^ 256 ≤ countedDigits price) :
      Refused field price (.config (.amount field .tooLarge))
  /-- Digits that a word holds, but not when they are counted in wei. -/
  | scaled (plain : price.isNegative = false) (fits : countedDigits price < 2 ^ 256)
      (large : 2 ^ 256 ≤ wei price) : Refused field price .trap

variable {price : Double} {field : String}

/-- Absent decimals are filled up with zeros. -/
theorem wei_eq (price : Double) : wei price =
    countedDigits price * 10 ^ (gweiDecimals - (price.shortest .up).decimals) := by
  rw [wei, countedDigits]
  cases Nat.le_total gweiDecimals (price.shortest .up).decimals with
  | inl hle => rw [Nat.min_eq_left hle, Nat.sub_eq_zero_of_le hle, Nat.pow_zero, Nat.mul_one]
  | inr hge => rw [Nat.min_eq_right hge, Digits.units_of_le hge]

/-- A decimal text is split into its parts. -/
theorem splitPoint_pointed {whole behind : List Char} (h : '.' ∉ whole) :
    splitPoint (Digits.pointed whole behind) = (whole, behind) := by
  have hwhole : ∀ c ∈ whole, (c != '.') = true := by
    intro c hc
    rw [bne_iff_ne]
    rintro rfl
    exact h hc
  rw [splitPoint, Digits.pointed]
  split
  · rename_i hnone
    rw [List.takeWhile_eq_self_iff.mpr hwhole, List.dropWhile_eq_nil_iff.mpr hwhole, hnone]
    rfl
  · rw [List.takeWhile_append_of_pos hwhole, List.dropWhile_append_of_pos hwhole]
    simp

/-- Digits are taken for the number that they write, as far as a word holds it. -/
theorem unsignedAmount_of_writes {digits : List Char} {n : Nat} (h : Text.Writes 10 digits n) :
    unsignedAmount digits = if n < 2 ^ 256 then .ok n else .error .tooLarge := by
  obtain ⟨hdigits, hvalue⟩ := Text.writes_ten_iff.mp h
  rw [unsignedAmount, if_pos hdigits, hvalue]
  rfl

/-- What is finite is a number. -/
theorem isNaN_of_isFinite (hfinite : price.isFinite = true) : price.isNaN = false := by
  rw [isFinite, decide_eq_true_eq] at hfinite
  rw [isNaN, decide_eq_false (Nat.ne_of_lt hfinite), Bool.false_and]

/-- A finite number is set out as its sign and its shortest decimals. -/
theorem plain_of_isFinite (hfinite : price.isFinite = true) :
    price.plain = String.ofList (price.signText ++ (price.shortest .up).positional) := by
  rw [plain, isNaN_of_isFinite hfinite, if_neg Bool.false_ne_true, if_pos hfinite]

/-- The amount of a finite price without a sign is its wei, if a word holds them. -/
theorem weiOfGwei_of_plain (hfinite : price.isFinite = true) (hsign : price.isNegative = false) :
    weiOfGwei price =
      if countedDigits price < 2 ^ 256 then
        .ok (if wei price < 2 ^ 256 then some (BitVec.ofNat 256 (wei price)) else none)
      else .error .tooLarge := by
  obtain ⟨whole, behind, hparts, hset⟩ := Digits.exists_parts (price.shortest .up)
  have hpoint : '.' ∉ whole := by
    intro hmem
    obtain ⟨d, hd⟩ := hparts.value.digit_of_mem (List.mem_append_left _ hmem)
    cases hd
  have hcounted : Text.Writes 10 (whole ++ behind.take gweiDecimals) (countedDigits price) :=
    hparts.cut gweiDecimals
  have hamount := unsignedAmount_of_writes hcounted
  rw [weiOfGwei, plain_of_isFinite hfinite, String.toList_ofList, signText, hsign,
    if_neg Bool.false_ne_true, List.nil_append, hset, splitPoint_pointed hpoint]
  dsimp only
  split
  · rename_i rest hminus
    rw [hminus] at hcounted
    obtain ⟨d, hd⟩ := hcounted.digit_of_mem List.mem_cons_self
    cases hd
  · rw [hamount, wei_eq, hparts.places]
    by_cases hfits : countedDigits price < 2 ^ 256
    · rw [if_pos hfits, if_pos hfits]
      rfl
    · rw [if_neg hfits, if_neg hfits]
      rfl

/-- A zero is set out as one. -/
theorem shortest_of_isZero (tie : Tie) (hzero : price.isZero = true) :
    price.shortest tie = ⟨0, 0⟩ := by
  rw [shortest, if_pos hzero]

/-- A zero with a minus sign is no amount. -/
theorem weiOfGwei_negative_zero (hfinite : price.isFinite = true) (hzero : price.isZero = true)
    (hsign : price.isNegative = true) : weiOfGwei price = .error .signedRange := by
  rw [weiOfGwei, plain_of_isFinite hfinite, String.toList_ofList, signText, hsign, if_pos rfl,
    shortest_of_isZero _ hzero]
  rfl

/-- A price passes the check when it is finite, and has no minus sign unless it is a zero. -/
theorem checkFee_eq_ok : checkFee field price = .ok () ↔
    price.isFinite = true ∧ (price.isNegative = true → price.isZero = true) := by
  have hpasses : price.isFinite = true ∧ price.isNonNegative = true ↔
      price.isFinite = true ∧ (price.isNegative = true → price.isZero = true) := by
    refine and_congr_right fun hfinite => ?_
    rw [isNonNegative, isNaN_of_isFinite hfinite]
    cases price.isNegative <;> simp
  rw [← hpasses, checkFee]
  split
  · rename_i hprice
    exact iff_of_true rfl hprice
  · rename_i hprice
    exact iff_of_false nofun hprice

/-- A price can be paid or is refused. -/
theorem payable_or_refused (field : String) (price : Double) :
    Payable price ∨ ∃ e, Refused field price e := by
  cases hsign : price.isNegative with
  | true => exact Or.inr ⟨_, .negativeZero hsign⟩
  | false =>
    by_cases hwei : wei price < 2 ^ 256
    · exact Or.inl ⟨hsign, hwei⟩
    · by_cases hdigits : countedDigits price < 2 ^ 256
      · exact Or.inr ⟨_, .scaled hsign hdigits (Nat.le_of_not_lt hwei)⟩
      · exact Or.inr ⟨_, .digits hsign (Nat.le_of_not_lt hdigits)⟩

/-- In wei there are at least as many digits as count. -/
theorem countedDigits_le_wei (price : Double) : countedDigits price ≤ wei price := by
  rw [wei_eq]
  exact Nat.le_mul_of_pos_right _ (Nat.pow_pos (by decide))

/-- A price that is refused cannot be paid. -/
theorem Refused.not_payable {e : Error} (h : Refused field price e) : ¬ Payable price := by
  rintro ⟨hsign, hwei⟩
  cases h with
  | negativeZero sign =>
    rw [sign] at hsign
    cases hsign
  | digits _ large =>
    have hdigits := countedDigits_le_wei price
    omega
  | scaled _ _ large => omega

/-- A finite price that can be paid is the amount of its wei. -/
theorem amountOf_of_payable (hfinite : price.isFinite = true) (h : Payable price) :
    amountOf field (some price) = .ok (BitVec.ofNat 256 (wei price)) := by
  have hdigits : countedDigits price < 2 ^ 256 :=
    Nat.lt_of_le_of_lt (countedDigits_le_wei price) h.2
  rw [amountOf, weiOfGwei_of_plain hfinite h.1, if_pos hdigits, if_pos h.2]

/-- A refused price that passes the check fails for its reason. -/
theorem amountOf_of_refused {e : Error} (hcheck : checkFee field price = .ok ())
    (h : Refused field price e) : amountOf field (some price) = .error e := by
  obtain ⟨hfinite, hzero⟩ := checkFee_eq_ok.mp hcheck
  cases h with
  | negativeZero sign => rw [amountOf, weiOfGwei_negative_zero hfinite (hzero sign) sign]
  | digits plain large =>
    rw [amountOf, weiOfGwei_of_plain hfinite plain, if_neg (Nat.not_lt.mpr large)]
  | scaled plain fits large =>
    rw [amountOf, weiOfGwei_of_plain hfinite plain, if_pos fits, if_neg (Nat.not_lt.mpr large)]

/-- Of a price that passes the check there is an amount exactly when it can be paid. -/
theorem amountOf_eq_ok {amount : Word} (hcheck : checkFee field price = .ok ()) :
    amountOf field (some price) = .ok amount ↔
      Payable price ∧ BitVec.ofNat 256 (wei price) = amount := by
  cases payable_or_refused field price with
  | inl hpayable =>
    rw [amountOf_of_payable (checkFee_eq_ok.mp hcheck).1 hpayable, Except.ok.injEq]
    exact (and_iff_right hpayable).symm
  | inr hrefused =>
    obtain ⟨e, he⟩ := hrefused
    rw [amountOf_of_refused hcheck he]
    exact iff_of_false nofun fun h => he.not_payable h.1

/-- A price that passes the check fails exactly for the reasons for which it is refused. -/
theorem amountOf_eq_error {e : Error} (hcheck : checkFee field price = .ok ()) :
    amountOf field (some price) = .error e ↔ Refused field price e := by
  constructor
  · intro h
    cases payable_or_refused field price with
    | inl hpayable =>
      rw [amountOf_of_payable (checkFee_eq_ok.mp hcheck).1 hpayable] at h
      cases h
    | inr hrefused =>
      obtain ⟨reason, hreason⟩ := hrefused
      rw [amountOf_of_refused hcheck hreason] at h
      exact Except.error.inj h ▸ hreason
  · exact amountOf_of_refused hcheck

/-! ### The prices that a mode needs -/

/-- The prices that a mode needs, by the names of their fields. -/
def neededPrices (s : FeeSettings) : List (String × Option Double) :=
  match s.mode with
  | .legacy => [("gas_price_gwei", s.gasPrice)]
  | .eip1559 => [("max_fee_gwei", s.maxFee), ("max_priority_fee_gwei", s.maxPriorityFee)]
  | .estimate => []

/-- All prices that a mode needs can be paid. -/
def AllPayable (s : FeeSettings) : Prop :=
  ∀ field price, (field, some price) ∈ neededPrices s → Payable price

/-- The fees that settings stand for: the wei of the prices that the mode needs, and the limit. -/
inductive Charges : FeeSettings → Fees → Prop
  | legacy {price : Double} {maxFee maxPriorityFee : Option Double} {limit : Option Nat} :
      Charges ⟨.legacy, some price, maxFee, maxPriorityFee, limit⟩
        (.legacy (BitVec.ofNat 256 (wei price)) (limit.map (BitVec.ofNat 256)))
  | eip1559 {gasPrice : Option Double} {maxFee maxPriorityFee : Double} {limit : Option Nat} :
      Charges ⟨.eip1559, gasPrice, some maxFee, some maxPriorityFee, limit⟩
        (.eip1559 (BitVec.ofNat 256 (wei maxFee)) (BitVec.ofNat 256 (wei maxPriorityFee))
          (limit.map (BitVec.ofNat 256)))
  | estimate {gasPrice maxFee maxPriorityFee : Option Double} {limit : Option Nat} :
      Charges ⟨.estimate, gasPrice, maxFee, maxPriorityFee, limit⟩
        (.estimate (limit.map (BitVec.ofNat 256)))

/-- Settings whose prices pass the check: those that the mode needs are set. -/
inductive Checked : FeeSettings → Prop
  | legacy {price : Double} {maxFee maxPriorityFee : Option Double} {limit : Option Nat}
      (check : checkFee "gas_price_gwei" price = .ok ()) :
      Checked ⟨.legacy, some price, maxFee, maxPriorityFee, limit⟩
  | eip1559 {gasPrice : Option Double} {maxFee maxPriorityFee : Double} {limit : Option Nat}
      (check : checkFee "max_fee_gwei" maxFee = .ok ())
      (checkPriority : checkFee "max_priority_fee_gwei" maxPriorityFee = .ok ()) :
      Checked ⟨.eip1559, gasPrice, some maxFee, some maxPriorityFee, limit⟩
  | estimate {gasPrice maxFee maxPriorityFee : Option Double} {limit : Option Nat} :
      Checked ⟨.estimate, gasPrice, maxFee, maxPriorityFee, limit⟩

variable {s : FeeSettings}

/-- A price that is required has to be set. -/
theorem requireFee_eq_ok {mode : FeeMode} {set : Option Double} :
    requireFee mode field set = .ok price ↔ set = some price := by
  cases set <;> simp [requireFee]

/-- The check of prices wants each price that the mode needs, and checks it. -/
theorem checked_of_checkPrices (h : s.checkPrices = .ok ()) : Checked s := by
  obtain ⟨mode, gasPrice, maxFee, maxPriorityFee, limit⟩ := s
  cases mode with
  | legacy =>
    obtain ⟨price, hprice, hcheck⟩ := Outcome.bind_eq_ok.mp h
    obtain rfl := requireFee_eq_ok.mp hprice
    exact .legacy hcheck
  | eip1559 =>
    obtain ⟨price, hprice, h⟩ := Outcome.bind_eq_ok.mp h
    obtain ⟨priority, hpriority, h⟩ := Outcome.bind_eq_ok.mp h
    obtain ⟨hcheck, hcheckPriority⟩ := Outcome.test_eq_ok.mp h
    obtain rfl := requireFee_eq_ok.mp hprice
    obtain rfl := requireFee_eq_ok.mp hpriority
    exact .eip1559 hcheck hcheckPriority
  | estimate => exact .estimate

/-- There are fees that settings whose prices pass the check stand for. -/
theorem Checked.exists_charges (h : Checked s) : ∃ fees, Charges s fees := by
  cases h with
  | legacy _ => exact ⟨_, .legacy⟩
  | eip1559 _ _ => exact ⟨_, .eip1559⟩
  | estimate => exact ⟨_, .estimate⟩

/-- Settings whose prices pass the check are fees exactly when all of these prices can be paid, and
they are the fees that they stand for. -/
theorem Checked.ofSettings_eq_ok {fees : Fees} (h : Checked s) :
    ofSettings s = .ok fees ↔ AllPayable s ∧ Charges s fees := by
  cases h with
  | @legacy price maxFee maxPriorityFee limit check =>
    change (amountOf _ _ >>= fun amount => pure _) = _ ↔ _
    rw [Outcome.bind_eq_ok]
    constructor
    · rintro ⟨amount, hamount, hfees⟩
      obtain ⟨hpayable, rfl⟩ := (amountOf_eq_ok check).mp hamount
      cases hfees
      refine ⟨fun field price hneed => ?_, .legacy⟩
      cases List.mem_singleton.mp hneed
      exact hpayable
    · rintro ⟨hall, hcharges⟩
      cases hcharges
      exact ⟨_, (amountOf_eq_ok check).mpr ⟨hall _ _ List.mem_cons_self, rfl⟩, rfl⟩
  | @eip1559 gasPrice maxFee maxPriorityFee limit check checkPriority =>
    change (amountOf _ _ >>= fun amount => amountOf _ _ >>= fun priority => pure _) = _ ↔ _
    rw [Outcome.bind_eq_ok]
    constructor
    · rintro ⟨amount, hamount, hrest⟩
      obtain ⟨priority, hpriority, hfees⟩ := Outcome.bind_eq_ok.mp hrest
      obtain ⟨hpayable, rfl⟩ := (amountOf_eq_ok check).mp hamount
      obtain ⟨hpayablePriority, rfl⟩ := (amountOf_eq_ok checkPriority).mp hpriority
      cases hfees
      refine ⟨fun field price hneed => ?_, .eip1559⟩
      cases List.mem_cons.mp hneed with
      | inl hfirst =>
        cases hfirst
        exact hpayable
      | inr hsecond =>
        cases List.mem_singleton.mp hsecond
        exact hpayablePriority
    · rintro ⟨hall, hcharges⟩
      cases hcharges
      have hpayable := hall _ _ List.mem_cons_self
      have hpayablePriority := hall _ _ (List.mem_cons_of_mem _ List.mem_cons_self)
      exact ⟨_, (amountOf_eq_ok check).mpr ⟨hpayable, rfl⟩, Outcome.bind_eq_ok.mpr
        ⟨_, (amountOf_eq_ok checkPriority).mpr ⟨hpayablePriority, rfl⟩, rfl⟩⟩
  | estimate =>
    constructor
    · intro hfees
      cases hfees
      exact ⟨nofun, .estimate⟩
    · rintro ⟨-, hcharges⟩
      cases hcharges
      rfl

/-- Settings whose prices pass the check fail for a price that is refused. -/
theorem Checked.refused {e : Error} (h : Checked s) (hfail : ofSettings s = .error e) :
    ∃ field price, (field, some price) ∈ neededPrices s ∧ Refused field price e := by
  cases h with
  | legacy check =>
    cases Outcome.bind_eq_error.mp hfail with
    | inl hprice => exact ⟨_, _, List.mem_cons_self, (amountOf_eq_error check).mp hprice⟩
    | inr hlast =>
      obtain ⟨amount, -, hlast⟩ := hlast
      cases hlast
  | eip1559 check checkPriority =>
    cases Outcome.bind_eq_error.mp hfail with
    | inl hprice => exact ⟨_, _, List.mem_cons_self, (amountOf_eq_error check).mp hprice⟩
    | inr hrest =>
      obtain ⟨amount, -, hrest⟩ := hrest
      cases Outcome.bind_eq_error.mp hrest with
      | inl hpriority =>
        exact ⟨_, _, List.mem_cons_of_mem _ List.mem_cons_self,
          (amountOf_eq_error checkPriority).mp hpriority⟩
      | inr hlast =>
        obtain ⟨priority, -, hlast⟩ := hlast
        cases hlast
  | estimate => cases hfail

end ContractToolkit.Fees
