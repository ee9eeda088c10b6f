import ContractToolkit.Interface.Store
import ContractToolkit.Proofs.Outcome

/-!
# Receipts and foreign logs

A receipt holds the logs of a whole transaction, most of which may be those of other
contracts, or of events that an interface does not declare. Such logs are foreign: what
is read of a receipt is what its own logs hold, one event for each of them in their
order, or the error of the first one that is not decoded. Foreign logs, whatever they
are and wherever they stand, neither hide an error nor make one.
-/

namespace ContractToolkit.Interface

open Abi Outcome

/-- A log of the wanted address, or of any if none is wanted, that belongs to an event of the
interface. -/
structure Concerns (i : Interface) (address : Option Address) (log : Log) (e : Event) : Prop where
  /-- The address is the wanted one. -/
  emitter : ∀ wanted ∈ address, log.address = wanted
  /-- The log belongs to the event. -/
  event : i.eventFor? log.topics = some e

/-- Whether a log is no foreign one. -/
def isOwn (i : Interface) (address : Option Address) (log : Log) : Bool :=
  isFrom address log && (i.eventFor? log.topics).isSome

variable {i : Interface} {address : Option Address} {log : Log} {e : Event}

/-- A log comes from the wanted address when it has that address, or none is wanted. -/
theorem isFrom_iff : isFrom address log = true ↔ ∀ wanted ∈ address, log.address = wanted := by
  cases address with
  | none => simp [isFrom]
  | some wanted => simp [isFrom, eq_comm]

/-- A log is own exactly when it concerns an event. -/
theorem isOwn_iff : i.isOwn address log = true ↔ ∃ e, i.Concerns address log e := by
  rw [isOwn, Bool.and_eq_true, isFrom_iff, Option.isSome_iff_exists]
  constructor
  · rintro ⟨hemitter, e, hevent⟩
    exact ⟨e, hemitter, hevent⟩
  · rintro ⟨e, hemitter, hevent⟩
    exact ⟨hemitter, e, hevent⟩

/-- A log that concerns an event is decoded as a log of this event. -/
theorem Concerns.decodeLog_eq (h : i.Concerns address log e) : i.decodeLog log = e.decode log := by
  rw [decodeLog, h.event]

/-- An own log is decoded as a log of the event that it concerns. -/
theorem decodeLog_own {outcome : Outcome DecodedEvent} :
    (i.isOwn address log = true ∧ i.decodeLog log = outcome) ↔
      ∃ e, i.Concerns address log e ∧ e.decode log = outcome := by
  rw [isOwn_iff]
  constructor
  · rintro ⟨⟨e, hconcerns⟩, houtcome⟩
    exact ⟨e, hconcerns, hconcerns.decodeLog_eq ▸ houtcome⟩
  · rintro ⟨e, hconcerns, houtcome⟩
    exact ⟨⟨e, hconcerns⟩, hconcerns.decodeLog_eq.trans houtcome⟩

/-- Own logs are decoded exactly when each event that is concerned decodes its log. -/
theorem forall_decoded_iff {logs : List Log} :
    (∀ log ∈ logs.filter (i.isOwn address), ∃ event, i.decodeLog log = .ok event) ↔
      ∀ log ∈ logs, ∀ e, i.Concerns address log e → ∃ event, e.decode log = .ok event := by
  constructor
  · intro h log hlog e hconcerns
    have hmem := List.mem_filter.mpr ⟨hlog, isOwn_iff.mpr ⟨e, hconcerns⟩⟩
    exact hconcerns.decodeLog_eq ▸ h log hmem
  · intro h log hmem
    obtain ⟨hlog, hown⟩ := List.mem_filter.mp hmem
    obtain ⟨e, hconcerns⟩ := isOwn_iff.mp hown
    exact hconcerns.decodeLog_eq ▸ h log hlog e hconcerns

/-- What is read of a receipt is what its own logs hold. -/
theorem decodeReceipt_eq_mapM (i : Interface) (address : Option Address) (logs : List Log) :
    i.decodeReceipt address logs = (logs.filter (i.isOwn address)).mapM i.decodeLog := by
  induction logs with
  | nil => rfl
  | cons log rest ih =>
    rw [decodeReceipt]
    cases hfrom : isFrom address log with
    | false =>
      have hforeign : ¬ i.isOwn address log = true := by simp [isOwn, hfrom]
      rw [if_neg Bool.false_ne_true, List.filter_cons_of_neg hforeign, ih]
    | true =>
      rw [if_pos rfl]
      cases hevent : i.eventFor? log.topics with
      | none =>
        have hforeign : ¬ i.isOwn address log = true := by simp [isOwn, hevent]
        rw [List.filter_cons_of_neg hforeign]
        exact ih
      | some e =>
        have hconcerns : i.Concerns address log e := ⟨isFrom_iff.mp hfrom, hevent⟩
        rw [List.filter_cons_of_pos (isOwn_iff.mpr ⟨e, hconcerns⟩), List.mapM_cons,
          hconcerns.decodeLog_eq]
        dsimp only
        rw [ih]

/-- A receipt is read exactly when its own logs are decoded one by one. -/
theorem decodeReceipt_eq_ok {logs : List Log} {events : List DecodedEvent} :
    i.decodeReceipt address logs = .ok events ↔
      List.Forall₂ (fun log event => ∃ e, i.Concerns address log e ∧ e.decode log = .ok event)
        (logs.filter (i.isOwn address)) events := by
  have hown : ∀ log ∈ logs.filter (i.isOwn address), i.isOwn address log = true :=
    fun log hlog => (List.mem_filter.mp hlog).2
  simp only [← decodeLog_own, List.forall₂_and_left, decodeReceipt_eq_mapM,
    mapM_eq_ok_iff_forall₂]
  exact (and_iff_right hown).symm

/-- A receipt is not read exactly when an own log is not decoded, and the first of these is told. -/
theorem decodeReceipt_eq_error {logs : List Log} {error : Error} :
    i.decodeReceipt address logs = .error error ↔
      ∃ before log after e, logs = before ++ log :: after ∧ i.Concerns address log e ∧
        e.decode log = .error error ∧
        ∀ earlier ∈ before, ∀ other, i.Concerns address earlier other →
          ∃ event, other.decode earlier = .ok event := by
  rw [decodeReceipt_eq_mapM, mapM_eq_error]
  constructor
  · rintro ⟨front, log, back, hsplit, hfront, hlog⟩
    obtain ⟨before, rest, rfl, rfl, hrest⟩ := List.filter_eq_append_iff.mp hsplit
    obtain ⟨skipped, after, rfl, hskipped, hown, -⟩ := List.filter_eq_cons_iff.mp hrest
    obtain ⟨e, hconcerns, herror⟩ := decodeLog_own.mp ⟨hown, hlog⟩
    refine ⟨before ++ skipped, log, after, e, by simp, hconcerns, herror, ?_⟩
    rw [← forall_decoded_iff, List.filter_append, List.filter_eq_nil_iff.mpr hskipped,
      List.append_nil]
    exact hfront
  · rintro ⟨before, log, after, e, rfl, hconcerns, herror, hbefore⟩
    obtain ⟨hown, hlog⟩ := decodeLog_own.mpr ⟨e, hconcerns, herror⟩
    refine ⟨before.filter (i.isOwn address), log, after.filter (i.isOwn address), ?_,
      forall_decoded_iff.mpr hbefore, hlog⟩
    rw [List.filter_append, List.filter_cons_of_pos hown]

/-- A receipt is read exactly when every own log is decoded. -/
theorem exists_decodeReceipt_iff {logs : List Log} :
    (∃ events, i.decodeReceipt address logs = .ok events) ↔
      ∀ log ∈ logs, ∀ e, i.Concerns address log e → ∃ event, e.decode log = .ok event := by
  constructor
  · rintro ⟨events, h⟩
    rw [decodeReceipt_eq_mapM] at h
    obtain ⟨members, hlogs, -, hmembers⟩ := mapM_eq_ok.mp h
    rw [← forall_decoded_iff, hlogs]
    exact List.forall_mem_map.mpr fun m hm => ⟨m.2, hmembers m hm⟩
  · intro h
    cases hresult : i.decodeReceipt address logs with
    | ok events => exact ⟨events, rfl⟩
    | error error =>
      obtain ⟨before, log, after, e, rfl, hconcerns, herror, -⟩ := decodeReceipt_eq_error.mp hresult
      have hmem : log ∈ before ++ log :: after := List.mem_append_right _ List.mem_cons_self
      obtain ⟨event, hevent⟩ := h log hmem e hconcerns
      rw [herror] at hevent
      cases hevent

/-- Receipts are not disturbed by foreign logs. A receipt is read exactly when every own log is
decoded by the event that it concerns; it then gives these events, one for each own log and in their
order, and otherwise the error of the first own log that is not decoded. So receipts with the same own
logs in the same order give the same, whatever foreign logs stand before, between and behind them. -/
theorem receipts_undisturbed (i : Interface) (address : Option Address) :
    (∀ logs, (∃ events, i.decodeReceipt address logs = .ok events) ↔
      ∀ log ∈ logs, ∀ e, i.Concerns address log e → ∃ event, e.decode log = .ok event) ∧
    (∀ logs events, i.decodeReceipt address logs = .ok events ↔
      List.Forall₂ (fun log event => ∃ e, i.Concerns address log e ∧ e.decode log = .ok event)
        (logs.filter (i.isOwn address)) events) ∧
    (∀ logs error, i.decodeReceipt address logs = .error error ↔
      ∃ before log after e, logs = before ++ log :: after ∧ i.Concerns address log e ∧
        e.decode log = .error error ∧
        ∀ earlier ∈ before, ∀ other, i.Concerns address earlier other →
          ∃ event, other.decode earlier = .ok event) ∧
    (∀ log, i.isOwn address log = true ↔ ∃ e, i.Concerns address log e) ∧
    ∀ logs others, logs.filter (i.isOwn address) = others.filter (i.isOwn address) →
      i.decodeReceipt address logs = i.decodeReceipt address others := by
  refine ⟨fun _ => exists_decodeReceipt_iff, fun _ _ => decodeReceipt_eq_ok,
    fun _ _ => decodeReceipt_eq_error, fun _ => isOwn_iff, fun logs others hsame => ?_⟩
  rw [decodeReceipt_eq_mapM, decodeReceipt_eq_mapM, hsame]

set_option maxRecDepth 4000 in
/-- Around an own log, the malformed log of another address and one with topics of no event change
nothing, and behind it a malformed own log is told in spite of them. -/
theorem receipts_undisturbed_around :
    let e : Event := ⟨"Note", [⟨"done", .bool, false⟩], true⟩
    let i : Interface := ⟨none, [], [e], []⟩
    let own : Log := { address := 7, topics := [], data := sizeWord 1 }
    let other : Log := { address := 8, topics := [], data := [1] }
    let unknown : Log := { address := 7, topics := [1, 2], data := [1] }
    let broken : Log := { address := 7, topics := [], data := [1] }
    (∃ event, e.decode own = .ok event ∧
      i.decodeReceipt (some 7) [other, own, unknown] = .ok [event]) ∧
      i.decodeReceipt (some 7) [other, own, unknown] = i.decodeReceipt (some 7) [own] ∧
      ∃ error, e.decode broken = .error error ∧
        i.decodeReceipt (some 7) [unknown, own, other, broken] = .error error := by
  intro e i own other unknown broken
  obtain ⟨hall, hread, hfailed, -, hsame⟩ := receipts_undisturbed i (some 7)
  have hown : i.Concerns (some 7) own e := ⟨isFrom_iff.mp rfl, rfl⟩
  have hbroken : i.Concerns (some 7) broken e := ⟨isFrom_iff.mp rfl, rfl⟩
  have hforeign : [other, own, unknown].filter (i.isOwn (some 7)) = [own] := rfl
  have halone : [own].filter (i.isOwn (some 7)) = [own] := rfl
  have hearlier : [unknown, own, other].filter (i.isOwn (some 7)) = [own] := rfl
  obtain ⟨event, hevent⟩ : ∃ event, e.decode own = .ok event := ⟨_, rfl⟩
  obtain ⟨error, herror⟩ : ∃ error, e.decode broken = .error error := ⟨_, rfl⟩
  have hdecoded {logs : List Log} (hlogs : logs.filter (i.isOwn (some 7)) = [own]) :
      i.decodeReceipt (some 7) logs = .ok [event] := by
    rw [hread, hlogs]
    exact .cons ⟨e, hown, hevent⟩ .nil
  have hsplit : [unknown, own, other, broken] = [unknown, own, other] ++ broken :: [] := rfl
  have htold : i.decodeReceipt (some 7) [unknown, own, other, broken] = .error error := by
    rw [hfailed]
    exact ⟨_, broken, [], e, hsplit, hbroken, herror, (hall _).mp ⟨_, hdecoded hearlier⟩⟩
  exact ⟨⟨event, hevent, hdecoded hforeign⟩, hsame _ _ (hforeign.trans halone.symm), error, herror,
    htold⟩

end ContractToolkit.Interface
