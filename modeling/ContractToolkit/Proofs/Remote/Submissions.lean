import ContractToolkit.Proofs.Interface.Declared
import ContractToolkit.Proofs.Interface.ParameterText
import ContractToolkit.Proofs.Remote.Ledger

/-!
# Every submission is the intended one

Of all that a session asks, a submission is the one that is intended by the action
its call was prepared with: target, data, value, signer and fees, by whatever rule
the fees are decided on. Where nobody signs, or the target takes no value, or the
arguments are none for it, no call is prepared. The fees that a policy has for a
function are those that were set last for its signature, or else for its name.
-/

namespace ContractToolkit

open Abi Interface Remote Session

namespace FeePolicy

/-- The fees that were set last under a key. -/
def lastSet? (sets : List (String × Fees)) (key : String) : Option Fees :=
  (sets.filter (·.1 = key)).getLast?.map Prod.snd

/-- The policy in which fees were set in a row. -/
def ofSets (fallback : Fees) (sets : List (String × Fees)) : FeePolicy :=
  sets.foldl (fun p set => p.override set.1 set.2) (uniform fallback)

/-- Looking fees up from the end finds those that were set last. -/
theorem lookup_reverse (sets : List (String × Fees)) (key : String) :
    sets.reverse.lookup key = lastSet? sets key := by
  -- The list is taken apart at its end, where the reversed one begins.
  induction sets using List.reverseRecOn with
  | nil => rfl
  | append_singleton sets set ih =>
    obtain ⟨other, fees⟩ := set
    rw [List.reverse_concat, lastSet?, List.filter_append]
    by_cases h : other = key
    · subst h
      simp
    · have hne : (key == other) = false := beq_false_of_ne (Ne.symm h)
      rw [List.lookup_cons, hne, ih, lastSet?]
      simp [h]

/-- A policy holds the fees that were set, in their order. -/
theorem ofSets_eq (fallback : Fees) (sets : List (String × Fees)) :
    ofSets fallback sets = ⟨fallback, sets⟩ := by
  rw [ofSets]
  induction sets using List.reverseRecOn with
  | nil => rfl
  | append_singleton sets set ih =>
    rw [List.foldl_concat, ih]
    rfl

/-- The name in the signature of a function. -/
theorem nameOf_signature {m : Method} (h : m.Declared) : nameOf m.signature = m.name := by
  obtain ⟨-, -, hopening⟩ := word_of_isIdentifier (Method.declared_iff.mp h).1
  rw [nameOf, Method.signature, toList_signature,
    List.takeWhile_append_of_pos (Text.bne_of_not_mem hopening)]
  simp

/-- The fees for a signature are those that were set last for it, or else for the name in it. -/
theorem feesFor_ofSets (fallback : Fees) (sets : List (String × Fees)) (signature : String) :
    (ofSets fallback sets).feesFor signature =
      ((lastSet? sets signature).or (lastSet? sets (nameOf signature))).getD fallback := by
  rw [ofSets_eq, feesFor, last?, last?, lookup_reverse, lookup_reverse]
  cases lastSet? sets signature with
  | none => rfl
  | some fees => rfl

end FeePolicy

namespace Session

/-- What was fixed to be submitted is what was intended. -/
theorem Origin.exists_intent {o : Origin} {submission : Submission} {fees : Fees} {signer : Signer}
    (h : o.request? = some (.submit submission fees signer)) :
    ∃ x, o.contract.intent? o.action = some x ∧ x.MetBy submission fees signer := by
  obtain hreads | ⟨x, hx, submitted, _, _, hrequest, hmet⟩ :=
    o.of_prepares (o.contract.prepare_asks o.action) h
  · exact hreads.elim
  · cases hrequest
    exact ⟨x, hx, hmet⟩

/-- Where something hinders, no call is kept. -/
theorem step_of_hindered {s : Session} {action : Action} {x : Intent}
    (h : s.contract.intent? action = some x) (hhindered : x.Hindered) :
    ∃ error, s.step (.prepare action) = (s, .refused error) := by
  rw [step]
  cases hprepared : s.contract.prepare action with
  | ok call =>
    obtain ⟨_, ⟨submission, fees, signer, -, hmet⟩, -⟩ :=
      (Contract.prepare_rules h).asks call hprepared
    exact absurd hhindered (Intent.exists_metBy.mp ⟨submission, fees, signer, hmet⟩)
  | error error => exact ⟨error, rfl⟩

/-- Where nothing hinders, a call is kept that submits what is intended. -/
theorem step_of_not_hindered {s : Session} {action : Action} {x : Intent}
    (h : s.contract.intent? action = some x) (hfree : ¬ x.Hindered)
    (hcode : x.target.recipient = none → x.target.front ≠ []) :
    ∃ call request, s.step (.prepare action) = s.keep call ∧ x.Wants request ∧
      Asks request call.operation := by
  have hrules := Contract.prepare_rules h
  obtain ⟨call, hprepared⟩ := hrules.exists_call hfree hcode
  obtain ⟨request, hwants, hasks⟩ := hrules.asks call hprepared
  refine ⟨call, request, ?_, hwants, hasks⟩
  rw [step, hprepared]

/-- Whatever is submitted in a session is intended by the action that the call was prepared with
which was sent then, with the fees that any rule has for its signature. Where nobody signs, the
target takes no value or the arguments are none for it, nothing is prepared, and otherwise a call
is, except for a creation without code. The fees of a policy are those that were set last for the
signature of a function, or else for its name, and deployments go under a name of their own. -/
theorem submissions_intended :
    (∀ (contract : Contract) (script : List Reply) (steps : List Step) (n : Nat)
        (submission : Submission) (fees : Fees) (signer : Signer),
      (({ contract, replies := script } : Session).runSteps steps).1.requests[n]? =
          some (.submit submission fees signer) →
        ∃ o x, (steps.foldl Ledger.step { contract }).sent[n]? = some o ∧
          o.contract.intent? o.action = some x ∧ x.MetBy submission fees signer) ∧
      (∀ (s : Session) (action : Action) (x : Intent), s.contract.intent? action = some x →
        (x.Hindered → ∃ error, s.step (.prepare action) = (s, .refused error)) ∧
          (¬ x.Hindered → (x.target.recipient = none → x.target.front ≠ []) →
            ∃ call request, s.step (.prepare action) = s.keep call ∧ x.Wants request ∧
              Asks request call.operation)) ∧
      ∀ (fallback : Fees) (sets : List (String × Fees)),
        (∀ m : Method, m.Declared →
          (FeePolicy.ofSets fallback sets).feesFor m.signature =
            ((FeePolicy.lastSet? sets m.signature).or
              (FeePolicy.lastSet? sets m.name)).getD fallback) ∧
          (FeePolicy.ofSets fallback sets).feesFor Client.creationLabel =
            (FeePolicy.lastSet? sets Client.creationLabel).getD fallback := by
  refine ⟨?submitted, ?prepared, fun fallback sets => ⟨?functions, ?deployments⟩⟩
  case submitted =>
    intro contract script steps n submission fees signer hn
    have hfollows := (Follows.opened contract script).runSteps steps
    obtain ⟨o, hsent, hrequest⟩ := hfollows.exists_sent hn
    obtain ⟨x, hx, hmet⟩ := Origin.exists_intent hrequest
    exact ⟨o, x, hsent, hx, hmet⟩
  case prepared =>
    intro s action x h
    exact ⟨step_of_hindered h, step_of_not_hindered h⟩
  case functions =>
    intro m hm
    rw [FeePolicy.feesFor_ofSets, FeePolicy.nameOf_signature hm]
  case deployments =>
    have hname : FeePolicy.nameOf Client.creationLabel = Client.creationLabel := rfl
    rw [FeePolicy.feesFor_ofSets, hname, Option.or_self]

/-- A deployment with native value, under a policy with fees for deployments and for a function by
its name and twice by its signature: what is submitted is what was intended. Without anyone who signs
the same deployment is refused. -/
theorem submissions_intended_deployed :
    let signer : Signer := ⟨5, fun _ => .error (.rpc "no signature")⟩
    let sets : List (String × Fees) := [("pay()", .legacy 1 none), ("constructor", .legacy 2 none),
      ("pay()", .legacy 3 none), ("pay", .legacy 4 none)]
    let interface : Interface := ⟨some ⟨[], true⟩, [], [], []⟩
    let contract : Contract := ⟨7, interface, { policy := FeePolicy.ofSets .unset sets, signer }⟩
    let unsigned : Contract := ⟨7, interface, { policy := FeePolicy.ofSets .unset sets }⟩
    let deploy : Action := .deploy [96, 0] [] 9
    let x : Intent := Deployment.intent ⟨contract.client, interface, [96, 0], 9⟩ []
    let y : Intent := Deployment.intent ⟨unsigned.client, interface, [96, 0], 9⟩ []
    let steps : List Step := [.prepare deploy, .copy 0, .send 1]
    ((({ contract, replies := [] } : Session).runSteps steps).1.requests[0]? =
          some (.submit ⟨none, [96, 0], 9⟩ (.legacy 2 none) signer) ∧
        ∃ o x, (steps.foldl Ledger.step { contract }).sent[0]? = some o ∧
          o.contract.intent? o.action = some x ∧
          x.MetBy ⟨none, [96, 0], 9⟩ (.legacy 2 none) signer) ∧
      (contract.intent? deploy = some x ∧ ¬ x.Hindered ∧
        ∃ call request, ({ contract, replies := [] } : Session).step (.prepare deploy) =
            ({ contract, replies := [] } : Session).keep call ∧
          x.Wants request ∧ Asks request call.operation) ∧
      (unsigned.intent? deploy = some y ∧ y.Hindered ∧
        ∃ error, ({ contract := unsigned, replies := [] } : Session).step (.prepare deploy) =
          ({ contract := unsigned, replies := [] }, .refused error)) ∧
      (Method.Declared ⟨"pay", [], [], .payable⟩ ∧
        (FeePolicy.ofSets .unset sets).feesFor "pay()" = .legacy 3 none) := by
  intro signer sets interface contract unsigned deploy x y steps
  obtain ⟨hsubmitted, hprepared, hfees⟩ := submissions_intended
  have hn : (({ contract, replies := [] } : Session).runSteps steps).1.requests[0]? =
      some (.submit ⟨none, [96, 0], 9⟩ (.legacy 2 none) signer) := rfl
  have hx : contract.intent? deploy = some x := rfl
  have hfree : ¬ x.Hindered := by
    rintro (h | ⟨-, h⟩ | ⟨_, h⟩)
    · cases h
    · cases h
    · cases h
  have hcode : x.target.recipient = none → x.target.front ≠ [] := fun _ => List.cons_ne_nil _ _
  have hy : unsigned.intent? deploy = some y := rfl
  have hhindered : y.Hindered := .inl rfl
  have hdeclared : Method.Declared ⟨"pay", [], [], .payable⟩ := rfl
  exact ⟨⟨hn, hsubmitted contract [] steps 0 _ _ _ hn⟩,
    ⟨hx, hfree, (hprepared { contract, replies := [] } deploy x hx).2 hfree hcode⟩,
    ⟨hy, hhindered, (hprepared { contract := unsigned, replies := [] } deploy y hy).1 hhindered⟩,
    hdeclared, ((hfees .unset sets).1 _ hdeclared).trans rfl⟩

end Session

end ContractToolkit
