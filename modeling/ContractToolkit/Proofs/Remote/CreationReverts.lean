import ContractToolkit.Proofs.Interface.Reasons
import ContractToolkit.Proofs.Remote.Replies

/-!
# What the revert of a creation is told by

A creation goes through a client, and its revert is told by the errors which that
client knows. A client of a contract knows those of the interface, so that a
creation is told like any other call of the contract. A client that only has fees
and someone who signs knows none: the errors that the interface declares are then
left out, which shows exactly where the revert data hold one.
-/

namespace ContractToolkit

open Abi Interface Remote Outcome

namespace Deployment

variable {d : Deployment} {args : List Value} {call : Call Contract}

/-- A creation is resolved by a receipt, from which the contract is taken. -/
theorem deploy_resolves (hcall : d.deploy args = .ok call) :
    Resolves (reasonOf d.client.errors) Reply.mined? (Continued Receipt.Settles d.contractOf)
      call.operation := by
  obtain ⟨data, -, hcreate⟩ := bind_eq_ok.mp hcall
  obtain ⟨created, hcreated, hmapped⟩ := bind_eq_ok.mp hcreate
  obtain rfl := Except.ok.inj hmapped
  obtain ⟨signer, -, rfl⟩ := Client.create_eq_ok.mp hcreated
  exact (Client.submitting_resolves _ _ signer).continued _

/-- A client that knows no errors tells a revert with data as the interface does exactly when the
data hold no error that the interface declares. -/
theorem deploy_told_iff (hfresh : d.client.errors = []) (hcall : d.deploy args = .ok call)
    {replies : List Reply} {data : Bytes} {message : Option String} (hdata : data ≠ [])
    (hreply : nextAnswer Reply.mined? replies = .error (.revert data message)) :
    (call.operation.run replies).result = .error (.reverted (d.interface.revertReason data)) ↔
      ∀ e values, ¬ Raises d.interface.errors data e values := by
  have hresult := (deploy_resolves hcall).explained replies data message hdata hreply
  rw [hfresh] at hresult
  rw [hresult, ← reasonOf_nil_eq_iff, Interface.revertReason]
  constructor
  · intro h
    exact Error.reverted.inj (Except.error.inj h)
  · intro h
    rw [h]

/-- Where the data hold an error that the interface declares, such a client tells the octets. -/
theorem deploy_untold (hfresh : d.client.errors = []) (hcall : d.deploy args = .ok call)
    {replies : List Reply} {data : Bytes} {message : Option String} (hdata : data ≠ [])
    (hreply : nextAnswer Reply.mined? replies = .error (.revert data message))
    {e : CustomError} {values : List Value} (hraises : Raises d.interface.errors data e values) :
    (call.operation.run replies).result = .error (.reverted (unrecognized data)) := by
  have hresult := (deploy_resolves hcall).explained replies data message hdata hreply
  rw [hresult, hfresh, hraises.reasonOf_nil_eq]

end Deployment

/-- A revert with data of a creation is told by the errors of the interface if the creation goes
through the client of a contract with that interface. Through a client that knows no errors, as a
creation on its own does, it is told so exactly when the data hold none of these errors, and by the
octets otherwise. -/
theorem creation_reverts_told (interface : Interface) (bytecode : Bytes) (args : List Value) :
    (∀ (c : Contract), c.Bound → c.interface = interface → ∀ value call,
        Deployment.deploy ⟨c.client, interface, bytecode, value⟩ args = .ok call →
          Resolves interface.revertReason Reply.mined?
            (Continued Receipt.Settles
              (Deployment.contractOf ⟨c.client, interface, bytecode, value⟩)) call.operation) ∧
      (∀ (client : Client) value call, client.errors = [] →
        Deployment.deploy ⟨client, interface, bytecode, value⟩ args = .ok call →
          ∀ replies data message, data ≠ [] →
            nextAnswer Reply.mined? replies = .error (.revert data message) →
              ((call.operation.run replies).result =
                  .error (.reverted (interface.revertReason data)) ↔
                ∀ e values, ¬ Raises interface.errors data e values) ∧
              ∀ e values, Raises interface.errors data e values →
                (call.operation.run replies).result = .error (.reverted (unrecognized data))) ∧
      ∀ policy signer call, Contract.deploy policy signer interface bytecode args = .ok call →
        ∀ replies data message, data ≠ [] →
          nextAnswer Reply.mined? replies = .error (.revert data message) →
            ((call.operation.run replies).result =
                .error (.reverted (interface.revertReason data)) ↔
              ∀ e values, ¬ Raises interface.errors data e values) := by
  refine ⟨?bound, ?fresh, ?alone⟩
  case bound =>
    rintro c h rfl value call hcall
    have hreason : c.interface.revertReason = reasonOf c.client.errors := h.revertReason_eq
    rw [hreason]
    exact Deployment.deploy_resolves hcall
  case fresh =>
    intro client value call hfresh hcall replies data message hdata hreply
    exact ⟨Deployment.deploy_told_iff hfresh hcall hdata hreply,
      fun e values hraises => Deployment.deploy_untold hfresh hcall hdata hreply hraises⟩
  case alone =>
    intro policy signer call hcall replies data message hdata hreply
    exact Deployment.deploy_told_iff rfl hcall hdata hreply

/-- Three creations of a contract that declares an error with a parameter: through the client of a
contract with that interface, through a client that has fees and someone who signs, and on its own.
A revert whose octets are too few for a selector is told alike by all three; one with the error and
its argument is told as that error only by the first. -/
theorem creation_reverts_told_denied :
    let signer : Signer := ⟨5, fun _ => .error (.rpc "no signature")⟩
    let interface : Interface := ⟨none, [], [], [⟨"Denied", [⟨"code", .uint 8⟩]⟩]⟩
    let c := (Contract.bind 7 interface { policy := .uniform .unset }).withSigner signer
    let fresh : Deployment := ⟨{ policy := .uniform .unset, signer }, interface, [96, 0], 0⟩
    let denied : Bytes := [0xf4, 0x28, 0xb6, 0xf8] ++ (List.replicate 31 0 ++ [7])
    let short : List Reply := [.failure (.revert [1, 2] (some "reverted"))]
    let replies : List Reply := [.failure (.revert denied none)]
    c.Bound ∧
      (∃ call, Deployment.deploy ⟨c.client, interface, [96, 0], 0⟩ [] = .ok call ∧
        (call.operation.run short).result = .error (.reverted (interface.revertReason [1, 2])) ∧
        (call.operation.run replies).result = .error (.reverted "Denied(7)")) ∧
      (∃ call, fresh.deploy [] = .ok call ∧
        (call.operation.run short).result = .error (.reverted (interface.revertReason [1, 2])) ∧
        (call.operation.run replies).result = .error (.reverted (unrecognized denied))) ∧
      ∃ call, Contract.deploy (.uniform .unset) signer interface [96, 0] [] = .ok call ∧
        (call.operation.run short).result = .error (.reverted (interface.revertReason [1, 2])) ∧
        (call.operation.run replies).result ≠ .error (.reverted "Denied(7)") := by
  intro signer interface c fresh denied short replies
  have hbound : c.Bound := (Contract.Bound.bind 7 interface _).withSigner signer
  have hshort : ([1, 2] : Bytes) ≠ [] := List.cons_ne_nil _ _
  have hdata : denied ≠ [] := List.cons_ne_nil _ _
  have hnone : ∀ e values, ¬ Raises interface.errors [1, 2] e values := by
    intro e values h
    exact absurd h.long (by decide)
  have hselector : CustomError.selector ⟨"Denied", [⟨"code", .uint 8⟩]⟩ = 0xf428b6f8#32 := by
    decide +kernel
  have hraises : Raises interface.errors denied ⟨"Denied", [⟨"code", .uint 8⟩]⟩ [.uint 7 8] := by
    refine ⟨by decide, by decide, by decide, ?_, ?_⟩
    · exact List.find?_cons_of_pos (by simp only [hselector]; decide)
    · rw [CustomError.decode, hselector]
      rfl
  have hreason : interface.revertReason denied = "Denied(7)" := hraises.reasonOf_eq
  obtain ⟨htold, hfresh, halone⟩ := creation_reverts_told interface [96, 0] []
  refine ⟨hbound, ⟨_, rfl, ?_, ?_⟩, ⟨_, rfl, ?_, ?_⟩, ⟨_, rfl, ?_, ?_⟩⟩
  · exact (htold c hbound rfl 0 _ rfl).explained short [1, 2] (some "reverted") hshort rfl
  · rw [← hreason]
    exact (htold c hbound rfl 0 _ rfl).explained replies denied none hdata rfl
  · exact (hfresh fresh.client 0 _ rfl rfl short [1, 2] (some "reverted") hshort rfl).1.mpr hnone
  · exact (hfresh fresh.client 0 _ rfl rfl replies denied none hdata rfl).2 _ _ hraises
  · exact (halone _ signer _ rfl short [1, 2] (some "reverted") hshort rfl).mpr hnone
  · rw [← hreason]
    intro h
    exact (halone _ signer _ rfl replies denied none hdata rfl).mp h _ _ hraises

/-- A creation on its own that is reverted with a declared error is told by the octets, where the
interface gives the error. -/
theorem creation_hides_denied :
    let signer : Signer := ⟨5, fun _ => .error (.rpc "no signature")⟩
    let interface : Interface := ⟨none, [], [], [⟨"Denied", []⟩]⟩
    ∃ call, Contract.deploy (.uniform .unset) signer interface [96, 0] [] = .ok call ∧
      (call.operation.run [.failure (.revert [0xe3, 0x37, 0x2e, 0x2d] none)]).result =
        .error (.reverted "unrecognized revert data 0xe3372e2d") ∧
      interface.revertReason [0xe3, 0x37, 0x2e, 0x2d] = "Denied()" := by
  intro signer interface
  let d : Deployment := ⟨{ policy := .uniform .unset, signer }, interface, [96, 0], 0⟩
  have hselector : CustomError.selector ⟨"Denied", []⟩ = 0xe3372e2d#32 := by decide +kernel
  have hraises : Raises interface.errors [0xe3, 0x37, 0x2e, 0x2d] ⟨"Denied", []⟩ [] := by
    refine ⟨by decide, by decide, by decide, ?_, ?_⟩
    · exact List.find?_cons_of_pos (by simp only [hselector]; decide)
    · rw [CustomError.decode, hselector]
      rfl
  have hcall : d.deploy [] = .ok _ := rfl
  exact ⟨_, hcall, Deployment.deploy_untold rfl hcall (List.cons_ne_nil _ _) rfl hraises,
    hraises.reasonOf_eq⟩

end ContractToolkit
