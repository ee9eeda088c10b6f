import ContractToolkit.Interface.Store
import ContractToolkit.Proofs.Abi.RoundTrip
import ContractToolkit.Proofs.Interface.Faults
import ContractToolkit.Proofs.Interface.Lookup

/-!
# Payloads are read back

Call data and revert data are a selector with the encoded arguments behind it,
and creation data are the code with the encoded arguments behind it. Arguments
that their encoding carries are read back behind the selector, and behind the
code; data with another selector, or too short for one, is refused. Where
functions have selectors of their own, call data is enough to find the function
among them.
-/

namespace ContractToolkit

namespace Abi

/-- Octets that carry arguments: they encode them for their types, are no more than a size can say,
and no sequence in the arguments has elements without room. -/
structure Carries (types : List Ty) (octets : Bytes) (args : List Value) : Prop where
  /-- The arguments are encoded. -/
  encoded : encodeParams types args = .ok octets
  /-- A size says how long the encoding is. -/
  size : octets.length < Machine.sizeLimit
  /-- The elements of all sequences have a head size, and it is not zero. -/
  roomy : Value.allRoomy args = true

/-- Arguments are decoded from the octets that carry them. -/
theorem Carries.decode_eq {types : List Ty} {octets : Bytes} {args : List Value}
    (h : Carries types octets args) : decode types octets = .ok args := by
  obtain ⟨htypes, hencode⟩ := encodeParams_eq_ok.mp h.encoded
  have hdecode := decode_encode_of_roomy hencode h.size h.roomy
  rwa [htypes] at hdecode

end Abi

namespace Interface

open Abi Outcome

section Behind

variable {selector : Selector} {types : List Ty} {refused : DecodeFault} {data octets : Bytes}

/-- Behind its selector, the octets alone are decoded. -/
theorem decodeBehind_append :
    decodeBehind selector types refused (selector.bytes ++ octets) = decode types octets := by
  have hbegins : selector.bytes.isPrefixOf (selector.bytes ++ octets) = true :=
    List.isPrefixOf_iff_prefix.mpr (List.prefix_append _ _)
  have hrest : (selector.bytes ++ octets).drop 4 = octets :=
    List.drop_left' (Selector.length_bytes selector)
  rw [decodeBehind_eq, if_pos hbegins, hrest]

/-- Data with another selector is refused, and so is data too short for one. -/
theorem decodeBehind_of_not_prefix (h : ¬ selector.bytes <+: data) :
    decodeBehind selector types refused data = .error (.decode refused) := by
  rw [decodeBehind_eq, if_neg (mt List.isPrefixOf_iff_prefix.mp h)]

end Behind

variable {octets : Bytes} {args : List Value}

/-- What can be encoded for a target is encoded for it. -/
theorem encodeParams_forTarget {types : List Ty} (h : Carries types octets args)
    (target : String) : forTarget target (encodeParams types args) = .ok octets := by
  rw [h.encoded]
  rfl

/-- A call is its selector and its arguments, and these are read back. -/
theorem Method.decodeInput_encodeCall {m : Method} (h : Carries (tys m.inputs) octets args) :
    m.encodeCall args = .ok (m.selector.bytes ++ octets) ∧
      m.decodeInput (m.selector.bytes ++ octets) = .ok args := by
  constructor
  · rw [encodeCall, encodeParams_forTarget h]
    rfl
  · rw [decodeInput_eq, decodeBehind_append, h.decode_eq]

/-- Revert data of an error are its selector and its arguments, and these are read back. -/
theorem CustomError.decode_raised {e : CustomError} (h : Carries (tys e.inputs) octets args) :
    e.encode args = .ok (e.selector.bytes ++ octets) ∧
      e.decode (e.selector.bytes ++ octets) = .ok args := by
  constructor
  · rw [encode, h.encoded]
    rfl
  · rw [decode_eq, decodeBehind_append, h.decode_eq]

/-- Creation data are the code and the arguments. -/
theorem Constructor.encodeDeploy_eq {c : Constructor} (h : Carries (tys c.inputs) octets args)
    (bytecode : Bytes) : c.encodeDeploy bytecode args = .ok (bytecode ++ octets) := by
  rw [encodeDeploy, encodeParams_forTarget h]
  rfl

/-- Among functions with selectors of their own, a selector finds its function. -/
theorem methodBySelector?_eq_some {i : Interface} (hdistinct : (i.methods.map Method.selector).Nodup)
    {m : Method} {selector : Selector} :
    i.methodBySelector? selector = some m ↔ m ∈ i.methods ∧ m.selector = selector :=
  find?_key hdistinct

/-- Call data that begins with the selector of a function is decoded for this function. -/
theorem decodeCalldata_of_mem {i : Interface} (hdistinct : (i.methods.map Method.selector).Nodup)
    {m : Method} (hm : m ∈ i.methods) (octets : Bytes) :
    i.decodeCalldata (m.selector.bytes ++ octets) =
      (m.decodeInput (m.selector.bytes ++ octets)).map fun args => (m.signature, args) := by
  have hlong : ¬ (m.selector.bytes ++ octets).length < 4 := by
    rw [List.length_append, Selector.length_bytes]
    omega
  have hfirst : Selector.ofBytes ((m.selector.bytes ++ octets).take 4) = m.selector := by
    rw [List.take_left' (Selector.length_bytes m.selector), Selector.ofBytes_bytes]
  have hfound := (methodBySelector?_eq_some hdistinct).mpr ⟨hm, rfl⟩
  rw [decodeCalldata, if_neg hlong]
  dsimp only
  rw [hfirst, hfound]
  dsimp only
  cases m.decodeInput (m.selector.bytes ++ octets) with
  | error error => rfl
  | ok args => rfl

/-- Arguments that octets carry are read back: from the call data of a function, from the revert data
of an error, and from behind the code in the creation data of a constructor. Among functions with
selectors of their own, call data tells the function as well. Data that does not begin with a
selector is refused by its function and by its error. -/
theorem payloads_read_back :
    (∀ (m : Method) (octets : Bytes) (args : List Value), Carries (tys m.inputs) octets args →
      m.encodeCall args = .ok (m.selector.bytes ++ octets) ∧
        m.decodeInput (m.selector.bytes ++ octets) = .ok args ∧
        ∀ i : Interface, m ∈ i.methods → (i.methods.map Method.selector).Nodup →
          i.decodeCalldata (m.selector.bytes ++ octets) = .ok (m.signature, args)) ∧
      (∀ (e : CustomError) (octets : Bytes) (args : List Value),
        Carries (tys e.inputs) octets args →
          e.encode args = .ok (e.selector.bytes ++ octets) ∧
            e.decode (e.selector.bytes ++ octets) = .ok args) ∧
      (∀ (c : Constructor) (bytecode octets : Bytes) (args : List Value),
        Carries (tys c.inputs) octets args →
          c.encodeDeploy bytecode args = .ok (bytecode ++ octets) ∧
            Abi.decode (tys c.inputs) octets = .ok args) ∧
      (∀ (m : Method) (data : Bytes), ¬ m.selector.bytes <+: data →
        m.decodeInput data = .error (.decode (.callSelector m.selector m.signature))) ∧
      ∀ (e : CustomError) (data : Bytes), ¬ e.selector.bytes <+: data →
        e.decode data = .error (.decode (.errorSelector e.signature)) := by
  refine ⟨?calls, fun e octets args h => CustomError.decode_raised h, ?creations, ?callRefused,
    ?errorRefused⟩
  case calls =>
    intro m octets args h
    obtain ⟨hencode, hdecode⟩ := Method.decodeInput_encodeCall h
    refine ⟨hencode, hdecode, fun i hm hdistinct => ?_⟩
    rw [decodeCalldata_of_mem hdistinct hm, hdecode]
    rfl
  case creations =>
    intro c bytecode octets args h
    exact ⟨Constructor.encodeDeploy_eq h bytecode, h.decode_eq⟩
  case callRefused =>
    intro m data h
    rw [m.decodeInput_eq, decodeBehind_of_not_prefix h]
  case errorRefused =>
    intro e data h
    rw [e.decode_eq, decodeBehind_of_not_prefix h]

set_option maxRecDepth 4000 in
/-- A list of texts goes through a call, among two functions, through an error and through a
creation, and data of three octets is neither of the first two. -/
theorem payloads_read_back_texts :
    let inputs : List Param := [⟨"names", .array .string⟩, ⟨"open", .bool⟩]
    let m : Method := ⟨"admit", inputs, [], .write⟩
    let other : Method := ⟨"close", [], [], .write⟩
    let e : CustomError := ⟨"Denied", inputs⟩
    let c : Constructor := ⟨inputs, false⟩
    let i : Interface := ⟨none, [other, m], [], []⟩
    let args : List Value := [.array .string [.string "a", .string ""], .bool true]
    let octets := layOut (Value.parts args)
    (i.methods.map Method.selector).Nodup ∧ Carries (tys inputs) octets args ∧
      i.decodeCalldata (m.selector.bytes ++ octets) = .ok (m.signature, args) ∧
      e.decode (e.selector.bytes ++ octets) = .ok args ∧
      c.encodeDeploy [0x60, 0x80] args = .ok ([0x60, 0x80] ++ octets) ∧
      m.decodeInput [1, 2, 3] = .error (.decode (.callSelector m.selector m.signature)) ∧
      e.decode [1, 2, 3] = .error (.decode (.errorSelector e.signature)) := by
  intro inputs m other e c i args octets
  have hselectors : other.selector ≠ m.selector := by decide +kernel
  have hdistinct : (i.methods.map Method.selector).Nodup :=
    List.nodup_cons.mpr ⟨by simpa using hselectors, List.nodup_singleton _⟩
  have hcarries : Carries (tys inputs) octets args := ⟨rfl, by decide, rfl⟩
  have hshort (s : Selector) : ¬ s.bytes <+: [1, 2, 3] := by
    intro h
    have hlength := h.length_le
    rw [Selector.length_bytes] at hlength
    exact absurd hlength (by decide)
  obtain ⟨hcalls, herrors, hcreations, hcallRefused, herrorRefused⟩ := payloads_read_back
  have hm : m ∈ i.methods := List.mem_cons_of_mem _ List.mem_cons_self
  exact ⟨hdistinct, hcarries, (hcalls m octets args hcarries).2.2 i hm hdistinct,
    (herrors e octets args hcarries).2, (hcreations c _ octets args hcarries).1,
    hcallRefused m _ (hshort _), herrorRefused e _ (hshort _)⟩

end Interface

end ContractToolkit
