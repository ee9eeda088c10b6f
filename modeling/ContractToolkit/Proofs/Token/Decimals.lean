import ContractToolkit.Proofs.Abi.Soundness
import ContractToolkit.Proofs.Interface.Documents
import ContractToolkit.Proofs.Remote.Requests

/-!
# The decimals of a token

What a token returns is the first of its return values, as it was decoded. The
decimals are cut to their lowest eight bits on the way. This changes nothing where
the interface declares no more bits than that, as the standard does, for the
decoder refuses larger numbers; where it declares more, a number that is too large
is told as another one.
-/

namespace ContractToolkit

open Abi Interface Remote Outcome

/-- The return data that answer a call begin with an unsigned integer, which is a number. -/
def Interface.Method.Answers (m : Method) (replies : List Reply) (n : Nat) : Prop :=
  ∃ data w bits rest, nextAnswer Reply.returned? replies = .ok data ∧
    m.decodeOutput data = .ok (.uint w bits :: rest) ∧ w.toNat = n

/-- Return data begin with one number only. -/
theorem Interface.Method.Answers.unique {m : Method} {replies : List Reply} {n k : Nat}
    (hn : m.Answers replies n) (hk : m.Answers replies k) : n = k := by
  obtain ⟨data, w, bits, rest, hdata, hdecode, rfl⟩ := hn
  obtain ⟨data', w', bits', rest', hdata', hdecode', rfl⟩ := hk
  rw [hdata] at hdata'
  obtain rfl := Except.ok.inj hdata'
  rw [hdecode] at hdecode'
  have hvalues := Except.ok.inj hdecode'
  simp only [List.cons.injEq, Value.uint.injEq] at hvalues
  rw [hvalues.1.1]

/-- A declared unsigned type bounds the number that return data begin with. -/
theorem Interface.Method.Answers.lt {m : Method} {replies : List Reply} {n bits : Nat} {p : Param}
    {others : List Param} (h : m.Answers replies n) (houtputs : m.outputs = p :: others)
    (hty : p.ty = .uint bits) : n < 2 ^ bits := by
  obtain ⟨data, w, width, rest, -, hdecode, rfl⟩ := h
  have htypes := haveTypes_of_decode hdecode
  rw [houtputs, tys, List.map_cons, hty] at htypes
  cases htypes with
  | cons first _ =>
    cases first with
    | uint range => exact range

/-- Data from which an unsigned integer is decoded are not missing. -/
theorem Client.readReturned_uint {m : Method} {recipient : Address} {data : Bytes} {w : Word}
    {bits : Nat} {rest : List Value} :
    Client.readReturned m recipient data = .ok (.uint w bits :: rest) ↔
      m.decodeOutput data = .ok (.uint w bits :: rest) := by
  rw [Client.readReturned]
  split
  · rename_i hmissing
    obtain rfl := List.isEmpty_iff.mp hmissing.1
    refine ⟨nofun, fun hdecode => ?_⟩
    have hreads := (decode_eq_ok.mp hdecode).2
    generalize tys m.outputs = types at hreads
    cases hreads with
    | cons _ value _ _ =>
      cases value with
      | word _ _ stands =>
        obtain ⟨hlength, hstands, -⟩ := wordAt_eq_ok.mp stands
        have hroom := hstands.le_length
        rw [hlength, List.length_nil] at hroom
        exact absurd hroom (by rw [wordSize]; omega)
  · rfl

/-- A simulated call gives the return values in the data that answer it. -/
theorem Client.readAt_result {c : Client} {m : Method} {recipient : Address} {args : List Value}
    {block : Block} {call : Call (List Value)} (hcall : c.readAt m recipient args block = .ok call)
    {replies : List Reply} {values : List Value} :
    (call.operation.run replies).result = .ok values ↔
      ∃ data, nextAnswer Reply.returned? replies = .ok data ∧
        Client.readReturned m recipient data = .ok values := by
  obtain ⟨encoded, -, hencoded⟩ := bind_eq_ok.mp hcall
  obtain rfl := Except.ok.inj hencoded
  change ((nextAnswer Reply.returned? replies).mapError (Client.explain c.errors) >>=
    Client.readReturned m recipient) = .ok values ↔ _
  rw [bind_eq_ok]
  refine exists_congr fun data => and_congr_left fun _ => ?_
  cases nextAnswer Reply.returned? replies <;> simp [Except.mapError]

namespace Token

variable {α : Type} {t : Token}

/-- The first of the return values is taken, if it is of the kind. -/
theorem single_eq_ok {extract : Value → Option α} {values : List Value} {a : α} :
    single extract values = .ok a ↔ ∃ v rest, values = v :: rest ∧ extract v = some a := by
  cases values with
  | nil => simp [single]
  | cons v rest =>
    rw [single, List.head?_cons, Option.bind_some]
    cases h : extract v <;> simp [h]

/-- What a token returns is what the first of the decoded return values is taken for. -/
theorem reading_eq_ok {function : String} {args : List Value} {extract : Value → Option α}
    {call : Call α} (hcall : t.reading function args extract = .ok call) :
    ∃ m, t.contract.interface.method function = .ok m ∧ ∀ replies a,
      (call.operation.run replies).result = .ok a ↔
        ∃ data v rest, nextAnswer Reply.returned? replies = .ok data ∧
          Client.readReturned m t.contract.address data = .ok (v :: rest) ∧
            extract v = some a := by
  obtain ⟨inner, hinner, hmapped⟩ := bind_eq_ok.mp hcall
  obtain rfl := Except.ok.inj hmapped
  obtain ⟨m, hm, hread⟩ := bind_eq_ok.mp hinner
  refine ⟨m, ofDescriptor_eq_ok.mp hm, fun replies a => ?_⟩
  rw [Call.map, run_map]
  change ((inner.operation.run replies).result >>= single extract) = .ok a ↔ _
  simp only [bind_eq_ok, Client.readAt_result hread, single_eq_ok]
  constructor
  · rintro ⟨_, ⟨data, hdata, hreturned⟩, v, rest, rfl, hv⟩
    exact ⟨data, v, rest, hdata, hreturned, hv⟩
  · rintro ⟨data, v, rest, hdata, hreturned, hv⟩
    exact ⟨v :: rest, ⟨data, hdata, hreturned⟩, v, rest, rfl, hv⟩

/-- The lowest eight bits of a value are those of an unsigned integer. -/
theorem lowOctet_eq_some {v : Value} {d : UInt8} :
    lowOctet v = some d ↔ ∃ w bits, v = .uint w bits ∧ d.toNat = w.toNat % 256 := by
  have hlow (w : Word) : (UInt8.ofNat (w.toNat % Nat.pow 2 32)).toNat = w.toNat % 256 := by
    have hpow : Nat.pow 2 32 = 4294967296 := rfl
    rw [UInt8.toNat_ofNat', hpow]
    omega
  constructor
  · intro h
    obtain ⟨w, hw, rfl⟩ := Option.map_eq_some_iff.mp h
    cases v with
    | uint w' bits =>
      obtain rfl := Option.some.inj hw
      exact ⟨w', bits, rfl, hlow w'⟩
    | _ => cases hw
  · rintro ⟨w, bits, rfl, hd⟩
    exact congrArg some (UInt8.toNat_inj.mp ((hlow w).trans hd.symm))

/-! ### The interface of the standard -/

/-- The members that the standard declares. -/
def members : List Member :=
  [.method ⟨"name", [], [⟨"", .string⟩], .read⟩,
    .method ⟨"symbol", [], [⟨"", .string⟩], .read⟩,
    .method ⟨"decimals", [], [⟨"", .uint 8⟩], .read⟩,
    .method ⟨"totalSupply", [], [⟨"", .uint 256⟩], .read⟩,
    .method ⟨"balanceOf", [⟨"account", .address⟩], [⟨"", .uint 256⟩], .read⟩,
    .method ⟨"allowance", [⟨"owner", .address⟩, ⟨"spender", .address⟩], [⟨"", .uint 256⟩], .read⟩,
    .method ⟨"transfer", [⟨"to", .address⟩, ⟨"amount", .uint 256⟩], [⟨"", .bool⟩], .write⟩,
    .method ⟨"approve", [⟨"spender", .address⟩, ⟨"amount", .uint 256⟩], [⟨"", .bool⟩], .write⟩,
    .method ⟨"transferFrom", [⟨"from", .address⟩, ⟨"to", .address⟩, ⟨"amount", .uint 256⟩],
      [⟨"", .bool⟩], .write⟩,
    .event ⟨"Transfer", [⟨"from", .address, true⟩, ⟨"to", .address, true⟩,
      ⟨"value", .uint 256, false⟩], false⟩,
    .event ⟨"Approval", [⟨"owner", .address, true⟩, ⟨"spender", .address, true⟩,
      ⟨"value", .uint 256, false⟩], false⟩]

/-- The interface of the standard holds what its declarations declare. -/
theorem interface_eq : interface = .ok (members.foldl Member.addTo empty) := by
  have htexts : declarations = members.map Member.text := by decide +kernel
  have hdeclared : ∀ d ∈ members, d.Declared := by
    simp only [members, List.forall_mem_cons]
    exact ⟨rfl, rfl, rfl, rfl, rfl, rfl, rfl, rfl, rfl, rfl, rfl, nofun⟩
  have hreadable : ∀ d ∈ members, d.Readable := by decide +kernel
  rw [interface, htexts, ofTexts]
  exact Outcome.foldlM_map_eq_ok
    (fun i d hd => Member.addText_text (hdeclared d hd) (hreadable d hd) i) empty

/-- The function of the standard that returns the decimals. -/
theorem method_decimals {i : Interface} (h : interface = .ok i) :
    i.method "decimals" = .ok ⟨"decimals", [], [⟨"", .uint 8⟩], .read⟩ := by
  rw [interface_eq] at h
  rw [← Except.ok.inj h]
  decide +kernel

/-! ### What is told -/

/-- The result of a call is the number that the return data begin with, where that is an octet, and
a failure where it is none. -/
def TellsExactly (m : Method) (call : Call UInt8) (replies : List Reply) : Prop :=
  ∀ d, (call.operation.run replies).result = .ok d ↔ m.Answers replies d.toNat

/-- The decimals are the lowest eight bits of the number that the return data begin with. -/
theorem decimals_result {call : Call UInt8} (hcall : t.decimals = .ok call) :
    ∃ m, t.contract.interface.method "decimals" = .ok m ∧ ∀ replies d,
      (call.operation.run replies).result = .ok d ↔
        ∃ n, m.Answers replies n ∧ d.toNat = n % 256 := by
  obtain ⟨m, hm, hresult⟩ := reading_eq_ok hcall
  refine ⟨m, hm, fun replies d => ?_⟩
  rw [hresult]
  simp only [lowOctet_eq_some]
  constructor
  · rintro ⟨data, v, rest, hdata, hreturned, w, bits, rfl, hd⟩
    exact ⟨w.toNat, ⟨data, w, bits, rest, hdata, Client.readReturned_uint.mp hreturned, rfl⟩, hd⟩
  · rintro ⟨n, ⟨data, w, bits, rest, hdata, hdecode, rfl⟩, hd⟩
    exact ⟨data, _, rest, hdata, Client.readReturned_uint.mpr hdecode, w, bits, rfl, hd⟩

/-- The lowest eight bits of a number are all of it exactly when it is an octet. -/
theorem tellsExactly_iff {m : Method} {call : Call UInt8} {replies : List Reply}
    (hresult : ∀ d, (call.operation.run replies).result = .ok d ↔
      ∃ n, m.Answers replies n ∧ d.toNat = n % 256) :
    TellsExactly m call replies ↔ ∀ n, m.Answers replies n → n < 256 := by
  constructor
  · intro hexact n hn
    have hoctet : (UInt8.ofNat n).toNat = n % 256 := UInt8.toNat_ofNat'
    have htold := (hexact _).mp ((hresult (UInt8.ofNat n)).mpr ⟨n, hn, hoctet⟩)
    rw [hoctet] at htold
    have hsame := hn.unique htold
    omega
  · intro hsmall d
    have hd := d.toNat_lt
    rw [hresult]
    constructor
    · rintro ⟨n, hn, hdn⟩
      rwa [hdn, Nat.mod_eq_of_lt (hsmall n hn)]
    · intro hn
      exact ⟨d.toNat, hn, by omega⟩

/-- The decimals of a token, for every interface that its contract may have and every reply. They
are the lowest eight bits of the unsigned integer that the return data begin with, and there are
none without one. So they are told as they are, and never as another number, exactly when that
number is an octet. The decoder sees to this for every interface that declares at most eight bits,
and so for that of the standard. -/
theorem decimals_exact {call : Call UInt8} (hcall : t.decimals = .ok call) :
    ∃ m, t.contract.interface.method "decimals" = .ok m ∧
      (∀ replies d, (call.operation.run replies).result = .ok d ↔
        ∃ n, m.Answers replies n ∧ d.toNat = n % 256) ∧
      (∀ replies, TellsExactly m call replies ↔ ∀ n, m.Answers replies n → n < 256) ∧
      (∀ p others bits, m.outputs = p :: others → p.ty = .uint bits → bits ≤ 8 →
        ∀ replies, TellsExactly m call replies) ∧
      (interface = .ok t.contract.interface → ∀ replies, TellsExactly m call replies) := by
  obtain ⟨m, hm, hresult⟩ := decimals_result hcall
  have hexact (replies : List Reply) := tellsExactly_iff (hresult replies)
  have hnarrow {p : Param} {others : List Param} {bits : Nat} (houtputs : m.outputs = p :: others)
      (hty : p.ty = .uint bits) (hbits : bits ≤ 8) (replies : List Reply) :
      TellsExactly m call replies := by
    refine (hexact replies).mpr fun n hn => ?_
    exact Nat.lt_of_lt_of_le (hn.lt houtputs hty) (Nat.pow_le_pow_right (n := 2) (by decide) hbits)
  refine ⟨m, hm, hresult, hexact,
    fun p others bits houtputs hty hbits => hnarrow houtputs hty hbits, fun hstandard => ?_⟩
  have hsame := hm.symm.trans (method_decimals hstandard)
  obtain rfl := Except.ok.inj hsame
  exact hnarrow rfl rfl (Nat.le_refl 8)

/-- A token with the interface of the standard: a number of eight bits is told, and one of nine bits
leads to a failure. -/
theorem decimals_exact_loaded :
    ∃ t call, load 7 (.uniform .unset) = .ok t ∧ t.decimals = .ok call ∧
      (call.operation.run [.returned (Word.bytes 18)]).result = .ok 18 ∧
        ∀ d, (call.operation.run [.returned (Word.bytes 274)]).result ≠ .ok d := by
  have hmethod := method_decimals interface_eq
  generalize hi : members.foldl Member.addTo empty = i at hmethod
  have hinterface : interface = .ok i := hi ▸ interface_eq
  obtain ⟨call, hcall⟩ : ∃ call, decimals ⟨.load 7 i (.uniform .unset)⟩ = .ok call := by
    rw [decimals, reading, Contract.call, Contract.method]
    change ∃ call, ((Outcome.ofDescriptor (i.method "decimals") >>= _) >>= _) = .ok call
    rw [hmethod]
    exact ⟨_, rfl⟩
  obtain ⟨m, hm, -, -, -, hstandard⟩ := decimals_exact hcall
  have hexact := hstandard hinterface
  obtain rfl := Except.ok.inj (hmethod.symm.trans hm)
  refine ⟨_, call, by rw [load, hinterface]; rfl, hcall, ?_, fun d hd => ?_⟩
  · exact (hexact _ 18).mpr ⟨Word.bytes 18, 18, 8, [], rfl, rfl, rfl⟩
  · obtain ⟨data, w, bits, rest, hdata, hdecode, -⟩ := (hexact _ d).mp hd
    obtain rfl := Except.ok.inj hdata
    have hrefused : (Method.decodeOutput ⟨"decimals", [], [⟨"", .uint 8⟩], .read⟩
        (Word.bytes 274)).isOk = false := by decide +kernel
    rw [hdecode] at hrefused
    cases hrefused

/-- A contract that declares its decimals with all 256 bits: they are told modulo 256. -/
theorem decimals_cut :
    let m : Method := ⟨"decimals", [], [⟨"", .uint 256⟩], .read⟩
    let t : Token := ⟨.load 7 ⟨none, [m], [], []⟩ (.uniform .unset)⟩
    let replies := [Reply.returned (Word.bytes 274)]
    t.contract.interface.method "decimals" = .ok m ∧
      m.decodeOutput (Word.bytes 274) = .ok [.uint 274 256] ∧
        ∃ call, t.decimals = .ok call ∧ (call.operation.run replies).result = .ok 18 ∧
          ¬ TellsExactly m call replies := by
  intro m t replies
  have hm : t.contract.interface.method "decimals" = .ok m := by decide +kernel
  have hdecode : m.decodeOutput (Word.bytes 274) = .ok [.uint 274 256] := rfl
  have hanswers : m.Answers replies 274 := ⟨Word.bytes 274, 274, 256, [], rfl, hdecode, rfl⟩
  refine ⟨hm, hdecode, _, rfl, rfl, fun hexact => ?_⟩
  have hoctet := (hexact 18).mp rfl
  exact absurd (hanswers.unique hoctet) (by decide)

end Token

end ContractToolkit
