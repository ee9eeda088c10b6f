import ContractToolkit.Abi.Decoding
import ContractToolkit.Proofs.Abi.Typing
import ContractToolkit.Proofs.Bytes.Numerals
import ContractToolkit.Proofs.Bytes.Windows
import ContractToolkit.Proofs.Outcome

/-!
# What the readers read

Each reader succeeds exactly when certain octets stand at its position. For an
elementary type these are the octets that the encoder writes for the value and
no others, so nothing but the encoding of a value is ever read as that value.
-/

namespace ContractToolkit

/-- A checked sum that also stays inside the data. -/
theorem Machine.add?_filter_eq_some {a b c length : Nat} :
    (add? a b).filter (· ≤ length) = some c ↔ c = a + b ∧ a + b < sizeLimit ∧ a + b ≤ length := by
  rw [Option.filter_eq_some_iff, add?_eq_some, decide_eq_true_eq]
  constructor
  · rintro ⟨⟨rfl, hlimit⟩, hle⟩
    exact ⟨rfl, hlimit, hle⟩
  · rintro ⟨rfl, hlimit, hle⟩
    exact ⟨⟨rfl, hlimit⟩, hle⟩

namespace Abi

variable {data octets : Bytes} {position : Nat}

/-- A sum that nothing checks is the sum when it is a size. -/
theorem addTrapping_eq_ok {a b c : Nat} :
    addTrapping a b = .ok c ↔ c = a + b ∧ a + b < Machine.sizeLimit := by
  rw [addTrapping, ← Machine.add?_eq_some]
  cases Machine.add? a b with
  | none => simp
  | some d => simp

/-- A cut that nothing checks gives the octets that stand there. -/
theorem sliceTrapping_eq_ok {length : Nat} :
    sliceTrapping data position length = .ok octets ↔
      octets.length = length ∧ data.HoldsAt position octets := by
  rw [sliceTrapping, Bytes.holdsAt_iff]
  constructor
  · intro h
    split at h
    · rename_i hle
      cases h
      have hlength : ((data.drop position).take length).length = length := by
        rw [List.length_take, List.length_drop]
        omega
      rw [hlength]
      exact ⟨rfl, hle, rfl⟩
    · cases h
  · rintro ⟨rfl, hle, hcut⟩
    rw [if_pos hle, hcut]

/-- The word at a position is the 32 octets that stand there. -/
theorem wordAt_eq_ok :
    wordAt data position = .ok octets ↔
      octets.length = wordSize ∧ data.HoldsAt position octets ∧
        position + wordSize < Machine.sizeLimit := by
  constructor
  · intro h
    rw [wordAt] at h
    split at h
    · rename_i hroom
      have hcut := sliceTrapping_eq_ok.mp h
      exact ⟨hcut.1, hcut.2, (Machine.add?_filter_eq_some.mp hroom).2.1⟩
    · cases h
  · rintro ⟨hlength, hstands, hlimit⟩
    have hle := hstands.le_length
    rw [hlength] at hle
    rw [wordAt, Machine.add?_filter_eq_some.mpr ⟨rfl, hlimit, hle⟩]
    exact sliceTrapping_eq_ok.mpr ⟨hlength, hstands⟩

/-- A word that is read writes a word of 256 bits and nothing else. -/
theorem bytes_of_wordAt (h : wordAt data position = .ok octets) :
    Word.bytes (Word.ofBytes octets) = octets :=
  Word.bytes_ofBytes (wordAt_eq_ok.mp h).1

@[simp] theorem length_sizeWord (n : Nat) : (sizeWord n).length = wordSize :=
  Bytes.length_ofNat _ _

/-- A size is the number in its word. -/
theorem toNat_ofBytes_sizeWord {n : Nat} (h : n < Machine.sizeLimit) :
    (Word.ofBytes (sizeWord n)).toNat = n := by
  have hlimit : n < 2 ^ 64 := h
  rw [Word.ofBytes, sizeWord, Bytes.toNat_ofNat, BitVec.toNat_ofNat, wordSize]
  omega

/-- The word of a size is the word with that number. -/
theorem bytes_eq_sizeWord {w : Word} : Word.bytes w = sizeWord w.toNat := rfl

/-- The size at a position is the one whose word stands there. -/
theorem sizeAt_eq_ok {n : Nat} :
    sizeAt data position = .ok n ↔
      n < Machine.sizeLimit ∧ wordAt data position = .ok (sizeWord n) := by
  rw [sizeAt, Outcome.bind_eq_ok]
  constructor
  · rintro ⟨octets, hword, h⟩
    have hbytes := bytes_of_wordAt hword
    dsimp only at h
    split at h
    · rename_i hlimit
      rw [Outcome.pure_eq_ok] at h
      subst h
      rw [bytes_eq_sizeWord] at hbytes
      exact ⟨hlimit, by rw [hbytes, hword]⟩
    · cases h
  · rintro ⟨hlimit, hword⟩
    refine ⟨_, hword, ?_⟩
    dsimp only
    rw [toNat_ofBytes_sizeWord hlimit, if_pos hlimit]
    rfl

/-- The byte string at a position is the one whose length stands there and whose octets follow. -/
theorem packedAt_eq_ok :
    packedAt data position = .ok octets ↔
      sizeAt data position = .ok octets.length ∧
        data.HoldsAt (position + wordSize) octets ∧
          position + wordSize + octets.length < Machine.sizeLimit := by
  rw [packedAt, Outcome.bind_eq_ok]
  constructor
  · rintro ⟨length, hsize, h⟩
    rw [Outcome.bind_eq_ok] at h
    obtain ⟨start, hstart, h⟩ := h
    obtain ⟨rfl, -⟩ := addTrapping_eq_ok.mp hstart
    split at h
    · rename_i hroom
      obtain ⟨rfl, hstands⟩ := sliceTrapping_eq_ok.mp h
      exact ⟨hsize, hstands, (Machine.add?_filter_eq_some.mp hroom).2.1⟩
    · cases h
  · rintro ⟨hsize, hstands, hlimit⟩
    refine ⟨_, hsize, Outcome.bind_eq_ok.mpr ⟨_, addTrapping_eq_ok.mpr ⟨rfl, by omega⟩, ?_⟩⟩
    rw [Machine.add?_filter_eq_some.mpr ⟨rfl, hlimit, hstands.le_length⟩]
    exact sliceTrapping_eq_ok.mpr ⟨rfl, hstands⟩

/-- Elements have room when as many heads, of one octet at least, end inside the data. -/
theorem checkElementCount_eq_ok {elem : Ty} {count : Nat} :
    checkElementCount elem count data position = .ok () ↔
      ∃ size, elem.headSize = some size ∧
        count * max size 1 + position < Machine.sizeLimit ∧
          count * max size 1 + position ≤ data.length := by
  rw [checkElementCount]
  cases elem.headSize with
  | none => simp
  | some size =>
    simp only [Option.bind_some, Option.some.injEq, exists_eq_left']
    cases hmul : Machine.mul? count (max size 1) with
    | none =>
      have hover : Machine.sizeLimit ≤ count * max size 1 := by
        simpa [Machine.mul?] using hmul
      simp only [Option.bind_none, Option.filter_none, reduceCtorEq, false_iff]
      omega
    | some total =>
      obtain ⟨rfl, -⟩ := Machine.mul?_eq_some.mp hmul
      rw [Option.bind_some]
      constructor
      · intro h
        split at h
        · rename_i hroom
          exact (Machine.add?_filter_eq_some.mp hroom).2
        · cases h
      · intro hroom
        rw [Machine.add?_filter_eq_some.mpr ⟨rfl, hroom⟩]

/-- The octets of an address in a word: zeros, then the address. -/
theorem octets_address (a : Address) :
    (Value.address a).octets = Bytes.zeros 12 ++ Address.bytes a := by
  have ha : a.toNat < 2 ^ 160 := a.isLt
  rw [Value.octets, wordSize, Bytes.ofNat_add 12 20, Nat.div_eq_of_lt (by omega),
    Bytes.ofNat_zero]
  rfl

/-- A word falls into the octets that are cut off its front and the rest. -/
theorem sliceTrapping_front_rest {word front rest : Bytes} {n m : Nat}
    (hfront : sliceTrapping word 0 n = .ok front) (hrest : sliceTrapping word n m = .ok rest)
    (hlength : word.length = n + m) : word = front ++ rest := by
  obtain ⟨rfl, before, after, hword, hbefore⟩ := sliceTrapping_eq_ok.mp hfront
  obtain ⟨hm, before', after', hword', hbefore'⟩ := sliceTrapping_eq_ok.mp hrest
  rw [List.length_eq_zero_iff.mp hbefore, List.nil_append] at hword
  have hafter : after' = [] := by
    rw [hword', List.length_append, List.length_append] at hlength
    exact List.length_eq_zero_iff.mp (by omega)
  rw [hafter, List.append_nil] at hword'
  have hfronts : before' = front := List.append_inj_left (hword'.symm.trans hword) hbefore'
  rw [hword', hfronts]

/-- The octets in front and the rest are what is cut off at the place between them. -/
theorem sliceTrapping_append {front rest : Bytes} {n m : Nat} (hfront : front.length = n)
    (hrest : rest.length = m) :
    sliceTrapping (front ++ rest) 0 n = .ok front ∧
      sliceTrapping (front ++ rest) n m = .ok rest := by
  have hstands := Bytes.HoldsAt.self (front ++ rest)
  have hbehind := hstands.right
  rw [hfront, Nat.zero_add] at hbehind
  exact ⟨sliceTrapping_eq_ok.mpr ⟨hfront, hstands.left⟩, sliceTrapping_eq_ok.mpr ⟨hrest, hbehind⟩⟩

/-- An address is read from its own octets only. -/
theorem addressAt_eq_ok {v : Value} :
    addressAt data position = .ok v ↔
      HasType v .address ∧ wordAt data position = .ok v.octets := by
  rw [addressAt, Outcome.bind_eq_ok]
  constructor
  · rintro ⟨octets, hword, h⟩
    obtain ⟨padding, hfront, h⟩ := Outcome.bind_eq_ok.mp h
    split at h
    · cases h
    · rename_i hpadding
      obtain ⟨account, hrest, h⟩ := Outcome.bind_eq_ok.mp h
      rw [Bool.not_eq_true, Bytes.any_ne_zero_eq_false, (sliceTrapping_eq_ok.mp hfront).1]
        at hpadding
      obtain rfl := Outcome.pure_eq_ok.mp h
      refine ⟨.address _, ?_⟩
      rw [octets_address, Address.bytes_ofBytes (sliceTrapping_eq_ok.mp hrest).1, ← hpadding,
        ← sliceTrapping_front_rest hfront hrest (wordAt_eq_ok.mp hword).1, hword]
  · rintro ⟨typed, hword⟩
    cases typed with
    | address a =>
      obtain ⟨hfront, hrest⟩ :=
        sliceTrapping_append (Bytes.length_zeros 12) (Address.length_bytes a)
      have hzeros : ¬ (Bytes.zeros 12).any (· != 0) = true := by decide
      rw [octets_address] at hword
      refine ⟨_, hword, Outcome.bind_eq_ok.mpr ⟨_, hfront, ?_⟩⟩
      rw [if_neg hzeros, Outcome.bind_eq_ok]
      exact ⟨_, hrest, by rw [Address.ofBytes_bytes]; rfl⟩

/-- An unsigned integer in range is read from its own octets only. -/
theorem uintAt_eq_ok {bits : Nat} {v : Value} :
    uintAt bits data position = .ok v ↔
      HasType v (.uint bits) ∧ wordAt data position = .ok v.octets := by
  rw [uintAt, Outcome.bind_eq_ok]
  constructor
  · rintro ⟨octets, hword, h⟩
    dsimp only at h
    split at h
    · cases h
    · rename_i hrange
      obtain rfl := Outcome.pure_eq_ok.mp h
      refine ⟨.uint (Nat.not_le.mp hrange), ?_⟩
      rw [Value.octets, bytes_of_wordAt hword, hword]
  · rintro ⟨typed, hword⟩
    cases typed with
    | uint hrange =>
      refine ⟨_, hword, ?_⟩
      dsimp only
      rw [Value.octets, Word.ofBytes_bytes]
      exact if_neg (Nat.not_le.mpr hrange)

/-- A signed integer in range is read from its own octets only. -/
theorem intAt_eq_ok {bits : Nat} {v : Value} :
    intAt bits data position = .ok v ↔
      HasType v (.int bits) ∧ wordAt data position = .ok v.octets := by
  rw [intAt, Outcome.bind_eq_ok]
  constructor
  · rintro ⟨octets, hword, h⟩
    dsimp only at h
    split at h
    · cases h
    · split at h
      · rename_i hbits hfits
        obtain rfl := Outcome.pure_eq_ok.mp h
        obtain ⟨hlow, hhigh⟩ := Value.intFits_iff.mp hfits
        refine ⟨.int (Nat.pos_of_ne_zero hbits) hlow hhigh, ?_⟩
        rw [Value.octets, bytes_of_wordAt hword, hword]
      · cases h
  · rintro ⟨typed, hword⟩
    cases typed with
    | int hbits hlow hhigh =>
      have hfits := Value.intFits_iff.mpr ⟨hlow, hhigh⟩
      refine ⟨_, hword, ?_⟩
      dsimp only
      rw [Value.octets, Word.ofBytes_bytes, if_neg (by omega), if_pos hfits]
      rfl

/-- A truth value is read from its own octets only. -/
theorem boolAt_eq_ok {v : Value} :
    boolAt data position = .ok v ↔
      HasType v .bool ∧ wordAt data position = .ok v.octets := by
  rw [boolAt, Outcome.bind_eq_ok]
  constructor
  · rintro ⟨octets, hword, h⟩
    have hbytes := bytes_of_wordAt hword
    dsimp only at h
    split at h
    · rename_i hzero
      obtain rfl := Outcome.pure_eq_ok.mp h
      refine ⟨.bool false, ?_⟩
      rw [hword, ← hbytes, hzero]
      rfl
    · split at h
      · rename_i hone
        obtain rfl := Outcome.pure_eq_ok.mp h
        refine ⟨.bool true, ?_⟩
        rw [hword, ← hbytes, hone]
        rfl
      · cases h
  · rintro ⟨typed, hword⟩
    refine ⟨_, hword, ?_⟩
    cases typed with
    | bool b =>
      cases b with
      | false =>
        rw [show (Value.bool false).octets = Word.bytes 0 from rfl, Word.ofBytes_bytes]
        rfl
      | true =>
        rw [show (Value.bool true).octets = Word.bytes 1 from rfl, Word.ofBytes_bytes]
        rfl

/-- A byte string of a declared length is read from its own octets only. -/
theorem fixedBytesAt_eq_ok {size : Nat} {v : Value} :
    fixedBytesAt size data position = .ok v ↔
      HasType v (.fixedBytes size) ∧ wordAt data position = .ok v.octets := by
  rw [fixedBytesAt, Outcome.bind_eq_ok]
  constructor
  · rintro ⟨word, hword, h⟩
    have hlength : word.length = 32 := (wordAt_eq_ok.mp hword).1
    obtain ⟨padding, hrest, h⟩ := Outcome.bind_eq_ok.mp h
    obtain ⟨hpad, hstands⟩ := sliceTrapping_eq_ok.mp hrest
    have hsize := hstands.le_length
    rw [hlength, hpad, wordSize] at hsize
    split at h
    · cases h
    · rename_i hzero
      obtain ⟨octets, hfront, h⟩ := Outcome.bind_eq_ok.mp h
      have hoctets := (sliceTrapping_eq_ok.mp hfront).1
      rw [Bool.not_eq_true, Bytes.any_ne_zero_eq_false, hpad] at hzero
      obtain rfl := Outcome.pure_eq_ok.mp h
      subst hoctets
      refine ⟨.fixedBytes octets, ?_⟩
      rw [Value.octets, padTo, ← hzero,
        ← sliceTrapping_front_rest hfront hrest (by rw [hlength, wordSize]; omega), hword]
  · rintro ⟨typed, hword⟩
    cases typed with
    | fixedBytes octets =>
      obtain ⟨hfront, hrest⟩ := sliceTrapping_append (rfl : octets.length = _)
        (Bytes.length_zeros (wordSize - octets.length))
      rw [Value.octets, padTo] at hword
      refine ⟨_, hword, Outcome.bind_eq_ok.mpr ⟨_, hrest, ?_⟩⟩
      rw [Bytes.any_ne_zero_eq_false.mpr (by rw [Bytes.length_zeros])]
      exact Outcome.bind_eq_ok.mpr ⟨_, hfront, rfl⟩

/-- A text is read from its own octets only. -/
theorem stringAt_eq_ok {v : Value} :
    stringAt data position = .ok v ↔
      ∃ s, v = .string s ∧ packedAt data position = .ok (Text.utf8 s) := by
  rw [stringAt, Outcome.bind_eq_ok]
  constructor
  · rintro ⟨octets, hpacked, h⟩
    split at h
    · rename_i s htext
      rw [Text.ofUtf8_eq_ok] at htext
      subst htext
      exact ⟨s, (Outcome.pure_eq_ok.mp h).symm, hpacked⟩
    · cases h
  · rintro ⟨s, rfl, hpacked⟩
    refine ⟨_, hpacked, ?_⟩
    rw [Text.ofUtf8_eq_ok.mpr rfl]
    rfl

end Abi

end ContractToolkit
