import TrusteeBank.Lib.Bits
import TrusteeBank.Secrets

/-!
# Secrets in base 32

Both loops over a secret keep what they have read in one 32-bit word that is never masked: after a
few bytes its high bits are those of bytes long written. Only its low bits count.

**The invariant.** The bits of what is written, and after them the low bits of the word that are
held back, are the bits of what has been read (`encodeBytes_bits`, `decodeChars_bits`). Fewer than
five bits, or fewer than eight, are held back.

**Theorem (`base32_round_trip`).** A secret is read back from its text, also when the text is
lower-cased, or padded with equals signs.
-/

set_option autoImplicit false

namespace TrusteeBank

open Lib.Bits (low)

/-! ## Bits of symbols -/

/-- The bits of a byte. -/
def byteBits (byte : UInt8) : List Bool := low byte.toBitVec 8

/-- The bits of a character of the alphabet; any other has none. -/
def charBits (ch : Char) : List Bool :=
  match b32.idxOf? ch with
  | some idx => low (BitVec.ofNat 32 idx) 5
  | none => []

theorem length_byteBits (byte : UInt8) : (byteBits byte).length = 8 := Lib.Bits.length_low _ 8

theorem byteBits_injective : Function.Injective byteBits := by
  intro byte byte' h
  apply UInt8.toBitVec_inj.mp
  apply BitVec.eq_of_getLsbD_eq
  exact Lib.Bits.getLsbD_of_low h

/-- The bits of a byte in a word. -/
theorem low_ofNat_byte (byte : UInt8) : low (BitVec.ofNat 32 byte.toNat) 8 = byteBits byte := by
  apply Lib.Bits.low_congr
  intro i hi
  have hword : i < 32 := by omega
  rw [BitVec.getLsbD_ofNat]
  simp only [hword, decide_true, Bool.true_and]
  rfl

/-- The last eight bits of a word, as a byte. -/
theorem byteBits_ofNat (v : BitVec 32) : byteBits (UInt8.ofNat v.toNat) = low v 8 := by
  apply Lib.Bits.low_congr
  intro i hi
  show (BitVec.ofNat 8 v.toNat).getLsbD i = _
  rw [BitVec.getLsbD_ofNat, BitVec.testBit_toNat]
  simp only [hi, decide_true, Bool.true_and]

theorem getLsbD_ofNat_of_lt {n k : Nat} (hn : n < 2 ^ k) :
    ∀ i, k ≤ i → (BitVec.ofNat 32 n).getLsbD i = false := by
  intro i hi
  have hlt : n < 2 ^ i := lt_of_lt_of_le hn (Nat.pow_le_pow_right (by decide) hi)
  rw [BitVec.getLsbD_ofNat, Nat.testBit_lt_two_pow hlt, Bool.and_false]

theorem toNat_and_31_lt (v : BitVec 32) : (v &&& 31).toNat < 32 := by
  rw [BitVec.toNat_and]
  exact Nat.lt_of_le_of_lt Nat.and_le_right (by decide)

theorem idxOf?_b32 : ∀ i : Fin 32, b32.idxOf? (b32.getD i.val 'A') = some i.val := by decide

theorem lt_of_idxOf? {ch : Char} {idx : Nat} (h : b32.idxOf? ch = some idx) : idx < 2 ^ 5 := by
  obtain ⟨hlt, -⟩ := List.idxOf?_eq_some_iff.mp h
  exact hlt

/-- **A character has the last five bits of the word** it was written for. -/
theorem charBits_b32Char (v : BitVec 32) : charBits (b32Char v) = low v 5 := by
  have hidx := idxOf?_b32 ⟨(v &&& 31).toNat, toNat_and_31_lt v⟩
  have hmask : ∀ i < 5, (31 : BitVec 32).getLsbD i = true := by decide
  unfold charBits b32Char
  rw [hidx]
  simp only [BitVec.ofNat_toNat, BitVec.setWidth_eq]
  apply Lib.Bits.low_congr
  intro i hi
  rw [BitVec.getLsbD_and, hmask i hi, Bool.and_true]

/-! ## Writing -/

/-- The characters that are written, and the bits that are held back. -/
theorem writeQuintets_bits (value : BitVec 32) (bits : Nat) :
    (writeQuintets value bits).1.flatMap charBits ++ low value (writeQuintets value bits).2 =
      low value bits ∧ (writeQuintets value bits).2 < 5 := by
  fun_induction writeQuintets value bits with
  | case1 bits out left hrest ih =>
    rw [hrest] at ih
    obtain ⟨hbits, hlt⟩ := ih
    refine ⟨?_, hlt⟩
    show _ = low value (bits + 5)
    rw [List.flatMap_cons, charBits_b32Char, List.append_assoc, hbits, Nat.add_comm bits 5,
      Lib.Bits.low_add]
  | case2 bits hfew =>
    refine ⟨List.nil_append _, ?_⟩
    by_contra hge
    exact hfew (bits - 5) (by omega)

/-- **What is written of the bytes**, up to the bits that fill the last character. -/
theorem encodeBytes_bits {bits : Nat} (hbits : bits < 5) (value : BitVec 32) (bytes : List UInt8) :
    ∃ fill, fill.length < 5 ∧ (encodeBytes bits value bytes).flatMap charBits =
      low value bits ++ bytes.flatMap byteBits ++ fill := by
  induction bytes generalizing bits value with
  | nil =>
    by_cases hpos : bits > 0
    · have hfill := Lib.Bits.low_shift_or (v := value) (u := 0#32) (m := bits) (n := 5 - bits)
        (by omega) fun i _ => BitVec.getLsbD_zero
      refine ⟨low 0#32 (5 - bits), by rw [Lib.Bits.length_low]; omega, ?_⟩
      have hfive : bits + (5 - bits) = 5 := by omega
      rw [BitVec.or_zero, hfive] at hfill
      rw [encodeBytes, if_pos hpos, List.flatMap_singleton, charBits_b32Char, hfill,
        List.flatMap_nil, List.append_nil]
    · obtain rfl : bits = 0 := by omega
      exact ⟨[], by decide, rfl⟩
  | cons byte bytes ih =>
    have hbyte : byte.toNat < 2 ^ 8 := byte.toNat_lt
    have hword := Lib.Bits.low_shift_or (v := value) (m := bits) (n := 8) (by omega)
      (getLsbD_ofNat_of_lt hbyte)
    obtain ⟨hwritten, hleft⟩ :=
      writeQuintets_bits (value <<< 8 ||| BitVec.ofNat 32 byte.toNat) (bits + 8)
    obtain ⟨fill, hfill, hrest⟩ := ih hleft (value <<< 8 ||| BitVec.ofNat 32 byte.toNat)
    refine ⟨fill, hfill, ?_⟩
    rw [encodeBytes]
    simp only
    rw [List.flatMap_append, hrest, ← List.append_assoc, ← List.append_assoc, hwritten, hword,
      low_ofNat_byte, List.flatMap_cons, List.append_assoc (low value bits)]

/-! ## Reading -/

/-- **What is read of the characters**, up to the bits of an incomplete byte. -/
theorem decodeChars_bits {bits : Nat} (hbits : bits < 8) (value : BitVec 32) (chars : List Char) :
    ∃ rest, rest.length < 8 ∧ (decodeChars bits value chars).flatMap byteBits ++ rest =
      low value bits ++ chars.flatMap charBits := by
  induction chars generalizing bits value with
  | nil =>
    refine ⟨low value bits, by rw [Lib.Bits.length_low]; exact hbits, ?_⟩
    rw [decodeChars, List.flatMap_nil, List.flatMap_nil, List.nil_append, List.append_nil]
  | cons ch chars ih =>
    rw [decodeChars, List.flatMap_cons]
    cases hidx : b32.idxOf? ch with
    | none =>
      obtain ⟨rest, hrest, heq⟩ := ih hbits value
      refine ⟨rest, hrest, ?_⟩
      rw [charBits, hidx, List.nil_append]
      exact heq
    | some idx =>
      have hword := Lib.Bits.low_shift_or (v := value) (m := bits) (n := 5) (by omega)
        (getLsbD_ofNat_of_lt (lt_of_idxOf? hidx))
      simp only
      rw [charBits, hidx, ← List.append_assoc, ← hword]
      by_cases hfull : bits + 5 ≥ 8
      · obtain ⟨rest, hrest, heq⟩ :=
          @ih (bits + 5 - 8) (by omega) (value <<< 5 ||| BitVec.ofNat 32 idx)
        refine ⟨rest, hrest, ?_⟩
        have hcut : bits + 5 = 8 + (bits + 5 - 8) := by omega
        rw [if_pos hfull, List.flatMap_cons, List.append_assoc, heq, byteBits_ofNat,
          ← List.append_assoc, ← Lib.Bits.low_add, ← hcut]
      · obtain ⟨rest, hrest, heq⟩ :=
          @ih (bits + 5) (by omega) (value <<< 5 ||| BitVec.ofNat 32 idx)
        refine ⟨rest, hrest, ?_⟩
        rw [if_neg hfull, heq]

/-- **The bytes are read back** from the characters written for them. -/
theorem decodeChars_encodeBytes (bytes : List UInt8) :
    decodeChars 0 0 (encodeBytes 0 0 bytes) = bytes := by
  obtain ⟨fill, hfill, hwritten⟩ := encodeBytes_bits (Nat.zero_lt_succ 4) 0 bytes
  obtain ⟨rest, hrest, hread⟩ := decodeChars_bits (Nat.zero_lt_succ 7) 0 (encodeBytes 0 0 bytes)
  rw [hwritten] at hread
  exact Lib.Bits.eq_of_flatMap length_byteBits byteBits_injective hrest (by omega) hread

/-! ## The text -/

theorem b32Char_mem (v : BitVec 32) : b32Char v ∈ b32 := by
  have hmem : ∀ i : Fin 32, b32.getD i.val 'A' ∈ b32 := by decide
  exact hmem ⟨(v &&& 31).toNat, toNat_and_31_lt v⟩

theorem writeQuintets_mem (value : BitVec 32) (bits : Nat) :
    ∀ c ∈ (writeQuintets value bits).1, c ∈ b32 := by
  fun_induction writeQuintets value bits with
  | case1 bits out left hrest ih =>
    rw [hrest] at ih
    exact List.forall_mem_cons.mpr ⟨b32Char_mem _, ih⟩
  | case2 bits hfew => exact fun _ hc => absurd hc List.not_mem_nil

theorem encodeBytes_mem (bits : Nat) (value : BitVec 32) (bytes : List UInt8) :
    ∀ c ∈ encodeBytes bits value bytes, c ∈ b32 := by
  induction bytes generalizing bits value with
  | nil =>
    rw [encodeBytes]
    split_ifs
    · exact List.forall_mem_singleton.mpr (b32Char_mem _)
    · exact fun _ hc => absurd hc List.not_mem_nil
  | cons byte bytes ih =>
    show ∀ c ∈ (writeQuintets _ (bits + 8)).1 ++ encodeBytes _ _ bytes, c ∈ b32
    exact List.forall_mem_append.mpr ⟨writeQuintets_mem _ _, ih _ _⟩

/-- The text with equals signs at its end. -/
def padded (text : String) (padding : Nat) : String :=
  text ++ String.ofList (List.replicate padding '=')

/-- `text.toLowerCase()`, of an ASCII text. -/
def lowered (text : String) : String := String.ofList (text.toList.map Char.toLower)

/-- The equals signs at the end are left out. -/
theorem stripPadding_padded {text : String} (h : '=' ∉ text.toList) (padding : Nat) :
    stripPadding (padded text padding) = text := by
  have hsigns : ∀ c ∈ List.replicate padding '=', decide (c = '=') = true := by
    intro c hc
    exact decide_eq_true (List.eq_of_mem_replicate hc)
  have hlast : text.toList.reverse.dropWhile (fun c => c = '=') = text.toList.reverse := by
    rw [← List.mem_reverse] at h
    cases hchars : text.toList.reverse with
    | nil => rfl
    | cons c chars =>
      rw [hchars, List.mem_cons, not_or] at h
      exact List.dropWhile_cons_of_neg fun hsign => h.1 (of_decide_eq_true hsign).symm
  unfold stripPadding padded
  rw [String.toList_append, String.toList_ofList, List.reverse_append, List.reverse_replicate,
    List.dropWhile_append_of_pos hsigns, hlast, List.reverse_reverse, String.ofList_toList]

/-- What `toUpperCase` makes of an ASCII text. -/
def UpperCasesAscii [Runtime] : Prop :=
  ∀ text : String, (∀ c ∈ text.toList, c.toNat < 128) → Runtime.toUpperCase text = upperAscii text

theorem b32_ascii : ∀ c ∈ b32, c.toNat < 128 ∧ c ≠ '=' ∧ c.toUpper = c := by
  have hall : b32.all (fun c => decide (c.toNat < 128 ∧ c ≠ '=' ∧ c.toUpper = c)) = true := by
    decide
  intro c hc
  exact of_decide_eq_true (List.all_eq_true.mp hall c hc)

theorem b32_lowered :
    ∀ c ∈ b32, c.toLower.toNat < 128 ∧ c.toLower ≠ '=' ∧ c.toLower.toUpper = c := by
  have hall : b32.all (fun c =>
      decide (c.toLower.toNat < 128 ∧ c.toLower ≠ '=' ∧ c.toLower.toUpper = c)) = true := by decide
  intro c hc
  exact of_decide_eq_true (List.all_eq_true.mp hall c hc)

/-- A text that is upper-cased to the text of a secret is read as the secret. -/
theorem base32Decode_padded [Runtime] (hupper : UpperCasesAscii) {text : String}
    {bytes : List UInt8} (hascii : ∀ c ∈ text.toList, c.toNat < 128) (hsign : '=' ∉ text.toList)
    (htext : upperAscii text = base32Encode bytes) (padding : Nat) :
    base32Decode (padded text padding) = bytes := by
  unfold base32Decode
  rw [stripPadding_padded hsign, hupper text hascii, htext, base32Encode, String.toList_ofList,
    decodeChars_encodeBytes]

/-- The characters of a text, changed one by one into characters of the alphabet. -/
theorem base32Decode_map [Runtime] (hupper : UpperCasesAscii) {f : Char → Char}
    (hf : ∀ c ∈ b32, (f c).toNat < 128 ∧ f c ≠ '=' ∧ (f c).toUpper = c) (bytes : List UInt8)
    (padding : Nat) :
    base32Decode (padded (String.ofList ((base32Encode bytes).toList.map f)) padding) = bytes := by
  have hmem : ∀ c ∈ (base32Encode bytes).toList, c ∈ b32 := by
    rw [base32Encode, String.toList_ofList]
    exact encodeBytes_mem 0 0 bytes
  apply base32Decode_padded hupper
  · rw [String.toList_ofList]
    exact List.forall_mem_map.mpr fun c hc => (hf c (hmem c hc)).1
  · rw [String.toList_ofList]
    intro hsign
    obtain ⟨c, hc, heq⟩ := List.mem_map.mp hsign
    exact (hf c (hmem c hc)).2.1 heq
  · have hback : (base32Encode bytes).toList.map (Char.toUpper ∘ f) =
        (base32Encode bytes).toList :=
      (List.map_congr_left fun c hc => (hf c (hmem c hc)).2.2).trans (List.map_id' _)
    rw [upperAscii, String.toList_ofList, List.map_map, hback, String.ofList_toList]

/-- **A secret is read back from its text**, also when the text is lower-cased, padded with equals
signs, or both. -/
theorem base32_round_trip [Runtime] (hupper : UpperCasesAscii) (bytes : List UInt8)
    (padding : Nat) :
    base32Decode (base32Encode bytes) = bytes ∧
      base32Decode (lowered (base32Encode bytes)) = bytes ∧
      base32Decode (padded (base32Encode bytes) padding) = bytes ∧
      base32Decode (padded (lowered (base32Encode bytes)) padding) = bytes := by
  have hkept (padding : Nat) : base32Decode (padded (base32Encode bytes) padding) = bytes := by
    have h := base32Decode_map hupper b32_ascii bytes padding
    rwa [List.map_id', String.ofList_toList] at h
  have hlowered (padding : Nat) := base32Decode_map hupper b32_lowered bytes padding
  have hnone (text : String) : padded text 0 = text := String.append_empty
  exact ⟨hnone (base32Encode bytes) ▸ hkept 0, hnone (lowered (base32Encode bytes)) ▸ hlowered 0,
    hkept padding, hlowered padding⟩

example : base32Encode [0x66, 0x6f, 0x6f] = "MZXW6" := by decide +kernel

/-- Three bytes are read back from `mzxw6` and from `MZXW6===`. -/
theorem base32_round_trip_bytes :
    @base32Decode Runtime.ascii (lowered (base32Encode [0x66, 0x6f, 0x6f])) =
        [0x66, 0x6f, 0x6f] ∧
      @base32Decode Runtime.ascii (padded (base32Encode [0x66, 0x6f, 0x6f]) 3) =
        [0x66, 0x6f, 0x6f] :=
  have h := @base32_round_trip Runtime.ascii (fun _ _ => rfl) [0x66, 0x6f, 0x6f] 3
  ⟨h.2.1, h.2.2.1⟩

end TrusteeBank
