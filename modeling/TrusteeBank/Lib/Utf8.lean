import Mathlib.Tactic.SplitIfs
import TrusteeBank.Lib.Utf16

/-!
# UTF-8

`utf8` encodes a string of code units, a lone surrogate as U+FFFD. `utf8Decode` reads any bytes:
each maximal part that begins no character is read as U+FFFD.

* `utf8Decode_utf8`: a well-formed string is read back;
* `utf8_length`: a string has at least as many bytes as code units, and as many only if it is
  ASCII.
-/

set_option autoImplicit false

namespace Lib

namespace Utf16

open CodeUnit

/-! ### Encoding -/

/-- The bytes of a string. -/
def utf8 (s : Utf16) : List UInt8 := (chars s).flatMap String.utf8EncodeChar

/-! ### Decoding -/

/-- A character of which some bytes are still to come: how many, between which bounds the next of
them must be, and the bits read so far. -/
structure Pending where
  needed : Nat
  lower : Nat
  upper : Nat
  point : Nat

/-- The first byte of a character. -/
def leadByte (b : UInt8) : List Char × Option Pending :=
  let n := b.toNat
  if n < 0x80 then ([Char.ofNat n], none)
  else if 0xc2 ≤ n ∧ n ≤ 0xdf then ([], some ⟨1, 0x80, 0xbf, n - 0xc0⟩)
  else if 0xe0 ≤ n ∧ n ≤ 0xef then
    ([], some ⟨2, if n = 0xe0 then 0xa0 else 0x80, if n = 0xed then 0x9f else 0xbf, n - 0xe0⟩)
  else if 0xf0 ≤ n ∧ n ≤ 0xf4 then
    ([], some ⟨3, if n = 0xf0 then 0x90 else 0x80, if n = 0xf4 then 0x8f else 0xbf, n - 0xf0⟩)
  else (['\uFFFD'], none)

/-- Any byte. One that does not continue the character is read as the first byte of the next. -/
def nextByte : Option Pending → UInt8 → List Char × Option Pending
  | none, b => leadByte b
  | some p, b =>
    let n := b.toNat
    if p.lower ≤ n ∧ n ≤ p.upper then
      let point := p.point * 0x40 + (n - 0x80)
      if p.needed = 1 then ([Char.ofNat point], none)
      else ([], some ⟨p.needed - 1, 0x80, 0xbf, point⟩)
    else ('\uFFFD' :: (leadByte b).1, (leadByte b).2)

/-- The decoder. -/
def utf8Decoder : Transducer (Option Pending) UInt8 Char where
  feed := nextByte
  finish
    | none => []
    | some _ => ['\uFFFD']

theorem utf8Decoder_feed (p : Option Pending) (b : UInt8) : utf8Decoder.feed p b = nextByte p b :=
  rfl

/-- The string that bytes encode. -/
def utf8Decode (bytes : List UInt8) : Utf16 := units (utf8Decoder.run none bytes)

/-! ### Reading back -/

theorem toNat_byte {n : Nat} (h : n < 0x100) : (UInt8.ofNat n).toNat = n := by
  rw [UInt8.toNat_ofNat']
  exact Nat.mod_eq_of_lt h

/-- The last byte of a character. -/
theorem reads_last {lower upper point : Nat} {b : UInt8} {c : Char} (hlower : lower ≤ b.toNat)
    (hupper : b.toNat ≤ upper) (hpoint : point * 0x40 + (b.toNat - 0x80) = c.toNat) :
    utf8Decoder.Reads (some ⟨1, lower, upper, point⟩) [b] [c] none := by
  apply Transducer.Reads.single
  simp only [utf8Decoder_feed, nextByte, hlower, hupper, and_self, if_true, hpoint,
    Char.ofNat_toNat]

/-- A byte of a character with others after it. -/
theorem reads_more {needed lower upper point : Nat} {b : UInt8} {bytes : List UInt8} {c : Char}
    (hneeded : needed ≠ 0) (hlower : lower ≤ b.toNat) (hupper : b.toNat ≤ upper)
    (h : utf8Decoder.Reads (some ⟨needed, 0x80, 0xbf, point * 0x40 + (b.toNat - 0x80)⟩) bytes [c]
      none) :
    utf8Decoder.Reads (some ⟨needed + 1, lower, upper, point⟩) (b :: bytes) [c] none := by
  refine Transducer.Reads.skip ?_ h
  have hmore : needed + 1 ≠ 1 := by omega
  simp only [utf8Decoder_feed, nextByte, hlower, hupper, and_self, if_true, hmore, if_false,
    Nat.add_sub_cancel]

theorem leadByte_one {b : UInt8} (hb : b.toNat < 0x80) :
    leadByte b = ([Char.ofNat b.toNat], none) := by
  simp only [leadByte, hb, if_true]

theorem leadByte_two {b : UInt8} {m : Nat} (hb : b.toNat = m + 0xc0) (hlower : 2 ≤ m)
    (hupper : m < 0x20) : leadByte b = ([], some ⟨1, 0x80, 0xbf, m⟩) := by
  simp only [leadByte, hb, show ¬m + 0xc0 < 0x80 by omega, if_false,
    show 0xc2 ≤ m + 0xc0 ∧ m + 0xc0 ≤ 0xdf by omega, and_self, if_true, Nat.add_sub_cancel]

theorem leadByte_three {b : UInt8} {m : Nat} (hb : b.toNat = m + 0xe0) (hm : m < 0x10) :
    leadByte b =
      ([], some ⟨2, if m = 0 then 0xa0 else 0x80, if m = 0xd then 0x9f else 0xbf, m⟩) := by
  have hfirst : m + 0xe0 = 0xe0 ↔ m = 0 := by omega
  have hsurrogates : m + 0xe0 = 0xed ↔ m = 0xd := by omega
  simp only [leadByte, hb, hfirst, hsurrogates, show ¬m + 0xe0 < 0x80 by omega, if_false,
    show ¬(0xc2 ≤ m + 0xe0 ∧ m + 0xe0 ≤ 0xdf) by omega,
    show 0xe0 ≤ m + 0xe0 ∧ m + 0xe0 ≤ 0xef by omega, and_self, if_true, Nat.add_sub_cancel]

theorem leadByte_four {b : UInt8} {m : Nat} (hb : b.toNat = m + 0xf0) (hm : m < 5) :
    leadByte b =
      ([], some ⟨3, if m = 0 then 0x90 else 0x80, if m = 4 then 0x8f else 0xbf, m⟩) := by
  have hfirst : m + 0xf0 = 0xf0 ↔ m = 0 := by omega
  have hlast : m + 0xf0 = 0xf4 ↔ m = 4 := by omega
  simp only [leadByte, hb, hfirst, hlast, show ¬m + 0xf0 < 0x80 by omega, if_false,
    show ¬(0xc2 ≤ m + 0xf0 ∧ m + 0xf0 ≤ 0xdf) by omega,
    show ¬(0xe0 ≤ m + 0xf0 ∧ m + 0xf0 ≤ 0xef) by omega,
    show 0xf0 ≤ m + 0xf0 ∧ m + 0xf0 ≤ 0xf4 by omega, and_self, if_true, Nat.add_sub_cancel]

theorem reads_lead {p : Pending} {b : UInt8} {bytes : List UInt8} {c : Char}
    (hb : leadByte b = ([], some p)) (h : utf8Decoder.Reads (some p) bytes [c] none) :
    utf8Decoder.Reads none (b :: bytes) [c] none := by
  refine Transducer.Reads.skip ?_ h
  rw [utf8Decoder_feed, nextByte, hb]

/-- **The bytes of a character are read as the character.** -/
theorem reads_char (c : Char) : utf8Decoder.Reads none (String.utf8EncodeChar c) [c] none := by
  have hc := toNat_lt c
  generalize hn : c.toNat = n at hc
  have htail (k : Nat) : (UInt8.ofNat (k % 0x40 + 0x80)).toNat = k % 0x40 + 0x80 :=
    toNat_byte (by omega)
  simp only [String.utf8EncodeChar, show c.val.toNat = n from hn]
  split_ifs with h1 h2 h3
  · have hb : (UInt8.ofNat n).toNat = n := toNat_byte (by omega)
    apply Transducer.Reads.single
    rw [utf8Decoder_feed, nextByte, leadByte_one (by omega), hb, ← hn, Char.ofNat_toNat]
  · have hb : (UInt8.ofNat (n / 64 % 0x20 + 0xc0)).toNat = n / 64 + 0xc0 := by
      rw [toNat_byte (by omega)]
      omega
    refine reads_lead (leadByte_two hb (by omega) (by omega)) ?_
    apply reads_last <;> rw [htail] <;> omega
  · have hb : (UInt8.ofNat (n / 4096 % 0x10 + 0xe0)).toNat = n / 4096 + 0xe0 := by
      rw [toNat_byte (by omega)]
      omega
    refine reads_lead (leadByte_three hb (by omega)) ?_
    -- the bounds of the second byte: U+0800 is the first of three bytes, no surrogate is encoded
    apply reads_more (by decide)
    · rw [htail]
      split_ifs <;> omega
    · rw [htail]
      split_ifs <;> omega
    · apply reads_last <;> simp only [htail] <;> omega
  · have hb : (UInt8.ofNat (n / 262144 % 0x08 + 0xf0)).toNat = n / 262144 + 0xf0 := by
      rw [toNat_byte (by omega)]
      omega
    refine reads_lead (leadByte_four hb (by omega)) ?_
    apply reads_more (by decide)
    · rw [htail]
      split_ifs <;> omega
    · rw [htail]
      split_ifs <;> omega
    · apply reads_more (by decide)
      · simp only [htail]
        omega
      · simp only [htail]
        omega
      · apply reads_last <;> simp only [htail] <;> omega

theorem reads_chars (cs : List Char) :
    utf8Decoder.Reads none (cs.flatMap String.utf8EncodeChar) cs none := by
  induction cs with
  | nil => exact Transducer.Reads.nil none
  | cons c cs ih =>
    rw [List.flatMap_cons]
    exact (reads_char c).append ih

/-- **A well-formed string is read back.** -/
theorem utf8Decode_utf8 {s : Utf16} (hs : WellFormed s) : utf8Decode (utf8 s) = s := by
  have hread := (reads_chars (chars s)).run
  rw [show utf8Decoder.finish none = [] from rfl, List.append_nil] at hread
  unfold utf8Decode utf8
  rw [hread, hs.units_chars]

/-! ### Lengths -/

/-- A character has more bytes than code units, except an ASCII character. -/
theorem length_utf8EncodeChar_gt {c : Char} (hc : 0x80 ≤ c.toNat) :
    (charUnits c).length < (String.utf8EncodeChar c).length := by
  have hnat : c.val.toNat = c.toNat := rfl
  unfold charUnits String.utf8EncodeChar
  simp only [hnat, show ¬c.toNat ≤ 0x7f by omega, if_false]
  split_ifs <;> first | omega | simp

/-- The bytes of a character that is not in a pair: one if it is ASCII, and more otherwise. -/
theorem length_single (u : CodeUnit) :
    (String.utf8EncodeChar u.single).length = 1 ∧ u.val < 0x80 ∨
      1 < (String.utf8EncodeChar u.single).length ∧ 0x80 ≤ u.val := by
  by_cases hlone : u.IsHigh ∨ u.IsLow
  · right
    have hu : 0x80 ≤ u.val := by
      unfold IsHigh IsLow at hlone
      omega
    rw [single, if_pos hlone]
    exact ⟨by decide, hu⟩
  · obtain ⟨hhigh, hlow⟩ := not_or.mp hlone
    obtain ⟨hunits, hnat⟩ := charUnits_single hhigh hlow
    by_cases hu : u.val < 0x80
    · left
      refine ⟨?_, hu⟩
      have hval : u.single.val.toNat = u.val := hnat
      simp only [String.utf8EncodeChar, hval, show u.val ≤ 0x7f by omega, if_true]
      rfl
    · right
      have hgt := length_utf8EncodeChar_gt (c := u.single) (by omega)
      rw [hunits] at hgt
      exact ⟨hgt, by omega⟩

/-- **The length of the bytes**: at least that of the string, and the same only if it is ASCII. -/
theorem utf8_length (s : Utf16) : s.length ≤ (utf8 s).length ∧
    ((utf8 s).length = s.length ↔ ∀ u ∈ s, u.val < 0x80) := by
  unfold utf8
  induction s using chars.induct with
  | case1 => simp [chars]
  | case2 u =>
    have hu := length_single u
    simp only [chars, List.flatMap_cons, List.flatMap_nil, List.append_nil, List.length_singleton,
      List.mem_singleton, forall_eq]
    omega
  | case3 u v us hpair ih =>
    have hnat := toNat_ofPair hpair.1 hpair.2
    have hgt := length_utf8EncodeChar_gt (c := ofPair u v) (by omega)
    rw [charUnits_ofPair hpair.1 hpair.2] at hgt
    simp only [chars, hpair, and_self, if_true, List.flatMap_cons, List.length_append,
      List.length_cons, List.length_nil] at hgt ⊢
    refine ⟨by omega, iff_of_false (by omega) fun h => ?_⟩
    have hu := h u List.mem_cons_self
    have hhigh := hpair.1.1
    omega
  | case4 u v us hpair ih =>
    have hu := length_single u
    obtain ⟨hle, hiff⟩ := ih
    rw [List.forall_mem_cons, ← hiff]
    simp only [chars, hpair, if_false, List.flatMap_cons, List.length_append, List.length_cons] at *
    omega

end Utf16

end Lib
