import Mathlib.Data.Nat.Notation
import TrusteeBank.Lib.Transducer

/-!
# Strings of UTF-16 code units

A string is a list of 16-bit code units. A high surrogate and a low surrogate after it stand for
one character; a surrogate of any other kind is lone, and stands for none.

**Well-formed strings** (`WellFormed`): the code units of a list of characters. They have no lone
surrogate.

* `chars_units`: the characters of the code units of a list of characters;
* `WellFormed.units_chars`: a well-formed string is the code units of its characters.
-/

set_option autoImplicit false

namespace Lib

/-- One unit of a string. -/
abbrev CodeUnit := Fin 0x10000

instance codeUnit_neZero : @NeZero Nat (@Zero.ofOfNat0 Nat (instOfNatNat 0)) 0x10000 :=
  ⟨Nat.succ_ne_zero 0xffff⟩

/-- A string of code units. -/
abbrev Utf16 := List CodeUnit

namespace CodeUnit

def IsHigh (u : CodeUnit) : Prop := 0xd800 ≤ u.val ∧ u.val < 0xdc00

def IsLow (u : CodeUnit) : Prop := 0xdc00 ≤ u.val ∧ u.val < 0xe000

instance (u : CodeUnit) : Decidable u.IsHigh := inferInstanceAs (Decidable (_ ∧ _))

instance (u : CodeUnit) : Decidable u.IsLow := inferInstanceAs (Decidable (_ ∧ _))

/-- The character of a unit that is not in a pair: U+FFFD for a lone surrogate. -/
def single (u : CodeUnit) : Char :=
  if u.IsHigh ∨ u.IsLow then '\uFFFD' else Char.ofNat u.val

/-- The character of a high surrogate and a low one. -/
def ofPair (high low : CodeUnit) : Char :=
  Char.ofNat (0x10000 + (high.val - 0xd800) * 0x400 + (low.val - 0xdc00))

end CodeUnit

namespace Utf16

open CodeUnit

/-- The code unit of a character below U+10000. -/
def unit (c : Char) : CodeUnit := Fin.ofNat 0x10000 c.toNat

/-- The code units of a character. -/
def charUnits (c : Char) : Utf16 :=
  let n := c.toNat
  if n < 0x10000 then [unit c]
  else [Fin.ofNat 0x10000 (0xd800 + (n - 0x10000) / 0x400),
    Fin.ofNat 0x10000 (0xdc00 + (n - 0x10000) % 0x400)]

/-- The code units of a text. -/
def units (cs : List Char) : Utf16 := cs.flatMap charUnits

/-- The code units of a string. -/
def ofString (s : String) : Utf16 := units s.toList

/-- The characters of a string. -/
def chars : Utf16 → List Char
  | [] => []
  | [u] => [u.single]
  | u :: v :: us =>
    if u.IsHigh ∧ v.IsLow then ofPair u v :: chars us else u.single :: chars (v :: us)

def WellFormed (s : Utf16) : Prop := ∃ cs, units cs = s

theorem units_cons (c : Char) (cs : List Char) : units (c :: cs) = charUnits c ++ units cs :=
  List.flatMap_cons

theorem units_singleton (c : Char) : units [c] = charUnits c := List.append_nil _

theorem units_append (cs ds : List Char) : units (cs ++ ds) = units cs ++ units ds :=
  List.flatMap_append

/-! ### Characters -/

theorem toNat_lt (c : Char) : c.toNat < 0xd800 ∨ 0xdfff < c.toNat ∧ c.toNat < 0x110000 := c.valid

theorem charUnits_of_lt {c : Char} (h : c.toNat < 0x10000) :
    ∃ u : CodeUnit, charUnits c = [u] ∧ u.val = c.toNat := by
  refine ⟨unit c, ?_, Nat.mod_eq_of_lt h⟩
  unfold charUnits
  simp only [h, if_true]

theorem charUnits_of_ge {c : Char} (h : ¬c.toNat < 0x10000) :
    ∃ high low : CodeUnit, charUnits c = [high, low] ∧
      high.val = 0xd800 + (c.toNat - 0x10000) / 0x400 ∧
      low.val = 0xdc00 + (c.toNat - 0x10000) % 0x400 := by
  have hc := toNat_lt c
  refine ⟨Fin.ofNat 0x10000 (0xd800 + (c.toNat - 0x10000) / 0x400),
    Fin.ofNat 0x10000 (0xdc00 + (c.toNat - 0x10000) % 0x400), ?_, ?_, ?_⟩
  · unfold charUnits
    simp only [h, if_false]
  · exact Nat.mod_eq_of_lt (by omega)
  · exact Nat.mod_eq_of_lt (by omega)

theorem chars_of_not_high {u : CodeUnit} (hu : ¬u.IsHigh) (s : Utf16) :
    chars (u :: s) = u.single :: chars s := by
  cases s with
  | nil => rfl
  | cons v s => rw [chars, if_neg fun h => hu h.1]

/-- The characters of the code units of a text are the text. -/
theorem chars_units (cs : List Char) : chars (units cs) = cs := by
  induction cs with
  | nil => rfl
  | cons c cs ih =>
    have hc := toNat_lt c
    rw [units_cons]
    by_cases hlt : c.toNat < 0x10000
    · obtain ⟨u, hunits, hu⟩ := charUnits_of_lt hlt
      have hhigh : ¬u.IsHigh := by
        unfold IsHigh
        omega
      have hlow : ¬u.IsLow := by
        unfold IsLow
        omega
      rw [hunits, List.singleton_append, chars_of_not_high hhigh, ih, single,
        if_neg (not_or.mpr ⟨hhigh, hlow⟩), hu, Char.ofNat_toNat]
    · obtain ⟨high, low, hunits, hhigh, hlow⟩ := charUnits_of_ge hlt
      have hpair : high.IsHigh ∧ low.IsLow := by
        unfold IsHigh IsLow
        omega
      rw [hunits]
      show chars (high :: low :: units cs) = _
      have hpoint : 0x10000 + (0xd800 + (c.toNat - 0x10000) / 0x400 - 0xd800) * 0x400 +
          (0xdc00 + (c.toNat - 0x10000) % 0x400 - 0xdc00) = c.toNat := by omega
      rw [chars, if_pos hpair, ih, ofPair, hhigh, hlow, hpoint, Char.ofNat_toNat]

/-! ### Well-formed strings -/

theorem wellFormed_nil : WellFormed [] := ⟨[], rfl⟩

theorem WellFormed.append {s t : Utf16} (hs : WellFormed s) (ht : WellFormed t) :
    WellFormed (s ++ t) := by
  obtain ⟨cs, rfl⟩ := hs
  obtain ⟨ds, rfl⟩ := ht
  exact ⟨cs ++ ds, units_append cs ds⟩

theorem WellFormed.units_chars {s : Utf16} (hs : WellFormed s) : units (chars s) = s := by
  obtain ⟨cs, rfl⟩ := hs
  rw [chars_units]

/-- A unit that is no surrogate is a character. -/
theorem charUnits_single {u : CodeUnit} (hhigh : ¬u.IsHigh) (hlow : ¬u.IsLow) :
    charUnits u.single = [u] ∧ u.single.toNat = u.val := by
  have hu := u.isLt
  have hvalid : u.val.isValidChar := by
    unfold IsHigh at hhigh
    unfold IsLow at hlow
    unfold Nat.isValidChar
    omega
  have hnat : u.single.toNat = u.val := by
    rw [single, if_neg (not_or.mpr ⟨hhigh, hlow⟩), Char.ofNat, dif_pos hvalid]
    rfl
  refine ⟨?_, hnat⟩
  obtain ⟨v, hunits, hv⟩ := charUnits_of_lt (c := u.single) (by rw [hnat]; exact hu)
  rw [hunits, Fin.ext (hv.trans hnat)]

theorem toNat_ofPair {high low : CodeUnit} (hhigh : high.IsHigh) (hlow : low.IsLow) :
    (ofPair high low).toNat = 0x10000 + (high.val - 0xd800) * 0x400 + (low.val - 0xdc00) := by
  unfold IsHigh at hhigh
  unfold IsLow at hlow
  have hvalid : (0x10000 + (high.val - 0xd800) * 0x400 + (low.val - 0xdc00)).isValidChar := by
    unfold Nat.isValidChar
    omega
  rw [ofPair, Char.ofNat, dif_pos hvalid]
  rfl

theorem charUnits_ofPair {high low : CodeUnit} (hhigh : high.IsHigh) (hlow : low.IsLow) :
    charUnits (ofPair high low) = [high, low] := by
  have hnat := toNat_ofPair hhigh hlow
  obtain ⟨h, l, hunits, hh, hl⟩ := charUnits_of_ge (c := ofPair high low) (by omega)
  unfold IsHigh at hhigh
  unfold IsLow at hlow
  rw [hunits, Fin.ext (show h.val = high.val by omega), Fin.ext (show l.val = low.val by omega)]

theorem wellFormed_single {u : CodeUnit} (hhigh : ¬u.IsHigh) (hlow : ¬u.IsLow) :
    WellFormed [u] := by
  refine ⟨[u.single], ?_⟩
  rw [units_singleton, (charUnits_single hhigh hlow).1]

theorem wellFormed_ofPair {high low : CodeUnit} (hhigh : high.IsHigh) (hlow : low.IsLow) :
    WellFormed [high, low] := by
  refine ⟨[ofPair high low], ?_⟩
  rw [units_singleton, charUnits_ofPair hhigh hlow]

/-- A string without U+FFFD among its characters has no lone surrogate. -/
theorem wellFormed_of_chars {s : Utf16} (hs : ∀ c ∈ chars s, c ≠ '\uFFFD') : WellFormed s := by
  have hunit {u : CodeUnit} (hu : u.single ≠ '\uFFFD') : WellFormed [u] := by
    have hlone : ¬(u.IsHigh ∨ u.IsLow) := fun h => hu (if_pos h)
    exact wellFormed_single (not_or.mp hlone).1 (not_or.mp hlone).2
  induction s using chars.induct with
  | case1 => exact wellFormed_nil
  | case2 u => exact hunit (hs _ List.mem_cons_self)
  | case3 u v us hpair ih =>
    rw [chars, if_pos hpair] at hs
    exact (wellFormed_ofPair hpair.1 hpair.2).append (ih (List.forall_mem_cons.mp hs).2)
  | case4 u v us hpair ih =>
    rw [chars, if_neg hpair] at hs
    exact (hunit (hs _ List.mem_cons_self)).append (ih (List.forall_mem_cons.mp hs).2)

/-- A string of ASCII units is well-formed. -/
theorem wellFormed_of_ascii {s : Utf16} (hs : ∀ u ∈ s, u.val < 0x80) : WellFormed s := by
  induction s with
  | nil => exact wellFormed_nil
  | cons u s ih =>
    have hu := hs u List.mem_cons_self
    have hsingle : WellFormed [u] := by
      apply wellFormed_single
      · unfold IsHigh
        omega
      · unfold IsLow
        omega
    exact hsingle.append (ih fun v hv => hs v (List.mem_cons_of_mem u hv))

end Utf16

end Lib
