import TrusteeBank.Api.Sessions
import TrusteeBank.Api.Tokens

/-!
# Session tokens that are texts

`UserAuthService.verifyToken` takes tokens that are texts of characters, and a platform on which the
claims of a body are given. On such a token it compares what `Tokens.verifyToken` compares: the
text is taken apart at the same place, the lengths are those of the code units, and the bytes those
of the encoding.

* `splitLast_ofString`, `length_ofString`, `timingSafeEqual_ofString`: the steps;
* `verifyToken_throws_iff`: the two throw on the same tokens.
-/

set_option autoImplicit false

namespace TrusteeBank

open Lib (CodeUnit Utf16)
open Lib.Utf16

namespace Tokens

/-- A unit that is no surrogate is in a text where its character is. -/
theorem unit_mem_units {c : Char} (hc : c.toNat < 0xd800) {cs : List Char} :
    unit c ∈ units cs ↔ c ∈ cs := by
  have hval : (unit c).val = c.toNat := val_unit (by omega)
  unfold units
  rw [List.mem_flatMap]
  constructor
  · rintro ⟨d, hd, hmem⟩
    by_cases hlt : d.toNat < 0x10000
    · obtain ⟨u, hunits, hu⟩ := charUnits_of_lt hlt
      rw [hunits, List.mem_singleton] at hmem
      rw [← hmem, hval] at hu
      rwa [Char.toNat_inj.mp hu]
    · obtain ⟨high, low, hunits, hhigh, hlow⟩ := charUnits_of_ge hlt
      rw [hunits, List.mem_cons, List.mem_singleton] at hmem
      rcases hmem with hmem | hmem
      · rw [← hmem] at hhigh
        omega
      · rw [← hmem] at hlow
        omega
  · intro hmem
    obtain ⟨u, hunits, hu⟩ := charUnits_of_lt (c := c) (by omega)
    refine ⟨c, hmem, ?_⟩
    rw [hunits, List.mem_singleton]
    exact Fin.ext (hval.trans hu.symm)

theorem splitLast_eq_none {u : CodeUnit} {s : Utf16} (h : u ∉ s) : splitLast u s = none := by
  induction s with
  | nil => rfl
  | cons v s ih =>
    obtain ⟨hv, hs⟩ := not_or.mp fun hmem => h (List.mem_cons.mpr hmem)
    rw [splitLast, ih hs]
    exact if_neg (Ne.symm hv)

theorem splitAtLast_eq_none {c : Char} {text : String} (h : c ∉ text.toList) :
    splitAtLast c text = none := by
  cases hsplit : splitAtLast c text with
  | none => rfl
  | some parts =>
    refine absurd ?_ h
    rw [splitAtLast_eq_some hsplit]
    simp

/-- A text is taken apart at the same place. -/
theorem splitLast_ofString {c : Char} (hc : c.toNat < 0xd800) (text : String) :
    splitLast (unit c) (ofString text) =
      (splitAtLast c text).map fun parts => (ofString parts.1, ofString parts.2) := by
  by_cases hmem : c ∈ text.toList
  · obtain ⟨after, before, hsplit, hfirst⟩ :=
      List.eq_append_cons_of_mem (List.mem_reverse.mpr hmem)
    have htext : text.toList = before.reverse ++ c :: after.reverse := by
      have h := congrArg List.reverse hsplit
      simpa using h
    have hafter : c ∉ (String.ofList after.reverse).toList := by
      rw [String.toList_ofList, List.mem_reverse]
      exact hfirst
    have hjoin : text = String.ofList before.reverse ++ String.singleton c ++
        String.ofList after.reverse := by
      apply String.toList_inj.mp
      simp [htext]
    obtain ⟨u, hunits, hu⟩ := charUnits_of_lt (c := c) (by omega)
    have hunit : charUnits c = [unit c] := by
      rw [hunits, Fin.ext (hu.trans (val_unit (by omega)).symm)]
    have hcut := splitAtLast_of_notMem (String.ofList before.reverse) hafter
    rw [← hjoin] at hcut
    rw [hcut, Option.map_some, ofString, htext, units_append, units_cons, hunit,
      List.singleton_append, splitLast_append]
    · rw [ofString_ofList, ofString_ofList]
    · rw [unit_mem_units hc, List.mem_reverse]
      exact hfirst
  · rw [splitAtLast_eq_none hmem, splitLast_eq_none]
    · rfl
    · rw [ofString, unit_mem_units hc]
      exact hmem

theorem length_ofString (s : String) : (ofString s).length = jsLength s := by
  have hchar (c : Char) : (charUnits c).length = if c.val < 0x10000 then 1 else 2 := by
    have hval : c.val < 0x10000 ↔ c.toNat < 0x10000 := UInt32.lt_iff_toNat_lt
    unfold charUnits
    simp only [hval]
    split_ifs <;> rfl
  unfold ofString units jsLength
  rw [List.length_flatMap]
  simp only [hchar]

theorem length_utf8_ofString (s : String) : (utf8 (ofString s)).length = s.utf8ByteSize := by
  unfold utf8 ofString
  rw [chars_units, ← String.size_toByteArray, ← String.utf8Encode_toList]
  simp [List.utf8Encode]

theorem utf8_ofString_inj {s t : String} : utf8 (ofString s) = utf8 (ofString t) ↔ s = t := by
  have hread (s : String) : utf8Decode (utf8 (ofString s)) = ofString s :=
    utf8Decode_utf8 ⟨s.toList, rfl⟩
  refine ⟨fun h => ofString_injective ?_, fun h => by rw [h]⟩
  rw [← hread s, h, hread t]

/-- The bytes of texts are compared. -/
theorem timingSafeEqual_ofString (s t : String) :
    timingSafeEqual (utf8 (ofString s)) (utf8 (ofString t)) = TrusteeBank.timingSafeEqual s t := by
  unfold timingSafeEqual TrusteeBank.timingSafeEqual
  simp only [length_utf8_ofString, utf8_ofString_inj]

theorem ofString_eq_nil {s : String} : ofString s = [] ↔ s = "" := by
  refine ⟨fun h => ofString_injective h, fun h => by rw [h]; rfl⟩

/-- **The two throw on the same tokens**, when the HMACs are the same. -/
theorem verifyToken_throws_iff [AuthRuntime] [TokenRuntime]
    (hsign : ∀ body, ofString (AuthRuntime.sign body) = sign (ofString body)) (now : Int)
    (now' : TimeValue) (token : String) (e : ApiError) :
    verifyToken now' (ofString token) = .error e ↔
      UserAuthService.verifyToken now token = .error e := by
  unfold verifyToken UserAuthService.verifyToken
  rw [splitLast_ofString (by decide)]
  cases splitAtLast '.' token with
  | none => simp
  | some parts =>
    obtain ⟨body, sig⟩ := parts
    simp only [Option.map_some, ofString_eq_nil, ← hsign, length_ofString,
      timingSafeEqual_ofString]
    by_cases hbody : body = ""
    · simp [hbody]
    by_cases hlength : jsLength sig = jsLength (AuthRuntime.sign body)
    · simp only [hbody, hlength, if_false, ne_eq, not_true_eq_false]
      cases hsame : TrusteeBank.timingSafeEqual sig (AuthRuntime.sign body) with
      | error e' => simp [bind, Except.bind]
      | ok same => cases same <;> simp [bind, Except.bind, pure, Except.pure]
    · simp [hbody, hlength, pure, Except.pure]

end Tokens

end TrusteeBank
