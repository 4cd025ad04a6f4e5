import TrusteeBank.Reserve.Registration
import TrusteeBank.Services.ProgramFunds

/-!
# The counters of a program fund

`reserve` compares the amount with what is available and `release` with what is reserved; neither
asks whether the amount is positive, as `fund` does. A negative amount passes both comparisons and
moves the counter the other way.

**The condition** (`FundOp.AmountSound`). Where a reservation or a release passes its own bound, its
amount is positive. One whose record cannot be stored fails after it has written the counter; it
only has to leave the counter in range.

* `fund_counters_iff`: the counters are in range in every state of a run, and every reservation and
  release that succeeds moves its own way, exactly when the steps of the run meet the condition;
* `negative_amounts_move`: a reservation of `-50` succeeds and leaves `-50` reserved.
-/

set_option autoImplicit false

namespace TrusteeBank

open Lib (Call)
open ProgramFundsService

section

variable [Runtime]

/-! ## Funds in range -/

/-- What is reserved is not negative and is covered by the funding. -/
def PaykhProgramFund.CountersInRange (fund : PaykhProgramFund) : Prop :=
  0 ≤ fund.reservedMinor ∧ fund.reservedMinor ≤ fund.fundedMinor

/-- The counters of every fund are in range. -/
def FundsInRange (w : World) : Prop := ∀ f ∈ w.paykhProgramFunds.rows, f.CountersInRange

/-- What is reserved in a fund. -/
def reservedMinorOf (w : World) (fundId : String) : Option Int :=
  (w.paykhProgramFunds.find? fundId).map fun f => f.reservedMinor

theorem reservedMinorOf_of {w : World} {fundId : String} {fund : PaykhProgramFund}
    (hfund : w.paykhProgramFunds.find? fundId = some fund) :
    reservedMinorOf w fundId = some fund.reservedMinor := by
  unfold reservedMinorOf
  rw [hfund]
  rfl

theorem reservedMinorOf_withReserved {w : World} {fundId : String} {fund : PaykhProgramFund}
    (hfund : w.paykhProgramFunds.find? fundId = some fund) (value : Int) (rows : List AuditLog)
    (events : List OutboxEvent) :
    reservedMinorOf ((w.withReserved fundId value).logged rows events) fundId = some value := by
  show ((w.paykhProgramFunds.modify fundId (PaykhProgramFund.withReserved value)
    (PaykhProgramFund.withReserved_id value)).find? fundId).map (fun f => f.reservedMinor) = _
  rw [Lib.Table.find?_modify, if_pos rfl, hfund]
  rfl

/-! ## What passes -/

/-- A reservation or release of `amount` from `fund` passes its checks; `value` is what it leaves
reserved. -/
inductive FundOp.Passes (w : World) : FundOp → PaykhProgramFund → Int → Int → Prop
  | reserve {fundId amountMinor actor : String} {fund : PaykhProgramFund} {amount : Int}
      (hfund : w.paykhProgramFunds.find? fundId = some fund)
      (hamount : bigInt amountMinor = .ok amount)
      (havailable : amount ≤ fund.fundedMinor - fund.reservedMinor)
      (hfits : FitsInt8 (fund.reservedMinor + amount)) :
      Passes w (.reserve fundId amountMinor actor) fund amount (fund.reservedMinor + amount)
  | release {fundId amountMinor actor : String} {fund : PaykhProgramFund} {amount : Int}
      (hfund : w.paykhProgramFunds.find? fundId = some fund)
      (hamount : bigInt amountMinor = .ok amount) (hreserved : amount ≤ fund.reservedMinor)
      (hfits : FitsInt8 (fund.reservedMinor - amount)) :
      Passes w (.release fundId amountMinor actor) fund amount (fund.reservedMinor - amount)

/-! ## The condition -/

/-- The amount of a reservation or release that passes its bound is positive, or the request fails
in the end and what it leaves is in range. -/
def FundOp.AmountSound (w : World) (op : FundOp) : Prop :=
  ∀ fund amount value, op.Passes w fund amount value →
    0 < amount ∨ ¬FitsText op.actor ∧ (fund.withReserved value).CountersInRange

/-- A reservation that succeeds raises what is reserved, and a release lowers it. -/
def FundOp.MovesItsWay (w : World) (op : FundOp) : Prop :=
  match op with
  | .reserve fundId amountMinor actor =>
    ∀ r, ((ProgramFundsService.reserve fundId amountMinor actor).run w).1 = .ok r →
      ∃ before after, reservedMinorOf w fundId = some before ∧
        reservedMinorOf (op.step w) fundId = some after ∧ before < after
  | .release fundId amountMinor actor =>
    ∀ r, ((ProgramFundsService.release fundId amountMinor actor).run w).1 = .ok r →
      ∃ before after, reservedMinorOf w fundId = some before ∧
        reservedMinorOf (op.step w) fundId = some after ∧ after < before
  | _ => True

/-- A reservation or release writes the counter if it passes, and succeeds if its record can be
stored as well. -/
structure MovesReserved.Outcome {α : Type} (w w' : World) (fundId amountMinor actor : String)
    (bound : PaykhProgramFund → Int) (value : PaykhProgramFund → Int → Int)
    (result : Except ApiError α) : Prop where
  written : ∀ fund amount, MovesReserved w fundId amountMinor bound value fund amount →
    reservedMinorOf w' fundId = some (value fund amount) ∧
      ((∃ r, result = .ok r) ↔ FitsText actor)
  passed : (∃ r, result = .ok r) → ∃ fund amount,
    MovesReserved w fundId amountMinor bound value fund amount

/-- The outcome of a call that fails without a change, or passes and writes the counter. -/
theorem MovesReserved.Outcome.of_cases {α : Type} {w : World} {fundId amountMinor actor : String}
    {bound : PaykhProgramFund → Int} {value : PaykhProgramFund → Int → Int}
    {out : Except ApiError α × World}
    (h : (∃ e, out = (.error e, w) ∧
        ∀ fund amount, ¬MovesReserved w fundId amountMinor bound value fund amount) ∨
      ∃ fund amount r rows events, MovesReserved w fundId amountMinor bound value fund amount ∧
        out = (r, (w.withReserved fundId (value fund amount)).logged rows events) ∧
        ((∃ a, r = .ok a) ↔ FitsText actor)) :
    MovesReserved.Outcome w out.2 fundId amountMinor actor bound value out.1 := by
  rcases h with ⟨e, rfl, hnone⟩ | ⟨fund, amount, r, rows, events, hmoves, rfl, hok⟩
  · refine ⟨fun fund amount h => absurd h (hnone fund amount), ?_⟩
    rintro ⟨r, hr⟩
    cases hr
  · refine ⟨fun fund' amount' h => ?_, fun _ => ⟨fund, amount, hmoves⟩⟩
    obtain ⟨rfl, rfl⟩ := hmoves.unique h
    exact ⟨reservedMinorOf_withReserved hmoves.found _ rows events, hok⟩

theorem reserve_outcome (w : World) (fundId amountMinor actor : String) :
    MovesReserved.Outcome w (FundOp.step w (.reserve fundId amountMinor actor)) fundId amountMinor
      actor (fun fund => fund.fundedMinor - fund.reservedMinor)
      (fun fund amount => fund.reservedMinor + amount)
      ((reserve fundId amountMinor actor).run w).1 := by
  simp only [FundOp.step, FundOp.call, Call.run_void_snd]
  exact .of_cases (run_fundReserve_cases w fundId amountMinor actor)

theorem release_outcome (w : World) (fundId amountMinor actor : String) :
    MovesReserved.Outcome w (FundOp.step w (.release fundId amountMinor actor)) fundId amountMinor
      actor PaykhProgramFund.reservedMinor (fun fund amount => fund.reservedMinor - amount)
      ((release fundId amountMinor actor).run w).1 := by
  simp only [FundOp.step, FundOp.call, Call.run_void_snd]
  exact .of_cases (run_fundRelease_cases w fundId amountMinor actor)

/-- A move that leaves `value`, which is on the side `R` of what was reserved for a positive amount
only, is to this side exactly when its amount is positive, unless it fails. -/
theorem MovesReserved.Outcome.moves_iff {α : Type} {w w' : World}
    {fundId amountMinor actor : String} {bound : PaykhProgramFund → Int}
    {value : PaykhProgramFund → Int → Int} {result : Except ApiError α} {R : Int → Int → Prop}
    (hvalue : ∀ fund amount, R fund.reservedMinor (value fund amount) ↔ 0 < amount)
    (h : Outcome w w' fundId amountMinor actor bound value result) :
    (∀ r, result = .ok r → ∃ before after, reservedMinorOf w fundId = some before ∧
        reservedMinorOf w' fundId = some after ∧ R before after) ↔
      ∀ fund amount, MovesReserved w fundId amountMinor bound value fund amount →
        FitsText actor → 0 < amount := by
  constructor
  · intro hside fund amount hmoves hactor
    obtain ⟨hafter, hok⟩ := h.written fund amount hmoves
    obtain ⟨r, hr⟩ := hok.mpr hactor
    obtain ⟨before, after, hbefore', hafter', hR⟩ := hside r hr
    cases (reservedMinorOf_of hmoves.found).symm.trans hbefore'
    cases hafter.symm.trans hafter'
    exact (hvalue fund amount).mp hR
  · intro hpositive r hr
    obtain ⟨fund, amount, hmoves⟩ := h.passed ⟨r, hr⟩
    obtain ⟨hafter, hok⟩ := h.written fund amount hmoves
    exact ⟨_, _, reservedMinorOf_of hmoves.found, hafter,
      (hvalue fund amount).mpr (hpositive fund amount hmoves (hok.mp ⟨r, hr⟩))⟩

/-- An operation moves its own way exactly when its amount is positive, unless it fails. -/
theorem FundOp.movesItsWay_iff (w : World) (op : FundOp) :
    op.MovesItsWay w ↔
      ∀ fund amount value, op.Passes w fund amount value → FitsText op.actor → 0 < amount := by
  cases op with
  | create input id =>
    refine ⟨fun _ fund amount value h => ?_, fun _ => trivial⟩
    cases h
  | fund fundId amountMinor actor =>
    refine ⟨fun _ fund amount value h => ?_, fun _ => trivial⟩
    cases h
  | reserve fundId amountMinor actor =>
    refine ((reserve_outcome w fundId amountMinor actor).moves_iff fun fund amount =>
      lt_add_iff_pos_right _).trans ⟨fun h fund amount value hpasses => ?_, fun h fund amount hm => ?_⟩
    · cases hpasses with
      | reserve hfund hamount havailable hfits => exact h _ _ ⟨hfund, hamount, havailable, hfits⟩
    · exact h fund amount _ (.reserve hm.found hm.read hm.bounded hm.fits)
  | release fundId amountMinor actor =>
    refine ((release_outcome w fundId amountMinor actor).moves_iff
      (R := fun before after => after < before) fun fund amount =>
        sub_lt_self_iff _).trans ⟨fun h fund amount value hpasses => ?_, fun h fund amount hm => ?_⟩
    · cases hpasses with
      | release hfund hamount hreserved hfits => exact h _ _ ⟨hfund, hamount, hreserved, hfits⟩
    · exact h fund amount _ (.release hm.found hm.read hm.bounded hm.fits)

/-! ## Every operation -/

/-- A reservation or release that passes leaves its value. -/
theorem FundOp.Passes.written {w : World} {op : FundOp} {fund : PaykhProgramFund}
    {amount value : Int} (h : op.Passes w fund amount value) :
    ∃ rows events, op.step w = (w.withReserved fund.id value).logged rows events := by
  cases h with
  | @reserve fundId amountMinor actor _ _ hfund hamount havailable hfits =>
    obtain rfl : fund.id = fundId := Lib.Table.key_of_find? hfund
    simp only [step, call, Call.run_void_snd]
    rcases run_fundReserve_cases w fund.id amountMinor actor with
      ⟨_, -, hnone⟩ | ⟨fund', amount', r, rows, events, hmoves, hrun, -⟩
    · exact absurd ⟨hfund, hamount, havailable, hfits⟩ (hnone fund amount)
    · obtain ⟨rfl, rfl⟩ := hmoves.unique ⟨hfund, hamount, havailable, hfits⟩
      rw [hrun]
      exact ⟨rows, events, rfl⟩
  | @release fundId amountMinor actor _ _ hfund hamount hreserved hfits =>
    obtain rfl : fund.id = fundId := Lib.Table.key_of_find? hfund
    simp only [step, call, Call.run_void_snd]
    rcases run_fundRelease_cases w fund.id amountMinor actor with
      ⟨_, -, hnone⟩ | ⟨fund', amount', r, rows, events, hmoves, hrun, -⟩
    · exact absurd ⟨hfund, hamount, hreserved, hfits⟩ (hnone fund amount)
    · obtain ⟨rfl, rfl⟩ := hmoves.unique ⟨hfund, hamount, hreserved, hfits⟩
      rw [hrun]
      exact ⟨rows, events, rfl⟩

/-- The fund of a reservation or release that passes. -/
theorem FundOp.Passes.found {w : World} {op : FundOp} {fund : PaykhProgramFund}
    {amount value : Int} (h : op.Passes w fund amount value) :
    w.paykhProgramFunds.find? fund.id = some fund := by
  cases h with
  | reserve hfund => exact (Lib.Table.key_of_find? hfund : fund.id = _) ▸ hfund
  | release hfund => exact (Lib.Table.key_of_find? hfund : fund.id = _) ▸ hfund

/-- A positive amount that passes its bound leaves the counter in range. -/
theorem FundOp.Passes.inRange {w : World} {op : FundOp} {fund : PaykhProgramFund}
    {amount value : Int} (h : op.Passes w fund amount value) (hpositive : 0 < amount)
    (hrange : fund.CountersInRange) : (fund.withReserved value).CountersInRange := by
  obtain ⟨hnonneg, hcovered⟩ := hrange
  show 0 ≤ value ∧ value ≤ fund.fundedMinor
  cases h with
  | reserve _ _ havailable => omega
  | release _ _ hreserved => omega

/-- What is left in range by a reservation or release that passes. -/
theorem FundsInRange.passes {w : World} {op : FundOp} {fund : PaykhProgramFund}
    {amount value : Int} (h : FundsInRange w) (hpasses : op.Passes w fund amount value) :
    FundsInRange (op.step w) ↔ (fund.withReserved value).CountersInRange := by
  obtain ⟨rows, events, hstep⟩ := hpasses.written
  have hfound := hpasses.found
  rw [hstep]
  constructor
  · intro hrange
    refine hrange (fund.withReserved value) (Lib.Table.mem_of_find? (k := fund.id) ?_)
    show (w.paykhProgramFunds.modify fund.id (PaykhProgramFund.withReserved value)
      (PaykhProgramFund.withReserved_id value)).find? fund.id = _
    rw [Lib.Table.find?_modify, if_pos rfl, hfound]
    rfl
  · intro hrange
    exact Lib.Table.forall_modify (PaykhProgramFund.withReserved_id value) h hfound hrange

/-- **One operation** keeps the counters in range and moves its own way exactly when its amount is
sound. -/
theorem FundOp.amountSound_iff {w : World} (h : FundsInRange w) (op : FundOp) :
    FundsInRange (op.step w) ∧ op.MovesItsWay w ↔ op.AmountSound w := by
  rw [movesItsWay_iff]
  constructor
  · rintro ⟨hrange, hmoves⟩ fund amount value hpasses
    by_cases hactor : FitsText op.actor
    · exact .inl (hmoves fund amount value hpasses hactor)
    · exact .inr ⟨hactor, (h.passes hpasses).mp hrange⟩
  · intro hsound
    refine ⟨?_, fun fund amount value hpasses hactor =>
      (hsound fund amount value hpasses).resolve_right fun hfails => hfails.1 hactor⟩
    by_cases hpasses : ∃ fund amount value, op.Passes w fund amount value
    · obtain ⟨fund, amount, value, hpasses⟩ := hpasses
      have hfund := h fund (Lib.Table.mem_of_find? hpasses.found)
      rcases hsound fund amount value hpasses with hpositive | ⟨-, hleft⟩
      · exact (h.passes hpasses).mpr (hpasses.inRange hpositive hfund)
      · exact (h.passes hpasses).mpr hleft
    · -- Only the funded counter of a fund moves, or nothing does.
      obtain ⟨w₁, rows, events, heffect, hstep⟩ := op.effect w
      rw [hstep]
      show FundsInRange w₁
      cases heffect with
      | unchanged => exact h
      | created ht => exact Lib.Table.forall_insert? h ht ⟨le_refl 0, le_refl 0⟩
      | overflowed => exact h
      | @funded fundId _ _ fund amount _ hfund _ hamount =>
        obtain ⟨hnonneg, hcovered⟩ := h fund (Lib.Table.mem_of_find? hfund)
        refine Lib.Table.forall_modify (PaykhProgramFund.withFunded_id (fund.fundedMinor + amount))
          h hfund ⟨hnonneg, ?_⟩
        show fund.reservedMinor ≤ fund.fundedMinor + amount
        omega
      | reserved hfund hamount havailable hfits =>
        exact absurd ⟨_, _, _, .reserve hfund hamount havailable hfits⟩ hpasses
      | released hfund hamount hreserved hfits =>
        exact absurd ⟨_, _, _, .release hfund hamount hreserved hfits⟩ hpasses

/-- **The counters of every fund are in range and move their own way**, exactly while the amounts
that pass are sound. -/
theorem fund_counters_iff {w : World} (hw : FundsInRange w) (ops : List FundOp) :
    ((∀ w' ∈ Lib.history FundOp.step w ops, FundsInRange w') ∧
      Lib.Meets FundOp.step FundOp.MovesItsWay w ops) ↔
        Lib.Meets FundOp.step FundOp.AmountSound w ops :=
  Lib.history_meets_iff (fun _ op h => op.amountSound_iff h) hw

/-- What the body of a funding, a reservation or a release is checked for. -/
def FundOp.Accepted : FundOp → Prop
  | .create _ _ => True
  | .fund _ amountMinor actor | .reserve _ amountMinor actor | .release _ amountMinor actor =>
    isNumberString amountMinor = true ∧ actor ≠ ""

instance (op : FundOp) : Decidable op.Accepted := by
  cases op <;> unfold FundOp.Accepted <;> infer_instance

end

/-! ## A negative amount -/

attribute [local instance] Runtime.ascii

namespace Sample

def cashbackFund : FundOp :=
  .create
    { tenantId := "TEN", paykhProgramId := "PP", classification := "CASHBACK_LIABILITY", currency := "USD",
      reserveAccountId := "R1", actor := "tenant" } "F1"

/-- A fund of 100, of which 40 are reserved and 10 of these released. -/
def reservedAndReleased : List FundOp :=
  [cashbackFund, .fund "F1" "100" "tenant", .reserve "F1" "40" "tenant",
   .release "F1" "10" "tenant"]

/-- A reservation of a negative amount. -/
def reservedNegative : List FundOp :=
  [cashbackFund, .fund "F1" "100" "tenant", .reserve "F1" "-50" "tenant"]

end Sample

/-- 30 of 100 are reserved. -/
theorem fund_counters_reserved :
    ((∀ w' ∈ Lib.history FundOp.step World.empty Sample.reservedAndReleased, FundsInRange w') ∧
      Lib.Meets FundOp.step FundOp.MovesItsWay World.empty Sample.reservedAndReleased) := by
  refine (fund_counters_iff (w := World.empty) (fun f hf => absurd hf List.not_mem_nil)
    Sample.reservedAndReleased).mpr ⟨?_, ?_, ?_, ?_, trivial⟩
  · intro fund amount value h
    cases h
  · intro fund amount value h
    cases h
  · intro fund amount value h
    cases h with
    | reserve _ hamount =>
      obtain rfl : 40 = amount := Except.ok.inj hamount
      exact .inl (by decide)
  · intro fund amount value h
    cases h with
    | release _ hamount =>
      obtain rfl : 10 = amount := Except.ok.inj hamount
      exact .inl (by decide)

/-- A reservation of `-50` is accepted and leaves `-50` reserved. -/
theorem negative_amounts_move : ¬∀ [Runtime] (w : World), FundsInRange w → ∀ ops : List FundOp,
    (∀ op ∈ ops, op.Accepted) → FundsInRange (ops.foldl FundOp.step w) := by
  intro h
  have hrange := h World.empty (fun f hf => absurd hf List.not_mem_nil) Sample.reservedNegative
    (by decide)
  have hreserved : (((Sample.reservedNegative.foldl FundOp.step
      World.empty).paykhProgramFunds.find? "F1").map fun f => f.reservedMinor) = some (-50) := by
    decide +kernel
  obtain ⟨f, hf, hminor⟩ := Option.map_eq_some_iff.mp hreserved
  have hnonneg := (hrange f (Lib.Table.mem_of_find? hf)).1
  omega

end TrusteeBank
