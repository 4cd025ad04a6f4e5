import TrusteeBank.Platform.System

/-!
# Adjustments reduce the reserve

"Active reserve adjustments reduce the ELIGIBLE reserve": regulatory holds, restricted funds,
operational carve-outs and charges are deducted, kind by kind, before the eligible reserve is
clamped at zero. `addAdjustment` stores the integer it is given, whatever its sign.

**Theorem (`adjustments_reduce`).** In every run whose adjustments are not negative, the eligible
reserve of every position is at most what is left of the cash after the unmatched deposits and the
pending redemptions, and adding an adjustment raises neither the eligible reserve nor the capacity
of any program. The invariant is that every stored adjustment is not negative (`Deducts`); a
negative one raises both (`negative_adjustment_raises`).
-/

set_option autoImplicit false

namespace TrusteeBank

open ReserveService (addedAdjustment assemble position)

section

variable [Runtime]

/-- No stored adjustment is negative. -/
def Deducts (w : World) : Prop := ∀ a ∈ w.reserveAdjustments.rows, 0 ≤ a.amountMinor

instance (w : World) : Decidable (Deducts w) := inferInstanceAs (Decidable (∀ _ ∈ _, _))

/-- An amount that is added is not negative. -/
def AddsDeduction (_w : World) : SystemOp → Prop
  | .addAdjustment input _ => ∀ amountMinor, bigInt input.amountMinor = .ok amountMinor →
      0 ≤ amountMinor
  | _ => True

/-- The eligible reserve of every position is at most the cash that is neither unmatched nor
pending redemption. -/
def EligibleWithin (w : World) : Prop :=
  ∀ (clock : Clock) programId pos, ((position clock programId).run w).1 = .ok pos →
    pos.eligibleReserve.minor ≤ max 0 (clearedCash w programId pos.currency -
      unmatchedFunds w programId pos.currency - pendingRedemption w programId pos.currency)

/-- Adding an adjustment raises neither the eligible reserve nor the capacity of a program. -/
def AddsNoReserve (w : World) (op : SystemOp) : Prop :=
  match op with
  | .addAdjustment input id => ∀ (clock : Clock) programId pos pos',
      ((position clock programId).run w).1 = .ok pos →
      ((position clock programId).run (SystemOp.step w (.addAdjustment input id))).1 = .ok pos' →
        pos'.eligibleReserve.minor ≤ pos.eligibleReserve.minor ∧
          pos'.mintCapacity.minor ≤ pos.mintCapacity.minor
  | _ => True

/-! ## Sums of adjustments -/

theorem Deducts.sum_nonneg {w : World} (h : Deducts w) (programId currency kind : String) :
    0 ≤ adjustmentSum w programId currency kind := by
  apply List.sum_nonneg
  intro n hn
  obtain ⟨a, ha, rfl⟩ := List.mem_map.mp hn
  exact h a (List.mem_filter.mp ha).1

/-- What one more row adds to the sums. -/
theorem adjustmentSum_insert {w : World} {a : ReserveAdjustment}
    {t : Lib.Table ReserveAdjustment.id} (ht : w.reserveAdjustments.insert? a = some t)
    (programId currency kind : String) :
    adjustmentSum { w with reserveAdjustments := t } programId currency kind =
      adjustmentSum w programId currency kind +
        if a.programId = programId ∧ a.currency = currency ∧ a.active = true ∧ a.kind = kind
          then a.amountMinor else 0 := by
  unfold adjustmentSum
  simp only [(Lib.Table.insert?_eq_some ht).1, List.filter_append, List.map_append, List.sum_append]
  congr 1
  by_cases hcounts : a.programId = programId ∧ a.currency = currency ∧ a.active = true ∧
      a.kind = kind
  · simp [hcounts]
  · simp only [if_neg hcounts]
    simp only [List.filter_cons, List.filter_nil, Bool.and_eq_true, decide_eq_true_eq, and_assoc,
      if_neg hcounts, List.map_nil, List.sum_nil]

/-! ## Figures -/

/-- **Larger deductions leave no more reserve and no more capacity.** -/
theorem assemble_antitone {program : Program} {cash unmatched pending redemption : Int}
    {latest : Option LiabilitySnapshot} {now : Int} {adjustments adjustments' : String → Int}
    {pos pos' : ReservePosition}
    (h : assemble program (money cash program.referenceCurrency)
      (money unmatched program.referenceCurrency) (money pending program.referenceCurrency)
      (money redemption program.referenceCurrency) latest now adjustments = .ok pos)
    (h' : assemble program (money cash program.referenceCurrency)
      (money unmatched program.referenceCurrency) (money pending program.referenceCurrency)
      (money redemption program.referenceCurrency) latest now adjustments' = .ok pos')
    (hle : ∀ kind, adjustments kind ≤ adjustments' kind) :
    pos'.eligibleReserve.minor ≤ pos.eligibleReserve.minor ∧
      pos'.mintCapacity.minor ≤ pos.mintCapacity.minor := by
  obtain ⟨obligation, buffer, hobligation, -, hbuffer, -, -, heligible, hcapacity, -, -⟩ :=
    assemble_ok h
  obtain ⟨obligation', buffer', hobligation', -, hbuffer', -, -, heligible', hcapacity', -, -⟩ :=
    assemble_ok h'
  -- The obligation and the buffer do not depend on the deductions.
  obtain rfl : obligation = obligation' := hobligation.trans hobligation'.symm
  have hsame : buffer = buffer' :=
    congrArg Money.minor (Except.ok.inj (hbuffer.symm.trans hbuffer'))
  have hrestricted := hle "RESTRICTED"
  have hcharge := hle "BANK_CHARGE"
  have hhold := hle "REGULATORY_HOLD"
  have hoperational := hle "OPERATIONAL"
  have hreserve : pos'.eligibleReserve.minor ≤ pos.eligibleReserve.minor := by
    rw [heligible, heligible', money_minor, money_minor]
    omega
  refine ⟨hreserve, ?_⟩
  rw [hcapacity, hcapacity', money_minor, money_minor]
  omega

/-- A position that is read is the one of the state. -/
theorem positionAt_of_run {w : World} {clock : Clock} {programId : String} {pos : ReservePosition}
    (h : ((position clock programId).run w).1 = .ok pos) :
    ∃ program, w.programs.find? programId = some program ∧
      positionWith w programId program (pendingMint w programId program.referenceCurrency)
        (clock 0) = .ok pos := by
  rw [run_position] at h
  unfold positionAt at h
  cases hprogram : w.programs.find? programId with
  | none =>
    rw [hprogram] at h
    cases h
  | some program =>
    rw [hprogram] at h
    exact ⟨program, rfl, h⟩

/-- **Where no adjustment is negative, the eligible reserve is within the cash.** -/
theorem Deducts.eligibleWithin {w : World} (h : Deducts w) : EligibleWithin w := by
  intro clock programId pos hpos
  obtain ⟨program, -, hassemble⟩ := positionAt_of_run hpos
  obtain ⟨_, _, -, -, -, -, hcurrency, heligible, -, -, -⟩ := assemble_ok hassemble
  have hsum := h.sum_nonneg programId program.referenceCurrency
  have hrestricted := hsum "RESTRICTED"
  have hcharge := hsum "BANK_CHARGE"
  have hhold := hsum "REGULATORY_HOLD"
  have hoperational := hsum "OPERATIONAL"
  rw [hcurrency, heligible, money_minor]
  omega

/-! ## Runs -/

/-- An adjustment that is not negative raises nothing. -/
theorem AddsDeduction.addsNoReserve {w : World} {op : SystemOp} (hop : AddsDeduction w op) :
    AddsNoReserve w op := by
  cases op with
  | addAdjustment input id =>
    intro clock programId pos pos' hpos hpos'
    simp only [SystemOp.step] at hpos'
    rcases run_addAdjustment_cases w input id with hsame |
      ⟨_, amountMinor, t, -, -, hminor, ht, hstate⟩
    · rw [hsame, hpos] at hpos'
      cases hpos'
      exact ⟨le_rfl, le_rfl⟩
    · rw [hstate] at hpos'
      obtain ⟨program, hprogram, hassemble⟩ := positionAt_of_run hpos
      obtain ⟨program', hprogram', hassemble'⟩ := positionAt_of_run hpos'
      obtain rfl : program = program' := Option.some.inj (hprogram.symm.trans hprogram')
      apply assemble_antitone hassemble hassemble'
      intro kind
      rw [adjustmentSum_insert ht]
      have hnonneg : 0 ≤ amountMinor := hop amountMinor hminor
      split_ifs
      · show _ ≤ _ + amountMinor
        omega
      · omega
  | platform op => trivial
  | setFlag key enabled updatedBy => trivial
  | program op => trivial
  | liftAdjustment id actor => trivial

/-- **Every operation keeps the adjustments deductions.** -/
theorem Deducts.step {w : World} {op : SystemOp} (h : Deducts w) (hop : AddsDeduction w op) :
    Deducts (op.step w) := by
  have hkept {w' : World} (hw' : w'.reserveAdjustments = w.reserveAdjustments) : Deducts w' := by
    unfold Deducts
    rw [hw']
    exact h
  cases op with
  | platform op => exact hkept (op.frame w).2
  | setFlag key enabled updatedBy =>
    exact hkept (setFlag_keeps (fun _ _ => rfl) key enabled updatedBy w)
  | program op =>
    apply (op.served w).after (R := Deducts) h
    · intro w₁ heffect
      cases heffect <;> exact h
    · intro w₁ hw₁ rows events
      exact hw₁
  | addAdjustment input id =>
    simp only [SystemOp.step]
    rcases run_addAdjustment_cases w input id with hsame |
      ⟨_, amountMinor, t, -, -, hminor, ht, hstate⟩
    · rw [hsame]
      exact h
    · rw [hstate]
      intro a ha
      rw [(Lib.Table.insert?_eq_some ht).1] at ha
      rcases List.mem_append.mp ha with ha | ha
      · exact h a ha
      · rw [List.mem_singleton.mp ha]
        exact hop amountMinor hminor
  | liftAdjustment id actor =>
    simp only [SystemOp.step]
    rcases run_liftAdjustment_cases w id actor with hsame | hstate
    · rw [hsame]
      exact h
    · rw [hstate]
      intro a ha
      have hmem := @Lib.Table.mem_modify _ _ _ _ w.reserveAdjustments id
        (ReserveAdjustment.asLifted actor) (ReserveAdjustment.asLifted_id actor) a
      rcases hmem.mp ha with ⟨ha, -⟩ | ⟨b, hb, rfl⟩
      · exact h a ha
      · exact h b (Lib.Table.mem_of_find? hb)

/-- **Adjustments only reduce**, in every run that adds no negative one. -/
theorem adjustments_reduce {w : World} (hw : Deducts w) {ops : List SystemOp}
    (hops : Lib.Meets SystemOp.step AddsDeduction w ops) :
    (∀ w' ∈ Lib.history SystemOp.step w ops, EligibleWithin w') ∧
      Lib.Meets SystemOp.step AddsNoReserve w ops := by
  constructor
  · intro w' hw'
    have hdeducts := Lib.inv_history (fun _ _ h hop => Deducts.step h hop) hw hops
    exact (hdeducts w' hw').eligibleWithin
  · exact hops.mono fun _ _ hop => hop.addsNoReserve

end

/-! ## Two adjustments -/

attribute [local instance] Runtime.ascii

namespace Sample

/-- A bank charge of an amount. -/
def charge (amountMinor : String) : SystemOp :=
  .addAdjustment ⟨"P1", "BANK_CHARGE", amountMinor, none, "ops"⟩ "ADJ1"

theorem charge_deducts :
    Lib.Meets SystemOp.step AddsDeduction world [charge "40", .liftAdjustment "ADJ1" "ops"] := by
  have hcharge : bigInt "40" = .ok 40 := by decide
  refine ⟨fun amountMinor hminor => ?_, trivial, trivial⟩
  rw [show bigInt "40" = .ok 40 from hcharge] at hminor
  cases hminor
  decide

/-- The eligible reserve and the capacity of the program. -/
def figures (w : World) : Option (Int × Int) :=
  ((position clock "P1").run w).1.toOption.map fun pos =>
    (pos.eligibleReserve.minor, pos.mintCapacity.minor)

/-- A charge of -100 on a reserve of 100. -/
theorem figures_charge : figures world = some (100, 100) ∧
    figures (SystemOp.step world (charge "-100")) = some (200, 200) := by
  decide +kernel

end Sample

/-- A charge is added and lifted. -/
theorem adjustments_reduce_charge :
    (∀ w' ∈ Lib.history SystemOp.step Sample.world
        [Sample.charge "40", .liftAdjustment "ADJ1" "ops"], EligibleWithin w') ∧
      Lib.Meets SystemOp.step AddsNoReserve Sample.world
        [Sample.charge "40", .liftAdjustment "ADJ1" "ops"] :=
  adjustments_reduce (by decide) Sample.charge_deducts

/-- A negative charge doubles the reserve and the capacity. -/
theorem negative_adjustment_raises : ¬∀ [Runtime] (w : World) (ops : List SystemOp), Deducts w →
    (∀ w' ∈ Lib.history SystemOp.step w ops, EligibleWithin w') ∧
      Lib.Meets SystemOp.step AddsNoReserve w ops := by
  intro h
  obtain ⟨hbefore, hafter⟩ := Sample.figures_charge
  have hraises := (h Sample.world [Sample.charge "-100"] (by decide)).2.1
  obtain ⟨pos, hpos, heq⟩ := toOption_map_eq_some.mp hbefore
  obtain ⟨pos', hpos', heq'⟩ := toOption_map_eq_some.mp hafter
  have hle := hraises Sample.clock "P1" pos pos' hpos hpos'
  rw [(Prod.mk.inj heq).1, (Prod.mk.inj heq').1] at hle
  exact absurd hle.1 (by decide)

end TrusteeBank
