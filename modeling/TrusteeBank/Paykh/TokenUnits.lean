import TrusteeBank.Paykh.LoyaltyBacking

/-!
# Whole token units

A unit of a loyalty stablecoin is backed by `denominationMinor`. An amount given in units is
multiplied by it; an amount given in minor units is taken as it is, and nothing asks whether it
divides evenly.

* `units_whole`: while amounts in minor units divide evenly, what is outstanding is a number of
  units, in every state reached;
* `units_broken`: 60 can be issued on units of 50, and no number of units redeems them.
-/

set_option autoImplicit false

namespace TrusteeBank

open LoyaltyService ProgramFundsService

section

variable [Runtime]

/-! ## Units of a liability -/

/-- What is outstanding is a number of units, and these are backed by what is outstanding. -/
def PaykhLoyaltyLiability.WholeUnits (l : PaykhLoyaltyLiability) : Prop :=
  ∃ peg units, makePeg l.pegCurrency l.denominationMinor = .ok peg ∧
    unitsForBacking (money l.outstandingMinor l.pegCurrency) peg = .ok (some units) ∧
    backingForUnits units peg = .ok (money l.outstandingMinor l.pegCurrency)

/-- The units of an amount are found exactly when the amount divides evenly and is not negative. -/
theorem wholeUnits_iff {l : PaykhLoyaltyLiability} (hdenomination : 1 ≤ l.denominationMinor) :
    l.WholeUnits ↔ 0 ≤ l.outstandingMinor ∧ l.denominationMinor ∣ l.outstandingMinor := by
  have hpeg : makePeg l.pegCurrency l.denominationMinor =
      .ok ⟨Runtime.toUpperCase l.pegCurrency, l.denominationMinor⟩ := by
    unfold makePeg
    rw [if_neg (by omega)]
  have hunits : unitsForBacking (money l.outstandingMinor l.pegCurrency)
      ⟨Runtime.toUpperCase l.pegCurrency, l.denominationMinor⟩ =
        .ok (if l.outstandingMinor % l.denominationMinor ≠ 0 then none
          else some (l.outstandingMinor / l.denominationMinor)) := by
    unfold unitsForBacking
    rw [if_neg (by simp)]
    dsimp only [money_minor]
    exact (apply_ite Except.ok _ _ _).symm
  constructor
  · rintro ⟨peg, units, hmade, hfound, hbacking⟩
    cases hpeg.symm.trans hmade
    rw [hunits] at hfound
    split_ifs at hfound with hremainder
    · cases hfound
    unfold backingForUnits at hbacking
    split_ifs at hbacking with hnegative
    have hminor : units * l.denominationMinor = l.outstandingMinor :=
      congrArg Money.minor (Except.ok.inj hbacking)
    rw [← hminor]
    exact ⟨Int.mul_nonneg (by omega) (by omega), Int.dvd_mul_left _ _⟩
  · rintro ⟨hnonneg, hdivides⟩
    have hquotient : ¬l.outstandingMinor / l.denominationMinor < 0 :=
      not_lt.mpr (Int.ediv_nonneg hnonneg (by omega))
    refine ⟨_, l.outstandingMinor / l.denominationMinor, hpeg, ?_, ?_⟩
    · rw [hunits, Int.emod_eq_zero_of_dvd hdivides]
      rfl
    · unfold backingForUnits
      rw [if_neg hquotient]
      dsimp only
      rw [Int.ediv_mul_cancel hdivides]
      simp [money, Runtime.toUpperCase_toUpperCase]

/-! ## Amounts -/

/-- An amount in units divides evenly; an amount in minor units is the one that was given. -/
theorem resolveAmount_units {liability : PaykhLoyaltyLiability}
    {amountMinor unitsText : Option String} {amount : Money} {units : Option Int}
    (h : resolveAmount liability amountMinor unitsText = .ok (amount, units)) :
    liability.denominationMinor ∣ amount.minor ∨
      given unitsText = none ∧
        ∃ text, given amountMinor = some text ∧ bigInt text = .ok amount.minor := by
  unfold resolveAmount at h
  cases hunits : given unitsText with
  | some text =>
    left
    rw [hunits] at h
    obtain ⟨n, -, h⟩ := bind_eq_ok.mp h
    obtain ⟨peg, hpeg, h⟩ := bind_eq_ok.mp h
    obtain ⟨backing, hbacking, h⟩ := bind_eq_ok.mp h
    cases h
    unfold makePeg at hpeg
    split_ifs at hpeg
    cases hpeg
    unfold backingForUnits at hbacking
    split_ifs at hbacking
    cases hbacking
    exact Int.dvd_mul_left _ _
  | none =>
    rw [hunits] at h
    cases hminor : given amountMinor with
    | none =>
      rw [hminor] at h
      cases h
    | some text =>
      rw [hminor] at h
      obtain ⟨n, hn, h⟩ := bind_eq_ok.mp h
      cases h
      exact .inr ⟨rfl, text, rfl, hn⟩

/-- An amount given in minor units is a number of units of the liability, where it is in range. -/
def DividesEvenly (l : PaykhLoyaltyLiability) (amountMinor units : Option String) (limit : Int) :
    Prop :=
  given units = none → ∀ text n, given amountMinor = some text → bigInt text = .ok n → 0 < n →
    n ≤ limit → l.denominationMinor ∣ n

/-- The amounts of issuances and redemptions are numbers of units. -/
def AmountsInUnits (w : World) : SafeguardOp → Prop
  | .loyalty (.issue _ _ _ input) => ∀ l f,
    w.paykhLoyaltyLiabilities.find? input.liabilityId = some l →
    w.paykhProgramFunds.find? l.programFundId = some f →
      DividesEvenly l input.amountMinor input.units (f.fundedMinor - f.reservedMinor)
  | .loyalty (.redeem _ _ _ _ input) => ∀ l,
    w.paykhLoyaltyLiabilities.find? input.liabilityId = some l →
      DividesEvenly l input.amountMinor input.units l.outstandingMinor
  | _ => True

theorem DividesEvenly.amount {l : PaykhLoyaltyLiability} {amountMinor unitsText : Option String}
    {limit : Int} (h : DividesEvenly l amountMinor unitsText limit) {amount : Money}
    (hresolved : ∃ units, resolveAmount l amountMinor unitsText = .ok (amount, units))
    (hpositive : 0 < amount.minor) (hlimit : amount.minor ≤ limit) :
    l.denominationMinor ∣ amount.minor := by
  obtain ⟨units, hresolved⟩ := hresolved
  rcases resolveAmount_units hresolved with hdivides | ⟨hnone, text, htext, hn⟩
  · exact hdivides
  · exact h hnone text amount.minor htext hn hpositive hlimit

/-! ## Every operation -/

/-- What is outstanding on the liabilities divides evenly. -/
def UnitsWhole (w : World) : Prop :=
  ∀ l ∈ w.paykhLoyaltyLiabilities.rows, 1 ≤ l.denominationMinor → l.WholeUnits

theorem NoFunds.unitsWhole {w : World} (hw : NoFunds w) : UnitsWhole w := by
  intro l hl
  rw [hw.liabilities] at hl
  cases hl

theorem UnitsWhole.logged {w : World} (h : UnitsWhole w) (rows : List AuditLog)
    (events : List OutboxEvent) : UnitsWhole (w.logged rows events) := h

/-- A liability is rewritten, and it keeps its denomination. -/
theorem UnitsWhole.update {w : World} (h : UnitsWhole w) {liability : PaykhLoyaltyLiability}
    (hliability : w.paykhLoyaltyLiabilities.find? liability.id = some liability)
    {f : PaykhLoyaltyLiability → PaykhLoyaltyLiability} (hf : ∀ l, (f l).id = l.id)
    (hdenomination : (f liability).denominationMinor = liability.denominationMinor)
    (hnonneg : 0 ≤ liability.outstandingMinor → 0 ≤ (f liability).outstandingMinor)
    (hdivides : liability.denominationMinor ∣
      (f liability).outstandingMinor - liability.outstandingMinor) :
    UnitsWhole (w.updateLiability liability.id f hf) := by
  refine Lib.Table.forall_modify hf h hliability ?_
  intro hone
  rw [hdenomination] at hone
  obtain ⟨hstarted, hwhole⟩ :=
    (wholeUnits_iff hone).mp (h liability (Lib.Table.mem_of_find? hliability) hone)
  rw [wholeUnits_iff (hdenomination ▸ hone), hdenomination]
  refine ⟨hnonneg hstarted, ?_⟩
  have hsum := Int.dvd_add hdivides hwhole
  rwa [Int.sub_add_cancel] at hsum

theorem UnitsWhole.loyalty {w w₁ : World} {op : LoyaltyOp} (h : UnitsWhole w)
    (hamounts : AmountsInUnits w (.loyalty op)) (heffect : LoyaltyEffect w op w₁) :
    UnitsWhole w₁ := by
  cases heffect with
  | unchanged => exact h
  | @bound input id fund denominationMinor t hfund hrequired hfree ht =>
    refine Lib.Table.forall_insert? h ht ?_
    intro hone
    rw [wholeUnits_iff hone]
    exact ⟨le_rfl, Int.dvd_zero _⟩
  | issueBooked hchecks he hfails => exact h
  | @issued gateway uuid id input liability fund amount e row t hchecks he hfits hrow ht =>
    have hpositive := hchecks.positive
    have heven := (hamounts liability fund hchecks.found hchecks.backed).amount hchecks.resolved
      hpositive hchecks.available
    refine h.update (Lib.Table.find?_key_of_mem (Lib.Table.mem_of_find? hchecks.found))
      (PaykhLoyaltyLiability.asIssued_id (liability.outstandingMinor + amount.minor)
        (liability.issuedTotalMinor + amount.minor)) rfl ?_ ?_
    · simp only [PaykhLoyaltyLiability.asIssued]
      omega
    · simpa only [PaykhLoyaltyLiability.asIssued, add_sub_cancel_left] using heven
  | redeemBooked hchecks he hfails => exact h
  | @redeemed gateway clock uuid id input liability amount e row t hchecks he hfits hrow ht _ =>
    have hle := hchecks.outstanding
    have heven := (hamounts liability hchecks.found).amount hchecks.resolved hchecks.positive hle
    refine h.update (Lib.Table.find?_key_of_mem (Lib.Table.mem_of_find? hchecks.found))
      (PaykhLoyaltyLiability.asRedeemed_id (liability.outstandingMinor - amount.minor)
        (liability.redeemedTotalMinor + amount.minor)) rfl ?_ ?_
    · simp only [PaykhLoyaltyLiability.asRedeemed]
      omega
    · simp only [PaykhLoyaltyLiability.asRedeemed]
      rw [show liability.outstandingMinor - amount.minor - liability.outstandingMinor =
        -amount.minor by omega]
      exact (Int.dvd_neg).mpr heven
  | @reconciled gateway clock liabilityId liability supply status hliability =>
    refine h.update (Lib.Table.find?_key_of_mem (Lib.Table.mem_of_find? hliability))
      (PaykhLoyaltyLiability.asReconciled_id supply status (clock 0)) rfl id ?_
    simp [PaykhLoyaltyLiability.asReconciled]

theorem UnitsWhole.fund {w w₁ : World} {op : FundOp} (h : UnitsWhole w)
    (heffect : FundEffect w op w₁) : UnitsWhole w₁ := by
  cases heffect <;> exact h

/-- One operation keeps the units whole, whether it succeeds or throws. -/
theorem UnitsWhole.step {w : World} (h : UnitsWhole w) {op : SafeguardOp}
    (hamounts : AmountsInUnits w op) : UnitsWhole (SafeguardOp.step w op) := by
  cases op with
  | fund op => exact after_effect (op.effect w) (fun _ heffect => h.fund heffect) .logged
  | loyalty op =>
    exact after_effect (op.effect w) (fun _ heffect => h.loyalty hamounts heffect) .logged

/-- **What is outstanding is a number of units, in every state reached.** -/
theorem units_whole {w : World} (hw : UnitsWhole w) (ops : List SafeguardOp)
    (hamounts : Lib.Meets SafeguardOp.step AmountsInUnits w ops) :
    UnitsWhole (ops.foldl SafeguardOp.step w) :=
  Lib.inv_run (fun _ _ h hop => h.step hop) hw hamounts

end

/-! ## Units of 50 -/

attribute [local instance] Runtime.ascii

namespace Sample

/-- The fund is bound to a stablecoin with units of 50. -/
def bindUnits : SafeguardOp :=
  .loyalty (.bind
    { programFundId := "F1", decimals := none, denominationMinor := some "50"
      stellarAssetCode := none, stellarIssuer := none, stellarDistributor := none
      actor := "tenant" } "L1")

/-- A fund of 100, and an issuance on units of 50. -/
def issuedUnits (amountMinor : String) : List SafeguardOp :=
  [createFund, fundWith "100", bindUnits, issueLoyalty "I1" amountMinor]

theorem issuedUnits_even : Lib.Meets SafeguardOp.step AmountsInUnits loyaltyWorld
    (issuedUnits "100") := by
  have hunits : ((([createFund, fundWith "100", bindUnits].foldl SafeguardOp.step
      loyaltyWorld).paykhLoyaltyLiabilities.find? "L1").map fun l => l.denominationMinor) =
        some 50 := by
    decide +kernel
  refine ⟨trivial, trivial, trivial, ?_, trivial⟩
  intro l f hl hf hnone text n htext hn hpositive hlimit
  obtain ⟨l', hl', h50⟩ := Option.map_eq_some_iff.mp hunits
  cases hl.symm.trans hl'
  have hgiven : given (some "100") = some "100" := rfl
  obtain rfl : "100" = text := Option.some.inj (hgiven.symm.trans htext)
  obtain rfl : 100 = n := Except.ok.inj hn
  rw [h50]
  decide

end Sample

/-- Issuing 100 on units of 50 leaves two units. -/
theorem units_whole_issued :
    UnitsWhole ((Sample.issuedUnits "100").foldl SafeguardOp.step Sample.loyaltyWorld) :=
  units_whole Sample.noFunds.unitsWhole (Sample.issuedUnits "100") Sample.issuedUnits_even

/-- 60 can be issued on units of 50. -/
theorem units_broken : ¬∀ [Runtime] (w : World), NoFunds w → ∀ ops : List SafeguardOp,
    UnitsWhole (ops.foldl SafeguardOp.step w) := by
  intro h
  have hwhole := h Sample.loyaltyWorld Sample.noFunds (Sample.issuedUnits "60")
  have hissued : (((Sample.issuedUnits "60").foldl SafeguardOp.step
      Sample.loyaltyWorld).paykhLoyaltyLiabilities.find? "L1").map
        (fun l => (l.denominationMinor, l.outstandingMinor)) = some (50, 60) := by
    decide +kernel
  obtain ⟨l, hl, hcounters⟩ := Option.map_eq_some_iff.mp hissued
  have hdenomination : l.denominationMinor = 50 := congrArg Prod.fst hcounters
  have houtstanding : l.outstandingMinor = 60 := congrArg Prod.snd hcounters
  have hone : 1 ≤ l.denominationMinor := by omega
  obtain ⟨-, hdivides⟩ :=
    (wholeUnits_iff hone).mp (hwhole l (Lib.Table.mem_of_find? hl) hone)
  rw [hdenomination, houtstanding] at hdivides
  omega

end TrusteeBank
