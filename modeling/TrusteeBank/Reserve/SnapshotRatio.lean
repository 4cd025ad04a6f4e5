import TrusteeBank.Reserve.ProofOfReserve
import TrusteeBank.Reserve.Operations

/-!
# The ratio a snapshot stores

A reserve snapshot stores the ratio of the eligible reserve to the obligation in basis points, in
a column of 32 bits. The ratio is a quotient of two 64-bit amounts, so it does not have to fit.

**Theorem (`snapshot_taken_iff`).** Of a position whose amounts fit their columns, the ratio fits
its column, and the snapshot can be taken, exactly when there is no obligation or the eligible
reserve is less than 214,748.3648 times the obligation (`RatioFits`).

* `numberOfBigInt_lt_iff`: reading the quotient as a floating-point number does not move it across
  the bound, since the bound is a number and reading is monotone;
* `createSnapshot_iff`: nothing but the constraints of the row can refuse a snapshot;
* `large_reserve_fails`: a reserve of 3,000.00 behind a circulating supply of 0.01.
-/

set_option autoImplicit false

namespace TrusteeBank

open Lib (Call)
open ReserveService

/-- Reading an integer as a number does not move it across the bound of the column. -/
theorem numberOfBigInt_lt_iff {n : Int} (hn : 0 ≤ n) : numberOfBigInt n < 2 ^ 31 ↔ n < 2 ^ 31 := by
  have hbound : numberOfBigInt (2 ^ 31) = 2 ^ 31 :=
    numberOfBigInt_of_lt (by decide) (by decide)
  constructor
  · intro h
    by_contra hle
    have hmono := numberOfBigInt_mono (m := 2 ^ 31) (n := n) (by decide) (by omega)
    omega
  · intro h
    rw [numberOfBigInt_of_lt hn (by omega)]
    exact h

section

variable [Runtime]

/-- The amounts of a position fit their columns. -/
structure AmountsFit (pos : ReservePosition) : Prop where
  eligible : FitsInt8 pos.eligibleReserve.minor
  obligation : FitsInt8 pos.reserveObligation.minor
  required : FitsInt8 pos.requiredReserve.minor
  surplus : FitsInt8 pos.surplus.minor

/-- There is no obligation, or the eligible reserve is less than `2 ^ 31` basis points of it. -/
def RatioFits (pos : ReservePosition) : Prop :=
  pos.reserveObligation.minor = 0 ∨
    pos.eligibleReserve.minor * 10000 < 2 ^ 31 * pos.reserveObligation.minor

/-! ## The ratio of a position -/

theorem assemble_ratio {program : Program} {cash unmatched pending redemption : Money}
    {latest : Option LiabilitySnapshot} {now : Int} {adjustments : String → Int}
    {pos : ReservePosition}
    (h : assemble program cash unmatched pending redemption latest now adjustments = .ok pos) :
    reserveRatioBps pos.eligibleReserve pos.reserveObligation = .ok pos.reserveRatioBps := by
  unfold assemble at h
  simp only [bind_eq_ok] at h
  obtain ⟨_, -, _, -, _, -, _, -, _, -, ratio, hratio, h⟩ := h
  cases h
  exact hratio

/-- **The ratio of a position**, from its eligible reserve and its obligation. -/
theorem positionAt_ratio {w : World} {now : Int} {programId : String} {pos : ReservePosition}
    (h : positionAt w now programId = .ok pos) :
    0 ≤ pos.eligibleReserve.minor ∧ 0 ≤ pos.reserveObligation.minor ∧
      pos.reserveRatioBps = if pos.reserveObligation.minor = 0 then none else
        some (numberOfBigInt (pos.eligibleReserve.minor * 10000 / pos.reserveObligation.minor)) := by
  unfold positionAt at h
  cases hprogram : w.programs.find? programId with
  | none =>
    rw [hprogram] at h
    cases h
  | some program =>
    rw [hprogram] at h
    obtain ⟨obligation, _, hobligation, -, -, -, -, heligible, -, hreserve, -⟩ := assemble_ok h
    have he : 0 ≤ pos.eligibleReserve.minor := by
      rw [heligible]
      exact le_max_left _ _
    have ho : 0 ≤ pos.reserveObligation.minor := by
      rw [hreserve, hobligation]
      exact le_max_left _ _
    refine ⟨he, ho, ?_⟩
    have hratio := assemble_ratio h
    have hcurrency : pos.reserveObligation.currency = pos.eligibleReserve.currency := by
      rw [hreserve, heligible, money_currency, money_currency]
    unfold reserveRatioBps at hratio
    rw [if_neg (by simpa using hcurrency)] at hratio
    split_ifs at hratio ⊢
    · exact (Except.ok.inj hratio).symm
    · rw [← Int.tdiv_eq_ediv_of_nonneg (by omega)]
      exact (Except.ok.inj hratio).symm

/-- **The ratio fits its column exactly when the reserve is not too large for the obligation.** -/
theorem ratio_fits_iff {w : World} {now : Int} {programId : String} {pos : ReservePosition}
    (h : positionAt w now programId = .ok pos) :
    (∀ r, pos.reserveRatioBps = some r → FitsInt4 r) ↔ RatioFits pos := by
  obtain ⟨he, ho, hratio⟩ := positionAt_ratio h
  unfold RatioFits
  rw [hratio]
  by_cases hzero : pos.reserveObligation.minor = 0
  · simp [hzero]
  · have hpos : 0 < pos.reserveObligation.minor := by omega
    have hquotient : 0 ≤ pos.eligibleReserve.minor * 10000 / pos.reserveObligation.minor :=
      Int.ediv_nonneg (by omega) ho
    have hnumber := numberOfBigInt_mono (m := 0) le_rfl hquotient
    have hnonneg : numberOfBigInt 0 = 0 := by decide
    have hbound : pos.eligibleReserve.minor * 10000 / pos.reserveObligation.minor < 2 ^ 31 ↔
        pos.eligibleReserve.minor * 10000 < 2 ^ 31 * pos.reserveObligation.minor :=
      Int.ediv_lt_iff_lt_mul hpos
    rw [if_neg hzero, or_iff_right hzero]
    simp only [Option.some.injEq, forall_eq', FitsInt4]
    rw [numberOfBigInt_lt_iff hquotient, hbound]
    constructor
    · intro h
      exact h.2
    · intro h
      exact ⟨by omega, h⟩

/-! ## Taking a snapshot -/

omit [Runtime] in
theorem exists_jsonItems (items : List String) :
    ∃ texts, jsonItems (items.map JsValue.string) = .ok texts := by
  induction items with
  | nil => exact ⟨[], by simp [jsonItems]⟩
  | cons item items ih =>
    obtain ⟨texts, htexts⟩ := ih
    refine ⟨quoteJson item :: texts, ?_⟩
    simp [jsonItems, jsonStringify, htexts, bind, Except.bind, pure, Except.pure]

omit [Runtime] in
/-- The content of a snapshot can be written. -/
theorem exists_contentHash (sha256Hex : String → String) (content : SnapshotContent) :
    ∃ hash, contentHashOf sha256Hex content = .ok hash := by
  obtain ⟨sources, hsources⟩ := exists_jsonItems content.dataSources
  have hratio : ∃ text, jsonStringify (JsValue.ofInt? content.reserveRatioBps) =
      .ok (some text) := by
    cases content.reserveRatioBps with
    | none => exact ⟨"null", by simp [JsValue.ofInt?, jsonStringify]⟩
    | some r => exact ⟨toString r, by simp [JsValue.ofInt?, jsonStringify]⟩
  obtain ⟨ratio, hratio⟩ := hratio
  simp only [contentHashOf, SnapshotContent.json, JsValue.strings, jsonStringify, jsonFields,
    hsources, hratio, bind, Except.bind, pure, Except.pure, orThrow]
  exact ⟨_, rfl⟩

/-- When the row of a snapshot can be stored. -/
theorem snapshotConstraints_iff {row : ReserveSnapshot} {w : World} :
    snapshotConstraints row w = .ok () ↔
      (∀ n ∈ [row.eligibleReserveMinor, row.excludedAmountMinor, row.circulatingLiabilityMinor,
        row.pendingRedemptionMinor, row.requiredReserveMinor, row.surplusMinor], FitsInt8 n) ∧
      (∀ r, row.reserveRatioBps = some r → FitsInt4 r) ∧
        (w.programs.find? row.programId).isSome = true := by
  have hratio : row.reserveRatioBps.toList.forM checkInt4 = .ok () ↔
      ∀ r, row.reserveRatioBps = some r → FitsInt4 r := by
    cases row.reserveRatioBps with
    | none => simp [pure, Except.pure]
    | some r =>
      simp only [Option.some.injEq, forall_eq']
      rw [← checkInt4_eq_ok (n := r) (u := ())]
      cases hcheck : checkInt4 r <;>
        simp [hcheck, bind, Except.bind, pure, Except.pure]
  have hprogram : checkForeignKey (w.programs.find? row.programId).isSome = .ok () ↔
      (w.programs.find? row.programId).isSome = true := by
    cases (w.programs.find? row.programId).isSome <;> simp [checkForeignKey]
  unfold snapshotConstraints
  simp only [bind_eq_ok, checkInt8_eq_ok]
  constructor
  · rintro ⟨_, hamounts, _, hfits, hfound⟩
    exact ⟨hamounts, hratio.mp hfits, hprogram.mp hfound⟩
  · rintro ⟨hamounts, hfits, hfound⟩
    exact ⟨(), hamounts, (), hratio.mpr hfits, hprogram.mpr hfound⟩

/-- The row of a position whose amounts fit can be stored exactly when the ratio fits. -/
theorem createdSnapshot_constraints {w : World} {pos : ReservePosition} (hfits : AmountsFit pos)
    {content : SnapshotContent} (hfound : (w.programs.find? content.programId).isSome = true)
    (signature : Signature) (hash id : String) (createdAt : Int) :
    snapshotConstraints (createdSnapshot pos content signature hash id createdAt) w = .ok () ↔
      ∀ r, pos.reserveRatioBps = some r → FitsInt4 r := by
  have hzero : FitsInt8 0 := by decide
  have hamounts : ∀ n ∈ [pos.eligibleReserve.minor, 0, pos.reserveObligation.minor, 0,
      pos.requiredReserve.minor, pos.surplus.minor], FitsInt8 n := by
    simp only [List.forall_mem_cons]
    exact ⟨hfits.eligible, hzero, hfits.obligation, hzero, hfits.required, hfits.surplus, by simp⟩
  rw [snapshotConstraints_iff]
  constructor
  · intro h
    exact h.2.1
  · intro h
    exact ⟨hamounts, h, hfound⟩

/-- **A snapshot is taken exactly when its ratio fits**, under an identifier that is free. -/
theorem createSnapshot_iff {w : World} {clock : Clock} {programId : String} {pos : ReservePosition}
    (hpos : positionAt w (clock 0) programId = .ok pos) (hfits : AmountsFit pos)
    (sha256Hex : String → String) {id : String} (hid : w.reserveSnapshots.find? id = none)
    (createdAt : Int) :
    (∃ r, ((createSnapshot sha256Hex clock programId id createdAt).run w).1 = .ok r) ↔
      ∀ r, pos.reserveRatioBps = some r → FitsInt4 r := by
  obtain ⟨program, hprogram, -⟩ := positionAt_ok hpos
  have hobserved := run_observedContent_of hpos hprogram
  set content := snapshotContent pos programId program.assetId (isoString (clock 1)) with hcontent
  obtain ⟨hash, hhash⟩ := exists_contentHash sha256Hex content
  have hfound : (w.programs.find? content.programId).isSome = true :=
    Option.isSome_iff_exists.mpr ⟨program, hprogram⟩
  rw [← createdSnapshot_constraints hfits hfound (signPayload .reserveSnapshot content.json) hash id
    createdAt]
  unfold createSnapshot
  rw [Call.run_bind, hobserved]
  simp only
  rw [Call.run_lift_bind, hhash]
  simp only
  rw [Call.run_bind]
  generalize hrow : createdSnapshot pos content (signPayload .reserveSnapshot content.json) hash id
    createdAt = row
  constructor
  · rintro ⟨r, hr⟩
    rcases Entity.run_create_cases Prisma.reserveSnapshot (snapshotConstraints row) row w with
      ⟨e, hfails⟩ | ⟨t, hcheck, -, -⟩
    · rw [hfails] at hr
      cases hr
    · exact hcheck
  · intro hcheck
    have hfree : w.reserveSnapshots.find? row.id = none := by
      rw [← hrow]
      exact hid
    obtain ⟨t, ht, hstored⟩ := Entity.run_create_of Prisma.reserveSnapshot row hcheck hfree
    have hprogram' : (Prisma.reserveSnapshot.set t w).programs.find? programId = some program :=
      hprogram
    rw [hstored]
    simp only
    rw [Call.run_bind, run_program, hprogram']
    simp only [orThrow]
    rw [Call.run_bind, run_publishWithArtifact]
    simp only
    unfold announceShortfall
    split_ifs
    · rw [Call.run_bind, run_publish]
      exact ⟨_, rfl⟩
    · exact ⟨_, rfl⟩

/-- **When a snapshot can be taken**: of a position whose amounts fit their columns, and under an
identifier that is free, exactly when the ratio fits its column as well. -/
theorem snapshot_taken_iff {w : World} {clock : Clock} {programId : String} {pos : ReservePosition}
    (hpos : positionAt w (clock 0) programId = .ok pos) (hfits : AmountsFit pos)
    (sha256Hex : String → String) {id : String} (hid : w.reserveSnapshots.find? id = none)
    (createdAt : Int) :
    ((∀ r, pos.reserveRatioBps = some r → FitsInt4 r) ↔ RatioFits pos) ∧
    ((∃ r, ((createSnapshot sha256Hex clock programId id createdAt).run w).1 = .ok r) ↔
      RatioFits pos) := by
  have hratio := ratio_fits_iff hpos
  exact ⟨hratio, (createSnapshot_iff hpos hfits sha256Hex hid createdAt).trans hratio⟩

end

/-! ## A small and a large reserve -/

attribute [local instance] Runtime.ascii

namespace Sample

/-- A deposit is registered, matched and cleared. -/
def deposited (amountMinor : String) : List ReserveOp :=
  [.deposit (.register
    { programId := "P1", trusteeAccountId := "T1", bankTransactionId := "B1"
      amountMinor, currency := "USD", payerName := none, paymentReference := none
      transactionDate := "2026-01-01T00:00:00Z", actor := "bank" } "D1"),
   .deposit (.match "D1" "F1" "bank"), .deposit (.clear clock "D1" "bank")]

/-- The deployment with an instruction to fund an amount. -/
def instructed (amountMinor : Int) : World :=
  { emptyReserve with
    fundingInstructions := ⟨[{ instruction with amountMinor }], List.nodup_singleton _⟩ }

/-- A reserve of 100.00 behind a circulating supply of 100.00. -/
def fullReserve : World :=
  (deposited "10000" ++ [feedOp "L1" "1" "10000"]).foldl ReserveOp.step (instructed 10000)

/-- A reserve of 3,000.00 behind a circulating supply of 0.01. -/
def largeReserve : List ReserveOp := deposited "300000" ++ [feedOp "L1" "1" "1"]

/-- The amounts of the position of the program, and its ratio. -/
def measured (w : World) : Option (List Int × Option Int) :=
  (positionAt w (clock 0) "P1").toOption.map fun pos =>
    ([pos.eligibleReserve.minor, pos.reserveObligation.minor, pos.requiredReserve.minor,
      pos.surplus.minor], pos.reserveRatioBps)

theorem measured_amountsFit {w : World} {amounts : List Int} {ratio : Option Int}
    (h : measured w = some (amounts, ratio)) (hfits : ∀ n ∈ amounts, FitsInt8 n) :
    ∃ pos, positionAt w (clock 0) "P1" = .ok pos ∧ AmountsFit pos ∧
      pos.reserveRatioBps = ratio := by
  obtain ⟨pos, hpos, heq⟩ := toOption_map_eq_some.mp h
  obtain ⟨hamounts, hratio⟩ := Prod.mk.inj heq
  subst hamounts
  refine ⟨pos, hpos, ⟨?_, ?_, ?_, ?_⟩, hratio⟩ <;> exact hfits _ (by simp)

theorem measured_full : measured fullReserve = some ([10000, 10000, 10000, 0], some 10000) := by
  decide +kernel

theorem measured_large : measured (largeReserve.foldl ReserveOp.step (instructed 300000)) =
    some ([300000, 1, 1, 299999], some 3000000000) := by
  decide +kernel

end Sample

/-- The snapshot of the full reserve can be taken. -/
theorem snapshot_taken_full : ∃ pos,
    positionAt Sample.fullReserve (Sample.clock 0) "P1" = .ok pos ∧
      ((∀ r, pos.reserveRatioBps = some r → FitsInt4 r) ↔ RatioFits pos) ∧
      ((∃ r, ((createSnapshot (fun _ => "hash") Sample.clock "P1" "S1" 0).run
        Sample.fullReserve).1 = .ok r) ↔ RatioFits pos) := by
  obtain ⟨pos, hpos, hfits, -⟩ := Sample.measured_amountsFit Sample.measured_full (by decide)
  exact ⟨pos, hpos, snapshot_taken_iff hpos hfits (fun _ => "hash") rfl 0⟩

/-- The ratio of the large reserve does not fit. -/
theorem large_reserve_fails : ¬∀ [Runtime] (w : World) (ops : List ReserveOp) (clock : Clock)
    (programId : String) (pos : ReservePosition) (sha256Hex : String → String) (id : String)
    (createdAt : Int),
    positionAt (ops.foldl ReserveOp.step w) (clock 0) programId = .ok pos → AmountsFit pos →
      (ops.foldl ReserveOp.step w).reserveSnapshots.find? id = none →
        (∀ r, pos.reserveRatioBps = some r → FitsInt4 r) ∧
          ∃ r, ((createSnapshot sha256Hex clock programId id createdAt).run
            (ops.foldl ReserveOp.step w)).1 = .ok r := by
  intro h
  obtain ⟨pos, hpos, hfits, hratio⟩ := Sample.measured_amountsFit Sample.measured_large (by decide)
  have htaken := h (Sample.instructed 300000) Sample.largeReserve Sample.clock "P1" pos
    (fun _ => "hash") "S1" 0 hpos hfits rfl
  exact absurd (htaken.1 3000000000 hratio) (by decide)

end TrusteeBank
