import TrusteeBank.Feed.Signatures
import TrusteeBank.Platform.System

/-!
# Whose liability is counted

A snapshot of the feed names its program, its asset, its currency and the amount that circulates
independently of each other. `ingest` verifies the signature and the sequence, and `position` then
takes the amount of the latest verified snapshot to be in the currency of the program.

**Theorem (`own_liability`).** In every run in which each snapshot that is stored for a program
names the asset and the currency of the program, and an amount that is not negative, the snapshot
a position uses is of the program's own asset and currency and its amount is not negative. The
invariant says this of every stored snapshot (`Own`); programs keep both. Without the condition
a snapshot of anything counts (`foreign_liability_counts`).
-/

set_option autoImplicit false

namespace TrusteeBank

open LiabilityService

section

variable [Runtime]

/-- Every stored snapshot is of its program's asset and currency, and not negative. -/
def Own (w : World) : Prop :=
  ∀ row ∈ w.liabilitySnapshots.rows, ∃ program, w.programs.find? row.programId = some program ∧
    row.assetId = program.assetId ∧ row.currency = program.referenceCurrency ∧
      0 ≤ row.circulatingMinor

/-- The snapshot a position reads is of the program's own liability. -/
def CountsOwn (w : World) : Prop :=
  ∀ programId snapshot,
    (ReserveService.latestLiability programId).run w = (.ok (some snapshot), w) →
      ∃ program, w.programs.find? programId = some program ∧
        snapshot.assetId = program.assetId ∧ snapshot.currency = program.referenceCurrency ∧
          0 ≤ snapshot.circulatingMinor

/-- A submission that is stored names the asset and the currency of its program, and no negative
amount. -/
def Consistent (w : World) : SystemOp → Prop
  | .platform (.ingest op) => ∀ program, w.programs.find? op.input.programId = some program →
      ∀ row, op.Stores w row → row.assetId = program.assetId ∧
        row.currency = program.referenceCurrency ∧ 0 ≤ row.circulatingMinor
  | _ => True

/-- What a row takes over from the submission. -/
theorem snapshotRow_names {input : LiabilitySnapshotInput} {id : String} {sequence : Int}
    {verified : Bool} {row : LiabilitySnapshot}
    (h : snapshotRow input id sequence verified = .ok row) :
    row.assetId = input.assetId ∧ row.currency = input.currency ∧
      newDateOf input.snapshotTimestamp = some row.snapshotTimestamp := by
  unfold snapshotRow at h
  simp only [bind_eq_ok] at h
  obtain ⟨_, -, _, -, _, -, _, -, _, -, _, -, _, -, _, -, date, hdate, h⟩ := h
  cases h
  exact ⟨rfl, rfl, orThrow_eq_ok.mp hdate⟩

/-- A snapshot is stored for a program that exists. -/
theorem snapshotConstraints_program {row : LiabilitySnapshot} {w : World}
    (h : snapshotConstraints row w = .ok ()) :
    ∃ program, w.programs.find? row.programId = some program := by
  unfold snapshotConstraints at h
  obtain ⟨_, -, h⟩ := bind_eq_ok.mp h
  obtain ⟨_, -, h⟩ := bind_eq_ok.mp h
  obtain ⟨_, -, h⟩ := bind_eq_ok.mp h
  unfold checkForeignKey at h
  split_ifs at h with hfound
  exact Option.isSome_iff_exists.mp hfound

/-- What is stored of a program stays its own while the program keeps its asset and currency. -/
theorem Own.kept {w : World} (h : Own w) {op : SystemOp}
    (hsnapshots : (op.step w).liabilitySnapshots = w.liabilitySnapshots) : Own (op.step w) := by
  intro row hrow
  rw [hsnapshots] at hrow
  obtain ⟨program, hprogram, hasset, hcurrency, hnonneg⟩ := h row hrow
  obtain ⟨program', hprogram', hasset', hcurrency'⟩ := op.programs w hprogram
  exact ⟨program', hprogram', hasset.trans hasset'.symm, hcurrency.trans hcurrency'.symm, hnonneg⟩

/-- **A consistent submission stores the program's own liability.** -/
theorem Own.ingest {w : World} (h : Own w) {op : IngestOp}
    (hop : Consistent w (.platform (.ingest op))) : Own (op.step w) := by
  rcases ingest_stored w op with hsame | ⟨row, t, hstores, ht, hstate⟩
  · rw [hsame]
    exact h
  rw [hstate]
  apply Lib.Table.forall_insert? h ht
  obtain ⟨hprogramId, -⟩ := snapshotRow_ok hstores.made
  obtain ⟨program, hprogram⟩ := snapshotConstraints_program hstores.constraints
  obtain ⟨hasset, hcurrency, hnonneg⟩ := hop program (hprogramId ▸ hprogram) row hstores
  exact ⟨program, hprogram, hasset, hcurrency, hnonneg⟩

theorem Own.step {w : World} {op : SystemOp} (h : Own w) (hop : Consistent w op) :
    Own (op.step w) := by
  by_cases hingest : ∃ ingest, op = .platform (.ingest ingest)
  · obtain ⟨ingest, rfl⟩ := hingest
    exact h.ingest hop
  · rw [not_exists] at hingest
    exact h.kept (op.snapshots w hingest)

/-- A position reads one of the stored snapshots. -/
theorem Own.countsOwn {w : World} (h : Own w) : CountsOwn w := by
  intro programId snapshot hread
  rw [run_latestLiability, Prod.mk.injEq, Except.ok.injEq] at hread
  obtain ⟨hmem, hprogramId, -⟩ := mem_latestVerified hread.1
  rw [← hprogramId]
  exact h snapshot hmem

/-- **Only the program's own liability counts**, in every run of consistent submissions. -/
theorem own_liability {w : World} (hw : Own w) {ops : List SystemOp}
    (hops : Lib.Meets SystemOp.step Consistent w ops) :
    ∀ w' ∈ Lib.history SystemOp.step w ops, CountsOwn w' := by
  intro w' hw'
  exact (Lib.inv_history (fun _ _ h hop => Own.step h hop) hw hops w' hw').countsOwn

/-- A submission carries a signature that verifies under the registered key. -/
def SubmitsSigned : SystemOp → Prop
  | .platform (.ingest op) => ∃ key signature, Runtime.paychainLiabilityPublicKey = some key ∧
      op.input.signature = some signature ∧
        verifyPayload key (signable op.input) signature = true
  | _ => True

end

/-! ## Two feeds -/

attribute [local instance] Sample.keyed

namespace Sample

/-- A signed snapshot of 500 in a currency. -/
def supplyIn (currency : String) : SystemOp :=
  .platform (.ingest ⟨{ supply "1" (some accepted) with currency }, "L1"⟩)

theorem supplyIn_consistent : Lib.Meets SystemOp.step Consistent unfed [supplyIn "USD"] := by
  refine ⟨fun found hfound row hstores => ?_, trivial⟩
  have hprogram : unfed.programs.find? "P1" = some program := by rfl
  obtain rfl : program = found := Option.some.inj (hprogram.symm.trans hfound)
  obtain ⟨hasset, hcurrency, -⟩ := snapshotRow_names hstores.made
  refine ⟨hasset, hcurrency, ?_⟩
  have hsupply : bigInt "500" = .ok 500 := by decide
  obtain ⟨-, -, -, hamount⟩ := snapshotRow_ok hstores.made
  rw [← Except.ok.inj (hsupply.symm.trans hamount)]
  decide

/-- The amount and the currency of the snapshot a position reads. -/
def counted (w : World) : Option (Int × String) :=
  (latestVerified w "P1").map fun s => (s.circulatingMinor, s.currency)

/-- The snapshot in riel counts for the program in dollars. -/
theorem counted_riel : counted (SystemOp.step unfed (supplyIn "KHR")) = some (500, "KHR") ∧
    (SystemOp.step unfed (supplyIn "KHR")).programs.find? "P1" = some program := by
  constructor
  · decide +kernel
  · rfl

end Sample

/-- A snapshot in the currency of the program counts. -/
theorem own_liability_supply :
    Sample.counted (SystemOp.step Sample.unfed (Sample.supplyIn "USD")) = some (500, "USD") ∧
      ∀ w' ∈ Lib.history SystemOp.step Sample.unfed [Sample.supplyIn "USD"], CountsOwn w' :=
  ⟨by decide +kernel,
    own_liability (fun row hrow => by cases hrow) Sample.supplyIn_consistent⟩

/-- A signed snapshot in another currency counts as well. -/
theorem foreign_liability_counts : ¬∀ [Runtime] (w : World) (ops : List SystemOp), Own w →
    (∀ op ∈ ops, SubmitsSigned op) → ∀ w' ∈ Lib.history SystemOp.step w ops, CountsOwn w' := by
  intro h
  have hunfed : Own Sample.unfed := fun row hrow => by cases hrow
  have hsigned : ∀ op ∈ [Sample.supplyIn "KHR"], SubmitsSigned op := by
    intro op hop
    rw [List.mem_singleton.mp hop]
    exact ⟨"pem", Sample.accepted, rfl, rfl, by decide +kernel⟩
  have hcounts := h Sample.unfed [Sample.supplyIn "KHR"] hunfed hsigned
    (SystemOp.step Sample.unfed (Sample.supplyIn "KHR")) (by simp [Lib.history])
  obtain ⟨hcounted, hprogram⟩ := Sample.counted_riel
  obtain ⟨s, hs, heq⟩ := Option.map_eq_some_iff.mp hcounted
  obtain ⟨program, hfound, -, hcurrency, -⟩ := hcounts "P1" s (by rw [run_latestLiability, hs])
  obtain rfl : Sample.program = program := Option.some.inj (hprogram.symm.trans hfound)
  rw [(Prod.mk.inj heq).2] at hcurrency
  exact absurd hcurrency (by decide)

end TrusteeBank
