import TrusteeBank.Lib.Run
import TrusteeBank.Platform.Operations
import TrusteeBank.Services.Programs
import TrusteeBank.Services.ReserveRecords

/-!
# The platform and its administration

`PlatformOp` books value. Around it, administrators set flags, create programs and change their
lifecycle, and the trustee bank sets adjustments of the reserve and lifts them. `SystemOp` is all
of these, in any order.

What a single table can go through is then said once for the whole machine:

* `SystemOp.snapshots`, `SystemOp.authorizations`: only an ingestion, only the mint workflow writes
  to the table;
* `SystemOp.programs`: a program keeps its asset and its currency.
-/

set_option autoImplicit false

namespace TrusteeBank

open Lib (Call)
open ReserveService (addedAdjustment addAdjustment adjustmentKinds liftAdjustment)

section

variable [Runtime]

inductive SystemOp
  | platform (op : PlatformOp)
  | setFlag (key : String) (enabled : Bool) (updatedBy : String)
  | program (op : ProgramOp)
  | addAdjustment (input : AddAdjustment) (id : String)
  | liftAdjustment (id actor : String)

/-- Serve one operation alone, whether it succeeds or throws. -/
def SystemOp.step (w : World) : SystemOp → World
  | .platform op => op.step w
  | .setFlag key enabled updatedBy => ((FeatureFlagsService.set key enabled updatedBy).run w).2
  | .program op => op.step w
  | .addAdjustment input id => ((ReserveService.addAdjustment input id).run w).2
  | .liftAdjustment id actor => ((ReserveService.liftAdjustment id actor).run w).2

/-! ## Adjustments -/

/-- Adding an adjustment, alone: nothing, or one row in the currency of the program. -/
theorem run_addAdjustment_cases (w : World) (input : AddAdjustment) (id : String) :
    ((addAdjustment input id).run w).2 = w ∨
    ∃ program amountMinor t, w.programs.find? input.programId = some program ∧
      input.kind ∈ adjustmentKinds ∧ bigInt input.amountMinor = .ok amountMinor ∧
      w.reserveAdjustments.insert?
        (addedAdjustment input id program.referenceCurrency amountMinor) = some t ∧
      ((addAdjustment input id).run w).2 = { w with reserveAdjustments := t } := by
  have hprogram : (ReserveService.program input.programId).run w =
      (orThrow (w.programs.find? input.programId)
        (.notFound ("Program " ++ input.programId ++ " not found")), w) := rfl
  unfold addAdjustment
  rw [Call.run_bind, hprogram]
  cases hfound : w.programs.find? input.programId with
  | none => exact .inl rfl
  | some program =>
    simp only [orThrow]
    rw [Call.run_throwIf_bind]
    split_ifs with hkind
    swap
    · exact .inl rfl
    rw [Call.run_lift_bind]
    cases hminor : bigInt input.amountMinor with
    | error e => exact .inl rfl
    | ok amountMinor =>
      simp only
      rw [Call.run_bind]
      rcases Entity.run_create_cases Prisma.reserveAdjustment
        (fun _ => ReserveService.adjustmentConstraints
          (addedAdjustment input id program.referenceCurrency amountMinor))
        (addedAdjustment input id program.referenceCurrency amountMinor) w with
        ⟨e, h⟩ | ⟨t, -, ht, h⟩
      · rw [h]
        exact .inl rfl
      · rw [h]
        exact .inr ⟨program, amountMinor, t, rfl, hkind, rfl, ht, rfl⟩

/-- Lifting an adjustment, alone. -/
theorem run_liftAdjustment_cases (w : World) (id actor : String) :
    ((liftAdjustment id actor).run w).2 = w ∨
    ((liftAdjustment id actor).run w).2 =
      { w with
        reserveAdjustments := w.reserveAdjustments.modify id (ReserveAdjustment.asLifted actor)
          (ReserveAdjustment.asLifted_id actor) } := by
  unfold liftAdjustment
  rw [Call.run_bind]
  rcases Entity.run_update_cases Prisma.reserveAdjustment (textColumns [actor]) id
    (ReserveAdjustment.asLifted actor) (ReserveAdjustment.asLifted_id actor) w with
    ⟨e, h⟩ | ⟨a, -, -, h⟩
  · rw [h]
    exact .inl rfl
  · rw [h]
    exact .inr rfl

/-! ## Frames -/

/-- The tables no booking writes to. -/
theorem PlatformEffect.frame {w w₁ : World} {op : PlatformOp} (h : PlatformEffect w op w₁) :
    w₁.programs = w.programs ∧ w₁.reserveAdjustments = w.reserveAdjustments := by
  cases h with
  | unchanged => exact ⟨rfl, rfl⟩
  | deposit h => cases h <;> exact ⟨rfl, rfl⟩
  | ingest h => cases h <;> exact ⟨rfl, rfl⟩
  | mint h => cases h <;> exact ⟨rfl, rfl⟩
  | redemption h => cases h <;> exact ⟨rfl, rfl⟩
  | order h => cases h <;> exact ⟨rfl, rfl⟩
  | fund h => cases h <;> exact ⟨rfl, rfl⟩
  | loyalty h => cases h <;> exact ⟨rfl, rfl⟩
  | settlement h => cases h <;> exact ⟨rfl, rfl⟩

/-- Only an ingestion writes a snapshot. -/
theorem PlatformEffect.snapshots {w w₁ : World} {op : PlatformOp} (h : PlatformEffect w op w₁)
    (hop : ∀ ingest, op ≠ .ingest ingest) : w₁.liabilitySnapshots = w.liabilitySnapshots := by
  cases h with
  | unchanged => rfl
  | deposit h => cases h <;> rfl
  | ingest h => exact absurd rfl (hop _)
  | mint h => cases h <;> rfl
  | redemption h => cases h <;> rfl
  | order h => cases h <;> rfl
  | fund h => cases h <;> rfl
  | loyalty h => cases h <;> rfl
  | settlement h => cases h <;> rfl

/-- Only the mint workflow writes an authorization. -/
theorem PlatformEffect.authorizations {w w₁ : World} {op : PlatformOp} (h : PlatformEffect w op w₁)
    (hop : ∀ mint, op ≠ .mint mint) : w₁.mintAuthorizations = w.mintAuthorizations := by
  cases h with
  | unchanged => rfl
  | deposit h => cases h <;> rfl
  | ingest h => cases h <;> rfl
  | mint h => exact absurd rfl (hop _)
  | redemption h => cases h <;> rfl
  | order h => cases h <;> rfl
  | fund h => cases h <;> rfl
  | loyalty h => cases h <;> rfl
  | settlement h => cases h <;> rfl

theorem PlatformOp.frame (w : World) (op : PlatformOp) :
    (op.step w).programs = w.programs ∧ (op.step w).reserveAdjustments = w.reserveAdjustments := by
  obtain ⟨w₁, rows, events, heffect, hw⟩ := op.effect w
  rw [hw]
  exact heffect.frame

/-- Setting a flag writes nothing else. -/
theorem setFlag_keeps {τ : Type} {g : World → τ}
    (hset : ∀ t (w : World), g { w with featureFlags := t } = g w) (key : String) (enabled : Bool)
    (updatedBy : String) (w : World) :
    g ((FeatureFlagsService.set key enabled updatedBy).run w).2 = g w := by
  have hkeeps : (FeatureFlagsService.set key enabled updatedBy).Keeps g := by
    apply Entity.keeps_upsert
    exact hset
  exact hkeeps.run w

namespace SystemOp

/-- **Only an ingestion writes a snapshot.** -/
theorem snapshots (w : World) {op : SystemOp} (hop : ∀ ingest, op ≠ .platform (.ingest ingest)) :
    (op.step w).liabilitySnapshots = w.liabilitySnapshots := by
  cases op with
  | platform op =>
    obtain ⟨w₁, rows, events, heffect, hw⟩ := op.effect w
    have hkept := heffect.snapshots fun ingest heq => hop ingest (congrArg _ heq)
    show (op.step w).liabilitySnapshots = _
    rw [hw]
    exact hkept
  | setFlag key enabled updatedBy => exact setFlag_keeps (fun _ _ => rfl) key enabled updatedBy w
  | program op =>
    apply (op.served w).after (R := fun w' => w'.liabilitySnapshots = w.liabilitySnapshots) rfl
    · intro w₁ h
      cases h <;> rfl
    · intro w₁ h rows events
      exact h
  | addAdjustment input id =>
    simp only [step]
    rcases run_addAdjustment_cases w input id with h | ⟨_, _, _, -, -, -, -, h⟩ <;> rw [h]
  | liftAdjustment id actor =>
    simp only [step]
    rcases run_liftAdjustment_cases w id actor with h | h <;> rw [h]

/-- **Only the mint workflow writes an authorization.** -/
theorem authorizations (w : World) {op : SystemOp} (hop : ∀ mint, op ≠ .platform (.mint mint)) :
    (op.step w).mintAuthorizations = w.mintAuthorizations := by
  cases op with
  | platform op =>
    obtain ⟨w₁, rows, events, heffect, hw⟩ := op.effect w
    have hkept := heffect.authorizations fun mint heq => hop mint (congrArg _ heq)
    show (op.step w).mintAuthorizations = _
    rw [hw]
    exact hkept
  | setFlag key enabled updatedBy => exact setFlag_keeps (fun _ _ => rfl) key enabled updatedBy w
  | program op => exact op.mintAuthorizations w
  | addAdjustment input id =>
    simp only [step]
    rcases run_addAdjustment_cases w input id with h | ⟨_, _, _, -, -, -, -, h⟩ <;> rw [h]
  | liftAdjustment id actor =>
    simp only [step]
    rcases run_liftAdjustment_cases w id actor with h | h <;> rw [h]

/-- **A program stays, and keeps its asset and its currency.** -/
theorem programs (w : World) (op : SystemOp) {programId : String} {program : Program}
    (h : w.programs.find? programId = some program) :
    ∃ program', (op.step w).programs.find? programId = some program' ∧
      program'.assetId = program.assetId ∧
      program'.referenceCurrency = program.referenceCurrency := by
  cases op with
  | platform op =>
    refine ⟨program, ?_, rfl, rfl⟩
    show (op.step w).programs.find? programId = some program
    rw [(op.frame w).1]
    exact h
  | setFlag key enabled updatedBy =>
    refine ⟨program, ?_, rfl, rfl⟩
    have hkept :
        (((FeatureFlagsService.set key enabled updatedBy).run w).2).programs = w.programs :=
      setFlag_keeps (fun _ _ => rfl) key enabled updatedBy w
    show (((FeatureFlagsService.set key enabled updatedBy).run w).2).programs.find? programId = some program
    rw [hkept]
    exact h
  | program op =>
    apply (op.served w).after (R := fun w' => ∃ program', w'.programs.find? programId =
      some program' ∧ program'.assetId = program.assetId ∧
        program'.referenceCurrency = program.referenceCurrency) ⟨program, h, rfl, rfl⟩
    · intro w₁ heffect
      cases heffect with
      | created _ ht => exact ⟨program, Lib.Table.find?_insert?_of_some ht h, rfl, rfl⟩
      | @statusSet id status actor written _ _ _ =>
        have hfind := Lib.Table.find?_modify w.programs id (Program.withStatus written)
          (Program.withStatus_id written) programId
        by_cases hid : programId = id
        · rw [if_pos hid, ← hid, h] at hfind
          exact ⟨program.withStatus written, hid ▸ hfind, rfl, rfl⟩
        · rw [if_neg hid, h] at hfind
          exact ⟨program, hfind, rfl, rfl⟩
    · intro w₁ hkept rows events
      exact hkept
  | addAdjustment input id =>
    refine ⟨program, ?_, rfl, rfl⟩
    simp only [step]
    rcases run_addAdjustment_cases w input id with hrun | ⟨_, _, _, -, -, -, -, hrun⟩ <;>
      rw [hrun] <;> exact h
  | liftAdjustment id actor =>
    refine ⟨program, ?_, rfl, rfl⟩
    simp only [step]
    rcases run_liftAdjustment_cases w id actor with hrun | hrun <;> rw [hrun] <;> exact h

end SystemOp

end

end TrusteeBank
