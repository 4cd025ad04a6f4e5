import TrusteeBank.Lib.Run
import TrusteeBank.Mint.GuardSignals
import TrusteeBank.Services.Programs

/-!
# The lifecycle of a program and its mints

A program starts as a `DRAFT`, "never live on creation", and an administrator moves it between
five statuses in any direction at any time. The mint guard sees one flag of this: whether the
program is `SUSPENDED`.

**Theorem (`only_active_mint`).** In every run in which no approval that may issue finds its
program `DRAFT`, `EXPIRED` or `CLOSED`, an authorization becomes `ISSUED` only while its program is
`ACTIVE`. Without the condition a program that has been closed still mints (`closed_program_mints`).
-/

set_option autoImplicit false

namespace TrusteeBank

section

variable [Runtime]

/-- A step of the machine: the lifecycle of the programs, and mints. -/
inductive LifecycleOp
  | program (op : ProgramOp)
  | mint (op : MintOp)

/-- Serve one operation alone. -/
def LifecycleOp.step (w : World) : LifecycleOp → World
  | .program op => op.step w
  | .mint op => op.step w

/-- Whatever an operation makes `ISSUED` is of a program that is `ACTIVE` then. -/
def IssuesActive (w : World) (op : LifecycleOp) : Prop :=
  ∀ a ∈ (op.step w).mintAuthorizations.rows, a.status = .issued → NotIssued w a.id →
    ∃ program, (op.step w).programs.find? a.programId = some program ∧ program.status = .active

/-- An approval that may issue does not find the program before or after its life. -/
def FindsLive (w : World) : LifecycleOp → Prop
  | .mint (.approve clock authId checkerId _) =>
    ∀ auth ∈ w.mintAuthorizations.find? authId, ∀ approval ∈ approvalOf w authId,
      Issuable w (clock 0) authId checkerId auth approval →
        ∀ program ∈ w.programs.find? auth.programId,
          program.status ≠ .draft ∧ program.status ≠ .expired ∧ program.status ≠ .closed
  | _ => True

instance FindsLive.decidable (w : World) : (op : LifecycleOp) → Decidable (FindsLive w op)
  | .mint (.approve clock authId checkerId _) => inferInstanceAs (Decidable
      (∀ auth ∈ w.mintAuthorizations.find? authId, ∀ approval ∈ approvalOf w authId,
        Issuable w (clock 0) authId checkerId auth approval →
          ∀ program ∈ w.programs.find? auth.programId,
            program.status ≠ .draft ∧ program.status ≠ .expired ∧ program.status ≠ .closed))
  | .mint (.request ..) | .mint (.review ..) | .mint (.reject ..) | .mint (.revoke ..)
  | .mint (.confirm ..) | .mint (.expire ..) | .program _ => isTrue trivial

/-- The workflow does not write programs. -/
theorem MintOp.programs (w : World) (op : MintOp) : (op.step w).programs = w.programs := by
  obtain ⟨w₁, rows, events, heffect, hw⟩ := op.effect w
  rw [hw]
  exact heffect.frame.1

/-- The one flag of the guard rules out `SUSPENDED`, the condition the rest. -/
theorem FindsLive.issuesActive {w : World} {op : LifecycleOp} (h : FindsLive w op) :
    IssuesActive w op := by
  intro a ha hissued hbefore
  cases op with
  | program op =>
    have hkept : a ∈ w.mintAuthorizations.rows := op.mintAuthorizations w ▸ ha
    exact absurd hissued (hbefore a (Lib.Table.find?_key_of_mem hkept))
  | mint op =>
    obtain ⟨clock, checkerId, reason, auth, approval, program, pos, rfl, hprogramId, hissuable,
      hunder⟩ := MintOp.newly_issued_unblocked ha hissued hbefore
    obtain ⟨hdraft, hexpired, hclosed⟩ :=
      h auth hissuable.found approval hissuable.reviewed hissuable program hunder.enrolled
    refine ⟨program, ?_, ?_⟩
    · show (MintOp.step w _).programs.find? a.programId = some program
      rw [MintOp.programs, hprogramId]
      exact hunder.enrolled
    · cases hstatus : program.status with
      | active => rfl
      | draft => exact absurd hstatus hdraft
      | suspended => exact absurd hstatus hunder.not_suspended
      | expired => exact absurd hstatus hexpired
      | closed => exact absurd hstatus hclosed

/-- **Only active programs mint**, in every run in which no approval finds a program that is not
live. -/
theorem only_active_mint {w : World} {ops : List LifecycleOp}
    (hops : Lib.Meets LifecycleOp.step FindsLive w ops) :
    Lib.Meets LifecycleOp.step IssuesActive w ops :=
  hops.mono fun _ _ h => h.issuesActive

end

/-! ## A program that has been closed -/

attribute [local instance] Runtime.ascii

namespace Sample

/-- The status of the program is written, then a mint goes through the workflow. -/
def mintUnder (status : String) : List LifecycleOp :=
  .program (.setStatus "P1" status "ops") :: (mint "M1" "50").map .mint

theorem mintUnder_live :
    Lib.Meets LifecycleOp.step FindsLive world (mintUnder "ACTIVE") := by
  decide +kernel

end Sample

/-- A program that was activated mints. -/
theorem only_active_mint_activated :
    Lib.Meets LifecycleOp.step IssuesActive Sample.world (Sample.mintUnder "ACTIVE") :=
  only_active_mint Sample.mintUnder_live

/-- The last operation issues, and the program is `CLOSED`. -/
theorem issued_under_closed :
    (∃ a ∈ ((Sample.mintUnder "CLOSED").foldl LifecycleOp.step
        Sample.world).mintAuthorizations.rows,
      a.status = .issued ∧ a.programId = "P1" ∧ a.id = "M1") ∧
    (∀ a ∈ (((Sample.mintUnder "CLOSED").take 3).foldl LifecycleOp.step
        Sample.world).mintAuthorizations.find? "M1", a.status ≠ .issued) ∧
    ∀ program ∈ ((Sample.mintUnder "CLOSED").foldl LifecycleOp.step
      Sample.world).programs.find? "P1", program.status ≠ .active := by
  decide +kernel

/-- The guard does not block the mint of a program that has been closed. -/
theorem closed_program_mints : ¬∀ [Runtime] (w : World) (ops : List LifecycleOp),
    Lib.Meets LifecycleOp.step IssuesActive w ops := by
  intro h
  obtain ⟨⟨a, ha, hissued, hprogramId, hid⟩, hbefore, hclosed⟩ := issued_under_closed
  have hactive := (h Sample.world (Sample.mintUnder "CLOSED")).2.2.2.1
  obtain ⟨program, hprogram, hstatus⟩ := hactive a ha hissued (by rw [hid]; exact hbefore)
  rw [hprogramId] at hprogram
  exact hclosed program hprogram hstatus

end TrusteeBank
