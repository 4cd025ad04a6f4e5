import TrusteeBank.Infra

/-!
# Funding instructions

`FundingService`: before funds are accepted for minting the platform issues an instruction with a
unique reference and a deadline. An instruction that is not funded can be cancelled. Nothing here
reads the deposits, and nothing anywhere sets the status `FUNDED`.

**Theorem (`FundingOp.effect`).** An operation creates or cancels one instruction, or changes
nothing besides the audit trail and the events.
-/

set_option autoImplicit false

namespace TrusteeBank

open Lib (Call)

section

variable [Runtime]

structure CreateFundingInstruction where
  programId : String
  paychainRequestId : String
  assetId : String
  depositor : String
  expectedPayer : Option String
  beneficiaryAccountId : String
  amountMinor : String
  currency : String
  permittedMethod : String
  ttlSeconds : Option Int
  actor : String

/-- `{ id, uniqueReference, beneficiaryBank, ..., status }`. -/
structure CreatedFundingInstruction where
  id : String
  uniqueReference : String
  beneficiaryBank : String
  beneficiaryAccountName : String
  maskedAccountNumber : String
  currency : String
  amountMinor : String
  expiresAt : String
  status : FundingInstructionStatus
deriving DecidableEq, Repr

/-- `{ id, status }`. -/
structure FundingResult where
  id : String
  status : FundingInstructionStatus
deriving DecidableEq, Repr

/-- `{ ...fi, status: CANCELLED }`. -/
def FundingInstruction.asCancelled (fi : FundingInstruction) : FundingInstruction :=
  { fi with status := .cancelled }

omit [Runtime] in
theorem FundingInstruction.asCancelled_id (fi : FundingInstruction) :
    fi.asCancelled.id = fi.id := rfl

namespace FundingService

/-- A new reference, from a random UUID. -/
def uniqueReferenceOf (assetId uuid : String) : String :=
  "PC-" ++ assetId ++ "-" ++ Runtime.toUpperCase (String.ofList (uuid.toList.take 8))

/-- The row a creation stores. -/
def instructionRow (input : CreateFundingInstruction) (id uniqueReference : String)
    (amountMinor expiresAt : Int) : FundingInstruction where
  id := id
  programId := input.programId
  paychainRequestId := input.paychainRequestId
  assetId := input.assetId
  depositor := input.depositor
  expectedPayer := input.expectedPayer
  beneficiaryAccountId := input.beneficiaryAccountId
  amountMinor := amountMinor
  currency := input.currency
  uniqueReference := uniqueReference
  permittedMethod := input.permittedMethod
  expiresAt := expiresAt
  status := .issued

def instructionConstraints (row : FundingInstruction) (w : World) : Except ApiError Unit := do
  checkTexts ([row.paychainRequestId, row.assetId, row.depositor, row.currency,
    row.permittedMethod] ++ row.expectedPayer.toList)
  checkInt8 [row.amountMinor]
  checkUnique (w.fundingInstructions.rows.any fun fi =>
    fi.paychainRequestId = row.paychainRequestId)
  checkUnique (w.fundingInstructions.rows.any fun fi => fi.uniqueReference = row.uniqueReference)
  checkForeignKey (w.programs.find? row.programId).isSome

def create (clock : Clock) (input : CreateFundingInstruction) (id uuid : String) :
    Service CreatedFundingInstruction := do
  let found ← Prisma.trusteeAccount.findUnique input.beneficiaryAccountId
  let account ← orThrow found
    (.notFound ("Beneficiary account " ++ input.beneficiaryAccountId ++ " not found"))
  let ttl := input.ttlSeconds.getD 3600
  let expiresAt := newDate (some (clock 0 + ttl * 1000))
  let uniqueReference := uniqueReferenceOf input.assetId uuid
  let amountMinor ← bigInt input.amountMinor
  let expires ← checkDate expiresAt
  let row := instructionRow input id uniqueReference amountMinor expires
  let created ← Prisma.fundingInstruction.create (instructionConstraints row) row
  AuditService.record
    { actor := input.actor
      action := "funding_instruction.created"
      subjectType := "FUNDING_INSTRUCTION"
      subjectId := some created.id
      afterState := some (.object [("uniqueReference", .string uniqueReference),
        ("amountMinor", .string input.amountMinor)]) }
  EventsService.publish PlatformEvent.fundingInstructionCreated
    (.object [("fundingInstructionId", .string created.id),
      ("uniqueReference", .string uniqueReference),
      ("programId", .string input.programId)]) "PAYCHAIN"
  return {
    id := created.id
    uniqueReference
    beneficiaryBank := account.bankLegalEntity
    beneficiaryAccountName := account.accountName
    maskedAccountNumber := account.maskedAccountNumber
    currency := created.currency
    amountMinor := toString created.amountMinor
    expiresAt := isoString created.expiresAt
    status := created.status }

/-- Cancel an unfunded instruction. -/
def cancel (id actor : String) : Service FundingResult := do
  let found ← Prisma.fundingInstruction.findUnique id
  let fi ← orThrow found (.notFound ("Funding instruction " ++ id ++ " not found"))
  Call.throwIf (fi.status = .funded) (.badRequest "A funded instruction cannot be cancelled")
  let _ ← Prisma.fundingInstruction.update unconstrained id FundingInstruction.asCancelled
    FundingInstruction.asCancelled_id
  AuditService.record
    { actor
      action := "funding_instruction.cancelled"
      subjectType := "FUNDING_INSTRUCTION"
      subjectId := some id }
  return { id, status := .cancelled }

end FundingService

open FundingService

/-! ## Operations -/

inductive FundingOp
  | create (clock : Clock) (input : CreateFundingInstruction) (id uuid : String)
  | cancel (id actor : String)

def FundingOp.call : FundingOp → Service Unit
  | .create clock input id uuid => (FundingService.create clock input id uuid).void
  | .cancel id actor => (FundingService.cancel id actor).void

/-- Serve one operation alone, whether it succeeds or throws. -/
def FundingOp.step (w : World) (op : FundingOp) : World := (op.call.run w).2

/-! ## Effects -/

/-- The state with one instruction cancelled. -/
def World.cancelInstruction (w : World) (id : String) : World :=
  { w with
    fundingInstructions := w.fundingInstructions.modify id FundingInstruction.asCancelled
      FundingInstruction.asCancelled_id }

/-- What an operation did to the instructions. -/
inductive FundingEffect (w : World) : FundingOp → World → Prop
  | unchanged {op : FundingOp} : FundingEffect w op w
  | created {clock : Clock} {input : CreateFundingInstruction} {id uuid : String}
      {amountMinor expiresAt : Int} {t : Lib.Table FundingInstruction.id}
      (ht : w.fundingInstructions.insert? (instructionRow input id
        (uniqueReferenceOf input.assetId uuid) amountMinor expiresAt) = some t) :
      FundingEffect w (.create clock input id uuid) { w with fundingInstructions := t }
  | cancelled {id actor : String} {fi : FundingInstruction}
      (hfi : w.fundingInstructions.find? id = some fi) (hstatus : fi.status ≠ .funded) :
      FundingEffect w (.cancel id actor) (w.cancelInstruction id)

/-- The operation had an effect of the list, and appended audit rows and events. -/
def HasFundingEffect (w : World) (op : FundingOp) (w' : World) : Prop :=
  ∃ w₁ rows events, FundingEffect w op w₁ ∧ w' = w₁.logged rows events

theorem create_instruction_effect (w : World) (clock : Clock) (input : CreateFundingInstruction)
    (id uuid : String) : HasFundingEffect w (.create clock input id uuid)
      ((FundingService.create clock input id uuid).run w).2 := by
  refine Served.effect .unchanged ?_
  unfold FundingService.create
  refine .find_bind Prisma.trusteeAccount fun account haccount => ?_
  refine .lift_bind fun minor hminor => ?_
  refine .lift_bind fun expires hexpires => ?_
  refine .create_bind Prisma.fundingInstruction fun t ht => ?_
  exact .logs (.created ht) (.record_bind (.event_bind (logs_pure _)))

/-- A cancellation that is let through cancels, whether or not it can be recorded. -/
theorem run_cancel_of {w : World} {id : String} {fi : FundingInstruction}
    (hfi : w.fundingInstructions.find? id = some fi) (hstatus : fi.status ≠ .funded)
    (actor : String) : ∃ rows events,
      ((FundingService.cancel id actor).run w).2 = (w.cancelInstruction id).logged rows events := by
  unfold FundingService.cancel
  rw [Call.run_bind, Entity.run_findUnique]
  simp only [Prisma.fundingInstruction_get]
  rw [Call.run_lift_bind, hfi, orThrow]
  simp only
  rw [Call.run_throwIf_bind, if_neg hstatus, Call.run_bind,
    Entity.run_update_of Prisma.fundingInstruction hfi rfl]
  exact ((logs_record _).bind fun _ => logs_pure _) (w.cancelInstruction id)

theorem cancel_instruction_effect (w : World) (id actor : String) :
    HasFundingEffect w (.cancel id actor) ((FundingService.cancel id actor).run w).2 := by
  refine Served.effect .unchanged ?_
  unfold FundingService.cancel
  refine .find_bind Prisma.fundingInstruction fun fi hfi => ?_
  refine .throwIf_bind fun hstatus => ?_
  refine .update_bind Prisma.fundingInstruction fun _ _ => ?_
  exact .logs (.cancelled hfi hstatus) (.record_bind (logs_pure _))

/-- **Every operation has an effect in the list.** -/
theorem FundingOp.effect (w : World) (op : FundingOp) : HasFundingEffect w op (op.step w) := by
  cases op with
  | create clock input id uuid =>
    simpa [step, call] using create_instruction_effect w clock input id uuid
  | cancel id actor => simpa [step, call] using cancel_instruction_effect w id actor

end

end TrusteeBank
