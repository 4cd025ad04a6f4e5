import TrusteeBank.Services.Loyalty

/-!
# Programs

`AdminService` creates a trustee program, which starts as a `DRAFT`, and changes its lifecycle
status, from any status to any other. The columns of a program that no other service reads are
checked here and not kept.

**Theorem (`ProgramOp.served`).** An operation fails, stores one draft, or writes the status of one
program.
-/

set_option autoImplicit false

namespace TrusteeBank

open Lib (Call)

instance : EnumName ProgramStatus where
  name
    | .draft => "DRAFT"
    | .active => "ACTIVE"
    | .suspended => "SUSPENDED"
    | .expired => "EXPIRED"
    | .closed => "CLOSED"

section

variable [Runtime]

structure CreateProgramInput where
  code : Option String
  legalEntityId : Option String
  issuerId : Option String
  trusteeBankId : Option String
  assetId : Option String
  referenceCurrency : Option String
  legalModel : Option String
  regulatoryStatus : Option String
  reservePolicy : Option String
  requiredRatioBps : Option Int
  safetyBufferBps : Option Int
  effectiveDate : Option String

/-- `{ id, code, status }` without the code. -/
structure ProgramResult where
  id : String
  status : ProgramStatus
deriving DecidableEq, Repr

/-- `{ ...program, status }`. -/
def Program.withStatus (status : ProgramStatus) (program : Program) : Program :=
  { program with status }

omit [Runtime] in
theorem Program.withStatus_id (status : ProgramStatus) (program : Program) :
    (program.withStatus status).id = program.id := rfl

namespace AdminService

/-- `req(v, name)`: a value that must be there. -/
def required (v : Option String) (name : String) : Except ApiError String :=
  match v with
  | some text => if text = "" then .error (.badRequest (name ++ " is required")) else .ok text
  | none => .error (.badRequest (name ++ " is required"))

/-- The row a program starts with. The arguments are evaluated in this order. -/
def createdProgram (input : CreateProgramInput) (id : String) : Except ApiError Program := do
  let _ ← required input.code "code"
  let _ ← required input.legalEntityId "legalEntityId"
  let issuerId ← required input.issuerId "issuerId"
  let _ ← required input.trusteeBankId "trusteeBankId"
  let assetId ← required input.assetId "assetId"
  let referenceCurrency ← required input.referenceCurrency "referenceCurrency"
  let _ ← required input.legalModel "legalModel"
  let _ ← required input.regulatoryStatus "regulatoryStatus"
  let _ ← required input.reservePolicy "reservePolicy"
  let effectiveDate ← required input.effectiveDate "effectiveDate"
  let _ ← checkDate (newDateOf effectiveDate)
  return {
    id, issuerId, assetId, referenceCurrency
    requiredRatioBps := input.requiredRatioBps.getD 10000
    safetyBufferBps := input.safetyBufferBps.getD 0
    status := .draft }

/-- The texts of a program, those of the columns nothing reads as well. -/
def programTexts (input : CreateProgramInput) : List String :=
  [input.code, input.legalEntityId, input.issuerId, input.trusteeBankId, input.assetId,
    input.referenceCurrency, input.legalModel, input.regulatoryStatus,
    input.reservePolicy].flatMap Option.toList

def programConstraints (input : CreateProgramInput) (codeTaken : Bool) (row : Program) :
    Except ApiError Unit := do
  checkTexts (programTexts input)
  checkInt4 row.requiredRatioBps
  checkInt4 row.safetyBufferBps
  checkUnique codeTaken

/-- Create a program. The database knows whether another program has the code. -/
def createProgram (input : CreateProgramInput) (actor id : String) (codeTaken : Bool) :
    Service ProgramResult := do
  let row ← createdProgram input id
  let program ← Prisma.program.create (fun _ => programConstraints input codeTaken row) row
  AuditService.record
    { actor
      action := "admin.program.created"
      subjectType := "PROGRAM"
      subjectId := some program.id
      afterState := some (.object [("code", .ofOption input.code),
        ("assetId", .ofOption input.assetId)]) }
  return { id := program.id, status := program.status }

def programStatuses : List ProgramStatus := [.draft, .active, .suspended, .expired, .closed]

/-- The status of a name, if it is one. -/
def programStatusOf (status : String) : Option ProgramStatus :=
  programStatuses.find? fun s => EnumName.name s = status

/-- Change the lifecycle status of a program. -/
def setProgramStatus (programId status actor : String) : Service ProgramResult := do
  let written ← orThrow (programStatusOf status) (.badRequest ("status must be one of " ++
    ", ".intercalate (programStatuses.map EnumName.name)))
  let program ← Prisma.program.update unconstrained programId (Program.withStatus written)
    (Program.withStatus_id written)
  AuditService.record
    { actor
      action := "admin.program.status_changed"
      subjectType := "PROGRAM"
      subjectId := some programId
      afterState := some (.object [("status", .string status)]) }
  return { id := program.id, status := program.status }

end AdminService

open AdminService

/-! ## Operations -/

inductive ProgramOp
  | create (input : CreateProgramInput) (actor id : String) (codeTaken : Bool)
  | setStatus (programId status actor : String)

def ProgramOp.call : ProgramOp → Service Unit
  | .create input actor id codeTaken => (createProgram input actor id codeTaken).void
  | .setStatus programId status actor => (setProgramStatus programId status actor).void

/-- Serve one operation alone, whether it succeeds or throws. -/
def ProgramOp.step (w : World) (op : ProgramOp) : World := (op.call.run w).2

/-- What an operation did to the programs. -/
inductive ProgramEffect (w : World) : ProgramOp → World → Prop
  | created {input : CreateProgramInput} {actor id : String} {codeTaken : Bool} {row : Program}
      {t : Lib.Table Program.id} (hstatus : row.status = .draft)
      (ht : w.programs.insert? row = some t) :
      ProgramEffect w (.create input actor id codeTaken) { w with programs := t }
  | statusSet {programId status actor : String} {written : ProgramStatus} {program : Program}
      (hwritten : programStatusOf status = some written)
      (hprogram : w.programs.find? programId = some program) :
      ProgramEffect w (.setStatus programId status actor)
        { w with
          programs := w.programs.modify programId (Program.withStatus written)
            (Program.withStatus_id written) }

omit [Runtime] in
theorem required_ok {v : Option String} {name text : String} (h : required v name = .ok text) :
    v = some text ∧ text ≠ "" := by
  cases v with
  | none => cases h
  | some t =>
    simp only [required] at h
    split_ifs at h with hempty
    cases h
    exact ⟨rfl, hempty⟩

/-- **A program starts as a draft**, of the asset and the currency that were asked for. -/
theorem createdProgram_ok {input : CreateProgramInput} {id : String} {row : Program}
    (h : createdProgram input id = .ok row) :
    row.id = id ∧ row.status = .draft ∧ input.assetId = some row.assetId ∧
      input.referenceCurrency = some row.referenceCurrency := by
  unfold createdProgram at h
  obtain ⟨_, -, h⟩ := bind_eq_ok.mp h
  obtain ⟨_, -, h⟩ := bind_eq_ok.mp h
  obtain ⟨_, -, h⟩ := bind_eq_ok.mp h
  obtain ⟨_, -, h⟩ := bind_eq_ok.mp h
  obtain ⟨assetId, hasset, h⟩ := bind_eq_ok.mp h
  obtain ⟨currency, hcurrency, h⟩ := bind_eq_ok.mp h
  obtain ⟨_, -, h⟩ := bind_eq_ok.mp h
  obtain ⟨_, -, h⟩ := bind_eq_ok.mp h
  obtain ⟨_, -, h⟩ := bind_eq_ok.mp h
  obtain ⟨_, -, h⟩ := bind_eq_ok.mp h
  obtain ⟨_, -, h⟩ := bind_eq_ok.mp h
  cases h
  exact ⟨rfl, rfl, (required_ok hasset).1, (required_ok hcurrency).1⟩

theorem createProgram_served (w : World) (input : CreateProgramInput) (actor id : String)
    (codeTaken : Bool) : Served (ProgramEffect w (.create input actor id codeTaken)) w
      ((createProgram input actor id codeTaken).run w) := by
  unfold createProgram
  refine .lift_bind fun row hrow => ?_
  refine .create_bind Prisma.program fun t ht => ?_
  exact .logs (.created (createdProgram_ok hrow).2.1 ht) (.record_bind (logs_pure _))

theorem setProgramStatus_served (w : World) (programId status actor : String) :
    Served (ProgramEffect w (.setStatus programId status actor)) w
      ((setProgramStatus programId status actor).run w) := by
  unfold setProgramStatus
  refine .lift_bind fun written hwritten => ?_
  refine .update_bind Prisma.program fun program hprogram => ?_
  exact .logs (.statusSet (orThrow_eq_ok.mp hwritten) hprogram) (.record_bind (logs_pure _))

/-- **Every operation fails or has an effect in the list.** -/
theorem ProgramOp.served (w : World) (op : ProgramOp) :
    Served (ProgramEffect w op) w (op.call.run w) := by
  cases op with
  | create input actor id codeTaken => exact (createProgram_served w input actor id codeTaken).void
  | setStatus programId status actor =>
    exact (setProgramStatus_served w programId status actor).void

/-- The programs are all that changes, besides the audit trail and the events. -/
theorem ProgramOp.mintAuthorizations (w : World) (op : ProgramOp) :
    (op.step w).mintAuthorizations = w.mintAuthorizations := by
  apply (op.served w).after (R := fun w' => w'.mintAuthorizations = w.mintAuthorizations) rfl
  · intro w₁ h
    cases h <;> rfl
  · intro w₁ h rows events
    exact h

end

end TrusteeBank
