import TrusteeBank.Services.Reserve

/-!
# Attestations

`AttestationService`: a statement about a reserve is drafted, reviewed, approved and published. Its
amounts come from the ledger when a program is named and the caller leaves one of them out.

**Theorem (`AttestationOp.effect`).** An operation drafts one attestation, takes one a step
further, or changes nothing.
-/

set_option autoImplicit false

namespace TrusteeBank

open Lib (Call)

section

variable [Runtime]

structure CreateAttestation where
  programId : Option String
  period : String
  scope : String
  methodology : Option String
  reserveAmountMinor : Option String
  liabilityAmountMinor : Option String
  currency : Option String
  opinion : Option String
  auditor : String
  documentHash : Option String
  actor : String

/-- `{ id, status, derivedFromLedger }`. -/
structure CreatedAttestation where
  id : String
  status : String
  derivedFromLedger : Bool
deriving DecidableEq, Repr

/-- `{ id, status }`. -/
structure AttestationResult where
  id : String
  status : String
deriving DecidableEq, Repr

/-- What an attestation can be taken to. -/
inductive AttestationTarget
  | underReview | approved | published | withdrawn
deriving DecidableEq, Repr

instance : EnumName AttestationTarget where
  name
    | .underReview => "UNDER_REVIEW"
    | .approved => "APPROVED"
    | .published => "PUBLISHED"
    | .withdrawn => "WITHDRAWN"

omit [Runtime] in
/-- `to.toLowerCase()`. -/
def AttestationTarget.lowerName : AttestationTarget → String
  | .underReview => "under_review"
  | .approved => "approved"
  | .published => "published"
  | .withdrawn => "withdrawn"

/-- The amounts of an attestation. -/
structure AttestedAmounts where
  reserveAmountMinor : Option Int
  liabilityAmountMinor : Option Int
  currency : Option String
  derivedFromLedger : Bool

omit [Runtime] in
/-- `{ ...row, status, approvedBy, issueDate }`, with what was read of the attestation before. -/
def Attestation.asTransitioned (target : AttestationTarget) (actor : String) (now : Int)
    (a row : Attestation) : Attestation :=
  { row with
    status := EnumName.name target
    approvedBy := if target = .approved then some actor else a.approvedBy
    issueDate := if target = .published then some now else a.issueDate }

omit [Runtime] in
theorem Attestation.asTransitioned_id (target : AttestationTarget) (actor : String) (now : Int)
    (a row : Attestation) : (a.asTransitioned target actor now row).id = row.id := rfl

namespace AttestationService

/-- `text ? BigInt(text) : null`. -/
def amountOf (text : Option String) : Except ApiError (Option Int) :=
  match text.filter (· ≠ "") with
  | some text => (bigInt text).map some
  | none => .ok none

/-- The amounts that are given, the others from the live ledger position. -/
def amounts (clock : Clock) (input : CreateAttestation)
    (reserveAmountMinor liabilityAmountMinor : Option Int) : Service AttestedAmounts :=
  match input.programId.filter (· ≠ "") with
  | some programId =>
    if reserveAmountMinor = none ∨ liabilityAmountMinor = none then do
      let pos ← ReserveService.position clock programId
      return {
        reserveAmountMinor := some (reserveAmountMinor.getD pos.eligibleReserve.minor)
        liabilityAmountMinor := some (liabilityAmountMinor.getD pos.reserveObligation.minor)
        currency := some (input.currency.getD pos.currency)
        derivedFromLedger := true }
    else return ⟨reserveAmountMinor, liabilityAmountMinor, input.currency, false⟩
  | none => return ⟨reserveAmountMinor, liabilityAmountMinor, input.currency, false⟩

/-- The row a creation stores. -/
def draft (input : CreateAttestation) (amounts : AttestedAmounts) (id : String) : Attestation where
  id := id
  programId := input.programId
  period := input.period
  scope := input.scope
  methodology := input.methodology
  reserveAmountMinor := amounts.reserveAmountMinor
  liabilityAmountMinor := amounts.liabilityAmountMinor
  currency := amounts.currency
  opinion := input.opinion
  auditor := input.auditor
  documentHash := input.documentHash
  status := "DRAFT"
  issueDate := none
  createdBy := some input.actor
  approvedBy := none

/-- What the audit trail says of a creation. -/
def createdRecord (actor id : String) (derivedFromLedger : Bool) : AuditRecord where
  actor := actor
  action := "attestation.created"
  subjectType := "ATTESTATION"
  subjectId := some id
  afterState := some (.object [("derivedFromLedger", .bool derivedFromLedger)])

def attestationConstraints (row : Attestation) : Except ApiError Unit := do
  checkInt8 (row.reserveAmountMinor.toList ++ row.liabilityAmountMinor.toList)
  checkTexts ([row.period, row.scope, row.auditor] ++ row.programId.toList ++
    row.methodology.toList ++ row.currency.toList ++ row.opinion.toList ++
    row.documentHash.toList ++ row.createdBy.toList)

def create (clock : Clock) (input : CreateAttestation) (id : String) :
    Service CreatedAttestation := do
  let reserveAmountMinor ← amountOf input.reserveAmountMinor
  let liabilityAmountMinor ← amountOf input.liabilityAmountMinor
  let amounts ← amounts clock input reserveAmountMinor liabilityAmountMinor
  let row := draft input amounts id
  let a ← Prisma.attestation.create (fun _ => attestationConstraints row) row
  AuditService.record (createdRecord input.actor a.id amounts.derivedFromLedger)
  return { id := a.id, status := a.status, derivedFromLedger := amounts.derivedFromLedger }

def requireAttestation (id : String) : Service Attestation := do
  let a ← Prisma.attestation.findUnique id
  orThrow a (.notFound ("Attestation " ++ id ++ " not found"))

/-- `allowed[status] ?? []`. -/
def allowed (status : String) : List AttestationTarget :=
  if status = "DRAFT" then [.underReview, .withdrawn]
  else if status = "UNDER_REVIEW" then [.approved, .withdrawn]
  else if status = "APPROVED" then [.published, .withdrawn]
  else if status = "PUBLISHED" then [.withdrawn]
  else []

/-- What the audit trail says of a transition. -/
def transitionRecord (id : String) (target : AttestationTarget) (actor : String) : AuditRecord where
  actor := actor
  action := "attestation." ++ target.lowerName
  subjectType := "ATTESTATION"
  subjectId := some id

/-- The texts of the request that a transition writes. -/
def writtenTexts (target : AttestationTarget) (actor : String) : List String :=
  if target = .approved then [actor] else []

def transition (clock : Clock) (id : String) (target : AttestationTarget) (actor : String) :
    Service AttestationResult := do
  let a ← requireAttestation id
  Call.throwIf (target ∉ allowed a.status)
    (.badRequest ("Cannot transition attestation from " ++ a.status ++ " to " ++
      EnumName.name target))
  let updated ← Prisma.attestation.update
    (textColumns (writtenTexts target actor)) id
    (a.asTransitioned target actor (clock 0)) (a.asTransitioned_id target actor (clock 0))
  AuditService.record (transitionRecord id target actor)
  return { id, status := updated.status }

end AttestationService

open AttestationService

/-! ## Operations -/

inductive AttestationOp
  | create (clock : Clock) (input : CreateAttestation) (id : String)
  | transition (clock : Clock) (id : String) (target : AttestationTarget) (actor : String)

def AttestationOp.call : AttestationOp → Service Unit
  | .create clock input id => (AttestationService.create clock input id).void
  | .transition clock id target actor => (AttestationService.transition clock id target actor).void

/-- Serve one operation alone, whether it succeeds or throws. -/
def AttestationOp.step (w : World) (op : AttestationOp) : World := (op.call.run w).2

/-! ## Effects -/

/-- The state with one attestation rewritten. -/
def World.updateAttestation (w : World) (id : String) (f : Attestation → Attestation)
    (hf : ∀ a, (f a).id = a.id) : World :=
  { w with attestations := w.attestations.modify id f hf }

/-- What an operation did to the attestations and the audit trail. -/
inductive AttestationEffect (w : World) : AttestationOp → World → Prop
  | unchanged {op : AttestationOp} : AttestationEffect w op w
  | created {clock : Clock} {input : CreateAttestation} {id : String} {amounts : AttestedAmounts}
      {t : Lib.Table Attestation.id}
      (ht : w.attestations.insert? (draft input amounts id) = some t) :
      AttestationEffect w (.create clock input id)
        (World.logged { w with attestations := t }
          (createdRecord input.actor id amounts.derivedFromLedger).rows [])
  | transitioned {clock : Clock} {id : String} {target : AttestationTarget} {actor : String}
      {a : Attestation} (ha : w.attestations.find? id = some a)
      (hallowed : target ∈ allowed a.status) (hactor : target = .approved → FitsText actor) :
      AttestationEffect w (.transition clock id target actor)
        ((w.updateAttestation id (a.asTransitioned target actor (clock 0))
          (a.asTransitioned_id target actor (clock 0))).logged
            (transitionRecord id target actor).rows [])

theorem run_amounts (clock : Clock) (input : CreateAttestation)
    (reserveAmountMinor liabilityAmountMinor : Option Int) (w : World) :
    ((amounts clock input reserveAmountMinor liabilityAmountMinor).run w).2 = w := by
  unfold amounts
  split
  · split_ifs
    · rw [Call.run_bind, run_position]
      cases positionAt w (clock 0) _ <;> rfl
    · rfl
  · rfl

theorem create_attestation_effect (w : World) (clock : Clock) (input : CreateAttestation)
    (id : String) : AttestationEffect w (.create clock input id)
      ((AttestationService.create clock input id).run w).2 := by
  unfold AttestationService.create
  rw [Call.run_lift_bind]
  cases amountOf input.reserveAmountMinor with
  | error e => exact .unchanged
  | ok reserveAmountMinor =>
    simp only
    rw [Call.run_lift_bind]
    cases amountOf input.liabilityAmountMinor with
    | error e => exact .unchanged
    | ok liabilityAmountMinor =>
      simp only
      have hamounts := run_amounts clock input reserveAmountMinor liabilityAmountMinor w
      rw [Call.run_bind]
      rcases h : (amounts clock input reserveAmountMinor liabilityAmountMinor).run w with
        ⟨e | derived, w'⟩
      · rw [h] at hamounts
        obtain rfl : w' = w := hamounts
        exact .unchanged
      · rw [h] at hamounts
        obtain rfl : w' = w := hamounts
        simp only
        rw [Call.run_bind]
        rcases Entity.run_create_cases Prisma.attestation
          (fun _ => attestationConstraints (draft input derived id)) (draft input derived id) w'
          with ⟨e, h⟩ | ⟨t, -, ht, h⟩
        · rw [h]
          exact .unchanged
        · rw [h]
          simp only
          rw [run_record_pure]
          exact .created ht

theorem transition_effect (w : World) (clock : Clock) (id : String) (target : AttestationTarget)
    (actor : String) : AttestationEffect w (.transition clock id target actor)
      ((AttestationService.transition clock id target actor).run w).2 := by
  unfold AttestationService.transition requireAttestation
  rw [bind_assoc, Call.run_bind, Entity.run_findUnique]
  simp only [Prisma.attestation_get]
  rw [Call.run_lift_bind]
  cases ha : w.attestations.find? id with
  | none => exact .unchanged
  | some a =>
    simp only [orThrow]
    rw [Call.run_throwIf_bind]
    split_ifs with hallowed
    swap
    · exact .unchanged
    rw [Call.run_bind]
    rcases Entity.run_update_cases Prisma.attestation
      (textColumns (writtenTexts target actor)) id
      (a.asTransitioned target actor (clock 0)) (a.asTransitioned_id target actor (clock 0)) w
      with ⟨e, h⟩ | ⟨row, hrow, hcheck, h⟩
    · rw [h]
      exact .unchanged
    · obtain rfl : a = row := Option.some.inj (ha.symm.trans hrow)
      rw [h]
      simp only
      rw [run_record_pure]
      refine .transitioned ha hallowed fun happroved => ?_
      exact checkTexts_eq_ok.mp hcheck actor (by simp [writtenTexts, happroved])

/-- **Every operation has an effect in the list.** -/
theorem AttestationOp.effect (w : World) (op : AttestationOp) :
    AttestationEffect w op (op.step w) := by
  unfold step
  cases op with
  | create clock input id =>
    unfold call
    rw [Call.run_void_snd]
    exact create_attestation_effect w clock input id
  | transition clock id target actor =>
    unfold call
    rw [Call.run_void_snd]
    exact transition_effect w clock id target actor

end

end TrusteeBank
