import TrusteeBank.Infra

/-!
# Program funds

`ProgramFundsService`: a program of a tenant has a fund. Funding is safeguarded in the ledger when
the fund's classification requires fiat backing, and counted in `fundedMinor` in any case;
`reserve` and `release` move the part of it that is set aside.

**Theorem (`FundOp.effect`).** An operation creates a fund or changes one of its two counters, or
changes nothing besides the audit trail and the events. Funding posts its entry first: when the
counter would leave the range of its column, the entry stays without it. A reservation or a release
whose record cannot be stored has changed its counter and fails.
-/

set_option autoImplicit false

namespace TrusteeBank

open Lib (Call)
open LedgerAccountCode

section

variable [Runtime]

structure CreateProgramFund where
  tenantId : String
  paykhProgramId : String
  classification : String
  currency : String
  reserveAccountId : String
  actor : String

/-- `{ id, classification, status }`. -/
structure CreatedProgramFund where
  id : String
  classification : String
  status : String
deriving DecidableEq, Repr

/-- `{ id, fundedMinor }`. -/
structure FundedResult where
  id : String
  fundedMinor : String
deriving DecidableEq, Repr

/-- `{ id, reservedMinor, availableMinor }`. -/
structure ReservedResult where
  id : String
  reservedMinor : String
  availableMinor : Option String
deriving DecidableEq, Repr

namespace PaykhProgramFund

/-- `{ ...fund, fundedMinor }`. -/
def withFunded (fundedMinor : Int) (fund : PaykhProgramFund) : PaykhProgramFund :=
  { fund with fundedMinor }

/-- `{ ...fund, reservedMinor }`. -/
def withReserved (reservedMinor : Int) (fund : PaykhProgramFund) : PaykhProgramFund :=
  { fund with reservedMinor }

omit [Runtime]

theorem withFunded_id (fundedMinor : Int) (fund : PaykhProgramFund) :
    (fund.withFunded fundedMinor).id = fund.id := rfl

theorem withReserved_id (reservedMinor : Int) (fund : PaykhProgramFund) :
    (fund.withReserved reservedMinor).id = fund.id := rfl

end PaykhProgramFund

namespace ProgramFundsService

open ReserveLedgerService (post)

def requireFund (fundId : String) : Service PaykhProgramFund := do
  let f ← Prisma.paykhProgramFund.findUnique fundId
  orThrow f (.notFound ("Program fund " ++ fundId ++ " not found"))

/-! ## Create -/

/-- The row a creation stores. -/
def createdFund (input : CreateProgramFund) (id : String) : PaykhProgramFund where
  id := id
  tenantId := input.tenantId
  paykhProgramId := input.paykhProgramId
  classification := input.classification
  currency := input.currency
  reserveAccountId := input.reserveAccountId
  fundedMinor := 0
  reservedMinor := 0
  status := "ACTIVE"

def fundConstraints (row : PaykhProgramFund) (w : World) : Except ApiError Unit := do
  checkTexts [row.tenantId, row.paykhProgramId, row.classification, row.currency,
    row.reserveAccountId]
  checkUnique (w.paykhProgramFunds.rows.any fun f =>
    f.tenantId = row.tenantId && f.paykhProgramId = row.paykhProgramId)

def create (input : CreateProgramFund) (id : String) : Service CreatedProgramFund := do
  let row := createdFund input id
  let fund ← Prisma.paykhProgramFund.create (fundConstraints row) row
  AuditService.record
    { actor := input.actor
      action := "paykh.program_fund.created"
      subjectType := "PAYKH_PROGRAM_FUND"
      subjectId := some fund.id
      afterState := some (.object [("classification", .string input.classification)]) }
  return { id := fund.id, classification := fund.classification, status := fund.status }

/-! ## Fund -/

/-- The entry that safeguards funding. -/
def fundingEntry (fund : PaykhProgramFund) (fundId actor : String) (amount : Money) :
    Except ApiError JournalEntry :=
  paykhProgramFundingEntry amount
    { source := "paykh-fund:" ++ fundId
      programId := fund.tenantId
      assetId := fund.paykhProgramId
      actor
      approvalRef := none
      correlationId := none }

/-- Safeguard the funding in the ledger, where the classification requires it. -/
def safeguard (required : Bool) (entry : Except ApiError JournalEntry) : Service Unit :=
  if required then do
    let entry ← entry
    post entry
  else pure ()

/-- Record cleared program funding. -/
def fund (fundId amountMinor actor : String) : Service FundedResult := do
  let fund ← requireFund fundId
  let minor ← bigInt amountMinor
  let amount := money minor fund.currency
  Call.throwIf (amount.minor ≤ 0) (.badRequest "Funding amount must be positive")
  let required ← requiresFiatBacking fund.classification
  safeguard required (fundingEntry fund fundId actor amount)
  let updated ← Prisma.paykhProgramFund.update (int8Columns [fund.fundedMinor + amount.minor])
    fundId (PaykhProgramFund.withFunded (fund.fundedMinor + amount.minor))
    (PaykhProgramFund.withFunded_id (fund.fundedMinor + amount.minor))
  EventsService.publishToPaykh PaykhEvent.programFundCleared
    (.object [("fundId", .string fundId), ("fundedMinor", .string (toString updated.fundedMinor))])
  return { id := fundId, fundedMinor := toString updated.fundedMinor }

/-! ## Reserve and release -/

/-- Tell PayKH that nothing is left. -/
def announceExhausted (fundId : String) (remaining : Int) : Service Unit :=
  if remaining = 0 then
    EventsService.publishToPaykh PaykhEvent.programFundExhausted (.object [("fundId", .string fundId)])
  else pure ()

/-- Reserve part of the available balance for an issuance. -/
def reserve (fundId amountMinor actor : String) : Service ReservedResult := do
  let fund ← requireFund fundId
  let amount ← bigInt amountMinor
  let available := fund.fundedMinor - fund.reservedMinor
  Call.throwIf (amount > available)
    (.badRequest "Insufficient available program funding to reserve")
  let updated ← Prisma.paykhProgramFund.update (int8Columns [fund.reservedMinor + amount])
    fundId (PaykhProgramFund.withReserved (fund.reservedMinor + amount))
    (PaykhProgramFund.withReserved_id (fund.reservedMinor + amount))
  AuditService.record
    { actor
      action := "paykh.program_fund.reserved"
      subjectType := "PAYKH_PROGRAM_FUND"
      subjectId := some fundId
      afterState := some (.object [("reservedMinor", .string (toString updated.reservedMinor))]) }
  let remaining := updated.fundedMinor - updated.reservedMinor
  announceExhausted fundId remaining
  return {
    id := fundId
    reservedMinor := toString updated.reservedMinor
    availableMinor := some (toString remaining) }

def release (fundId amountMinor actor : String) : Service ReservedResult := do
  let fund ← requireFund fundId
  let amount ← bigInt amountMinor
  Call.throwIf (amount > fund.reservedMinor) (.badRequest "Cannot release more than reserved")
  let updated ← Prisma.paykhProgramFund.update (int8Columns [fund.reservedMinor - amount])
    fundId (PaykhProgramFund.withReserved (fund.reservedMinor - amount))
    (PaykhProgramFund.withReserved_id (fund.reservedMinor - amount))
  AuditService.record
    { actor
      action := "paykh.program_fund.released"
      subjectType := "PAYKH_PROGRAM_FUND"
      subjectId := some fundId }
  return { id := fundId, reservedMinor := toString updated.reservedMinor, availableMinor := none }

end ProgramFundsService

open ProgramFundsService

/-! ## Operations -/

inductive FundOp
  | create (input : CreateProgramFund) (id : String)
  | fund (fundId amountMinor actor : String)
  | reserve (fundId amountMinor actor : String)
  | release (fundId amountMinor actor : String)

def FundOp.actor : FundOp → String
  | .create input _ => input.actor
  | .fund _ _ actor | .reserve _ _ actor | .release _ _ actor => actor

def FundOp.call : FundOp → Service Unit
  | .create input id => (ProgramFundsService.create input id).void
  | .fund fundId amountMinor actor => (ProgramFundsService.fund fundId amountMinor actor).void
  | .reserve fundId amountMinor actor => (ProgramFundsService.reserve fundId amountMinor actor).void
  | .release fundId amountMinor actor => (ProgramFundsService.release fundId amountMinor actor).void

/-- Serve one operation alone, whether it succeeds or throws. -/
def FundOp.step (w : World) (op : FundOp) : World := (op.call.run w).2

/-! ## Effects -/

/-- The state with one fund rewritten. -/
def World.updateFund (w : World) (fundId : String) (f : PaykhProgramFund → PaykhProgramFund)
    (hf : ∀ r, (f r).id = r.id) : World :=
  { w with paykhProgramFunds := w.paykhProgramFunds.modify fundId f hf }

/-- The state with what is set aside in a fund rewritten. -/
def World.withReserved (w : World) (fundId : String) (reservedMinor : Int) : World :=
  w.updateFund fundId (PaykhProgramFund.withReserved reservedMinor)
    (PaykhProgramFund.withReserved_id reservedMinor)

/-- The state with what a fund was funded with rewritten. -/
def World.withFunded (w : World) (fundId : String) (fundedMinor : Int) : World :=
  w.updateFund fundId (PaykhProgramFund.withFunded fundedMinor)
    (PaykhProgramFund.withFunded_id fundedMinor)

/-- The state with more journal entries. -/
def World.postedAll (w : World) (entries : List JournalEntry) : World :=
  { w with ledger := w.ledger ++ entries }

/-- The entry safeguards an amount in a fund. -/
structure IsFunding (fund : PaykhProgramFund) (fundId : String) (amount : Int) (e : JournalEntry) :
    Prop where
  move : IsMove (Runtime.toUpperCase fund.currency) assetTrusteeBankCash liabilityPaykhProgramFund
    amount e.references e
  program : e.references.programId = fund.tenantId
  source : e.references.source = "paykh-fund:" ++ fundId
  fits : FitsInt8 amount

/-- What funding posts: its entry, where the classification requires fiat backing. -/
inductive Safeguards (fund : PaykhProgramFund) (fundId : String) (amount : Int) :
    List JournalEntry → Prop
  | required {e : JournalEntry} (hrequired : requiresFiatBacking fund.classification = .ok true)
      (he : IsFunding fund fundId amount e) : Safeguards fund fundId amount [e]
  | unbacked (hrequired : requiresFiatBacking fund.classification = .ok false) :
      Safeguards fund fundId amount []

/-- What an operation did to the funds and the ledger. -/
inductive FundEffect (w : World) : FundOp → World → Prop
  | unchanged {op : FundOp} : FundEffect w op w
  | created {input : CreateProgramFund} {id : String} {t : Lib.Table PaykhProgramFund.id}
      (ht : w.paykhProgramFunds.insert? (createdFund input id) = some t) :
      FundEffect w (.create input id) { w with paykhProgramFunds := t }
  | overflowed {fundId amountMinor actor : String} {fund : PaykhProgramFund} {amount : Int}
      {entries : List JournalEntry} (hfund : w.paykhProgramFunds.find? fundId = some fund)
      (hamount : bigInt amountMinor = .ok amount) (hpositive : 0 < amount)
      (hentries : Safeguards fund fundId amount entries)
      (hoverflow : ¬FitsInt8 (fund.fundedMinor + amount))
      (hactor : entries ≠ [] → FitsText actor) :
      FundEffect w (.fund fundId amountMinor actor) (w.postedAll entries)
  | funded {fundId amountMinor actor : String} {fund : PaykhProgramFund} {amount : Int}
      {entries : List JournalEntry} (hfund : w.paykhProgramFunds.find? fundId = some fund)
      (hamount : bigInt amountMinor = .ok amount) (hpositive : 0 < amount)
      (hentries : Safeguards fund fundId amount entries)
      (hfits : FitsInt8 (fund.fundedMinor + amount)) (hactor : entries ≠ [] → FitsText actor) :
      FundEffect w (.fund fundId amountMinor actor)
        ((w.postedAll entries).withFunded fundId (fund.fundedMinor + amount))
  | reserved {fundId amountMinor actor : String} {fund : PaykhProgramFund} {amount : Int}
      (hfund : w.paykhProgramFunds.find? fundId = some fund)
      (hamount : bigInt amountMinor = .ok amount)
      (havailable : amount ≤ fund.fundedMinor - fund.reservedMinor)
      (hfits : FitsInt8 (fund.reservedMinor + amount)) :
      FundEffect w (.reserve fundId amountMinor actor)
        (w.withReserved fundId (fund.reservedMinor + amount))
  | released {fundId amountMinor actor : String} {fund : PaykhProgramFund} {amount : Int}
      (hfund : w.paykhProgramFunds.find? fundId = some fund)
      (hamount : bigInt amountMinor = .ok amount) (hreserved : amount ≤ fund.reservedMinor)
      (hfits : FitsInt8 (fund.reservedMinor - amount)) :
      FundEffect w (.release fundId amountMinor actor)
        (w.withReserved fundId (fund.reservedMinor - amount))

/-- The operation had an effect of the list, and appended audit rows and events. -/
def HasFundEffect (w : World) (op : FundOp) (w' : World) : Prop :=
  ∃ w₁ rows events, FundEffect w op w₁ ∧ w' = w₁.logged rows events

theorem HasFundEffect.unchanged {w : World} {op : FundOp} : HasFundEffect w op w :=
  ⟨w, [], [], .unchanged, by simp⟩

theorem run_requireFund (fundId : String) (w : World) :
    (requireFund fundId).run w = (orThrow (w.paykhProgramFunds.find? fundId)
      (.notFound ("Program fund " ++ fundId ++ " not found")), w) := rfl

/-- An update of a fund's counter goes through when its column holds the value. -/
theorem run_updateFund {w : World} {fundId : String} {fund : PaykhProgramFund}
    (hfund : w.paykhProgramFunds.find? fundId = some fund) (value : Int)
    (f : PaykhProgramFund → PaykhProgramFund) (hf : ∀ r, (f r).id = r.id) :
    (¬FitsInt8 value ∧ ∃ e,
      (Prisma.paykhProgramFund.update (int8Columns [value]) fundId f hf).run w = (.error e, w)) ∨
    FitsInt8 value ∧ (Prisma.paykhProgramFund.update (int8Columns [value]) fundId f hf).run w =
      (.ok (f fund), w.updateFund fundId f hf) := by
  by_cases hfits : FitsInt8 value
  · right
    have hcheck : int8Columns [value] w fund = .ok () :=
      checkInt8_eq_ok.mpr fun n hn => List.mem_singleton.mp hn ▸ hfits
    exact ⟨hfits, Entity.run_update_of Prisma.paykhProgramFund hfund hcheck⟩
  · left
    refine ⟨hfits, ?_⟩
    rcases Entity.run_update_cases Prisma.paykhProgramFund (int8Columns [value]) fundId f hf w with
      ⟨e, h⟩ | ⟨row, -, hcheck, -⟩
    · exact ⟨e, h⟩
    · exact absurd (checkInt8_eq_ok.mp hcheck value (List.mem_singleton.mpr rfl)) hfits

/-- Safeguarding posts what the classification requires, or fails and posts nothing. -/
theorem run_safeguard (w : World) {fund : PaykhProgramFund} {required : Bool}
    (hrequired : requiresFiatBacking fund.classification = .ok required) (fundId actor : String)
    (minor : Int) :
    (∃ e, (safeguard required (fundingEntry fund fundId actor (money minor fund.currency))).run w =
      (.error e, w)) ∨
    ∃ entries, Safeguards fund fundId minor entries ∧ (entries ≠ [] → FitsText actor) ∧
      (safeguard required (fundingEntry fund fundId actor (money minor fund.currency))).run w =
        (.ok (), w.postedAll entries) := by
  unfold safeguard
  cases required with
  | false =>
    right
    refine ⟨[], .unbacked hrequired, fun h => absurd rfl h, ?_⟩
    simp [World.postedAll]
  | true =>
    rw [if_pos rfl, Call.run_lift_bind]
    cases he : fundingEntry fund fundId actor (money minor fund.currency) with
    | error e => exact .inl ⟨e, rfl⟩
    | ok e =>
      obtain ⟨-, hmove⟩ := buildJournalEntry_move he
      have hrefs := hmove.entry_references
      simp only
      rcases run_post_cases e w with ⟨-, err, hrun⟩ | ⟨hstored, hrun⟩
      · exact .inl ⟨err, hrun⟩
      · right
        have hfits := hstored.amounts e.totalDebit.minor List.mem_cons_self
        rw [hmove.totalDebit] at hfits
        exact ⟨[e], .required hrequired ⟨hrefs ▸ hmove, by rw [hrefs], by rw [hrefs], hfits⟩,
          fun _ => actor_of_transferEntry he hstored, hrun⟩

theorem create_fund_effect (w : World) (input : CreateProgramFund) (id : String) :
    HasFundEffect w (.create input id) ((ProgramFundsService.create input id).run w).2 := by
  refine Served.effect .unchanged ?_
  unfold ProgramFundsService.create
  refine .create_bind Prisma.paykhProgramFund fun t ht => ?_
  exact .logs (.created ht) (.record_bind (logs_pure _))

theorem fund_effect (w : World) (fundId amountMinor actor : String) :
    HasFundEffect w (.fund fundId amountMinor actor) ((fund fundId amountMinor actor).run w).2 := by
  unfold fund
  rw [Call.run_bind, run_requireFund]
  cases hfund : w.paykhProgramFunds.find? fundId with
  | none => exact .unchanged
  | some fund =>
    simp only [orThrow]
    rw [Call.run_lift_bind]
    cases hminor : bigInt amountMinor with
    | error e => exact .unchanged
    | ok minor =>
      simp only
      rw [Call.run_throwIf_bind]
      split_ifs with hpositive
      · exact .unchanged
      simp only [money_minor] at hpositive ⊢
      rw [Call.run_lift_bind]
      cases hrequired : requiresFiatBacking fund.classification with
      | error e => exact .unchanged
      | ok required =>
        simp only
        rw [Call.run_bind]
        rcases run_safeguard w hrequired fundId actor minor with
          ⟨e, h⟩ | ⟨entries, hentries, hactor, h⟩
        · rw [h]
          exact .unchanged
        rw [h]
        simp only
        rw [Call.run_bind]
        rcases run_updateFund (w := w.postedAll entries) hfund (fund.fundedMinor + minor)
          (PaykhProgramFund.withFunded (fund.fundedMinor + minor))
          (PaykhProgramFund.withFunded_id (fund.fundedMinor + minor)) with
          ⟨hoverflow, e, h⟩ | ⟨hfits, h⟩
        · rw [h]
          exact ⟨_, [], [], .overflowed hfund hminor (not_le.mp hpositive) hentries hoverflow hactor,
            (World.logged_nil _).symm⟩
        · rw [h]
          exact ⟨_, _, _, .funded hfund hminor (not_le.mp hpositive) hentries hfits hactor, rfl⟩

/-- What is published when a fund is exhausted. -/
def exhaustedEvents (fundId : String) (remaining : Int) : List OutboxEvent :=
  if remaining = 0 then
    [EventsService.signedEvent PaykhEvent.programFundExhausted (.object [("fundId", .string fundId)])
      "PAYKH"]
  else []

theorem run_announceExhausted (fundId : String) (remaining : Int) (w : World) :
    (announceExhausted fundId remaining).run w =
      (.ok (), w.logged [] (exhaustedEvents fundId remaining)) := by
  unfold announceExhausted exhaustedEvents
  split_ifs
  · rfl
  · simp

/-- What `reserve` and `release` have in common: an amount within a bound is read, and what is set
aside in the fund is rewritten. -/
def moveReserved {α : Type} (fundId amountMinor : String) (bound : PaykhProgramFund → Int)
    (value : PaykhProgramFund → Int → Int) (error : ApiError)
    (after : PaykhProgramFund → Service α) : Service α := do
  let fund ← requireFund fundId
  let amount ← bigInt amountMinor
  Call.throwIf (amount > bound fund) error
  let updated ← Prisma.paykhProgramFund.update (int8Columns [value fund amount]) fundId
    (PaykhProgramFund.withReserved (value fund amount))
    (PaykhProgramFund.withReserved_id (value fund amount))
  after updated

/-- The checks of a move pass: the fund is there, the amount is an integer within the bound, and the
column holds the value. -/
structure MovesReserved (w : World) (fundId amountMinor : String) (bound : PaykhProgramFund → Int)
    (value : PaykhProgramFund → Int → Int) (fund : PaykhProgramFund) (amount : Int) : Prop where
  found : w.paykhProgramFunds.find? fundId = some fund
  read : bigInt amountMinor = .ok amount
  bounded : amount ≤ bound fund
  fits : FitsInt8 (value fund amount)

/-- A move has one fund and one amount. -/
theorem MovesReserved.unique {w : World} {fundId amountMinor : String}
    {bound : PaykhProgramFund → Int} {value : PaykhProgramFund → Int → Int}
    {fund fund' : PaykhProgramFund} {amount amount' : Int}
    (h : MovesReserved w fundId amountMinor bound value fund amount)
    (h' : MovesReserved w fundId amountMinor bound value fund' amount') :
    fund = fund' ∧ amount = amount' := by
  cases h.found.symm.trans h'.found
  cases h.read.symm.trans h'.read
  exact ⟨rfl, rfl⟩

/-- A move fails without a change and without passing its checks, or passes them and goes on. -/
theorem run_moveReserved {α : Type} (w : World) (fundId amountMinor : String)
    (bound : PaykhProgramFund → Int) (value : PaykhProgramFund → Int → Int) (error : ApiError)
    (after : PaykhProgramFund → Service α) :
    (∃ e, (moveReserved fundId amountMinor bound value error after).run w = (.error e, w) ∧
      ∀ fund amount, ¬MovesReserved w fundId amountMinor bound value fund amount) ∨
    ∃ fund amount, MovesReserved w fundId amountMinor bound value fund amount ∧
      (moveReserved fundId amountMinor bound value error after).run w =
        (after (fund.withReserved (value fund amount))).run
          (w.withReserved fundId (value fund amount)) := by
  unfold moveReserved
  rw [Call.run_bind, run_requireFund]
  cases hfund : w.paykhProgramFunds.find? fundId with
  | none =>
    left
    refine ⟨_, rfl, fun fund amount h => ?_⟩
    cases hfund.symm.trans h.found
  | some fund =>
    simp only [orThrow]
    rw [Call.run_lift_bind]
    cases hamount : bigInt amountMinor with
    | error e =>
      left
      refine ⟨_, rfl, fun fund amount h => ?_⟩
      cases hamount.symm.trans h.read
    | ok amount =>
      have hsame {fund' : PaykhProgramFund} {amount' : Int}
          (h : MovesReserved w fundId amountMinor bound value fund' amount') :
          fund' = fund ∧ amount' = amount := by
        cases hfund.symm.trans h.found
        cases hamount.symm.trans h.read
        exact ⟨rfl, rfl⟩
      simp only
      rw [Call.run_throwIf_bind]
      split_ifs with hbound
      · left
        refine ⟨_, rfl, fun fund' amount' h => ?_⟩
        obtain ⟨rfl, rfl⟩ := hsame h
        exact absurd hbound (not_lt.mpr h.bounded)
      rw [Call.run_bind]
      rcases run_updateFund hfund (value fund amount)
        (PaykhProgramFund.withReserved (value fund amount))
        (PaykhProgramFund.withReserved_id (value fund amount)) with
        ⟨hoverflow, e, hrun⟩ | ⟨hfits, hrun⟩
      · left
        rw [hrun]
        refine ⟨_, rfl, fun fund' amount' h => ?_⟩
        obtain ⟨rfl, rfl⟩ := hsame h
        exact absurd h.fits hoverflow
      · right
        rw [hrun]
        exact ⟨fund, amount, ⟨hfund, hamount, not_lt.mp hbound, hfits⟩, rfl⟩

/-- The checks of a reservation pass. -/
abbrev ReservesIn (w : World) (fundId amountMinor : String) : PaykhProgramFund → Int → Prop :=
  MovesReserved w fundId amountMinor (fun fund => fund.fundedMinor - fund.reservedMinor)
    fun fund amount => fund.reservedMinor + amount

/-- The checks of a release pass. -/
abbrev ReleasesFrom (w : World) (fundId amountMinor : String) : PaykhProgramFund → Int → Prop :=
  MovesReserved w fundId amountMinor PaykhProgramFund.reservedMinor
    fun fund amount => fund.reservedMinor - amount

/-- What follows a record is done if the record can be stored. -/
theorem run_recorded_cases {α : Type} {entry : AuditRecord} {f : Unit → Service α} {w : World}
    {out : Except ApiError α × World} (hout : out = (AuditService.record entry >>= f).run w)
    (hf : ∀ w, ∃ a events, (f ()).run w = (.ok a, w.logged [] events)) :
    ∃ r rows events, out = (r, w.logged rows events) ∧ ((∃ a, r = .ok a) ↔ entry.Fits) := by
  rw [Call.run_bind, run_record] at hout
  by_cases hfits : entry.Fits
  · obtain ⟨a, events, hrun⟩ := hf (w.logged [entry.row] [])
    rw [if_pos hfits] at hout
    simp only [hrun, World.logged_logged] at hout
    exact ⟨_, _, _, hout, iff_of_true ⟨a, rfl⟩ hfits⟩
  · rw [if_neg hfits] at hout
    refine ⟨_, [], [], hout.trans (by rw [World.logged_nil]), iff_of_false ?_ hfits⟩
    rintro ⟨a, ha⟩
    cases ha

/-- A reservation fails without a change, or passes its checks and is stored. It succeeds then if
its record can be stored as well. -/
theorem run_fundReserve_cases (w : World) (fundId amountMinor actor : String) :
    (∃ e, (reserve fundId amountMinor actor).run w = (.error e, w) ∧
      ∀ fund amount, ¬ReservesIn w fundId amountMinor fund amount) ∨
    ∃ fund amount r rows events, ReservesIn w fundId amountMinor fund amount ∧
      (reserve fundId amountMinor actor).run w =
        (r, (w.withReserved fundId (fund.reservedMinor + amount)).logged rows events) ∧
      ((∃ a, r = .ok a) ↔ FitsText actor) := by
  rcases run_moveReserved w fundId amountMinor _ _ _ _ with hfail | ⟨fund, amount, h, hrun⟩
  · exact .inl hfail
  · right
    obtain ⟨r, rows, events, hrecorded, hok⟩ := run_recorded_cases hrun fun w =>
      ⟨_, _, by rw [Call.run_bind, run_announceExhausted]; rfl⟩
    exact ⟨fund, amount, r, rows, events, h, hrecorded,
      hok.trans (AuditRecord.fits_iff.trans (and_iff_left (by simp)))⟩

/-- The same for a release. -/
theorem run_fundRelease_cases (w : World) (fundId amountMinor actor : String) :
    (∃ e, (release fundId amountMinor actor).run w = (.error e, w) ∧
      ∀ fund amount, ¬ReleasesFrom w fundId amountMinor fund amount) ∨
    ∃ fund amount r rows events, ReleasesFrom w fundId amountMinor fund amount ∧
      (release fundId amountMinor actor).run w =
        (r, (w.withReserved fundId (fund.reservedMinor - amount)).logged rows events) ∧
      ((∃ a, r = .ok a) ↔ FitsText actor) := by
  rcases run_moveReserved w fundId amountMinor _ _ _ _ with hfail | ⟨fund, amount, h, hrun⟩
  · exact .inl hfail
  · right
    obtain ⟨r, rows, events, hrecorded, hok⟩ := run_recorded_cases hrun fun w =>
      ⟨_, [], by rw [World.logged_nil]; rfl⟩
    exact ⟨fund, amount, r, rows, events, h, hrecorded,
      hok.trans (AuditRecord.fits_iff.trans (and_iff_left (by simp)))⟩

theorem reserve_effect (w : World) (fundId amountMinor actor : String) :
    HasFundEffect w (.reserve fundId amountMinor actor)
      ((reserve fundId amountMinor actor).run w).2 := by
  rcases run_fundReserve_cases w fundId amountMinor actor with
    ⟨e, hrun, -⟩ | ⟨fund, amount, r, rows, events, h, hrun, -⟩
  · rw [hrun]
    exact .unchanged
  · rw [hrun]
    exact ⟨_, rows, events, .reserved h.found h.read h.bounded h.fits, rfl⟩

theorem release_effect (w : World) (fundId amountMinor actor : String) :
    HasFundEffect w (.release fundId amountMinor actor)
      ((release fundId amountMinor actor).run w).2 := by
  rcases run_fundRelease_cases w fundId amountMinor actor with
    ⟨e, hrun, -⟩ | ⟨fund, amount, r, rows, events, h, hrun, -⟩
  · rw [hrun]
    exact .unchanged
  · rw [hrun]
    exact ⟨_, rows, events, .released h.found h.read h.bounded h.fits, rfl⟩

/-- **Every operation has an effect in the list.** -/
theorem FundOp.effect (w : World) (op : FundOp) : HasFundEffect w op (op.step w) := by
  cases op with
  | create input id => simpa [step, call] using create_fund_effect w input id
  | fund fundId amountMinor actor => simpa [step, call] using fund_effect w fundId amountMinor actor
  | reserve fundId amountMinor actor =>
    simpa [step, call] using reserve_effect w fundId amountMinor actor
  | release fundId amountMinor actor =>
    simpa [step, call] using release_effect w fundId amountMinor actor

/-! ## Views -/

section

variable {τ : Type} {g : World → τ}

theorem requireFund_keeps (fundId : String) : (requireFund fundId).Keeps g :=
  (Call.keeps_read _ _ _).bind fun _ => Call.keeps_lift _ _

theorem safeguard_keeps (hpost : ∀ entry, (ReserveLedgerService.post entry).Keeps g)
    (required : Bool) (entry : Except ApiError JournalEntry) :
    (safeguard required entry).Keeps g := by
  unfold safeguard
  split_ifs
  · exact (Call.keeps_lift _ _).bind fun entry => hpost entry
  · exact Call.keeps_pure _ _

theorem announceExhausted_keeps (hevent : ∀ event, (outboxCreate event).Keeps g) (fundId : String)
    (remaining : Int) : (announceExhausted fundId remaining).Keeps g := by
  unfold announceExhausted
  split_ifs
  · exact hevent _
  · exact Call.keeps_pure _ _

end

end

end TrusteeBank
