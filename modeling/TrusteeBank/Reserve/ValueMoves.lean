import TrusteeBank.Lib.Station
import TrusteeBank.Services.Deposits
import TrusteeBank.Services.Redemption
import TrusteeBank.Services.Settlements

/-!
# Concurrent moves of value

Clearing a deposit, approving a redemption, confirming its payout and confirming a settlement each
post one entry, under a source that names the record. They read the status, post, and write the
status in steps of their own, and no unique index is on the source.

* `ValueRequest.moves`: what one call does, in terms of statuses and entries;
* `value_moves_once`: however any number of calls on any records interleave, no source has two
  entries and no settlement with an entry ends cancelled, if whoever posts, and whoever writes the
  status of a settlement, has read a fresh status.

Without the condition a deposit is cleared twice (`cleared_twice`).
-/

set_option autoImplicit false

namespace TrusteeBank

open Lib (Call Pool Station Visit)

section

variable [Runtime]

/-! ## Flows -/

/-- The entries that move the value of a record. -/
inductive ValueFlow
  | clearance | obligation | payout | settlement
deriving DecidableEq

/-- The status of a record of any kind. -/
inductive RecordStatus
  | deposit (s : DepositStatus)
  | redemption (s : RedemptionStatus)
  | settlement (s : SettlementStatus)
deriving DecidableEq

namespace ValueFlow

omit [Runtime]

/-- The text the source of an entry starts with. -/
def kind : ValueFlow → String
  | clearance => "deposit-clear:"
  | obligation => "redemption:"
  | payout => "redemption-payout:"
  | settlement => "paykh-settlement:"

def model : ValueFlow → Model
  | clearance => .deposit
  | obligation => .redemption
  | payout => .redemption
  | settlement => .paykhSettlement

/-- The statuses a posting call accepts. -/
def pending : ValueFlow → List RecordStatus
  | clearance => [.deposit .matched]
  | obligation => [.redemption .awaitingApproval]
  | payout => [.redemption .payoutSubmitted]
  | settlement => [.settlement .approved, .settlement .submitted]

/-- The status it writes. -/
def final : ValueFlow → RecordStatus
  | clearance => .deposit .cleared
  | obligation => .redemption .approved
  | payout => .redemption .completed
  | settlement => .settlement .confirmed

/-- The read of a record. -/
def read (flow : ValueFlow) (id : String) : Query := ⟨flow.model, .findUnique, id⟩

/-- The write of its status. -/
def write (flow : ValueFlow) (id : String) : Query := ⟨flow.model, .update, id⟩

/-- Two flows of one kind of record do not write each other's statuses. -/
theorem distinct {flow flow' : ValueFlow} (hmodel : flow'.model = flow.model) (hne : flow' ≠ flow) :
    flow'.final ∉ flow.pending ∧ flow'.final ≠ flow.final ∧ flow.final ∉ flow'.pending := by
  cases flow <;> cases flow' <;> first | exact absurd rfl hne | decide

theorem final_notMem_pending (flow : ValueFlow) : flow.final ∉ flow.pending := by
  cases flow <;> decide

theorem eq_settlement {flow : ValueFlow} (h : settlement.model = flow.model) :
    settlement = flow := by
  cases flow <;> first | rfl | cases h

/-- No kind is a beginning of another. -/
theorem kind_not_prefix {flow flow' : ValueFlow} (hne : flow' ≠ flow) :
    ¬flow.kind.toList <+: flow'.kind.toList := by
  cases flow <;> cases flow' <;> first | exact absurd rfl hne | decide

end ValueFlow

/-- The status of a record, if it exists. -/
def ValueFlow.status (flow : ValueFlow) (id : String) (w : World) : Option RecordStatus :=
  match flow with
  | .clearance => (w.deposits.find? id).map fun d => .deposit d.status
  | .obligation => (w.redemptions.find? id).map fun r => .redemption r.status
  | .payout => (w.redemptions.find? id).map fun r => .redemption r.status
  | .settlement => (w.paykhSettlements.find? id).map fun s => .settlement s.status

/-- The entries of a flow for a record. -/
def ValueFlow.entries (flow : ValueFlow) (id : String) (w : World) : List JournalEntry :=
  entriesFrom w.ledger (flow.kind ++ id)

/-! ## Requests -/

/-- The requests that move value, and the one that calls a settlement off. -/
inductive ValueRequest
  | clear (clock : Clock) (depositId actor : String)
  | approve (redemptionId approverId reason : String)
  | confirmPayout (clock : Clock) (redemptionId actor : String)
  | confirm (clock : Clock) (settlementId actor : String)
  | cancel (settlementId actor : String)

namespace ValueRequest

def call : ValueRequest → Service Unit
  | clear clock depositId actor => (DepositsService.clear clock depositId actor).void
  | approve redemptionId approverId reason =>
    (RedemptionService.approve redemptionId approverId reason).void
  | confirmPayout clock redemptionId actor =>
    (RedemptionService.confirmPayout clock redemptionId actor).void
  | confirm clock settlementId actor => (SettlementsService.confirm clock settlementId actor).void
  | cancel settlementId actor => (SettlementsService.cancel settlementId actor).void

omit [Runtime]

def flow : ValueRequest → ValueFlow
  | clear .. => .clearance
  | approve .. => .obligation
  | confirmPayout .. => .payout
  | confirm .. => .settlement
  | cancel .. => .settlement

/-- The record the request is about. -/
def id : ValueRequest → String
  | clear _ depositId _ => depositId
  | approve redemptionId _ _ => redemptionId
  | confirmPayout _ redemptionId _ => redemptionId
  | confirm _ settlementId _ => settlementId
  | cancel settlementId _ => settlementId

/-- Only a cancellation does not post. -/
def posts : ValueRequest → Bool
  | cancel .. => false
  | _ => true

/-- The status the request writes. -/
def target (r : ValueRequest) : RecordStatus :=
  if r.posts then r.flow.final else .settlement .cancelled

def read (r : ValueRequest) : Query := r.flow.read r.id

def write (r : ValueRequest) : Query := r.flow.write r.id

/-- A request that does not post calls a settlement off. -/
theorem of_not_posts {r : ValueRequest} (h : r.posts = false) :
    r.flow = .settlement ∧ r.target = .settlement .cancelled := by
  cases r with
  | cancel settlementId actor => exact ⟨rfl, rfl⟩
  | _ => cases h

/-- The request is about this record. -/
def IsOn (r : ValueRequest) (flow : ValueFlow) (id : String) : Prop :=
  r.flow.model = flow.model ∧ r.id = id

instance (r : ValueRequest) (flow : ValueFlow) (id : String) : Decidable (r.IsOn flow id) :=
  inferInstanceAs (Decidable (_ ∧ _))

end ValueRequest

/-! ## One call -/

/-- No record and no entry is touched. -/
structure SameValue (w w' : World) : Prop where
  ledger : w'.ledger = w.ledger
  status : ∀ flow id, ValueFlow.status flow id w' = flow.status id w

/-- The steps of a request, in terms of statuses and entries. -/
inductive ValueMove (r : ValueRequest) : Visit World → Query → World → World → Visit World → Prop
  | other {φ : Visit World} {q : Query} {w w' : World}
      (hq : q.model ≠ .deposit ∧ q.model ≠ .redemption ∧ q.model ≠ .paykhSettlement)
      (hw : SameValue w w') : ValueMove r φ q w w' φ
  | enter {w : World} : ValueMove r .outside r.read w w (.inside w)
  | post {t w : World} {q : Query} {e : JournalEntry} (hq : q.model = .ledgerEntry)
      (hposts : r.posts = true) (ht : ∃ s ∈ r.flow.pending, r.flow.status r.id t = some s)
      (hsource : e.references.source = r.flow.kind ++ r.id) :
      ValueMove r (.inside t) q w (w.posted e) .posted
  | settle {w w' : World} (hposts : r.posts = true) (hledger : w'.ledger = w.ledger)
      (hstatus : ∀ flow id, ValueFlow.status flow id w' =
        if r.IsOn flow id then some r.target else flow.status id w) :
      ValueMove r .posted r.write w w' .left
  | cancel {t w w' : World} (hposts : r.posts = false) (ht : r.flow.status r.id t ≠ some r.flow.final)
      (hledger : w'.ledger = w.ledger)
      (hstatus : ∀ flow id, ValueFlow.status flow id w' =
        if r.IsOn flow id then some r.target else flow.status id w) :
      ValueMove r (.inside t) r.write w w' .left
  | missing {φ : Visit World} {w : World} (hrow : r.flow.status r.id w = none) :
      ValueMove r φ r.write w w .left

/-- A call that takes these steps, and does not end between its entry and its status. -/
abbrev MovesValue (r : ValueRequest) {α : Type} (x : Service α) (φ : Visit World) : Prop :=
  x.Obeys (ValueMove r) (fun _ => True) Station.closes φ

section

variable {r : ValueRequest} {α β : Type} {φ : Visit World}

theorem SameValue.refl (w : World) : SameValue w w := ⟨rfl, fun _ _ => rfl⟩

theorem SameValue.logged (w : World) (rows : List AuditLog) (events : List OutboxEvent) :
    SameValue w (w.logged rows events) := by
  refine ⟨rfl, ?_⟩
  intro flow id
  cases flow <;> rfl

theorem ValueFlow.status_posted (flow : ValueFlow) (id : String) (w : World) (e : JournalEntry) :
    flow.status id (w.posted e) = flow.status id w := by
  cases flow <;> rfl

/-- A read of something else. -/
theorem MovesValue.read_bind {q : Query} {g : World → α} {f : α → Service β}
    (hq : q.model ≠ .deposit ∧ q.model ≠ .redemption ∧ q.model ≠ .paykhSettlement)
    (h : ∀ w, MovesValue r (f (g w)) φ) : MovesValue r (Call.read q g >>= f) φ :=
  Call.Obeys.read_bind fun w _ => ⟨φ, .other hq (.refl w), h w⟩

/-- The record is written last, and may fail. -/
theorem MovesValue.record_bind (entry : AuditRecord) {f : Unit → Service β}
    (h : MovesValue r (f ()) .left) : MovesValue r (AuditService.record entry >>= f) .left := by
  unfold AuditService.record auditCreate
  refine Call.Obeys.query_bind (fun w a w' _ hw' => ?_) fun w e _ _ =>
    ⟨.left, .other (by simp) (.refl w), Station.closes_left _⟩
  rw [(auditCreate_ok hw').2]
  exact ⟨.left, .other (by simp) (.logged w _ _), h⟩

theorem MovesValue.outbox_bind (event : OutboxEvent) {f : Unit → Service β}
    (h : MovesValue r (f ()) φ) : MovesValue r (outboxCreate event >>= f) φ := by
  unfold outboxCreate
  refine Call.Obeys.query_bind (fun w a w' _ hw' => ?_) fun w e _ he => ?_
  swap
  · cases he
  cases hw'
  exact ⟨φ, .other (by simp) (.logged w _ _), h⟩

/-- The record is read. -/
theorem MovesValue.enter_bind {q : Query} (hq : q = r.read) {g : World → α} {f : α → Service β}
    (h : ∀ w, MovesValue r (f (g w)) (.inside w)) :
    MovesValue r (Call.read q g >>= f) .outside := by
  subst hq
  exact Call.Obeys.read_bind fun w _ => ⟨.inside w, .enter, h w⟩

/-- The entry is posted. -/
theorem MovesValue.post_bind {t : World} {e : JournalEntry} {f : Unit → Service β}
    (hposts : r.posts = true) (ht : ∃ s ∈ r.flow.pending, r.flow.status r.id t = some s)
    (hsource : e.references.source = r.flow.kind ++ r.id) (h : MovesValue r (f ()) .posted) :
    MovesValue r (ReserveLedgerService.post e >>= f) (.inside t) := by
  refine Call.Obeys.query_bind (fun w _ w' _ hw' => ?_) fun w _ _ _ =>
    ⟨.inside t, .other (by simp) (.refl w), Station.closes_inside t _⟩
  obtain ⟨_, -, hpost⟩ := bind_eq_ok.mp hw'
  cases hpost
  exact ⟨.posted, .post rfl hposts ht hsource, h⟩

/-- The status is written, after an entry or to call the settlement off. -/
theorem MovesValue.update_bind {ρ : Type} {key : ρ → String} (E : Entity key) {id : String}
    {f : ρ → ρ} {hf : ∀ a, key (f a) = key a} {k : ρ → Service β}
    (hwrite : (⟨E.model, .update, id⟩ : Query) = r.write)
    (hmissing : ∀ w, (E.get w).find? id = none → r.flow.status r.id w = none)
    (hledger : ∀ w, (E.set ((E.get w).modify id f hf) w).ledger = w.ledger)
    (hstatus : ∀ w row, (E.get w).find? id = some row → ∀ flow id',
      ValueFlow.status flow id' (E.set ((E.get w).modify id f hf) w) =
        if r.IsOn flow id' then some r.target else flow.status id' w)
    (hφ : r.posts = true ∧ φ = .posted ∨
      r.posts = false ∧ ∃ t, φ = .inside t ∧ r.flow.status r.id t ≠ some r.flow.final)
    (h : ∀ a, MovesValue r (k a) .left) :
    MovesValue r (E.update unconstrained id f hf >>= k) φ := by
  refine Call.Obeys.query_bind (fun w a w' _ hw' => ?_) fun w e _ he => ?_
  · obtain ⟨row, hrow, -, -, rfl⟩ := Entity.updateTx_ok _ hw'
    refine ⟨.left, ?_, h a⟩
    rw [hwrite]
    rcases hφ with ⟨hposts, rfl⟩ | ⟨hposts, t, rfl, ht⟩
    · exact .settle hposts (hledger w) (hstatus w row hrow)
    · exact .cancel hposts ht (hledger w) (hstatus w row hrow)
  · cases hrow : (E.get w).find? id with
    | some row =>
      rw [Entity.updateTx_of E hrow rfl] at he
      cases he
    | none =>
      refine ⟨.left, ?_, Station.closes_left _⟩
      rw [hwrite]
      exact .missing (hmissing w hrow)

end

/-! ### What a write does to the statuses -/

section

variable {w : World} {id : String} (flow : ValueFlow) (id' : String)

theorem status_modify_deposit {f : Deposit → Deposit} (hf : ∀ d, (f d).id = d.id) {row : Deposit}
    (hrow : w.deposits.find? id = some row) {s : DepositStatus} (hs : (f row).status = s) :
    flow.status id' (w.updateDeposit id f hf) =
      if ValueFlow.clearance.model = flow.model ∧ id = id' then some (.deposit s)
      else flow.status id' w := by
  cases flow with
  | clearance =>
    show ((w.deposits.modify id f hf).find? id').map (fun d => RecordStatus.deposit d.status) = _
    rw [Lib.Table.find?_modify]
    by_cases hid : id' = id
    · subst hid
      simp [hrow, hs]
    · rw [if_neg hid, if_neg fun h => hid h.2.symm]
      rfl
  | _ =>
    rw [if_neg fun h => by cases h.1]
    rfl

theorem status_modify_redemption {f : Redemption → Redemption} (hf : ∀ r, (f r).id = r.id)
    {row : Redemption} (hrow : w.redemptions.find? id = some row) {s : RedemptionStatus}
    (hs : (f row).status = s) :
    flow.status id' (w.updateRedemption id f hf) =
      if ValueFlow.payout.model = flow.model ∧ id = id' then some (.redemption s)
      else flow.status id' w := by
  have hmodify : ((w.redemptions.modify id f hf).find? id').map
      (fun r => RecordStatus.redemption r.status) =
        if id = id' then some (.redemption s)
        else (w.redemptions.find? id').map fun r => .redemption r.status := by
    rw [Lib.Table.find?_modify]
    by_cases hid : id' = id
    · subst hid
      simp [hrow, hs]
    · rw [if_neg hid, if_neg fun h => hid h.symm]
  cases flow with
  | obligation =>
    refine hmodify.trans ?_
    simp only [ValueFlow.model, true_and]
    rfl
  | payout =>
    refine hmodify.trans ?_
    simp only [ValueFlow.model, true_and]
    rfl
  | _ =>
    rw [if_neg fun h => by cases h.1]
    rfl

theorem status_modify_settlement {f : PaykhSettlement → PaykhSettlement}
    (hf : ∀ s, (f s).id = s.id) {row : PaykhSettlement}
    (hrow : w.paykhSettlements.find? id = some row) {s : SettlementStatus}
    (hs : (f row).status = s) :
    flow.status id' (w.updateSettlement id f hf) =
      if ValueFlow.settlement.model = flow.model ∧ id = id' then some (.settlement s)
      else flow.status id' w := by
  cases flow with
  | settlement =>
    show ((w.paykhSettlements.modify id f hf).find? id').map
      (fun s => RecordStatus.settlement s.status) = _
    rw [Lib.Table.find?_modify]
    by_cases hid : id' = id
    · subst hid
      simp [hrow, hs]
    · rw [if_neg hid, if_neg fun h => hid h.2.symm]
      rfl
  | _ =>
    rw [if_neg fun h => by cases h.1]
    rfl

end

/-! ### The calls -/

theorem clear_moves (clock : Clock) (depositId actor : String) :
    MovesValue (.clear clock depositId actor) (DepositsService.clear clock depositId actor)
      .outside := by
  unfold DepositsService.clear DepositsService.requireDeposit
  rw [bind_assoc]
  refine MovesValue.enter_bind rfl fun w => ?_
  refine Call.Obeys.lift_bind (fun _ _ => Station.closes_inside w _) fun deposit hdeposit => ?_
  have hfind : w.deposits.find? depositId = some deposit := orThrow_eq_ok.mp hdeposit
  refine Call.Obeys.throwIf_bind (fun _ => Station.closes_inside w _) fun hstatus => ?_
  refine MovesValue.read_bind (by simp [Prisma.trusteeAccount]) fun _ => ?_
  refine Call.Obeys.lift_bind (fun _ _ => Station.closes_inside w _) fun account _ => ?_
  refine Call.Obeys.lift_bind (fun _ _ => Station.closes_inside w _) fun e he => ?_
  obtain ⟨-, hmove⟩ := buildJournalEntry_move he
  refine MovesValue.post_bind rfl ⟨.deposit .matched, List.mem_cons_self, ?_⟩ ?_ ?_
  · show (w.deposits.find? depositId).map _ = _
    rw [hfind, Option.map_some, not_not.mp hstatus]
  · rw [hmove.entry_references, Lib.Table.key_of_find? hfind]
    rfl
  refine MovesValue.update_bind Prisma.deposit rfl ?_ (fun _ => rfl) ?_ (.inl ⟨rfl, rfl⟩) fun _ => ?_
  · intro v hnone
    exact Option.map_eq_none_iff.mpr hnone
  · intro v row hrow flow id'
    exact status_modify_deposit flow id' (Deposit.asCleared_id (clock 0)) hrow rfl
  refine MovesValue.record_bind _ ?_
  refine MovesValue.outbox_bind _ ?_
  exact Station.closes_left _

theorem approve_moves (redemptionId approverId reason : String) :
    MovesValue (.approve redemptionId approverId reason)
      (RedemptionService.approve redemptionId approverId reason) .outside := by
  unfold RedemptionService.approve RedemptionService.requireRedemption
  rw [bind_assoc]
  refine MovesValue.enter_bind rfl fun w => ?_
  refine Call.Obeys.lift_bind (fun _ _ => Station.closes_inside w _) fun redemption hr => ?_
  have hfind : w.redemptions.find? redemptionId = some redemption := orThrow_eq_ok.mp hr
  refine Call.Obeys.throwIf_bind (fun _ => Station.closes_inside w _) fun hstatus => ?_
  refine MovesValue.read_bind (by simp [Prisma.user]) fun _ => ?_
  refine Call.Obeys.throwIf_bind (fun _ => Station.closes_inside w _) fun _ => ?_
  refine Call.Obeys.lift_bind (fun _ _ => Station.closes_inside w _) fun e he => ?_
  obtain ⟨-, hmove⟩ := buildJournalEntry_move he
  refine MovesValue.post_bind rfl ⟨.redemption .awaitingApproval, List.mem_cons_self, ?_⟩ ?_ ?_
  · show (w.redemptions.find? redemptionId).map _ = _
    rw [hfind, Option.map_some, not_not.mp hstatus]
  · rw [hmove.entry_references]
    rfl
  refine MovesValue.update_bind Prisma.redemption rfl ?_ (fun _ => rfl) ?_ (.inl ⟨rfl, rfl⟩)
    fun _ => ?_
  · intro v hnone
    exact Option.map_eq_none_iff.mpr hnone
  · intro v row hrow flow id'
    exact status_modify_redemption flow id' (Redemption.asApproved_id approverId) hrow rfl
  refine MovesValue.record_bind _ ?_
  refine MovesValue.outbox_bind _ ?_
  exact Station.closes_left _

theorem confirmPayout_moves (clock : Clock) (redemptionId actor : String) :
    MovesValue (.confirmPayout clock redemptionId actor)
      (RedemptionService.confirmPayout clock redemptionId actor) .outside := by
  unfold RedemptionService.confirmPayout RedemptionService.requireRedemption
  rw [bind_assoc]
  refine MovesValue.enter_bind rfl fun w => ?_
  refine Call.Obeys.lift_bind (fun _ _ => Station.closes_inside w _) fun redemption hr => ?_
  have hfind : w.redemptions.find? redemptionId = some redemption := orThrow_eq_ok.mp hr
  refine Call.Obeys.throwIf_bind (fun _ => Station.closes_inside w _) fun hstatus => ?_
  refine Call.Obeys.lift_bind (fun _ _ => Station.closes_inside w _) fun e he => ?_
  obtain ⟨-, hmove⟩ := buildJournalEntry_move he
  refine MovesValue.post_bind rfl ⟨.redemption .payoutSubmitted, List.mem_cons_self, ?_⟩ ?_ ?_
  · show (w.redemptions.find? redemptionId).map _ = _
    rw [hfind, Option.map_some, not_not.mp hstatus]
  · rw [hmove.entry_references]
    rfl
  refine MovesValue.update_bind Prisma.redemption rfl ?_ (fun _ => rfl) ?_ (.inl ⟨rfl, rfl⟩)
    fun _ => ?_
  · intro v hnone
    exact Option.map_eq_none_iff.mpr hnone
  · intro v row hrow flow id'
    exact status_modify_redemption flow id' (Redemption.asCompleted_id (clock 0) (clock 1)) hrow rfl
  refine MovesValue.record_bind _ ?_
  refine MovesValue.outbox_bind _ ?_
  refine MovesValue.outbox_bind _ ?_
  exact Station.closes_left _

theorem confirm_moves (clock : Clock) (settlementId actor : String) :
    MovesValue (.confirm clock settlementId actor)
      (SettlementsService.confirm clock settlementId actor) .outside := by
  unfold SettlementsService.confirm SettlementsService.requireSettlement
  rw [bind_assoc]
  refine MovesValue.enter_bind rfl fun w => ?_
  refine Call.Obeys.lift_bind (fun _ _ => Station.closes_inside w _) fun settlement hs => ?_
  have hfind : w.paykhSettlements.find? settlementId = some settlement := orThrow_eq_ok.mp hs
  refine Call.Obeys.throwIf_bind (fun _ => Station.closes_inside w _) fun hstatus => ?_
  refine Call.Obeys.lift_bind (fun _ _ => Station.closes_inside w _) fun e he => ?_
  obtain ⟨-, hmove⟩ := buildJournalEntry_move he
  refine MovesValue.post_bind rfl ⟨.settlement settlement.status, ?_, ?_⟩ ?_ ?_
  · rcases Decidable.not_and_iff_not_or_not.mp hstatus with h | h
    · rw [not_not.mp h]
      exact List.mem_cons_self
    · rw [not_not.mp h]
      exact List.mem_cons_of_mem _ List.mem_cons_self
  · show (w.paykhSettlements.find? settlementId).map _ = _
    rw [hfind, Option.map_some]
  · rw [hmove.entry_references]
    rfl
  refine MovesValue.update_bind Prisma.paykhSettlement rfl ?_ (fun _ => rfl) ?_ (.inl ⟨rfl, rfl⟩)
    fun _ => ?_
  · intro v hnone
    exact Option.map_eq_none_iff.mpr hnone
  · intro v row hrow flow id'
    exact status_modify_settlement flow id' (PaykhSettlement.asConfirmed_id (clock 0)) hrow rfl
  refine MovesValue.outbox_bind _ ?_
  exact Station.closes_left _

theorem cancel_moves (settlementId actor : String) :
    MovesValue (.cancel settlementId actor) (SettlementsService.cancel settlementId actor)
      .outside := by
  unfold SettlementsService.cancel SettlementsService.requireSettlement
  rw [bind_assoc]
  refine MovesValue.enter_bind rfl fun w => ?_
  refine Call.Obeys.lift_bind (fun _ _ => Station.closes_inside w _) fun settlement hs => ?_
  have hfind : w.paykhSettlements.find? settlementId = some settlement := orThrow_eq_ok.mp hs
  refine Call.Obeys.throwIf_bind (fun _ => Station.closes_inside w _) fun hstatus => ?_
  refine MovesValue.update_bind Prisma.paykhSettlement rfl ?_ (fun _ => rfl) ?_
    (.inr ⟨rfl, w, rfl, ?_⟩) fun _ => ?_
  · intro v hnone
    exact Option.map_eq_none_iff.mpr hnone
  · intro v row hrow flow id'
    exact status_modify_settlement flow id' PaykhSettlement.asCancelled_id hrow rfl
  · intro hconfirmed
    obtain ⟨s, hs', hconfirmed⟩ := Option.map_eq_some_iff.mp hconfirmed
    obtain rfl : s = settlement := Option.some.inj (hs'.symm.trans hfind)
    exact hstatus (RecordStatus.settlement.inj hconfirmed)
  refine MovesValue.record_bind _ ?_
  exact Station.closes_left _

/-- **One call among others.** -/
theorem ValueRequest.moves (r : ValueRequest) : MovesValue r r.call .outside := by
  cases r with
  | clear clock depositId actor => exact (clear_moves clock depositId actor).void
  | approve redemptionId approverId reason =>
    exact (approve_moves redemptionId approverId reason).void
  | confirmPayout clock redemptionId actor =>
    exact (confirmPayout_moves clock redemptionId actor).void
  | confirm clock settlementId actor => exact (confirm_moves clock settlementId actor).void
  | cancel settlementId actor => exact (cancel_moves settlementId actor).void

/-! ## Records as stations -/

section

variable {ι : Type}

/-- A record with the requests on it, for the entries of one flow. -/
def valueStation (requests : ι → ValueRequest) (flow : ValueFlow) (id : String) :
    Station ι Query World where
  pending w := ∃ s ∈ flow.pending, flow.status id w = some s
  final w := flow.status id w = some flow.final
  posted w := (flow.entries id w).length
  valid w := (flow.status id w).isSome
  poster i := (requests i).posts = true ∧ (requests i).flow = flow ∧ (requests i).id = id
  read := flow.read id
  write := flow.write id
  post q := q.model = .ledgerEntry
  read_ne_write := by simp [ValueFlow.read, ValueFlow.write]
  post_ne q hq := by
    constructor <;> rintro rfl <;> cases flow <;> cases hq

/-- Which entries a post adds to a flow of a record. -/
theorem ValueFlow.entries_posted {w : World} {e : JournalEntry} {flow' : ValueFlow} {id' : String}
    (hsource : e.references.source = flow'.kind ++ id') (flow : ValueFlow) (id : String) :
    (flow.entries id (w.posted e)).length =
      (flow.entries id w).length + if flow' = flow ∧ id' = id then 1 else 0 := by
  unfold ValueFlow.entries World.posted
  rw [entriesFrom_append, List.length_append]
  by_cases hflow : flow' = flow
  · subst hflow
    rw [entriesFrom_of_source hsource]
    by_cases hid : id' = id <;> simp [hid]
  · rw [entriesFrom_of_other hsource (ValueFlow.kind_not_prefix hflow)
      (ValueFlow.kind_not_prefix (Ne.symm hflow))]
    simp [hflow]

section

variable {requests : ι → ValueRequest} {flow : ValueFlow} {id : String} {i : ι}

/-- Nothing that keeps the statuses and adds no entry to the flow is seen at the station. -/
theorem valueStation_same {w w' : World} (hstatus : flow.status id w' = flow.status id w)
    (hentries : (flow.entries id w').length = (flow.entries id w).length) :
    (valueStation requests flow id).Same w w' := by
  refine ⟨?_, ?_, hentries, ?_⟩
  · show (∃ s ∈ _, flow.status id w' = _) ↔ ∃ s ∈ _, flow.status id w = _
    rw [hstatus]
  · show flow.status id w' = _ ↔ flow.status id w = _
    rw [hstatus]
  · intro h
    show (flow.status id w').isSome
    rw [hstatus]
    exact h

theorem SameValue.same {w w' : World} (h : SameValue w w') :
    (valueStation requests flow id).Same w w' :=
  valueStation_same (h.status flow id) (by rw [ValueFlow.entries, h.ledger, ValueFlow.entries])

omit [Runtime] in
/-- The labels of other models are none of a record's. -/
theorem ValueFlow.label_ne {q : Query} (flow : ValueFlow) (id : String)
    (hq : q.model ≠ .deposit ∧ q.model ≠ .redemption ∧ q.model ≠ .paykhSettlement) :
    q ≠ flow.read id ∧ q ≠ flow.write id := by
  constructor <;> rintro rfl <;> cases flow <;> simp [read, write, model] at hq

omit [Runtime] in
theorem ValueFlow.ledgerLabel_ne {q : Query} (flow : ValueFlow) (id : String)
    (hq : q.model = .ledgerEntry) : q ≠ flow.read id ∧ q ≠ flow.write id := by
  refine flow.label_ne id ?_
  simp [hq]

/-- **A request on another record is not seen.** -/
theorem ValueRequest.visits_of_not_on (hon : ¬(requests i).IsOn flow id) :
    (valueStation requests flow id).Visits i Station.closes (requests i).call .outside := by
  have hne (a b : Action) : (⟨(requests i).flow.model, a, (requests i).id⟩ : Query) ≠
      ⟨flow.model, b, id⟩ := by
    intro h
    obtain ⟨hmodel, -, hid⟩ := Query.mk.injEq .. ▸ h
    exact hon ⟨hmodel, hid⟩
  refine Call.Obeys.sim (R := fun _ ψ => ψ = .outside) (fun _ _ => trivial) ?_ ?_
    (requests i).moves rfl
  · rintro φ ψ q w w' φ' hvalid rfl hmove
    refine ⟨.outside, ?_, rfl⟩
    cases hmove with
    | other hq hw => exact hw.same.other (flow.label_ne id hq).1 (flow.label_ne id hq).2 hvalid _
    | enter => exact (SameValue.refl w).same.other (hne _ _) (hne _ _) hvalid _
    | post hq hposts ht hsource =>
      obtain ⟨hread, hwrite⟩ := flow.ledgerLabel_ne id hq
      refine (valueStation_same (flow.status_posted id w _) ?_).other hread hwrite hvalid _
      rw [ValueFlow.entries_posted hsource, if_neg, Nat.add_zero]
      rintro ⟨hflow, hid⟩
      exact hon ⟨by rw [hflow], hid⟩
    | settle hposts hledger hstatus =>
      refine (valueStation_same ?_ ?_).other (hne _ _) (hne _ _) hvalid _
      · rw [hstatus, if_neg hon]
      · rw [ValueFlow.entries, hledger, ValueFlow.entries]
    | cancel hposts ht hledger hstatus =>
      refine (valueStation_same ?_ ?_).other (hne _ _) (hne _ _) hvalid _
      · rw [hstatus, if_neg hon]
      · rw [ValueFlow.entries, hledger, ValueFlow.entries]
    | missing hrow => exact (SameValue.refl w).same.other (hne _ _) (hne _ _) hvalid _
  · rintro φ ψ r rfl -
    exact Station.closes_outside r

/-- Flows of one kind of record read the same status. -/
theorem ValueFlow.status_congr {flow flow' : ValueFlow} (hmodel : flow'.model = flow.model)
    (id : String) (w : World) : flow'.status id w = flow.status id w := by
  cases flow <;> cases flow' <;> first | rfl | cases hmodel

/-- The station after a request on the record wrote its status. -/
theorem ValueRequest.status_written {r : ValueRequest} {flow : ValueFlow} {id : String}
    (hon : r.IsOn flow id) {w' : World} {w : World}
    (hstatus : ∀ flow id, ValueFlow.status flow id w' =
      if r.IsOn flow id then some r.target else flow.status id w) :
    flow.status id w' = some r.target := by
  rw [hstatus, if_pos hon]

/-- The record of a request that finds none is not there. -/
theorem ValueRequest.not_missing {r : ValueRequest} {flow : ValueFlow} {id : String}
    (hon : r.IsOn flow id) {w : World} (hvalid : (flow.status id w).isSome)
    (hrow : r.flow.status r.id w = none) : False := by
  rw [ValueFlow.status_congr hon.1, hon.2] at hrow
  rw [hrow] at hvalid
  cases hvalid

/-- **A request that posts to the flow visits the station.** -/
theorem ValueRequest.visits_of_poster (hposter : (valueStation requests flow id).poster i) :
    (valueStation requests flow id).Visits i Station.closes (requests i).call .outside := by
  obtain ⟨hposts, rfl, rfl⟩ := hposter
  have hon : (requests i).IsOn (requests i).flow (requests i).id := ⟨rfl, rfl⟩
  have htarget : (requests i).target = (requests i).flow.final := if_pos hposts
  refine Call.Obeys.sim (R := fun φ ψ => ψ = φ) (fun _ _ => trivial) ?_ ?_ (requests i).moves rfl
  · rintro φ ψ q w w' φ' hvalid rfl hmove
    refine ⟨φ', ?_, rfl⟩
    cases hmove with
    | other hq hw =>
      obtain ⟨hread, hwrite⟩ := (requests i).flow.label_ne (requests i).id hq
      exact hw.same.other hread hwrite hvalid _
    | enter => exact ⟨.enter (.inl rfl), hvalid⟩
    | @post t _ _ e hq _ ht hsource =>
      have hsame := (requests i).flow.status_posted (requests i).id w e
      refine ⟨.post hq ⟨hposts, rfl, rfl⟩ ht ?_ ?_ ?_, ?_⟩
      · show (∃ s ∈ _, _ = _) ↔ _
        rw [hsame]
        rfl
      · show _ = _ ↔ _
        rw [hsame]
        rfl
      · show ((requests i).flow.entries _ _).length = _
        rw [ValueFlow.entries_posted hsource, if_pos ⟨rfl, rfl⟩]
        rfl
      · show (ValueFlow.status _ _ _).isSome
        rw [hsame]
        exact hvalid
    | settle _ hledger hstatus =>
      have hwritten := ValueRequest.status_written hon hstatus
      rw [htarget] at hwritten
      refine ⟨.settle ⟨hposts, rfl, rfl⟩ ?_ hwritten ?_, Option.isSome_of_eq_some hwritten⟩
      · rintro ⟨s, hs, hfinal⟩
        rw [hwritten] at hfinal
        exact (requests i).flow.final_notMem_pending (Option.some.inj hfinal ▸ hs)
      · show (entriesFrom w'.ledger _).length = _
        rw [hledger]
        rfl
    | cancel hnot => rw [hposts] at hnot; cases hnot
    | missing hrow => exact (ValueRequest.not_missing hon hvalid hrow).elim
  · rintro φ ψ r rfl h
    exact h

/-- What the station has seen of a request on the record that does not post to its flow. -/
def PassesBy (flow : ValueFlow) (id : String) (φ ψ : Visit World) : Prop :=
  (φ ≠ .posted ∧ ψ = φ) ∨
    (φ = .posted ∧ ∃ t, ψ = .inside t ∧ flow.status id t ≠ some flow.final)

/-- **A request on the record that does not post to the flow overwrites its status.** -/
theorem ValueRequest.visits_of_on (hon : (requests i).IsOn flow id)
    (hposter : ¬(valueStation requests flow id).poster i) :
    (valueStation requests flow id).Visits i Station.closes (requests i).call .outside := by
  have hne (hposts : (requests i).posts = true) : (requests i).flow ≠ flow :=
    fun hflow => hposter ⟨hposts, hflow, hon.2⟩
  have hread : (requests i).read = flow.read id := by
    unfold ValueRequest.read ValueFlow.read
    rw [hon.1, hon.2]
  have hwrite : (requests i).write = flow.write id := by
    unfold ValueRequest.write ValueFlow.write
    rw [hon.1, hon.2]
  have hoverwrite {t w w' : World} (ht : flow.status id t ≠ some flow.final)
      (hpending : (requests i).target ∉ flow.pending) (hfinal : (requests i).target ≠ flow.final)
      (hledger : w'.ledger = w.ledger)
      (hwritten : flow.status id w' = some (requests i).target) :
      (valueStation requests flow id).protocol i (.inside t) (flow.write id) w w' .left := by
    refine ⟨.overwrite hposter ht ?_ ?_ ?_, Option.isSome_of_eq_some hwritten⟩
    · rintro ⟨s, hs, hs'⟩
      rw [hwritten] at hs'
      exact hpending (Option.some.inj hs' ▸ hs)
    · intro h
      have h' : flow.status id w' = some flow.final := h
      rw [hwritten] at h'
      exact hfinal (Option.some.inj h')
    · show (entriesFrom w'.ledger _).length = _
      rw [hledger]
      rfl
  refine Call.Obeys.sim (R := PassesBy flow id) (fun _ _ => trivial) ?_ ?_ (requests i).moves
    (.inl ⟨by simp, rfl⟩)
  · intro φ ψ q w w' φ' hvalid hR hmove
    cases hmove with
    | other hq hw =>
      obtain ⟨hread, hwrite⟩ := flow.label_ne id hq
      exact ⟨ψ, hw.same.other hread hwrite hvalid ψ, hR⟩
    | enter =>
      rcases hR with ⟨-, rfl⟩ | ⟨h, -⟩
      · rw [hread]
        exact ⟨.inside w, ⟨.enter (.inl rfl), hvalid⟩, .inl ⟨by simp, rfl⟩⟩
      · cases h
    | @post t _ _ e hq hposts ht hsource =>
      rcases hR with ⟨-, rfl⟩ | ⟨h, -⟩
      · obtain ⟨hread, hwrite⟩ := flow.ledgerLabel_ne id hq
        refine ⟨.inside t, (valueStation_same (flow.status_posted id w _) ?_).other hread hwrite
          hvalid _, .inr ⟨rfl, t, rfl, ?_⟩⟩
        · rw [ValueFlow.entries_posted hsource, if_neg, Nat.add_zero]
          rintro ⟨hflow, -⟩
          exact hne hposts hflow
        · obtain ⟨s, hs, hs'⟩ := ht
          rw [ValueFlow.status_congr hon.1, hon.2] at hs'
          rw [hs']
          intro hfinal
          exact (ValueFlow.distinct hon.1 (hne hposts)).2.2 (Option.some.inj hfinal ▸ hs)
      · cases h
    | settle hposts hledger hstatus =>
      rcases hR with ⟨h, -⟩ | ⟨-, t, rfl, ht⟩
      · exact absurd rfl h
      · have htarget : (requests i).target = (requests i).flow.final := if_pos hposts
        obtain ⟨hpending, hfinal, -⟩ := ValueFlow.distinct hon.1 (hne hposts)
        rw [hwrite]
        exact ⟨.left, hoverwrite ht (htarget ▸ hpending) (htarget ▸ hfinal) hledger
          (ValueRequest.status_written hon hstatus), .inl ⟨by simp, rfl⟩⟩
    | @cancel t _ _ hposts ht hledger hstatus =>
      rcases hR with ⟨-, rfl⟩ | ⟨h, -⟩
      · obtain ⟨hflow, htarget⟩ := ValueRequest.of_not_posts hposts
        obtain rfl : ValueFlow.settlement = flow :=
          ValueFlow.eq_settlement (hflow ▸ hon.1)
        rw [hwrite]
        refine ⟨.left, hoverwrite ?_ ?_ ?_ hledger (ValueRequest.status_written hon hstatus),
          .inl ⟨by simp, rfl⟩⟩
        · rw [hflow, hon.2] at ht
          exact ht
        · rw [htarget]
          decide
        · rw [htarget]
          decide
      · cases h
    | missing hrow => exact (ValueRequest.not_missing hon hvalid hrow).elim
  · rintro φ ψ r (⟨h, rfl⟩ | ⟨-, t, rfl, -⟩) -
    · exact h
    · exact Station.closes_inside t r

/-- **Every request, at every record and flow.** -/
theorem ValueRequest.visits (requests : ι → ValueRequest) (flow : ValueFlow) (id : String) (i : ι) :
    (valueStation requests flow id).Visits i Station.closes (requests i).call .outside := by
  by_cases hon : (requests i).IsOn flow id
  · by_cases hposter : (valueStation requests flow id).poster i
    · exact visits_of_poster hposter
    · exact visits_of_on hon hposter
  · exact visits_of_not_on hon

end

end

end

end TrusteeBank
