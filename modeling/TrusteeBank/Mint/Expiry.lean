import TrusteeBank.Mint.Earmark
import TrusteeBank.Services.Scheduler

/-!
# Capacity of expired authorizations

An authorization that expires gives its capacity back when `expire` is called, and `confirm` is
all that calls it. The scheduler reads programs and reserves; it does not look at authorizations,
so a tick leaves every one of them as it found it.

**The invariant** (`EarmarksBounded`). What the entries of an authorization add to
`LIABILITY:PENDING_MINT` is at most its amount while it is issued, and nothing otherwise.

* `tick_frame`: a tick changes neither the authorizations nor the ledger;
* `capacity_returned_iff`: after every tick no expired authorization holds capacity, exactly when
  none of them is still issued as the tick starts;
* `expired_keeps_capacity`: an authorization that nobody confirms is issued after any tick.
-/

set_option autoImplicit false

namespace TrusteeBank

open LedgerAccountCode MintService

section

variable [Runtime]

/-! ## What an authorization is counted for -/

/-- What the entries of an authorization add to `LIABILITY:PENDING_MINT`. -/
def MintAuthorization.countedIn (trail : List JournalEntry) (a : MintAuthorization) : Int :=
  -ledgerNet trail a.programId (Runtime.toUpperCase a.currency) liabilityPendingMint

theorem countedIn_nil (a : MintAuthorization) : a.countedIn [] = 0 := rfl

theorem countedIn_append (a : MintAuthorization) (trail trail' : List JournalEntry) :
    a.countedIn (trail ++ trail') = a.countedIn trail + a.countedIn trail' := by
  unfold MintAuthorization.countedIn
  rw [ledgerNet_append]
  omega

theorem countedIn_reservation {a : MintAuthorization} {e : JournalEntry} (he : IsReservation a e) :
    a.countedIn [e] = a.amountMinor := by
  have hne : liabilityPaychainReserveObligation ≠ liabilityPendingMint := by decide
  unfold MintAuthorization.countedIn
  rw [he.move.net, if_pos ⟨he.programId, rfl⟩, if_neg hne, if_pos rfl]
  omega

theorem countedIn_release {a : MintAuthorization} {p : String} {e : JournalEntry}
    (he : IsRelease a p e) : a.countedIn [e] = -a.amountMinor := by
  have hne : liabilityPaychainReserveObligation ≠ liabilityPendingMint := by decide
  unfold MintAuthorization.countedIn
  rw [he.move.net, if_pos ⟨he.programId, rfl⟩, if_pos rfl, if_neg hne]
  omega

/-! ## The invariant -/

/-- What is counted for an authorization is bounded by its status. -/
structure MintAuthorization.Bounded (trail : List JournalEntry) (a : MintAuthorization) : Prop where
  positive : 0 < a.amountMinor
  review : a.status = .pendingMaker ∨ a.status = .pendingChecker → trail = []
  counted : a.countedIn trail ≤ if a.status = .issued then a.amountMinor else 0

/-- The file of an authorization is bounded; one that is not there has no entries. -/
def MintFile.Bounded (file : MintFile) : Prop :=
  match file.auth with
  | none => file.trail = []
  | some a => a.Bounded file.trail

def EarmarksBounded (w : World) : Prop := ∀ id, (fileOf w id).Bounded

namespace MintAuthorization.Bounded

variable {a : MintAuthorization} {trail : List JournalEntry}

/-- A status written outside `ISSUED`, from outside `ISSUED`. -/
theorem withStatus (h : a.Bounded trail) (hissued : a.status ≠ .issued)
    {status : MintAuthorizationStatus} (hstatus : status ≠ .issued)
    (hreview : status = .pendingMaker ∨ status = .pendingChecker → trail = []) :
    (a.withStatus status).Bounded trail := by
  have hcounted := h.counted
  rw [if_neg hissued] at hcounted
  refine ⟨h.positive, hreview, ?_⟩
  rw [if_neg (show (a.withStatus status).status ≠ .issued from hstatus)]
  exact hcounted

/-- A release is posted and the status written. -/
theorem release (h : a.Bounded trail) (hissued : a.status = .issued) {p : String}
    {e : JournalEntry} (he : IsRelease a p e) {status : MintAuthorizationStatus}
    (hstatus : status ≠ .pendingMaker ∧ status ≠ .pendingChecker ∧ status ≠ .issued) :
    (a.withStatus status).Bounded (trail ++ [e]) := by
  have hcounted := h.counted
  rw [if_pos hissued] at hcounted
  refine ⟨h.positive, fun hreview => absurd hreview (not_or.mpr ⟨hstatus.1, hstatus.2.1⟩), ?_⟩
  rw [if_neg (show (a.withStatus status).status ≠ .issued from hstatus.2.2)]
  show a.countedIn (trail ++ [e]) ≤ 0
  rw [countedIn_append, countedIn_release he]
  omega

/-- A release is posted and the status stays. -/
theorem releaseOnly (h : a.Bounded trail) (hissued : a.status = .issued) {p : String}
    {e : JournalEntry} (he : IsRelease a p e) : a.Bounded (trail ++ [e]) := by
  have hcounted := h.counted
  have hpositive := h.positive
  rw [if_pos hissued] at hcounted
  refine ⟨hpositive, fun hreview => ?_, ?_⟩
  · rw [hissued] at hreview
    rcases hreview with hreview | hreview <;> cases hreview
  · rw [if_pos hissued, countedIn_append, countedIn_release he]
    omega

/-- A reservation is posted and the authorization issued. -/
theorem issue (h : a.Bounded trail) (hstatus : a.status = .pendingChecker) {e : JournalEntry}
    (he : IsReservation a e) (signature : Signature) (issuedAt expiresAt : Int) :
    (a.asIssued signature issuedAt expiresAt).Bounded (trail ++ [e]) := by
  refine ⟨h.positive, fun hreview => ?_, ?_⟩
  · rcases hreview with hreview | hreview <;> cases hreview
  · rw [h.review (.inr hstatus), List.nil_append]
    rw [if_pos (show (a.asIssued signature issuedAt expiresAt).status = .issued from rfl)]
    exact le_of_eq (countedIn_reservation ⟨he.move, he.source, he.programId⟩)

end MintAuthorization.Bounded

theorem EarmarksBounded.of_find? {w : World} (h : EarmarksBounded w) {authId : String}
    {a : MintAuthorization} (ha : w.mintAuthorizations.find? authId = some a) :
    a.Bounded (fileOf w authId).trail := by
  have hfile := h authId
  unfold MintFile.Bounded at hfile
  rw [show (fileOf w authId).auth = some a from ha] at hfile
  exact hfile

theorem EarmarksBounded.update {w w₁ : World} (h : EarmarksBounded w) (authId : String)
    (file : MintFile) (hfile : fileOf w₁ = Function.update (fileOf w) authId file)
    (hbounded : file.Bounded) : EarmarksBounded w₁ := by
  intro id
  rw [hfile]
  by_cases hid : id = authId
  · subst hid
    rwa [Function.update_self]
  · rw [Function.update_of_ne hid]
    exact h id

/-- A write of a status keeps the bounds of the file. -/
theorem MintFile.Bounded.withStatus {file : MintFile} {a : MintAuthorization}
    (hauth : file.auth = some a) {status : MintAuthorizationStatus}
    (h : (a.withStatus status).Bounded file.trail) :
    (file.mapAuth (·.withStatus status)).Bounded := by
  simpa [Bounded, mapAuth, hauth] using h

/-- Rejecting an authorization that is not issued. -/
theorem EarmarksBounded.reject {w : World} (h : EarmarksBounded w) {authId : String}
    {a : MintAuthorization} (ha : w.mintAuthorizations.find? authId = some a)
    (hissued : a.status ≠ .issued) : EarmarksBounded (w.setAuthStatus authId .rejected) :=
  h.update authId _ (fileOf_setAuthStatus ..)
    (.withStatus ha ((h.of_find? ha).withStatus hissued (by decide) (by simp)))

/-- A decision on an approval is not in the bounds. -/
theorem EarmarksBounded.decide {w : World} (h : EarmarksBounded w) (approvalId checkerId : String)
    (actedAt : Int) (decision : ApprovalDecision) (reason : String) :
    EarmarksBounded (w.decideApproval approvalId checkerId actedAt decision reason) := h

/-- A release that is posted before its status is written. -/
theorem EarmarksBounded.release {w : World} (h : EarmarksBounded w) {a : MintAuthorization}
    (ha : w.mintAuthorizations.find? a.id = some a) (hissued : a.status = .issued) {p : String}
    (hp : p ∈ releasePrefixes) {e : JournalEntry} (he : IsRelease a p e)
    {status : MintAuthorizationStatus}
    (hstatus : status ≠ .pendingMaker ∧ status ≠ .pendingChecker ∧ status ≠ .issued) :
    EarmarksBounded ((w.posted e).setAuthStatus a.id status) := by
  have hrow : (fileOf w a.id).auth = some a := ha
  refine h.update a.id { fileOf w a.id with
    auth := some (a.withStatus status)
    trail := (fileOf w a.id).trail ++ [e] } ?_ ((h.of_find? ha).release hissued he hstatus)
  rw [fileOf_setAuthStatus, fileOf_posted (List.mem_cons_of_mem _ hp) he, Function.update_self,
    Function.update_idem]
  simp only [MintFile.mapAuth, hrow, Option.map_some]

/-- A reservation that is posted before the authorization is issued. -/
theorem EarmarksBounded.issue {w : World} (h : EarmarksBounded w) {auth : MintAuthorization}
    (hauth : w.mintAuthorizations.find? auth.id = some auth)
    (hstatus : auth.status = .pendingChecker) {e : JournalEntry} (he : IsReservation auth e)
    (signature : Signature) (issuedAt expiresAt : Int) :
    EarmarksBounded ((w.posted e).issueAuth auth.id signature issuedAt expiresAt) :=
  h.update auth.id { fileOf w auth.id with
    auth := some (auth.asIssued signature issuedAt expiresAt)
    trail := (fileOf w auth.id).trail ++ [e] } (fileOf_issued hauth he ..)
      ((h.of_find? hauth).issue hstatus he signature issuedAt expiresAt)

/-- **What an operation does keeps the bounds**, where no issued authorization is rejected. -/
theorem EarmarksBounded.effect {w w₁ : World} {op : MintOp} (h : EarmarksBounded w)
    (hreject : RejectsUnissued w op) (heffect : MintEffect w op w₁) : EarmarksBounded w₁ := by
  cases heffect with
  | unchanged => exact h
  | @requested input id nonce program minor t hprogram hpos hfits ht =>
    have hnone := h id
    unfold MintFile.Bounded at hnone
    rw [show (fileOf w id).auth = none from (Lib.Table.insert?_eq_some ht).2] at hnone
    refine h.update id _ (fileOf_request ht) (show MintAuthorization.Bounded _ _ from ?_)
    refine ⟨hpos, fun _ => hnone, ?_⟩
    rw [show (fileOf w (requestedRow input program (money minor program.referenceCurrency) id
      nonce).id).trail = [] from hnone, countedIn_nil]
    exact le_of_eq (if_neg (by simp [requestedRow])).symm
  | @reviewed authId makerId approvalId auth t hauth hstatus ht =>
    obtain ⟨approval, hfile⟩ := fileOf_review ht
    have hbounded := h.of_find? hauth
    have hrow : ({ fileOf w authId with approval := approval } : MintFile).auth = some auth := hauth
    exact h.update authId _ hfile (MintFile.Bounded.withStatus hrow
      (hbounded.withStatus (by simp [hstatus]) (by decide)
        fun _ => hbounded.review (.inl hstatus)))
  | blocked hauth hstatus =>
    exact (h.reject hauth (by simp [hstatus])).decide _ _ _ _ _
  | issuedUndecided hissuable he =>
    obtain rfl := Lib.Table.key_of_find? hissuable.found
    exact h.issue hissuable.found hissuable.status he _ _ _
  | issued hissuable he =>
    obtain rfl := Lib.Table.key_of_find? hissuable.found
    exact (h.issue hissuable.found hissuable.status he _ _ _).decide _ _ _ _ _
  | rejected hauth happroval hmaker =>
    refine EarmarksBounded.decide (h.reject hauth fun hissued => ?_) _ _ _ _ _
    exact hmaker (hreject _ _ hauth hissued happroval)
  | rejectedUndecided hauth happroval hmaker =>
    exact h.reject hauth fun hissued => hmaker (hreject _ _ hauth hissued happroval)
  | revoked hauth hstatus he =>
    obtain rfl := Lib.Table.key_of_find? hauth
    exact h.release hauth hstatus (p := "mint-revoke:") (by simp [releasePrefixes]) he (by simp)
  | expired hauth hstatus he =>
    obtain rfl := Lib.Table.key_of_find? hauth
    exact h.release hauth hstatus (p := "mint-expire:") (by simp [releasePrefixes]) he (by simp)
  | expiredAtConfirm hauth hstatus _ he =>
    obtain rfl := Lib.Table.key_of_find? hauth
    exact h.release hauth hstatus (p := "mint-expire:") (by simp [releasePrefixes]) he (by simp)
  | confirmed hauth hstatus _ _ he =>
    obtain rfl := Lib.Table.key_of_find? hauth
    exact h.release hauth hstatus (p := "mint-confirm:") (by simp [releasePrefixes]) he (by simp)
  | @unstored clock authId input auth e hauth hstatus _ _ he =>
    obtain rfl := Lib.Table.key_of_find? hauth
    exact h.update auth.id _ (fileOf_posted (p := "mint-confirm:")
      (by simp [mintPrefixes, releasePrefixes]) he) (by
        have hrow : (fileOf w auth.id).auth = some auth := hauth
        simpa [MintFile.Bounded, hrow] using (h.of_find? hauth).releaseOnly hstatus he)

theorem EarmarksBounded.step {w : World} {op : MintOp} (h : EarmarksBounded w)
    (hreject : RejectsUnissued w op) : EarmarksBounded (op.step w) := by
  obtain ⟨w₁, rows, events, heffect, hw⟩ := op.effect w
  have hw₁ := h.effect hreject heffect
  rw [hw]
  exact hw₁

theorem NoMinting.earmarksBounded {w : World} (h : NoMinting w) : EarmarksBounded w := by
  intro id
  have hnone : (fileOf w id).auth = none := by
    simp [fileOf, Lib.Table.find?, h.authorizations]
  unfold MintFile.Bounded
  rw [hnone]
  exact ((h.allLive id).of_absent hnone).1

/-! ## Ticks -/

/-- A minting operation, or a tick of the scheduler. -/
inductive ExpiryOp
  | mint (op : MintOp)
  | tick (cfg : SchedulerConfig) (pass : CronPass)

def ExpiryOp.step (s : SchedulerState) : ExpiryOp → SchedulerState
  | .mint op => (op.step s.1, s.2)
  | .tick cfg pass => ((SchedulerService.tick cfg pass).run s).2

theorem ExpiryOp.run_mint (s : SchedulerState) (ops : List MintOp) :
    (ops.map .mint).foldl step s = (ops.foldl MintOp.step s.1, s.2) := by
  induction ops generalizing s with
  | nil => rfl
  | cons op ops ih => exact ih (step s (.mint op))

/-- **A tick changes neither the authorizations nor the ledger.** -/
theorem tick_frame (cfg : SchedulerConfig) (pass : CronPass) (s : SchedulerState) :
    (ExpiryOp.step s (.tick cfg pass)).1.mintAuthorizations = s.1.mintAuthorizations ∧
      (ExpiryOp.step s (.tick cfg pass)).1.ledger = s.1.ledger := by
  have hkeeps := (tick_keeps (g := fun w => (w.mintAuthorizations, w.ledger)) (fun _ _ => rfl)
    (fun _ _ => rfl) (fun event => keeps_outboxCreate fun _ => rfl) cfg pass).run s
  exact Prod.mk.inj hkeeps

/-- No authorization that has expired is issued, or counted in `LIABILITY:PENDING_MINT`. -/
def CapacityReturned (w : World) (now : Int) : Prop :=
  ∀ a ∈ w.mintAuthorizations.rows, hasExpired a now = true →
    a.status ≠ .issued ∧ a.countedIn (entriesOf mintPrefixes a.id w.ledger) ≤ 0

/-- No authorization that has expired is issued. -/
def NoneOverdue (w : World) (now : Int) : Prop :=
  ∀ a ∈ w.mintAuthorizations.rows, hasExpired a now = true → a.status ≠ .issued

/-- Whatever is not issued is not counted. -/
theorem EarmarksBounded.capacityReturned_iff {w : World} (h : EarmarksBounded w) (now : Int) :
    CapacityReturned w now ↔ NoneOverdue w now := by
  constructor
  · intro hreturned a ha hexpired
    exact (hreturned a ha hexpired).1
  · intro hnone a ha hexpired
    have hissued := hnone a ha hexpired
    have hcounted := (h.of_find? (Lib.Table.find?_key_of_mem ha)).counted
    rw [if_neg hissued] at hcounted
    exact ⟨hissued, hcounted⟩

/-- After the tick the capacity of what has expired by its start is returned. -/
def ExpiryOp.Returns (s : SchedulerState) : ExpiryOp → Prop
  | .mint _ => True
  | .tick cfg pass => CapacityReturned (step s (.tick cfg pass)).1 (pass.clock 0)

/-- As the tick starts, nothing that has expired is issued. -/
def ExpiryOp.StartsSettled (s : SchedulerState) : ExpiryOp → Prop
  | .mint _ => True
  | .tick _ pass => NoneOverdue s.1 (pass.clock 0)

/-- No issued authorization is rejected. -/
def ExpiryOp.RejectsUnissued (s : SchedulerState) : ExpiryOp → Prop
  | .mint op => TrusteeBank.RejectsUnissued s.1 op
  | .tick _ _ => True

theorem EarmarksBounded.expiryStep {s : SchedulerState} {op : ExpiryOp} (h : EarmarksBounded s.1)
    (hreject : op.RejectsUnissued s) : EarmarksBounded (op.step s).1 := by
  cases op with
  | mint op => exact h.step hreject
  | tick cfg pass =>
    obtain ⟨hauth, hledger⟩ := tick_frame cfg pass s
    intro id
    have hfile := h id
    unfold MintFile.Bounded at hfile ⊢
    simp only [fileOf] at hfile ⊢
    rw [hauth, hledger]
    exact hfile

/-- A tick returns the capacity exactly when nothing is overdue as it starts. -/
theorem EarmarksBounded.returns_iff {s : SchedulerState} (h : EarmarksBounded s.1)
    (op : ExpiryOp) : op.Returns s ↔ op.StartsSettled s := by
  cases op with
  | mint op => exact Iff.rfl
  | tick cfg pass =>
    obtain ⟨hauth, hledger⟩ := tick_frame cfg pass s
    show CapacityReturned _ _ ↔ NoneOverdue _ _
    rw [← h.capacityReturned_iff (pass.clock 0)]
    unfold CapacityReturned
    rw [hauth, hledger]

/-- What a tick returns was settled as it started. -/
theorem ExpiryOp.Returns.noneOverdue {s : SchedulerState} {cfg : SchedulerConfig} {pass : CronPass}
    (h : Returns s (.tick cfg pass)) : NoneOverdue s.1 (pass.clock 0) := by
  intro a ha hexpired
  rw [← (tick_frame cfg pass s).1] at ha
  exact (h a ha hexpired).1

/-- **Expired authorizations give their capacity back** after every tick of a run in which no
issued authorization is rejected, exactly when none of them is still issued as the tick starts. -/
theorem capacity_returned_iff {s : SchedulerState} (hs : NoMinting s.1) {ops : List ExpiryOp}
    (hreject : Lib.Meets ExpiryOp.step ExpiryOp.RejectsUnissued s ops) :
    Lib.Meets ExpiryOp.step ExpiryOp.Returns s ops ↔
      Lib.Meets ExpiryOp.step ExpiryOp.StartsSettled s ops := by
  have hbounded : ∀ s op, EarmarksBounded s.1 → ExpiryOp.RejectsUnissued s op →
      EarmarksBounded (ExpiryOp.step s op).1 := fun _ _ h hop => h.expiryStep hop
  constructor
  · intro hreturns
    exact Lib.meets_inv (fun s op h hop => hbounded s op h hop.1)
      (fun s op h hop => (h.returns_iff op).mp hop.2) hs.earmarksBounded (hreject.and hreturns)
  · intro hsettled
    exact Lib.meets_inv (fun s op h hop => hbounded s op h hop.1)
      (fun s op h hop => (h.returns_iff op).mpr hop.2) hs.earmarksBounded (hreject.and hsettled)

end

/-! ## An authorization that nobody confirms -/

attribute [local instance] Runtime.ascii

namespace Sample

def schedulerConfig : SchedulerConfig where
  reserveCycleMs := 3600000
  deadLetterMs := 300000
  feedStaleSeconds := some 3600
  sha256Hex := fun _ => "hash"

/-- A tick at an instant, without Redis, for the program of the deployment. -/
def tickAt (now : Int) : CronPass where
  clock := fun _ => now
  redis := none
  delivers := true
  program _ :=
    { code := "COIN", snapshotClock := fun _ => now, snapshotId := "S1", snapshotCreatedAt := now
      runClock := fun _ => now, runId := "R1", runCreatedAt := now
      positionClock := fun _ => now }

def cronState : CronState := ⟨.empty _, [], [], []⟩

/-- Minting operations, and then a tick a day later. -/
def tickedAfter (ops : List MintOp) : List ExpiryOp :=
  ops.map .mint ++ [.tick schedulerConfig (tickAt 86400000)]

/-- A mint that is confirmed. -/
def mintedAndConfirmed : List MintOp :=
  mint "M1" "100" ++ [.confirm clock "M1" (confirmation "100" none)]

/-- What holds of minting operations holds of them before a tick. -/
theorem meets_tickedAfter {C : SchedulerState → ExpiryOp → Prop} (ops : List MintOp)
    (hmint : ∀ s op, op ∈ ops → C s (.mint op))
    (htick : C (ops.foldl MintOp.step world, cronState) (.tick schedulerConfig (tickAt 86400000))) :
    Lib.Meets ExpiryOp.step C (world, cronState) (tickedAfter ops) := by
  have hops (s : SchedulerState) : Lib.Meets ExpiryOp.step C s (ops.map .mint) := by
    clear htick
    induction ops generalizing s with
    | nil => trivial
    | cons op ops ih =>
      exact ⟨hmint s op List.mem_cons_self,
        ih (fun s op hop => hmint s op (List.mem_cons_of_mem _ hop)) _⟩
  refine Lib.meets_append.mpr ⟨hops _, ?_, trivial⟩
  rw [ExpiryOp.run_mint]
  exact htick

end Sample

/-- A confirmed mint holds no capacity after the tick. -/
theorem capacity_returned_confirmed :
    Lib.Meets ExpiryOp.step ExpiryOp.Returns (Sample.world, Sample.cronState)
      (Sample.tickedAfter Sample.mintedAndConfirmed) := by
  have hconsumed : ∀ a ∈ (Sample.mintedAndConfirmed.foldl MintOp.step
      Sample.world).mintAuthorizations.rows, a.status ≠ .issued := by
    decide +kernel
  have hreject : ∀ s op, op ∈ Sample.mintedAndConfirmed →
      ExpiryOp.RejectsUnissued s (.mint op) := by
    intro s op hop
    simp only [Sample.mintedAndConfirmed, Sample.mint, List.cons_append, List.nil_append,
      List.mem_cons, List.not_mem_nil, or_false] at hop
    rcases hop with rfl | rfl | rfl | rfl <;> trivial
  exact (capacity_returned_iff Sample.noMinting
    (Sample.meets_tickedAfter Sample.mintedAndConfirmed hreject trivial)).mpr
      (Sample.meets_tickedAfter Sample.mintedAndConfirmed (fun _ _ _ => trivial)
        fun a ha _ => hconsumed a ha)

/-- A day after it was issued, an authorization is still issued after the tick. -/
theorem expired_keeps_capacity : ¬∀ [Runtime] (s : SchedulerState), NoMinting s.1 →
    ∀ ops : List ExpiryOp, Lib.Meets ExpiryOp.step ExpiryOp.RejectsUnissued s ops →
      Lib.Meets ExpiryOp.step ExpiryOp.Returns s ops := by
  intro h
  have hreject : ∀ s op, op ∈ Sample.mint "M1" "100" → ExpiryOp.RejectsUnissued s (.mint op) := by
    intro s op hop
    simp only [Sample.mint, List.mem_cons, List.not_mem_nil, or_false] at hop
    rcases hop with rfl | rfl | rfl <;> trivial
  have hreturns := h (Sample.world, Sample.cronState) Sample.noMinting
    (Sample.tickedAfter (Sample.mint "M1" "100"))
    (Sample.meets_tickedAfter (Sample.mint "M1" "100") hreject trivial)
  have hreturned := (Lib.meets_append.mp hreturns).2.1
  rw [ExpiryOp.run_mint] at hreturned
  have hissued : ∃ a ∈ ((Sample.mint "M1" "100").foldl MintOp.step
      Sample.world).mintAuthorizations.rows, hasExpired a 86400000 = true ∧ a.status = .issued := by
    decide +kernel
  obtain ⟨a, ha, hexpired, hstatus⟩ := hissued
  exact hreturned.noneOverdue a ha hexpired hstatus

end TrusteeBank
