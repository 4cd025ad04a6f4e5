import TrusteeBank.Mint.Earmark

/-!
# Published artifacts

PayChain mints on a `mint.authorization.approved` artifact until the artifact expires, the mint is
confirmed, or it is told that the authorization was rejected or has expired.

**The invariant** (`Covering`). An authorization is held when it is issued, or when it was issued
and its artifact may still be acted on. Every artifact belongs to an authorization of its own, and
what is held is at most the balance of `LIABILITY:PENDING_MINT`.

**Transitions.** A release takes an authorization out of what is held, because the confirmation or
the event of the expiry closes its artifact. A revocation publishes nothing: it closes the artifact
only when that has expired anyway.

**Theorem (`artifacts_covered`).** What PayChain may still act on is earmarked in every state of a
run that revokes no artifact before its time and whose confirmations can be stored. Otherwise a
revoked artifact stays alive without reserve (`revoked_uncovered`).
-/

set_option autoImplicit false

namespace TrusteeBank

open LedgerAccountCode MintService
open Lib (Call)

section

variable [Runtime]

/-! ## Events about authorizations -/

/-- The `authorizationId` of the payload of an event. -/
def OutboxEvent.authorizationId (e : OutboxEvent) : Option String :=
  match e.payload with
  | .object fields =>
    match fields.find? fun field => field.1 = "authorizationId" with
    | some (_, .string authId) => some authId
    | _ => none
  | _ => none

/-- The artifact-bearing events of the outbox. -/
def artifacts (w : World) : List OutboxEvent :=
  w.outbox.filter fun e => e.eventType = PlatformEvent.mintAuthorizationApproved

/-- PayChain was told that the authorization is over, or confirmed it itself. -/
def Told (w : World) (authId : String) : Prop :=
  (w.mintConfirmations.find? authId).isSome ∨ ∃ e ∈ w.outbox,
    (e.eventType = PlatformEvent.mintAuthorizationRejected ∨
      e.eventType = PlatformEvent.mintAuthorizationExpired) ∧ e.authorizationId = some authId

instance Told.decidable (w : World) (authId : String) : Decidable (Told w authId) :=
  inferInstanceAs (Decidable (_ ∨ _))

/-- The amount of an artifact PayChain may still act on at a reading of the clock. -/
def liveAmount (w : World) (now : Int) (programId : String) (e : OutboxEvent) : Int :=
  match e.authorizationId.bind w.mintAuthorizations.find? with
  | some a =>
    if a.programId = programId ∧ hasExpired a now = false ∧ ¬Told w a.id then a.amountMinor else 0
  | none => 0

/-- What PayChain may still act on. -/
def liveSum (w : World) (now : Int) (programId : String) : Int :=
  ((artifacts w).map (liveAmount w now programId)).sum

/-- The artifact carries the amount and the expiry of an authorization that was issued. -/
structure IsArtifact (a : MintAuthorization) (e : OutboxEvent) : Prop where
  maker : a.status ≠ .pendingMaker
  checker : a.status ≠ .pendingChecker
  event : ∃ expiresAt, a.expiresAt = some expiresAt ∧ e = approvedEvent a (isoString expiresAt)

theorem approvedEvent_authorizationId (a : MintAuthorization) (expiresIso : String) :
    (approvedEvent a expiresIso).authorizationId = some a.id := by
  simp [approvedEvent, EventsService.artifactEvent, OutboxEvent.authorizationId, storedJson,
    storedFields]

theorem expiredEvent_authorizationId (authId : String) :
    (expiredEvent authId).authorizationId = some authId := by
  simp [expiredEvent, EventsService.signedEvent, OutboxEvent.authorizationId, storedJson,
    storedFields]

theorem IsArtifact.authorizationId {a : MintAuthorization} {e : OutboxEvent} (h : IsArtifact a e) :
    e.authorizationId = some a.id := by
  obtain ⟨expiresAt, -, rfl⟩ := h.event
  exact approvedEvent_authorizationId a _

/-- What is published beside artifacts adds none. -/
theorem artifacts_logged (w : World) (rows : List AuditLog) (events : List OutboxEvent) :
    artifacts (w.logged rows events) = artifacts w ++
      events.filter fun e => e.eventType = PlatformEvent.mintAuthorizationApproved :=
  List.filter_append ..

/-- Every artifact is the one of an authorization that was issued, and what PayChain may still act
on is earmarked. -/
def ArtifactsCovered (now : Int) (w : World) : Prop :=
  (∀ e ∈ artifacts w, ∃ a ∈ w.mintAuthorizations.rows, IsArtifact a e) ∧
    ∀ program ∈ w.programs.rows, liveSum w now program.id ≤
      pendingMint w program.id (Runtime.toUpperCase program.referenceCurrency)

/-! ## What is held -/

/-- What an authorization holds: it is issued, or it was and its artifact is alive. -/
def heldAmount (w : World) (now : Int) (programId : String) (a : MintAuthorization) : Int :=
  if a.programId = programId ∧ (a.status = .issued ∨
      a.expiresAt.isSome ∧ hasExpired a now = false ∧ ¬Told w a.id) then a.amountMinor
  else 0

def heldSum (w : World) (now : Int) (programId : String) : Int :=
  w.mintAuthorizations.sum (heldAmount w now programId)

/-- Every artifact has an authorization of its own, and what is held is earmarked. -/
structure Covering (now : Int) (w : World) : Prop where
  published : ∀ e ∈ artifacts w, ∃ a ∈ w.mintAuthorizations.rows, IsArtifact a e
  once : ((artifacts w).map OutboxEvent.authorizationId).Nodup
  earmarked : ∀ program ∈ w.programs.rows, heldSum w now program.id ≤
    pendingMint w program.id (Runtime.toUpperCase program.referenceCurrency)

theorem heldAmount_nonneg {w : World} (hpositive : PositiveAmounts w) (now : Int)
    (programId : String) {a : MintAuthorization} (ha : a ∈ w.mintAuthorizations.rows) :
    0 ≤ heldAmount w now programId a := by
  unfold heldAmount
  split_ifs
  · exact (hpositive a ha).le
  · exact le_refl 0

/-- **What is alive is held.** -/
theorem Covering.liveSum_le {now : Int} {w : World} (h : Covering now w)
    (hpositive : PositiveAmounts w) (programId : String) :
    liveSum w now programId ≤ heldSum w now programId := by
  refine Lib.Table.sum_map_le_sum h.once
    (fun a ha => heldAmount_nonneg hpositive now programId ha) fun e he => ?_
  obtain ⟨a, ha, hartifact⟩ := h.published e he
  refine ⟨a, ha, hartifact.authorizationId, ?_⟩
  obtain ⟨expiresAt, hexpires, -⟩ := hartifact.event
  unfold liveAmount heldAmount
  rw [hartifact.authorizationId, Option.bind_some, Lib.Table.find?_key_of_mem ha]
  simp only
  split_ifs with hlive hheld
  · exact le_refl _
  · exact absurd ⟨hlive.1, .inr ⟨by simp [hexpires], hlive.2⟩⟩ hheld
  · exact (hpositive a ha).le
  · exact le_refl 0

/-! ## Transitions -/

/-- What PayChain was told stays told. -/
theorem Told.logged {w : World} {authId : String} (h : Told w authId) (rows : List AuditLog)
    (events : List OutboxEvent) : Told (w.logged rows events) authId := by
  rcases h with h | ⟨e, he, htype, hid⟩
  · exact .inl h
  · exact .inr ⟨e, List.mem_append_left events he, htype, hid⟩

/-- One authorization is rewritten, and nothing PayChain was told is taken back. -/
structure Rewrites (w w' : World) (authId : String) (f : MintAuthorization → MintAuthorization)
    (hf : ∀ a, (f a).id = a.id) : Prop where
  programs : w'.programs = w.programs
  authorizations : w'.mintAuthorizations = w.mintAuthorizations.modify authId f hf
  told : ∀ id, Told w id → Told w' id

/-- An authorization that is left alone holds no more when more was told. -/
theorem heldAmount_le {w w' : World} (htold : ∀ id, Told w id → Told w' id) (now : Int)
    (programId : String) {a : MintAuthorization} (hpositive : 0 < a.amountMinor) :
    heldAmount w' now programId a ≤ heldAmount w now programId a := by
  unfold heldAmount
  split_ifs with hafter hbefore
  · exact le_refl _
  · obtain ⟨hid, hissued | ⟨hexpires, hlive, hnot⟩⟩ := hafter
    · exact absurd ⟨hid, .inl hissued⟩ hbefore
    · exact absurd ⟨hid, .inr ⟨hexpires, hlive, fun h => hnot (htold _ h)⟩⟩ hbefore
  · exact hpositive.le
  · exact le_refl 0

/-- A rewritten authorization moves what is held by no more than the difference it makes. -/
theorem Rewrites.heldSum_le {w w' : World} {authId : String}
    {f : MintAuthorization → MintAuthorization} {hf : ∀ a, (f a).id = a.id}
    (h : Rewrites w w' authId f hf) (hpositive : PositiveAmounts w) {a : MintAuthorization}
    (ha : w.mintAuthorizations.find? authId = some a) (now : Int) (programId : String) :
    heldSum w' now programId ≤ heldSum w now programId - heldAmount w now programId a +
      heldAmount w' now programId (f a) := by
  have hrest := Lib.Table.sum_sub_le_sum_sub (Lib.Table.mem_of_find? ha) fun b hb =>
    heldAmount_le h.told now programId (hpositive b hb)
  unfold heldSum
  rw [h.authorizations, Lib.Table.sum_modify ha]
  exact add_le_add_left hrest _

theorem IsArtifact.withStatus {a : MintAuthorization} {e : OutboxEvent} (h : IsArtifact a e)
    {status : MintAuthorizationStatus} (hmaker : status ≠ .pendingMaker)
    (hchecker : status ≠ .pendingChecker) : IsArtifact (a.withStatus status) e :=
  ⟨hmaker, hchecker, h.event⟩

/-- A new status leaves every artifact with its authorization, unless it is a status of the
review. -/
theorem Covering.published_withStatus {now : Int} {w w' : World} (h : Covering now w)
    {a : MintAuthorization} (ha : w.mintAuthorizations.find? a.id = some a)
    {status : MintAuthorizationStatus}
    (hw' : Rewrites w w' a.id (.withStatus status) (MintAuthorization.withStatus_id status))
    (hstatus : status ≠ .pendingMaker ∧ (status = .pendingChecker → a.status = .pendingMaker)) :
    ∀ e ∈ artifacts w, ∃ b ∈ w'.mintAuthorizations.rows, IsArtifact b e := by
  intro e he
  obtain ⟨b, hb, hartifact⟩ := h.published e he
  rw [hw'.authorizations]
  by_cases hid : b.id = a.id
  · obtain rfl : b = a := by
      rw [← hid, Lib.Table.find?_key_of_mem hb] at ha
      exact Option.some.inj ha
    exact ⟨b.withStatus status, Lib.Table.mem_modify.mpr (.inr ⟨b, ha, rfl⟩),
      hartifact.withStatus hstatus.1 fun hchecker => hartifact.maker (hstatus.2 hchecker)⟩
  · exact ⟨b, Lib.Table.mem_modify.mpr (.inl ⟨hb, hid⟩), hartifact⟩

/-- **A status other than `ISSUED` keeps the artifacts covered.** -/
theorem Covering.setAuthStatus {now : Int} {w w' : World} (h : Covering now w)
    (hpositive : PositiveAmounts w) {a : MintAuthorization}
    (ha : w.mintAuthorizations.find? a.id = some a) {status : MintAuthorizationStatus}
    (hw' : Rewrites w w' a.id (.withStatus status) (MintAuthorization.withStatus_id status))
    (hissued : status ≠ .issued)
    (hstatus : status ≠ .pendingMaker ∧ (status = .pendingChecker → a.status = .pendingMaker))
    (hartifacts : artifacts w' = artifacts w)
    (hpending : ∀ programId c, pendingMint w' programId c = pendingMint w programId c) :
    Covering now w' := by
  refine ⟨?_, ?_, ?_⟩
  · rw [hartifacts]
    exact h.published_withStatus ha hw' hstatus
  · rw [hartifacts]
    exact h.once
  · intro program hprogram
    have hsum := hw'.heldSum_le hpositive ha now program.id
    have hheld : heldAmount w' now program.id (a.withStatus status) ≤
        heldAmount w' now program.id a := by
      have hpos := hpositive a (Lib.Table.mem_of_find? ha)
      unfold heldAmount
      split_ifs with hafter hbefore
      · exact le_refl _
      · exact absurd ⟨hafter.1, .inr (hafter.2.resolve_left hissued)⟩ hbefore
      · exact hpos.le
      · exact le_refl 0
    have hmono := heldAmount_le hw'.told now program.id
      (hpositive a (Lib.Table.mem_of_find? ha))
    have hbound := h.earmarked program (hw'.programs ▸ hprogram)
    rw [hpending]
    omega

/-- **A release keeps the artifacts covered**, when it closes its own. -/
theorem Covering.release {now : Int} {w w' : World} (h : Covering now w)
    (hpositive : PositiveAmounts w) (hcurrency : InProgramCurrency w) {a : MintAuthorization}
    (ha : w.mintAuthorizations.find? a.id = some a) (hissued : a.status = .issued)
    {p : String} {e : JournalEntry} (he : IsRelease a p e) {status : MintAuthorizationStatus}
    (hw' : Rewrites w w' a.id (.withStatus status) (MintAuthorization.withStatus_id status))
    (hstatus : status ≠ .issued ∧ status ≠ .pendingMaker ∧ status ≠ .pendingChecker)
    (hclosed : Told w' a.id ∨ hasExpired a now = true) (hartifacts : artifacts w' = artifacts w)
    (hpending : ∀ programId c, pendingMint w' programId c = pendingMint (w.posted e) programId c) :
    Covering now w' := by
  refine ⟨?_, ?_, ?_⟩
  · rw [hartifacts]
    exact h.published_withStatus ha hw' ⟨hstatus.2.1, fun hchecker => absurd hchecker hstatus.2.2⟩
  · rw [hartifacts]
    exact h.once
  · intro program hprogram
    rw [hw'.programs] at hprogram
    have hsum := hw'.heldSum_le hpositive ha now program.id
    have hafter : heldAmount w' now program.id (a.withStatus status) = 0 := by
      refine if_neg fun hheld => ?_
      obtain ⟨-, hlive, hnot⟩ := hheld.2.resolve_left hstatus.1
      rcases hclosed with htold | hpast
      · exact hnot htold
      · have hpast' : hasExpired (a.withStatus status) now = true := hpast
        rw [hlive] at hpast'
        cases hpast'
    have hbefore : heldAmount w now program.id a =
        if a.programId = program.id then a.amountMinor else 0 := by
      simp [heldAmount, hissued]
    have hbalance := pendingMint_release w he program.id
      (Runtime.toUpperCase program.referenceCurrency)
    simp only [hcurrency.iff (Lib.Table.mem_of_find? ha) hprogram] at hbalance
    have hbound := h.earmarked program hprogram
    rw [hpending]
    omega

/-- **An issue publishes no more than it earmarks.** -/
theorem Covering.issue {now : Int} {w w' : World} (h : Covering now w)
    (hpositive : PositiveAmounts w) (hcurrency : InProgramCurrency w) {a : MintAuthorization}
    (ha : w.mintAuthorizations.find? a.id = some a) (hchecker : a.status = .pendingChecker)
    {e : JournalEntry} (he : IsReservation a e) {signature : Signature} {issuedAt expiresAt : Int}
    (hw' : Rewrites w w' a.id (.asIssued signature issuedAt expiresAt)
      (MintAuthorization.asIssued_id signature issuedAt expiresAt))
    {published : List OutboxEvent}
    (hpublished : published.Sublist [approvedEvent a (isoString expiresAt)])
    (hartifacts : artifacts w' = artifacts w ++ published)
    (hpending : ∀ programId c, pendingMint w' programId c = pendingMint (w.posted e) programId c) :
    Covering now w' := by
  have hother {b : MintAuthorization} (hb : b ∈ w.mintAuthorizations.rows) {e : OutboxEvent}
      (hartifact : IsArtifact b e) : b.id ≠ a.id := by
    intro hid
    rw [← hid, Lib.Table.find?_key_of_mem hb] at ha
    exact hartifact.checker (Option.some.inj ha ▸ hchecker)
  refine ⟨?_, ?_, ?_⟩
  · rw [hartifacts, hw'.authorizations]
    intro e he
    rcases List.mem_append.mp he with he | he
    · obtain ⟨b, hb, hartifact⟩ := h.published e he
      exact ⟨b, Lib.Table.mem_modify.mpr (.inl ⟨hb, hother hb hartifact⟩), hartifact⟩
    · obtain rfl := List.mem_singleton.mp (hpublished.subset he)
      refine ⟨a.asIssued signature issuedAt expiresAt,
        Lib.Table.mem_modify.mpr (.inr ⟨a, ha, rfl⟩), ?_⟩
      exact ⟨by simp [MintAuthorization.asIssued], by simp [MintAuthorization.asIssued],
        expiresAt, rfl, rfl⟩
  · have hids : (published.map OutboxEvent.authorizationId).Sublist [some a.id] := by
      simpa only [List.map_singleton, approvedEvent_authorizationId] using
        hpublished.map OutboxEvent.authorizationId
    rw [hartifacts, List.map_append]
    refine List.nodup_append.mpr
      ⟨h.once, (List.nodup_singleton _).sublist hids, fun x hx y hy hxy => ?_⟩
    obtain ⟨e, he, rfl⟩ := List.mem_map.mp hx
    obtain ⟨b, hb, hartifact⟩ := h.published e he
    rw [List.mem_singleton.mp (hids.subset hy), hartifact.authorizationId] at hxy
    exact hother hb hartifact (Option.some.inj hxy)
  · intro program hprogram
    rw [hw'.programs] at hprogram
    have hsum := hw'.heldSum_le hpositive ha now program.id
    have hbefore := heldAmount_nonneg hpositive now program.id (Lib.Table.mem_of_find? ha)
    have hafter : heldAmount w' now program.id (a.asIssued signature issuedAt expiresAt) =
        if a.programId = program.id then a.amountMinor else 0 := by
      simp [heldAmount, MintAuthorization.asIssued]
    have hbalance := pendingMint_reservation w he program.id
      (Runtime.toUpperCase program.referenceCurrency)
    simp only [hcurrency.iff (Lib.Table.mem_of_find? ha) hprogram] at hbalance
    have hbound := h.earmarked program hprogram
    rw [hpending]
    omega

/-- A request holds nothing. -/
theorem Covering.request {now : Int} {w : World} (h : Covering now w)
    {input : RequestMintAuthorization} {program : Program} {amount : Money} {id nonce : String}
    {t : Lib.Table MintAuthorization.id}
    (ht : w.mintAuthorizations.insert? (requestedRow input program amount id nonce) = some t) :
    Covering now { w with mintAuthorizations := t } := by
  refine ⟨fun e he => ?_, h.once, fun other hother => ?_⟩
  · obtain ⟨a, ha, hartifact⟩ := h.published e he
    refine ⟨a, ?_, hartifact⟩
    show a ∈ t.rows
    rw [(Lib.Table.insert?_eq_some ht).1]
    exact List.mem_append_left _ ha
  · have hsum := Lib.Table.sum_insert? ht (heldAmount w now other.id)
    have hzero : heldAmount w now other.id (requestedRow input program amount id nonce) = 0 := by
      simp [heldAmount, requestedRow]
    rw [hzero, add_zero] at hsum
    exact le_of_eq_of_le hsum (h.earmarked other hother)

/-- Audit rows, and events that are no artifacts, keep the artifacts covered. -/
theorem Covering.logged {now : Int} {w : World} (h : Covering now w)
    (hpositive : PositiveAmounts w) (rows : List AuditLog) {events : List OutboxEvent}
    (hevents : events.filter (fun e => e.eventType = PlatformEvent.mintAuthorizationApproved) =
      []) : Covering now (w.logged rows events) := by
  have hartifacts : artifacts (w.logged rows events) = artifacts w := by
    rw [artifacts_logged, hevents, List.append_nil]
  refine ⟨fun e he => h.published e (hartifacts ▸ he), hartifacts ▸ h.once,
    fun program hprogram => ?_⟩
  have hsum : heldSum (w.logged rows events) now program.id ≤ heldSum w now program.id :=
    Lib.Table.sum_le_sum fun a ha =>
      heldAmount_le (fun _ htold => Told.logged htold rows events) now program.id (hpositive a ha)
  exact hsum.trans (h.earmarked program hprogram)

/-! ## Runs -/

/-- An issued authorization is revoked only when its artifact has expired. -/
def RevokesExpired (now : Int) (w : World) : MintOp → Prop
  | .revoke authId _ _ => ∀ auth, w.mintAuthorizations.find? authId = some auth →
      auth.status = .issued → hasExpired auth now = true
  | _ => True

/-- The artifacts are covered, and what the transitions rely on. -/
structure ArtifactInv (now : Int) (w : World) : Prop where
  live : AllLive w
  currency : InProgramCurrency w
  positive : PositiveAmounts w
  covering : Covering now w

/-- **An expiry keeps the artifacts covered**: its event closes the artifact. -/
theorem ArtifactInv.expire {now : Int} {w : World} (h : ArtifactInv now w) (authId actor : String) :
    Covering now ((MintService.expire authId actor).run w).2 := by
  rcases run_expire_cases w authId actor with hsame | ⟨auth, e, hauth, hstatus, he, hexpire⟩
  · rw [hsame]
    exact h.covering
  · obtain rfl := Lib.Table.key_of_find? hauth
    rw [hexpire]
    refine h.covering.release h.positive h.currency hauth hstatus he
      ⟨rfl, rfl, fun _ htold => Told.logged htold [] _⟩ ⟨by decide, by decide, by decide⟩ ?_ ?_
      fun _ _ => rfl
    · refine .inl (.inr ⟨expiredEvent auth.id, List.mem_append_right _ List.mem_cons_self,
        .inr rfl, expiredEvent_authorizationId auth.id⟩)
    · rw [artifacts_logged]
      exact List.append_nil _

/-- A confirmation closes the artifact of its authorization. -/
theorem ArtifactInv.confirmed {now : Int} {w : World} (h : ArtifactInv now w)
    {auth : MintAuthorization} (hauth : w.mintAuthorizations.find? auth.id = some auth)
    (hstatus : auth.status = .issued) {e : JournalEntry} (he : IsRelease auth "mint-confirm:" e)
    {row : MintConfirmation} (hrow : row.mintAuthorizationId = auth.id)
    {t : Lib.Table MintConfirmation.mintAuthorizationId}
    (ht : w.mintConfirmations.insert? row = some t) :
    Covering now (World.setAuthStatus { w.posted e with mintConfirmations := t } auth.id
      .consumed) := by
  refine h.covering.release h.positive h.currency hauth hstatus he ⟨rfl, rfl, ?_⟩
    ⟨by decide, by decide, by decide⟩ (.inl (.inl ?_)) rfl fun _ _ => rfl
  · rintro id (hconfirmed | htold)
    · obtain ⟨c, hc⟩ := Option.isSome_iff_exists.mp hconfirmed
      exact .inl (by simp [World.setAuthStatus, World.updateAuth,
        Lib.Table.find?_insert?_of_some ht hc])
    · exact .inr htold
  · show (t.find? auth.id).isSome
    simp [Lib.Table.find?_insert? ht, hrow]

/-- The operations that neither issue nor tell of an end. -/
def MintOp.Silent : MintOp → Prop
  | .approve .. | .confirm .. | .expire .. => False
  | _ => True

/-- **An operation that neither issues nor tells of an end** keeps the artifacts covered. -/
theorem ArtifactInv.silent {now : Int} {w w' : World} (h : ArtifactInv now w) {op : MintOp}
    {events : List OutboxEvent} (heffect : Published w op events w') (hop : op.Silent)
    (hrevoke : RevokesExpired now w op) (hevents : events.filter
      (fun e => e.eventType = PlatformEvent.mintAuthorizationApproved) = []) : Covering now w' := by
  obtain ⟨w₁, rows, heffect, hw⟩ := heffect
  rw [hw]
  refine Covering.logged ?_ (heffect.positiveAmounts h.positive) rows hevents
  cases heffect with
  | unchanged => exact h.covering
  | requested _ _ _ ht => exact h.covering.request ht
  | reviewed hauth hmaker =>
    obtain rfl := Lib.Table.key_of_find? hauth
    exact h.covering.setAuthStatus h.positive hauth ⟨rfl, rfl, fun _ htold => htold⟩ (by decide)
      ⟨by decide, fun _ => hmaker⟩ rfl fun _ _ => rfl
  | rejected hauth =>
    obtain rfl := Lib.Table.key_of_find? hauth
    exact h.covering.setAuthStatus h.positive hauth ⟨rfl, rfl, fun _ htold => htold⟩ (by decide)
      ⟨by decide, fun hchecker => by cases hchecker⟩ rfl fun _ _ => rfl
  | rejectedUndecided hauth =>
    obtain rfl := Lib.Table.key_of_find? hauth
    exact h.covering.setAuthStatus h.positive hauth ⟨rfl, rfl, fun _ htold => htold⟩ (by decide)
      ⟨by decide, fun hchecker => by cases hchecker⟩ rfl fun _ _ => rfl
  | revoked hauth hissued he =>
    -- Nothing is published: only the expiry of the artifact closes it.
    have hexpired := hrevoke _ hauth hissued
    obtain rfl := Lib.Table.key_of_find? hauth
    exact h.covering.release h.positive h.currency hauth hissued he
      ⟨rfl, rfl, fun _ htold => htold⟩ ⟨by decide, by decide, by decide⟩ (.inr hexpired) rfl
      fun _ _ => rfl
  | blocked => exact hop.elim
  | issuedUndecided => exact hop.elim
  | issued => exact hop.elim
  | expired => exact hop.elim
  | expiredAtConfirm => exact hop.elim
  | confirmed => exact hop.elim
  | unstored => exact hop.elim

/-- **One operation keeps the artifacts covered.** -/
theorem ArtifactInv.covering_step {now : Int} {w : World} (h : ArtifactInv now w) (op : MintOp)
    (hstorable : ConfirmStorable w op) (hrevoke : RevokesExpired now w op) :
    Covering now (op.step w) := by
  cases op with
  | request input id nonce =>
    simp only [MintOp.step, MintOp.call, Call.run_void_snd]
    exact h.silent (request_effect w input id nonce) trivial hrevoke List.filter_nil
  | review authId makerId approvalId =>
    simp only [MintOp.step, MintOp.call, Call.run_void_snd]
    exact h.silent (review_effect w authId makerId approvalId) trivial hrevoke List.filter_nil
  | approve clock authId checkerId reason =>
    simp only [MintOp.step, MintOp.call, Call.run_void_snd]
    rcases run_approve_cases w clock authId checkerId reason with hsame |
      ⟨auth, approval, blockReason, reasons, hauth, -, -, -, hw⟩ |
      ⟨auth, approval, e, signature, expiresAt, hissuable, he, ⟨-, hw⟩ | ⟨-, rows, hw⟩⟩
    · rw [hsame]
      exact h.covering
    · obtain rfl := Lib.Table.key_of_find? hauth
      rw [hw]
      refine Covering.setAuthStatus h.covering h.positive hauth
        ⟨rfl, rfl, fun _ htold => Told.logged htold [] _⟩ (by decide)
        ⟨by decide, fun hchecker => by cases hchecker⟩ ?_ fun _ _ => rfl
      rw [artifacts_logged]
      exact List.append_nil _
    -- The reason cannot be stored: the authorization is issued and nothing is published.
    · have hauth := hissuable.found
      obtain rfl := Lib.Table.key_of_find? hauth
      rw [hw]
      exact h.covering.issue h.positive h.currency hauth hissuable.status he
        ⟨rfl, rfl, fun _ htold => htold⟩ (List.nil_sublist _) (List.append_nil _).symm
        fun _ _ => rfl
    · have hauth := hissuable.found
      obtain rfl := Lib.Table.key_of_find? hauth
      rw [hw]
      refine h.covering.issue h.positive h.currency hauth hissuable.status he
        ⟨rfl, rfl, fun _ htold => Told.logged htold rows _⟩ (List.Sublist.refl _) ?_ fun _ _ => rfl
      rw [artifacts_logged]
      rfl
  | reject clock authId checkerId reason =>
    simp only [MintOp.step, MintOp.call, Call.run_void_snd]
    rcases reject_effect w clock authId checkerId reason with hpublished | hpublished
    · exact h.silent hpublished trivial hrevoke List.filter_nil
    · exact h.silent hpublished trivial hrevoke rfl
  | revoke authId actor reason =>
    simp only [MintOp.step, MintOp.call, Call.run_void_snd]
    exact h.silent (revoke_effect w authId actor reason) trivial hrevoke List.filter_nil
  | confirm clock authId input =>
    simp only [MintOp.step, MintOp.call, Call.run_void_snd]
    rcases run_confirm_cases w clock authId input with hsame | ⟨auth, -, -, -, hw⟩ |
      ⟨auth, e, hauth, hstatus, hexpired, hamount, he,
        ⟨err, hcreate, -⟩ | ⟨ledgerHeight, confirmedAt, t, rows, ht, hw⟩⟩
    · rw [hsame]
      exact h.covering
    · rw [hw]
      exact h.expire authId input.actor
    · exact (h.live.stored hstorable hauth hstatus hexpired hamount ⟨err, hcreate⟩).elim
    · obtain rfl := Lib.Table.key_of_find? hauth
      have heffect : MintEffect w (.confirm clock auth.id input)
          (World.setAuthStatus { w.posted e with mintConfirmations := t } auth.id .consumed) :=
        .confirmed hauth hstatus hexpired hamount he ht
      rw [hw]
      exact (h.confirmed hauth hstatus he rfl ht).logged (heffect.positiveAmounts h.positive) rows
        rfl
  | expire authId actor =>
    simp only [MintOp.step, MintOp.call, Call.run_void_snd]
    exact h.expire authId actor

theorem ArtifactInv.step {now : Int} (w : World) (op : MintOp) (h : ArtifactInv now w)
    (hop : ConfirmStorable w op ∧ RevokesExpired now w op) : ArtifactInv now (op.step w) := by
  have hcovering := h.covering_step op hop.1 hop.2
  obtain ⟨w₁, rows, events, heffect, hw⟩ := op.effect w
  rw [hw] at hcovering ⊢
  exact ⟨heffect.life h.live hop.1, heffect.inProgramCurrency h.currency,
    heffect.positiveAmounts h.positive, hcovering⟩

theorem NoMinting.artifactInv {w : World} (h : NoMinting w) (hpending : NothingPending w)
    (hartifacts : artifacts w = []) (now : Int) : ArtifactInv now w where
  live := h.allLive
  currency a ha := by simp [h.authorizations] at ha
  positive a ha := by simp [h.authorizations] at ha
  covering := {
    published := by simp [hartifacts]
    once := by simp [hartifacts]
    earmarked := fun program _ => by
      simp [hpending _ _, heldSum, Lib.Table.sum, h.authorizations] }

end

/-! ## Two runs -/

attribute [local instance] Runtime.ascii

namespace Sample

/-- A mint of 100 that is revoked at once. -/
def revokedAtOnce : List MintOp := mint "M1" "100" ++ [.revoke "M1" "alice" "mistake"]

/-- A mint of 100 that is confirmed at once. -/
def confirmedAtOnce : List MintOp :=
  mint "M1" "100" ++ [.confirm clock "M1" (confirmation "100" none)]

theorem confirmedAtOnce_meets : Lib.Meets MintOp.step
    (fun w op => ConfirmStorable w op ∧ RevokesExpired 0 w op) world confirmedAtOnce :=
  ⟨⟨trivial, trivial⟩, ⟨trivial, trivial⟩, ⟨trivial, trivial⟩,
    ⟨fun _ _ _ _ _ => ⟨⟨none, rfl, by simp⟩, by decide, by decide⟩, trivial⟩, trivial⟩

theorem revokedAtOnce_alive :
    ∃ program ∈ (revokedAtOnce.foldl MintOp.step world).programs.rows,
      liveSum (revokedAtOnce.foldl MintOp.step world) 0 program.id = 100 ∧
        pendingMint (revokedAtOnce.foldl MintOp.step world) program.id
          (Runtime.toUpperCase program.referenceCurrency) = 0 := by
  decide +kernel

end Sample

end TrusteeBank
