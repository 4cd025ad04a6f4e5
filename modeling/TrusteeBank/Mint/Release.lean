import TrusteeBank.Lib.Station
import TrusteeBank.Mint.Approvals
import TrusteeBank.Mint.Lifecycle

/-!
# Concurrent releases

An issued authorization ends by a confirmation, a revocation or its expiry. Each of them reads the
status, posts the release of the earmark and writes the new status, in steps of their own; only
the confirmation is protected by a unique index, and its row is stored after the release is posted.

* `release_visits`: what one call does, whatever the others do;
* `single_release`: however the calls interleave, one release is posted, as long as whoever posts
  one has read the status after everyone who posted before wrote it.

Without the condition two are (`released_by_both`).
-/

set_option autoImplicit false

namespace TrusteeBank

open Lib (Call Pool Station Visit)
open LedgerAccountCode MintService

section

variable [Runtime]

/-- A call that ends an issued authorization. -/
inductive ReleaseRequest
  | confirm (clock : Clock) (input : ConfirmMint)
  | revoke (actor reason : String)
  | expire (actor : String)

def ReleaseRequest.call (authId : String) : ReleaseRequest → Service Unit
  | .confirm clock input => (MintService.confirm clock authId input).void
  | .revoke actor reason => (MintService.revoke authId actor reason).void
  | .expire actor => (MintService.expire authId actor).void

/-! ## The authorization as a station -/

/-- The read of an authorization. -/
def authRead (authId : String) : Query := ⟨.mintAuthorization, .findUnique, authId⟩

/-- The write of its status. -/
def authWrite (authId : String) : Query := ⟨.mintAuthorization, .update, authId⟩

/-- Since `w₀` only releases of the authorization were posted, and it is still there. -/
structure OnlyReleases (w₀ : World) (a : MintAuthorization) (w : World) : Prop where
  ledger : ∃ entries, w.ledger = w₀.ledger ++ entries ∧
    ∀ e ∈ entries, ∃ p ∈ releasePrefixes, IsRelease a p e
  auth : ∃ b, w.mintAuthorizations.find? a.id = some b ∧ b.terms = a.terms

/-- The authorization, as its releases since `w₀` see it. -/
def releaseStation (ι : Type) (w₀ : World) (a : MintAuthorization) : Station ι Query World where
  pending w := ∃ b, w.mintAuthorizations.find? a.id = some b ∧ b.status = .issued
  final _ := True
  posted w := w.ledger.length - w₀.ledger.length
  valid w := OnlyReleases w₀ a w
  poster _ := True
  read := authRead a.id
  write := authWrite a.id
  post q := q.model = .ledgerEntry
  read_ne_write := by simp [authRead, authWrite]
  post_ne q hq := by
    refine ⟨?_, ?_⟩ <;> rintro rfl <;> cases hq

/-- However the call ends. -/
abbrev Released {α : Type} : Visit World → Except ApiError α → Prop := fun _ _ => True

section

variable {ι : Type} {w₀ : World} {a : MintAuthorization} {i : ι} {β : Type} {φ : Visit World}

/-- A call on the authorization. -/
abbrev Releases (i : ι) (w₀ : World) (a : MintAuthorization) (x : Service β) (φ : Visit World) :
    Prop :=
  (releaseStation ι w₀ a).Visits i Released x φ

theorem releaseStation_logged (w : World) (rows : List AuditLog) (events : List OutboxEvent) :
    (releaseStation ι w₀ a).Same w (w.logged rows events) :=
  ⟨Iff.rfl, Iff.rfl, rfl, fun h => ⟨h.ledger, h.auth⟩⟩

theorem Releases.record_bind (entry : AuditRecord) {f : Unit → Service β}
    (h : Releases i w₀ a (f ()) φ) : Releases i w₀ a (AuditService.record entry >>= f) φ := by
  unfold AuditService.record auditCreate
  refine Station.Visits.query_bind (by simp [releaseStation, authRead])
    (by simp [releaseStation, authWrite]) ?_ (fun _ => trivial) fun _ => h
  intro w _ w' hw'
  rw [(auditCreate_ok hw').2]
  exact releaseStation_logged w _ _

theorem Releases.outbox_bind (event : OutboxEvent) {f : Unit → Service β}
    (h : Releases i w₀ a (f ()) φ) : Releases i w₀ a (outboxCreate event >>= f) φ := by
  unfold outboxCreate
  refine Station.Visits.query_bind (by simp [releaseStation, authRead])
    (by simp [releaseStation, authWrite]) ?_ (fun _ => trivial) fun _ => h
  intro w _ w' hw'
  cases hw'
  exact releaseStation_logged w _ _

/-- The authorization is read; its terms are those it had. -/
theorem Releases.requireAuth_bind {f : MintAuthorization → Service β}
    (hφ : φ = .outside ∨ ∃ t, φ = .inside t)
    (h : ∀ (w : World) (auth : MintAuthorization), w.mintAuthorizations.find? a.id = some auth →
      auth.terms = a.terms → Releases i w₀ a (f auth) (.inside w)) :
    Releases i w₀ a (requireAuth a.id >>= f) φ := by
  unfold requireAuth
  rw [bind_assoc]
  refine Station.Visits.enter_bind (X := releaseStation ι w₀ a) hφ fun w hw => ?_
  refine Call.Obeys.lift_bind (fun _ _ => trivial) fun auth hauth => ?_
  have hfind : w.mintAuthorizations.find? a.id = some auth := orThrow_eq_ok.mp hauth
  obtain ⟨b, hb, hterms⟩ := hw.auth
  obtain rfl : b = auth := Option.some.inj (hb.symm.trans hfind)
  exact h w b hfind hterms

/-- The release of an authorization that was read as issued is posted. -/
theorem Releases.release_bind {w : World} {auth : MintAuthorization} {p actor : String}
    (hp : p ∈ releasePrefixes) (hauth : w.mintAuthorizations.find? a.id = some auth)
    (hterms : auth.terms = a.terms) (hstatus : auth.status = .issued) {f : Unit → Service β}
    (h : Releases i w₀ a (f ()) .posted) :
    Releases i w₀ a (release auth p actor >>= f) (.inside w) := by
  unfold release
  rw [bind_assoc]
  refine Call.Obeys.lift_bind (fun _ _ => trivial) fun e he => ?_
  have hrelease : IsRelease a p e :=
    (isMintEntry_of_build he).congr (Lib.Table.key_of_find? hauth).symm hterms.symm
  refine Call.Obeys.query_bind (fun v _ v' hv hv' => ?_) fun v _ hv _ =>
    ⟨.inside w, ⟨.other (by simp [releaseStation, authRead]) (by simp [releaseStation, authWrite])
      Iff.rfl Iff.rfl rfl, hv⟩, trivial⟩
  obtain rfl : v' = v.posted e := by
    obtain ⟨_, _, hpost⟩ := bind_eq_ok.mp hv'
    cases hpost
    rfl
  obtain ⟨entries, hledger, hentries⟩ := hv.ledger
  refine ⟨.posted, ⟨.post rfl trivial ⟨auth, hauth, hstatus⟩ Iff.rfl Iff.rfl ?_, ?_, hv.auth⟩, h⟩
  · show (v.ledger ++ [e]).length - w₀.ledger.length = v.ledger.length - w₀.ledger.length + 1
    rw [hledger]
    simp only [List.length_append, List.length_singleton]
    omega
  · refine ⟨entries ++ [e], ?_, ?_⟩
    · show v.ledger ++ [e] = _
      rw [hledger, List.append_assoc]
    · intro e' he'
      rcases List.mem_append.mp he' with he' | he'
      · exact hentries e' he'
      · obtain rfl := List.mem_singleton.mp he'
        exact ⟨p, hp, hrelease⟩

/-- The status is written, and it is not `ISSUED`. -/
theorem Releases.setStatus_bind {status : MintAuthorizationStatus} (hstatus : status ≠ .issued)
    {f : MintAuthorization → Service β} (h : ∀ b, Releases i w₀ a (f b) .left) :
    Releases i w₀ a (setStatus a.id status >>= f) .posted := by
  unfold setStatus Entity.update
  refine Call.Obeys.query_bind (fun w b w' hw hw' => ?_) fun w e hw he => ?_
  · obtain ⟨row, hrow, -, -, rfl⟩ := Entity.updateTx_ok _ hw'
    have hfind : (w.mintAuthorizations.modify a.id (MintAuthorization.withStatus status)
        (MintAuthorization.withStatus_id status)).find? a.id = some (row.withStatus status) := by
      rw [Lib.Table.find?_modify, if_pos rfl]
      exact congrArg _ hrow
    refine ⟨.left, ⟨.settle trivial ?_ trivial rfl, hw.ledger, row.withStatus status, hfind, ?_⟩,
      h b⟩
    · rintro ⟨c, hc, hissued⟩
      have hc' : c = row.withStatus status := Option.some.inj (hc.symm.trans hfind)
      rw [hc'] at hissued
      exact hstatus hissued
    · obtain ⟨c, hc, hterms⟩ := hw.auth
      obtain rfl : c = row := Option.some.inj (hc.symm.trans hrow)
      exact hterms
  · obtain ⟨c, hc, -⟩ := hw.auth
    have hupdate : Prisma.mintAuthorization.updateTx unconstrained a.id
        (MintAuthorization.withStatus status) (MintAuthorization.withStatus_id status) w =
        .ok (c.withStatus status, _) :=
      Entity.updateTx_of Prisma.mintAuthorization hc rfl
    rw [hupdate] at he
    cases he

/-! ## The calls -/

theorem revoke_visits (authId actor reason : String) (ha : a.id = authId) :
    Releases i w₀ a (revoke authId actor reason) .outside := by
  subst ha
  unfold revoke
  refine Releases.requireAuth_bind (.inl rfl) fun w auth hauth hterms => ?_
  refine Call.Obeys.throwIf_bind (fun _ => trivial) fun hstatus => ?_
  refine Releases.release_bind (by decide) hauth hterms (not_not.mp hstatus) ?_
  refine Releases.setStatus_bind (by decide) fun b => ?_
  refine Releases.record_bind _ ?_
  trivial

/-- An expiry may follow a first look at the authorization. -/
theorem expire_visits (authId actor : String) (ha : a.id = authId)
    (hφ : φ = .outside ∨ ∃ t, φ = .inside t) : Releases i w₀ a (expire authId actor) φ := by
  subst ha
  unfold expire
  refine Releases.requireAuth_bind hφ fun w auth hauth hterms => ?_
  split_ifs with hstatus
  · trivial
  · refine Releases.release_bind (by decide) hauth hterms (not_not.mp hstatus) ?_
    refine Releases.setStatus_bind (by decide) fun b => ?_
    refine Releases.outbox_bind _ ?_
    trivial

/-- The confirmation row is stored between the release and the status. -/
theorem Releases.createConfirmation_bind {auth : MintAuthorization} {input : ConfirmMint}
    {amountMinor : Int} {f : MintConfirmation → Service β}
    (h : ∀ c, Releases i w₀ a (f c) φ) :
    Releases i w₀ a (createConfirmation auth input amountMinor >>= f) φ := by
  unfold createConfirmation
  rw [bind_assoc]
  refine Call.Obeys.lift_bind (fun _ _ => trivial) fun ledgerHeight _ => ?_
  rw [bind_assoc]
  refine Call.Obeys.lift_bind (fun _ _ => trivial) fun confirmedAt _ => ?_
  refine Station.Visits.query_bind (by simp [releaseStation, authRead, Prisma.mintConfirmation])
    (by simp [releaseStation, authWrite, Prisma.mintConfirmation]) ?_ (fun _ => trivial) h
  intro w c w' hw'
  obtain ⟨-, -, t, -, rfl⟩ := Entity.createTx_ok _ hw'
  exact ⟨Iff.rfl, Iff.rfl, rfl, fun h => ⟨h.ledger, h.auth⟩⟩

theorem confirm_visits (clock : Clock) (authId : String) (input : ConfirmMint)
    (ha : a.id = authId) : Releases i w₀ a (confirm clock authId input) .outside := by
  subst ha
  unfold confirm
  refine Releases.requireAuth_bind (.inl rfl) fun w auth hauth hterms => ?_
  refine Call.Obeys.throwIf_bind (fun _ => trivial) fun hstatus => ?_
  split_ifs with hexpired
  · -- The expiry reads the authorization again.
    refine Call.Obeys.bind (expire_visits a.id input.actor rfl (.inr ⟨w, rfl⟩)) ?_ ?_
    · exact fun _ _ _ => trivial
    · exact fun _ _ _ => trivial
  · refine Call.Obeys.lift_bind (fun _ _ => trivial) fun amountMinor _ => ?_
    refine Call.Obeys.throwIf_bind (fun _ => trivial) fun _ => ?_
    refine Releases.release_bind (by decide) hauth hterms (not_not.mp hstatus) ?_
    refine Releases.createConfirmation_bind fun c => ?_
    refine Releases.setStatus_bind (by decide) fun b => ?_
    refine Releases.record_bind _ ?_
    refine Releases.outbox_bind _ ?_
    trivial

/-- **One call among others.** -/
theorem release_visits (request : ReleaseRequest) :
    Releases i w₀ a (request.call a.id) .outside := by
  cases request with
  | confirm clock input => exact (confirm_visits clock a.id input rfl).void
  | revoke actor reason => exact (revoke_visits a.id actor reason rfl).void
  | expire actor => exact (expire_visits a.id actor rfl (.inl rfl)).void

end

/-! ## All calls together -/

/-- The calls on one authorization. -/
def releases {ι : Type} (authId : String) (requests : ι → ReleaseRequest) (i : ι) : Service Unit :=
  (requests i).call authId

section

variable {ι : Type} [DecidableEq ι]

/-- A call that is about to post has read the status after every other call that has come to post
wrote it. -/
def ReleasesFresh (authId : String) (p : Pool ι Query World ApiError Unit) (i : ι) : Prop :=
  (p.calls i).next?.any (·.model = .ledgerEntry) → ∀ e ∈ p.history, e.1 ≠ i →
    e.2.model = .ledgerEntry → (e.1, authWrite authId) ∈ p.upTo (i, authRead authId)

instance (authId : String) (p : Pool ι Query World ApiError Unit) (i : ι) :
    Decidable (ReleasesFresh authId p i) :=
  inferInstanceAs (Decidable (_ → _))

theorem ReleasesFresh.postsFresh {w₀ : World} {a : MintAuthorization}
    {p : Pool ι Query World ApiError Unit} {i : ι} (h : ReleasesFresh a.id p i) :
    (releaseStation ι w₀ a).PostsFresh p i := by
  rintro - ⟨q, hq, hpost⟩ e he hei - hepost
  refine h ?_ e he hei hepost
  rw [hq]
  exact decide_eq_true hpost

/-- The balance of `LIABILITY:PENDING_MINT` after the releases. -/
theorem pendingMint_releases {w w' : World} {a : MintAuthorization} {entries : List JournalEntry}
    (hledger : w'.ledger = w.ledger ++ entries) (hone : entries.length ≤ 1)
    (hentries : ∀ e ∈ entries, ∃ p ∈ releasePrefixes, IsRelease a p e) (programId c : String) :
    pendingMint w' programId c = pendingMint w programId c ∨
      0 < a.amountMinor ∧
        pendingMint w' programId c = pendingMint w programId c - a.amountMinor := by
  unfold pendingMint
  rw [hledger, ledgerNet_append]
  match entries, hone, hentries with
  | [], _, _ =>
    left
    rw [ledgerNet_nil, add_zero]
  | [e], _, hentries =>
    obtain ⟨p, -, he⟩ := hentries e (List.mem_singleton_self e)
    rw [he.move.net, he.programId]
    have hne : liabilityPaychainReserveObligation ≠ liabilityPendingMint := by decide
    rw [if_pos rfl, if_neg hne]
    split_ifs
    · right
      exact ⟨he.move.positive, by omega⟩
    · left
      omega

/-- **An authorization is released once**, whatever the interleaving of its confirmations,
revocations and expiries, if whoever posts a release has read a fresh status. -/
theorem single_release {w : World} {a : MintAuthorization}
    (ha : w.mintAuthorizations.find? a.id = some a) (requests : ι → ReleaseRequest)
    {schedule : List ι}
    (hfresh : Lib.Meets Pool.step (ReleasesFresh a.id) (Pool.start w (releases a.id requests))
      schedule) :
    ∃ entries, ((Pool.start w (releases a.id requests)).exec schedule).state.ledger =
        w.ledger ++ entries ∧ entries.length ≤ 1 ∧
      (∀ e ∈ entries, ∃ p ∈ releasePrefixes, IsRelease a p e) ∧
      ∀ programId c,
        let w' := ((Pool.start w (releases a.id requests)).exec schedule).state
        pendingMint w' programId c = pendingMint w programId c ∨
          0 < a.amountMinor ∧
            pendingMint w' programId c = pendingMint w programId c - a.amountMinor := by
  have hcalls (i : ι) : Releases i w a (releases a.id requests i) .outside :=
    release_visits (requests i)
  have hnone : (releaseStation ι w a).posted w = 0 := Nat.sub_self _
  obtain ⟨honce, hvalid⟩ := Station.posted_once hcalls ⟨⟨[], by simp, by simp⟩, a, ha, rfl⟩
    (by omega) (fun _ => hnone) (hfresh.mono fun p i h => h.postsFresh)
  obtain ⟨entries, hledger, hentries⟩ := hvalid.ledger
  have hone : entries.length ≤ 1 := by
    have hposted : (((Pool.start w (releases a.id requests)).exec schedule).state.ledger).length -
        w.ledger.length ≤ 1 := honce
    rw [hledger, List.length_append] at hposted
    omega
  exact ⟨entries, hledger, hone, hentries, pendingMint_releases hledger hone hentries⟩

end

end

/-! ## Two schedules -/

attribute [local instance] Runtime.ascii

namespace Sample

/-- An authorization of 100, issued. -/
def issued : World := (mint "M1" "100").foldl MintOp.step world

/-- It is revoked, and it is confirmed. -/
def releaseRequests : Bool → ReleaseRequest
  | false => .revoke "alice" "mistake"
  | true => .confirm clock (confirmation "100" none)

/-- The revocation is served first, and the confirmation finds it. -/
def revokedFirst : List Bool := List.replicate 4 false ++ List.replicate 6 true

/-- Both read the status, and then both go on. -/
def bothRead : List Bool := [false, true] ++ List.replicate 3 false ++ List.replicate 5 true

end Sample

/-- The authorization of the sample is found under its key. -/
theorem Sample.issued_find : ∃ a, Sample.issued.mintAuthorizations.find? a.id = some a ∧
    a.id = "M1" ∧ a.status = .issued := by
  have hfind : (Sample.issued.mintAuthorizations.find? "M1").map (fun a => a.status) =
      some .issued := by decide +kernel
  obtain ⟨a, ha, hstatus⟩ := Option.map_eq_some_iff.mp hfind
  have hid : a.id = "M1" := Lib.Table.key_of_find? ha
  exact ⟨a, hid ▸ ha, hid, hstatus⟩

theorem revokedFirst_fresh : Lib.Meets Pool.step (ReleasesFresh "M1")
    (Pool.start Sample.issued (releases "M1" Sample.releaseRequests)) Sample.revokedFirst := by
  decide +kernel

/-- Served one after the other, a revocation and a confirmation release once. -/
theorem single_release_revoked : ∃ entries,
    ((Pool.start Sample.issued (releases "M1" Sample.releaseRequests)).exec
      Sample.revokedFirst).state.ledger = Sample.issued.ledger ++ entries ∧ entries.length ≤ 1 := by
  obtain ⟨a, ha, hid, -⟩ := Sample.issued_find
  obtain ⟨entries, hledger, hone, -⟩ := single_release ha Sample.releaseRequests
    (hid ▸ revokedFirst_fresh)
  exact ⟨entries, hid ▸ hledger, hone⟩

theorem bothRead_length : ((Pool.start Sample.issued
    (releases "M1" Sample.releaseRequests)).exec Sample.bothRead).state.ledger.length =
      Sample.issued.ledger.length + 2 := by
  decide +kernel

/-- A revocation and a confirmation that both read the status first both release. -/
theorem released_by_both : ¬∀ [Runtime] (w : World) (a : MintAuthorization)
    (requests : Bool → ReleaseRequest) (schedule : List Bool),
    w.mintAuthorizations.find? a.id = some a → a.status = .issued →
    ∃ entries, ((Pool.start w (releases a.id requests)).exec schedule).state.ledger =
      w.ledger ++ entries ∧ entries.length ≤ 1 := by
  intro h
  obtain ⟨a, ha, hid, hstatus⟩ := Sample.issued_find
  obtain ⟨entries, hledger, hone⟩ := h Sample.issued a Sample.releaseRequests Sample.bothRead ha
    hstatus
  rw [hid] at hledger
  have hlength := bothRead_length
  rw [hledger, List.length_append] at hlength
  omega

end TrusteeBank
