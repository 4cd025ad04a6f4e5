import TrusteeBank.Api.MakerChecker
import TrusteeBank.Webhooks.KeyRotation

/-!
# What an attestation says

Clients retrieve an attestation as an object with its hash, and with a signature once it is
published. The signature is made when the attestation is retrieved, with the key the instance has
at that time.

**Theorem (`signed_attestation`).** What is signed has a provenance: the attestation was drafted
from the position of its program, then submitted, approved and published, in this order, and the
content is that of the draft with the approver and the time of the publication.

**Theorem (`attestation_stands`).** From when an attestation is signed on, it is served with the
same content and signed, until it is withdrawn, and from then on unsigned. A copy of it passes
against the keys that a later deployment publishes if and only if the key that signed it is active
there or was so one deployment before.

The other services do not touch the attestations (`attestationView_step`), and a transition is the
only operation that rewrites one. So the proof follows one row through the run, and `DraftReached`
says how far it is.
-/

set_option autoImplicit false

namespace TrusteeBank

open AttestationService (allowed createdRecord draft transitionRecord)

section

variable [Runtime]

/-! ## The service -/

/-- What is retrieved: the content, its hash, and the signature of a published one. -/
structure AttestationAnswer where
  content : JsValue
  contentHash : String
  signature : Option Signature

namespace AttestationService

omit [Runtime] in
def content (a : Attestation) : JsValue :=
  .object
    [("attestationId", .string a.id),
      ("programId", .ofOption a.programId),
      ("period", .string a.period),
      ("scope", .string a.scope),
      ("reserveAmountMinor", .ofOption (a.reserveAmountMinor.map toString)),
      ("liabilityAmountMinor", .ofOption (a.liabilityAmountMinor.map toString)),
      ("currency", .ofOption a.currency),
      ("opinion", .ofOption a.opinion),
      ("auditor", .string a.auditor),
      ("documentHash", .ofOption a.documentHash),
      ("status", .string a.status),
      ("issueDate", .ofOption (a.issueDate.map isoString))]

variable [WebhookRuntime]

omit [Runtime] in
/-- `JSON.stringify(content)`. It never fails, since there is no bigint in it. -/
def contentText (a : Attestation) : String :=
  ((jsonStringify (content a)).toOption.getD none).getD "undefined"

omit [Runtime] in
def answerFor (service : SigningService) (a : Attestation) : AttestationAnswer where
  content := content a
  contentHash := WebhookRuntime.sha256Hex (contentText a)
  signature :=
    if a.status ≠ "PUBLISHED" then none else some (service.sign .attestation (content a))

/-- Retrieve an attestation. Published ones include a live signature. -/
def get (service : SigningService) (id : String) : Service AttestationAnswer := do
  let a ← requireAttestation id
  return answerFor service a

theorem run_get (service : SigningService) (id : String) (w : World) :
    (get service id).run w =
      ((orThrow (w.attestations.find? id) (.notFound ("Attestation " ++ id ++ " not found"))).map
        (answerFor service), w) := by
  unfold get requireAttestation
  rw [bind_assoc, Lib.Call.run_bind, Entity.run_findUnique]
  simp only [Prisma.attestation_get]
  cases w.attestations.find? id <;> rfl

end AttestationService

/-! ## Drafts -/

/-- The amounts that are given, the others from the position of the program. -/
def attestedFrom (w : World) (now : Int) (input : CreateAttestation)
    (reserveAmountMinor liabilityAmountMinor : Option Int) : Except ApiError AttestedAmounts :=
  match input.programId.filter (· ≠ "") with
  | some programId =>
    if reserveAmountMinor = none ∨ liabilityAmountMinor = none then
      (positionAt w now programId).map fun pos =>
        { reserveAmountMinor := some (reserveAmountMinor.getD pos.eligibleReserve.minor)
          liabilityAmountMinor := some (liabilityAmountMinor.getD pos.reserveObligation.minor)
          currency := some (input.currency.getD pos.currency)
          derivedFromLedger := true }
    else .ok ⟨reserveAmountMinor, liabilityAmountMinor, input.currency, false⟩
  | none => .ok ⟨reserveAmountMinor, liabilityAmountMinor, input.currency, false⟩

/-- The amounts of an attestation that is drafted in a state. -/
def attestedAt (w : World) (now : Int) (input : CreateAttestation) :
    Except ApiError AttestedAmounts := do
  let reserveAmountMinor ← AttestationService.amountOf input.reserveAmountMinor
  let liabilityAmountMinor ← AttestationService.amountOf input.liabilityAmountMinor
  attestedFrom w now input reserveAmountMinor liabilityAmountMinor

theorem run_amounts_of (w : World) (clock : Clock) (input : CreateAttestation)
    (reserveAmountMinor liabilityAmountMinor : Option Int) :
    (AttestationService.amounts clock input reserveAmountMinor liabilityAmountMinor).run w =
      (attestedFrom w (clock 0) input reserveAmountMinor liabilityAmountMinor, w) := by
  unfold AttestationService.amounts attestedFrom
  cases input.programId.filter (· ≠ "") with
  | none => rfl
  | some programId =>
    by_cases hmissing : reserveAmountMinor = none ∨ liabilityAmountMinor = none
    · simp only [if_pos hmissing]
      rw [Lib.Call.run_bind, run_position]
      cases positionAt w (clock 0) programId <;> rfl
    · simp only [if_neg hmissing]
      rfl

/-- **A creation** stores a draft with the amounts of that moment, or changes nothing. -/
theorem create_drafts (w : World) (clock : Clock) (input : CreateAttestation) (id : String) :
    ((AttestationService.create clock input id).run w).2 = w ∨
      ∃ amounts t, attestedAt w (clock 0) input = .ok amounts ∧
        w.attestations.insert? (draft input amounts id) = some t ∧
        ((AttestationService.create clock input id).run w).2.attestations = t := by
  unfold AttestationService.create
  rw [Lib.Call.run_lift_bind]
  cases hreserve : AttestationService.amountOf input.reserveAmountMinor with
  | error e => exact .inl rfl
  | ok reserveAmountMinor =>
    simp only
    rw [Lib.Call.run_lift_bind]
    cases hliability : AttestationService.amountOf input.liabilityAmountMinor with
    | error e => exact .inl rfl
    | ok liabilityAmountMinor =>
      simp only
      have hattested : attestedAt w (clock 0) input =
          attestedFrom w (clock 0) input reserveAmountMinor liabilityAmountMinor := by
        unfold attestedAt
        rw [hreserve, hliability]
        rfl
      rw [Lib.Call.run_bind, run_amounts_of, ← hattested]
      cases hamounts : attestedAt w (clock 0) input with
      | error e => exact .inl rfl
      | ok amounts =>
        simp only
        rw [Lib.Call.run_bind]
        rcases Entity.run_create_cases Prisma.attestation
          (fun _ => AttestationService.attestationConstraints (draft input amounts id))
          (draft input amounts id) w with
          ⟨e, h⟩ | ⟨t, -, ht, h⟩
        · rw [h]
          exact .inl rfl
        · rw [h]
          simp only
          rw [run_record_pure]
          exact .inr ⟨amounts, t, rfl, ht, rfl⟩

/-! ## The way to a publication -/

/-- A transition of an attestation. -/
def takes (id : String) (target : AttestationTarget) (clock : Clock) (actor : String) : ApiOp :=
  .attestation (.transition clock id target actor)

/-- **How far a draft is** after some operations. The transitions are among them in this order. -/
inductive DraftReached (d : Attestation) (ops : List ApiOp) : Attestation → Prop
  | drafted : DraftReached d ops d
  | submitted {c : Clock} {maker : String} (h : [takes d.id .underReview c maker].Sublist ops) :
      DraftReached d ops { d with status := "UNDER_REVIEW" }
  | approved {c c' : Clock} {maker checker : String}
      (h : [takes d.id .underReview c maker, takes d.id .approved c' checker].Sublist ops) :
      DraftReached d ops { d with status := "APPROVED", approvedBy := some checker }
  | published {c c' c'' : Clock} {maker checker publisher : String}
      (h : [takes d.id .underReview c maker, takes d.id .approved c' checker,
        takes d.id .published c'' publisher].Sublist ops) :
      DraftReached d ops
        { d with
          status := "PUBLISHED"
          approvedBy := some checker
          issueDate := some (c'' 0) }
  | withdrawn {a : Attestation} (h : a.status = "WITHDRAWN") : DraftReached d ops a

theorem DraftReached.mono {d a : Attestation} {ops : List ApiOp} (h : DraftReached d ops a)
    (later : List ApiOp) : DraftReached d (ops ++ later) a := by
  have hmore {path : List ApiOp} (hpath : path.Sublist ops) : path.Sublist (ops ++ later) :=
    hpath.trans (List.sublist_append_left ops later)
  cases h with
  | drafted => exact .drafted
  | submitted hpath => exact .submitted (hmore hpath)
  | approved hpath => exact .approved (hmore hpath)
  | published hpath => exact .published (hmore hpath)
  | withdrawn hstatus => exact .withdrawn hstatus

/-- **A transition** takes an attestation one step further on its way, or withdraws it. -/
theorem DraftReached.transition {d a : Attestation} {ops : List ApiOp} (h : DraftReached d ops a)
    (hdraft : d.status = "DRAFT") {target : AttestationTarget}
    (hallowed : target ∈ allowed a.status) (clock : Clock) (actor : String) :
    DraftReached d (ops ++ [takes d.id target clock actor])
      (a.asTransitioned target actor (clock 0) a) := by
  cases target with
  | withdrawn => exact .withdrawn rfl
  | underReview =>
    cases h with
    | drafted => exact .submitted (List.sublist_append_right _ _)
    | submitted | approved | published => simp [allowed] at hallowed
    | withdrawn hstatus => simp [allowed, hstatus] at hallowed
  | approved =>
    have hstatus := status_of_approved hallowed
    cases h with
    | submitted hpath => exact .approved (hpath.append (List.Sublist.refl _))
    | drafted => simp [hdraft] at hstatus
    | approved | published => simp at hstatus
    | withdrawn hwithdrawn => simp [hwithdrawn] at hstatus
  | published =>
    have hstatus := status_of_published hallowed
    cases h with
    | approved hpath => exact .published (hpath.append (List.Sublist.refl _))
    | drafted => simp [hdraft] at hstatus
    | submitted | published => simp at hstatus
    | withdrawn hwithdrawn => simp [hwithdrawn] at hstatus

/-- **Where an attestation comes from.** -/
structure Provenance (w₀ : World) (ops : List ApiOp) (a : Attestation) : Prop where
  exists_draft : ∃ before clock input amounts after,
    ops = before ++ .attestation (.create clock input a.id) :: after ∧
    attestedAt (before.foldl ApiOp.step w₀) (clock 0) input = .ok amounts ∧
    DraftReached (draft input amounts a.id) after a

theorem Provenance.mono {w₀ : World} {ops : List ApiOp} {a : Attestation}
    (h : Provenance w₀ ops a) (later : List ApiOp) : Provenance w₀ (ops ++ later) a := by
  obtain ⟨before, clock, input, amounts, after, hops, hamounts, hreached⟩ := h.exists_draft
  exact ⟨before, clock, input, amounts, after ++ later, by simp [hops], hamounts,
    hreached.mono later⟩

theorem Provenance.transition {w₀ : World} {ops : List ApiOp} {a : Attestation}
    (h : Provenance w₀ ops a) {target : AttestationTarget} (hallowed : target ∈ allowed a.status)
    (clock : Clock) (actor : String) : Provenance w₀ (ops ++ [takes a.id target clock actor])
      (a.asTransitioned target actor (clock 0) a) := by
  obtain ⟨before, clock', input, amounts, after, hops, hamounts, hreached⟩ := h.exists_draft
  exact ⟨before, clock', input, amounts, after ++ [takes a.id target clock actor],
    by simp [hops, Attestation.asTransitioned], hamounts,
    hreached.transition rfl hallowed clock actor⟩

/-- **Every attestation of a run has a provenance.** -/
theorem provenance_run {w₀ : World} (hnone : w₀.attestations.rows = []) (ops : List ApiOp) :
    ∀ a ∈ (ops.foldl ApiOp.step w₀).attestations.rows, Provenance w₀ ops a := by
  induction ops using List.reverseRecOn with
  | nil =>
    intro a ha
    rw [List.foldl_nil, hnone] at ha
    exact absurd ha List.not_mem_nil
  | append_singleton ops op ih =>
    rw [List.foldl_append, List.foldl_cons, List.foldl_nil]
    generalize hw : ops.foldl ApiOp.step w₀ = w at ih
    have hkept : (op.step w).attestations = w.attestations →
        ∀ a ∈ (op.step w).attestations.rows, Provenance w₀ (ops ++ [op]) a := by
      intro hsame a ha
      rw [hsame] at ha
      exact (ih a ha).mono [op]
    by_cases hother : ∀ op', op ≠ .attestation op'
    · exact hkept (congrArg Prod.fst (attestationView_step hother))
    · push Not at hother
      obtain ⟨op', rfl⟩ := hother
      cases op' with
      | create clock input id =>
        have hstate : (ApiOp.attestation (.create clock input id)).step w =
            ((AttestationService.create clock input id).run w).2 := Lib.Call.run_void_snd _ _
        rcases create_drafts w clock input id with hsame | ⟨amounts, t, hamounts, ht, hnew⟩
        · exact hkept (congrArg World.attestations (hstate.trans hsame))
        · intro a ha
          rw [hstate, hnew, (Lib.Table.insert?_eq_some ht).1] at ha
          rcases List.mem_append.mp ha with ha | ha
          · exact (ih a ha).mono _
          · rw [List.mem_singleton] at ha
            subst ha
            exact ⟨ops, clock, input, amounts, [], rfl, by rw [hw]; exact hamounts, .drafted⟩
      | transition clock id target actor =>
        have heffect := AttestationOp.effect w (.transition clock id target actor)
        generalize hnext : AttestationOp.step w (.transition clock id target actor) = w' at heffect
        have hstate : (ApiOp.attestation (.transition clock id target actor)).step w = w' := hnext
        cases heffect with
        | unchanged => exact hkept (congrArg World.attestations hstate)
        | @transitioned _ _ _ _ a₀ ha₀ hallowed =>
          have hid : a₀.id = id := Lib.Table.key_of_find? ha₀
          have hmoved := (ih a₀ (Lib.Table.mem_of_find? ha₀)).transition hallowed clock actor
          rw [hid] at hmoved
          rw [hstate]
          exact Lib.Table.forall_modify (a₀.asTransitioned_id target actor (clock 0))
            (fun a ha => (ih a ha).mono _) ha₀ hmoved

/-! ## What is signed -/

variable [WebhookRuntime]

/-- **What is signed has a provenance.** The attestation was drafted, with the amounts of that
moment, and submitted, approved and published after it. -/
theorem signed_attestation {w₀ : World} (hnone : w₀.attestations.rows = []) {ops : List ApiOp}
    {service : SigningService} {id : String} {answer : AttestationAnswer} {signature : Signature}
    (hget : ((AttestationService.get service id).run (ops.foldl ApiOp.step w₀)).1 = .ok answer)
    (hsigned : answer.signature = some signature) :
    ∃ before clock input amounts after c c' c'' maker checker publisher,
      ops = before ++ .attestation (.create clock input id) :: after ∧
      attestedAt (before.foldl ApiOp.step w₀) (clock 0) input = .ok amounts ∧
      [takes id .underReview c maker, takes id .approved c' checker,
        takes id .published c'' publisher].Sublist after ∧
      answer.content = AttestationService.content
        { draft input amounts id with
          status := "PUBLISHED"
          approvedBy := some checker
          issueDate := some (c'' 0) } ∧
      signature = service.sign .attestation answer.content := by
  rw [AttestationService.run_get] at hget
  obtain ⟨a, ha, rfl⟩ := map_eq_ok.mp hget
  have hfound := orThrow_eq_ok.mp ha
  obtain rfl : a.id = id := Lib.Table.key_of_find? hfound
  have hpublished : a.status = "PUBLISHED" := by
    by_contra hstatus
    simp [AttestationService.answerFor, hstatus] at hsigned
  obtain ⟨before, clock, input, amounts, after, hops, hamounts, hreached⟩ :=
    (provenance_run hnone ops a (Lib.Table.mem_of_find? hfound)).exists_draft
  simp only [AttestationService.answerFor, hpublished, ne_eq, not_true_eq_false, if_false,
    Option.some.injEq] at hsigned
  generalize hd : draft input amounts a.id = d at hreached
  have hstatus : d.status = "DRAFT" := hd ▸ rfl
  have hid : d.id = a.id := hd ▸ rfl
  cases hreached with
  | published hpath =>
    rw [hid] at hpath
    exact ⟨before, clock, input, amounts, after, _, _, _, _, _, _, hops, hamounts, hpath,
      hd ▸ rfl, hsigned.symm⟩
  | drafted => simp [hstatus] at hpublished
  | submitted | approved => simp at hpublished
  | withdrawn hwithdrawn => simp [hwithdrawn] at hpublished

/-! ## What becomes of a publication -/

omit [WebhookRuntime] in
/-- **What an operation does to an attestation**: nothing, or a transition that is allowed. -/
theorem attestation_step {w : World} {id : String} {a : Attestation}
    (ha : w.attestations.find? id = some a) (op : ApiOp) :
    (op.step w).attestations.find? id = some a ∨
      ∃ (target : AttestationTarget) (clock : Clock) (actor : String), target ∈ allowed a.status ∧
        (op.step w).attestations.find? id = some (a.asTransitioned target actor (clock 0) a) := by
  by_cases hother : ∀ op', op ≠ .attestation op'
  · have hsame : (op.step w).attestations = w.attestations :=
      congrArg Prod.fst (attestationView_step hother)
    exact .inl (hsame ▸ ha)
  · push Not at hother
    obtain ⟨op', rfl⟩ := hother
    have heffect := op'.effect w
    generalize hnext : op'.step w = w' at heffect
    have hstate : (ApiOp.attestation op').step w = w' := hnext
    rw [hstate]
    cases heffect with
    | unchanged => exact .inl ha
    | created ht => exact .inl (Lib.Table.find?_insert?_of_some ht ha)
    | @transitioned clock other target actor b hb hallowed =>
      have hfind := Lib.Table.find?_modify w.attestations other
        (b.asTransitioned target actor (clock 0)) (b.asTransitioned_id target actor (clock 0)) id
      by_cases hid : id = other
      · subst hid
        obtain rfl : b = a := Option.some.inj (hb.symm.trans ha)
        rw [if_pos rfl, ha] at hfind
        exact .inr ⟨target, clock, actor, hallowed, hfind⟩
      · rw [if_neg hid] at hfind
        exact .inl (hfind.trans ha)

omit [Runtime] [WebhookRuntime] in
def Attestation.withdrawn (a : Attestation) : Attestation := { a with status := "WITHDRAWN" }

omit [WebhookRuntime] in
/-- What is withdrawn stays as it is. -/
theorem withdrawn_run {w : World} {id : String} {a : Attestation} (ops : List ApiOp)
    (h : w.attestations.find? id = some a.withdrawn) :
    (ops.foldl ApiOp.step w).attestations.find? id = some a.withdrawn := by
  induction ops generalizing w with
  | nil => exact h
  | cons op ops ih =>
    apply ih
    rcases attestation_step h op with hsame | ⟨target, clock, actor, hallowed, -⟩
    · exact hsame
    · simp [allowed, Attestation.withdrawn] at hallowed

omit [WebhookRuntime] in
/-- What is published stays as it is, until it is withdrawn. -/
theorem published_run {w : World} {id : String} {a : Attestation} (ops : List ApiOp)
    (h : w.attestations.find? id = some a) (hpublished : a.status = "PUBLISHED") :
    (ops.foldl ApiOp.step w).attestations.find? id = some a ∨
      (ops.foldl ApiOp.step w).attestations.find? id = some a.withdrawn := by
  induction ops generalizing w with
  | nil => exact .inl h
  | cons op ops ih =>
    rcases attestation_step h op with hsame | ⟨target, clock, actor, hallowed, hmoved⟩
    · exact ih hsame
    · obtain rfl : target = .withdrawn := by simpa [allowed, hpublished] using hallowed
      exact .inr (withdrawn_run ops hmoved)

/-- The same content, with the signature of this instance. -/
structure AttestationAnswer.SignedAlike (service : SigningService)
    (answer answer' : AttestationAnswer) : Prop where
  content : answer'.content = answer.content
  contentHash : answer'.contentHash = answer.contentHash
  signature : answer'.signature = some (service.sign .attestation answer.content)

/-- The same content but for the status, and no signature. -/
structure AttestationAnswer.Withdrawn (answer answer' : AttestationAnswer) : Prop where
  content : ∃ a : Attestation, answer.content = AttestationService.content a ∧
    answer'.content = AttestationService.content a.withdrawn
  signature : answer'.signature = none

/-- **An attestation that is signed stands, until it is withdrawn for good.** A copy of it passes
against the published keys of a deployment if and only if the key that signed it is active there or
was so one deployment before. -/
theorem attestation_stands {keys : List SigningKey} (hed : Ed25519 keys)
    (hnamed : KeysNamed keys) {ds : List Deployment} (hrotations : Rotations ds)
    (hkeys : ∀ d ∈ ds, ∀ purpose, d.service.keys purpose ∈ keys)
    {i j : ℕ} {d d' : Deployment} (hi : ds[i]? = some d) (hj : ds[j]? = some d') {w : World}
    {id : String} {answer : AttestationAnswer} {signature : Signature}
    (hget : ((AttestationService.get d.service id).run w).1 = .ok answer)
    (hsigned : answer.signature = some signature) (ops : List ApiOp) :
    (∃ answer', ((AttestationService.get d'.service id).run (ops.foldl ApiOp.step w)).1 =
        .ok answer' ∧
      (answer.SignedAlike d'.service answer' ∨
        answer.Withdrawn answer' ∧ ∀ (e : Deployment) (later : List ApiOp),
          ((AttestationService.get e.service id).run ((ops ++ later).foldl ApiOp.step w)).1 =
            .ok answer')) ∧
    ((verifyArtifact (canonicalize answer.content) (some signature)
        (jwksByKeyId d'.service.allPublicKeys)).1 = true ↔
      ∃ m e, m ≤ j ∧ j ≤ m + 1 ∧ ds[m]? = some e ∧
        ∃ purpose, e.service.keys purpose = d.service.keys .attestation) := by
  rw [AttestationService.run_get] at hget
  obtain ⟨a, ha, rfl⟩ := map_eq_ok.mp hget
  have hfound := orThrow_eq_ok.mp ha
  have hpublished : a.status = "PUBLISHED" := by
    by_contra hstatus
    simp [AttestationService.answerFor, hstatus] at hsigned
  have hsignature : signature =
      (d.service.keys .attestation).signature (canonicalize (AttestationService.content a)) := by
    show signature = d.service.sign .attestation (AttestationService.content a)
    simpa [AttestationService.answerFor, hpublished, eq_comm] using hsigned
  constructor
  · rcases published_run ops hfound hpublished with hstands | hwithdrawn
    · refine ⟨AttestationService.answerFor d'.service a, ?_, .inl ⟨rfl, rfl, ?_⟩⟩
      · rw [AttestationService.run_get, hstands]
        rfl
      · simp [AttestationService.answerFor, hpublished]
    · have hunsigned (service : SigningService) : AttestationService.answerFor service a.withdrawn =
          AttestationService.answerFor d'.service a.withdrawn := rfl
      refine ⟨AttestationService.answerFor d'.service a.withdrawn, ?_,
        .inr ⟨⟨⟨a, rfl, rfl⟩, rfl⟩, ?_⟩⟩
      · rw [AttestationService.run_get, hwithdrawn]
        rfl
      · intro e later
        rw [AttestationService.run_get, List.foldl_append, withdrawn_run later hwithdrawn]
        rfl
  · have htrusted : ∀ purpose k, d'.service.Trusts purpose k → k ∈ keys := by
      intro purpose k htrusts
      obtain ⟨m, e, -, -, hm, rfl⟩ := (hrotations.trusts_iff hj purpose k).mp htrusts
      exact hkeys e (List.mem_of_getElem? hm) purpose
    have hk := hkeys d (List.mem_of_getElem? hi) .attestation
    rw [hsignature]
    refine (verifyArtifact_iff hed hnamed htrusted hk _).trans ⟨?_, ?_⟩
    · rintro ⟨purpose, htrusts⟩
      obtain ⟨m, e, hmj, hjm, hm, hsame⟩ := (hrotations.trusts_iff hj purpose _).mp htrusts
      exact ⟨m, e, hmj, hjm, hm, purpose, hsame⟩
    · rintro ⟨m, e, hmj, hjm, hm, purpose, hsame⟩
      exact ⟨purpose, (hrotations.trusts_iff hj purpose _).mpr ⟨m, e, hmj, hjm, hm, hsame⟩⟩

end

/-! ## An attestation is published -/

namespace Sample

attribute [local instance] keyedRuntime webhookRuntime

def attestationClock : Clock := fun _ => 1767225600000

def attestationInput : CreateAttestation :=
  ⟨none, "2026-Q1", "Reserve of PUSD", none, none, none, none, none, "Auditor", none, "drafter"⟩

def draftOp : ApiOp := .attestation (.create attestationClock attestationInput "A1")

/-- The three transitions. -/
def publication : List ApiOp :=
  [takes "A1" .underReview attestationClock "maker",
    takes "A1" .approved attestationClock "checker",
    takes "A1" .published attestationClock "publisher"]

def publishedRow : Attestation :=
  { draft attestationInput ⟨none, none, none, false⟩ "A1" with
    status := "PUBLISHED"
    approvedBy := some "checker"
    issueDate := some 1767225600000 }

def publishedWorld : World := (draftOp :: publication).foldl ApiOp.step World.empty

/-- The attestation key is the mint key, and is replaced by the webhook key. -/
def replaced : List Deployment :=
  [deployment (fun _ => mintKey) none,
    deployment (fun _ => webhookKey) (some (configOf fun _ => mintKey)),
    deployment (fun _ => webhookKey) (some (configOf fun _ => webhookKey))]

theorem published_answer :
    let service := (deployment (fun _ => mintKey) none).service
    ((AttestationService.get service "A1").run publishedWorld).1 =
      .ok (AttestationService.answerFor service publishedRow) := rfl

/-- What is signed was submitted, approved and published. -/
theorem signed_attestation_published :
    ∃ (c c' c'' : Clock) (maker checker publisher : String),
      [takes "A1" .underReview c maker, takes "A1" .approved c' checker,
        takes "A1" .published c'' publisher].Sublist (draftOp :: publication) := by
  have hnone : World.empty.attestations.rows = [] := rfl
  obtain ⟨before, clock, input, amounts, after, c, c', c'', maker, checker, publisher, hops, -,
    hpath, -⟩ := signed_attestation hnone published_answer rfl
  refine ⟨c, c', c'', maker, checker, publisher, hpath.trans ?_⟩
  rw [hops]
  exact (List.sublist_cons_self _ after).trans (List.sublist_append_right before _)

theorem replaced_rotations : Rotations replaced where
  first d h := by
    cases h
    rfl
  next i d d' h h' := by
    match i with
    | 0 | 1 =>
      cases h
      cases h'
      rfl
    | i + 2 => cases h'

theorem replaced_keys : ∀ d ∈ replaced, ∀ purpose,
    d.service.keys purpose ∈ [webhookKey, mintKey] := by
  intro d hd purpose
  simp only [replaced, List.mem_cons, List.not_mem_nil, or_false] at hd
  rcases hd with rfl | rfl | rfl
  · exact List.mem_cons_of_mem _ List.mem_cons_self
  · exact List.mem_cons_self
  · exact List.mem_cons_self

/-- A copy passes after one rotation and not after two. -/
theorem attestation_stands_once :
    let text := canonicalize (AttestationService.content publishedRow)
    (verifyArtifact text (some (mintKey.signature text)) (jwksByKeyId (deployment
        (fun _ => webhookKey) (some (configOf fun _ => mintKey))).service.allPublicKeys)).1 = true ∧
      ¬(verifyArtifact text (some (mintKey.signature text)) (jwksByKeyId (deployment
        (fun _ => webhookKey) (some (configOf fun _ => webhookKey))).service.allPublicKeys)).1 =
          true := by
  constructor
  · exact (attestation_stands keyed_ed25519 keyed_named replaced_rotations replaced_keys (i := 0)
      (j := 1) rfl rfl published_answer rfl []).2.mpr
        ⟨0, _, by decide, by decide, rfl, .attestation, rfl⟩
  · intro hpasses
    obtain ⟨m, e, -, hm, he, purpose, hsame⟩ := (attestation_stands keyed_ed25519 keyed_named
      replaced_rotations replaced_keys (i := 0) (j := 2) rfl rfl published_answer rfl []).2.mp
        hpasses
    match m with
    | 0 => exact absurd hm (by decide)
    | 1 | 2 =>
      cases he
      have hkey : webhookKey = mintKey := hsame
      exact absurd hkey (by decide)

end Sample

end TrusteeBank
