import TrusteeBank.Feed.OwnLiability
import TrusteeBank.Mint.GuardSignals

/-!
# The age of the liability feed

The guard refuses a mint when the latest verified snapshot is too old. It takes the age from the
timestamp the snapshot carries, clamped at zero, and `ingest` stores whatever timestamp it is
given.

**The machine** (`Fed`). A state, and the snapshots that were ingested, each with the time of its
ingestion. Every step has a time; the operations are those of the whole platform.

**Theorem (`feed_recent`).** In every run in which no snapshot is stored before its timestamp,
whatever becomes `ISSUED` does so within the maximum age of the ingestion of a verified snapshot
of its program. The invariant is that a stored snapshot was ingested no earlier than its timestamp
(`Timely`). A timestamp in the future keeps the mint open (`future_timestamp_mints`).
-/

set_option autoImplicit false

namespace TrusteeBank

open LiabilityService

section

variable [Runtime]

/-- A state, and the snapshots that were ingested, with their times. -/
structure Fed where
  world : World
  ingested : List (LiabilitySnapshot × Int)

/-- An operation, and the time it is served. -/
structure FedOp where
  now : Int
  op : SystemOp

/-- Serve one operation alone; the rows it stores are ingested at its time. -/
def Fed.step (s : Fed) (o : FedOp) : Fed :=
  let w := o.op.step s.world
  let stored := w.liabilitySnapshots.rows.drop s.world.liabilitySnapshots.rows.length
  ⟨w, s.ingested ++ stored.map fun row => (row, o.now)⟩

/-- Whatever an operation makes `ISSUED`, a verified snapshot of its program was ingested at most
`max` seconds before the guard looked. -/
def IssuesFed (max : Int) (s : Fed) (o : FedOp) : Prop :=
  ∀ a ∈ (s.step o).world.mintAuthorizations.rows, a.status = .issued →
    NotIssued s.world a.id → ∃ clock checkerId reason,
      o.op = .platform (.mint (.approve clock a.id checkerId reason)) ∧
        ∃ p ∈ s.ingested, p.1.programId = a.programId ∧ p.1.signatureVerified = true ∧
          clock 3 - max * 1000 ≤ p.2

/-- No snapshot is stored before its timestamp, and the age that an approval sees which may issue is
not within the second that rounding hides. -/
def Honest (max : Int) (s : Fed) (o : FedOp) : Prop :=
  match o.op with
  | .platform (.ingest op) => ∀ row, op.Stores s.world row → row.snapshotTimestamp ≤ o.now
  | .platform (.mint (.approve clock authId checkerId _)) =>
    ∀ auth approval, Issuable s.world (clock 0) authId checkerId auth approval →
      ∀ snapshot, latestVerified s.world auth.programId = some snapshot →
        Resolves (clock 3) snapshot.snapshotTimestamp max
  | _ => True

/-- Every stored snapshot was ingested, and no earlier than its timestamp. -/
def Timely (s : Fed) : Prop :=
  ∀ row ∈ s.world.liabilitySnapshots.rows, ∃ time, (row, time) ∈ s.ingested ∧
    row.snapshotTimestamp ≤ time

/-! ## Ingestion -/

theorem Timely.kept {s : Fed} (h : Timely s) {o : FedOp}
    (hsnapshots : (o.op.step s.world).liabilitySnapshots = s.world.liabilitySnapshots) :
    Timely (s.step o) := by
  intro row hrow
  have hmem : row ∈ s.world.liabilitySnapshots.rows := hsnapshots ▸ hrow
  obtain ⟨time, htime, hle⟩ := h row hmem
  exact ⟨time, List.mem_append_left _ htime, hle⟩

/-- **An ingestion after the timestamp of its snapshot is timely.** -/
theorem Timely.ingest {max : Int} {s : Fed} (h : Timely s) {now : Int} {op : IngestOp}
    (hop : Honest max s ⟨now, .platform (.ingest op)⟩) :
    Timely (s.step ⟨now, .platform (.ingest op)⟩) := by
  rcases ingest_stored s.world op with hsame | ⟨row, t, hstores, ht, hstate⟩
  · apply h.kept
    exact congrArg World.liabilitySnapshots hsame
  have hrows : (op.step s.world).liabilitySnapshots.rows =
      s.world.liabilitySnapshots.rows ++ [row] := by
    rw [hstate]
    exact (Lib.Table.insert?_eq_some ht).1
  have hstored : (s.step ⟨now, .platform (.ingest op)⟩).ingested =
      s.ingested ++ [(row, now)] := by
    show s.ingested ++ List.map _ ((op.step s.world).liabilitySnapshots.rows.drop _) = _
    rw [hrows, List.drop_left]
    rfl
  intro r hr
  have hmem : r ∈ s.world.liabilitySnapshots.rows ++ [row] := hrows ▸ hr
  rw [hstored]
  rcases List.mem_append.mp hmem with hr | hr
  · obtain ⟨time, htime, hle⟩ := h r hr
    exact ⟨time, List.mem_append_left _ htime, hle⟩
  · rw [List.mem_singleton.mp hr]
    exact ⟨now, List.mem_append_right _ (List.mem_singleton_self _), hop row hstores⟩

/-- **Every operation keeps the feed timely.** -/
theorem Timely.step {max : Int} {s : Fed} {o : FedOp} (h : Timely s) (ho : Honest max s o) :
    Timely (s.step o) := by
  obtain ⟨now, op⟩ := o
  by_cases hingest : ∃ ingest, op = .platform (.ingest ingest)
  · obtain ⟨ingest, rfl⟩ := hingest
    exact h.ingest ho
  · rw [not_exists] at hingest
    exact h.kept (op.snapshots s.world hingest)

/-! ## Approvals -/

/-- **What an approval issues is within the maximum age of an ingestion.** -/
theorem Timely.issuesFed {max : Int} (hmax : Runtime.maxLiabilityFeedAgeS = some max)
    (hsafe : max < maxSafeInteger) {s : Fed} {o : FedOp} (h : Timely s) (ho : Honest max s o) :
    IssuesFed max s o := by
  obtain ⟨now, op⟩ := o
  intro a ha hissued hbefore
  by_cases hmint : ∃ mint, op = .platform (.mint mint)
  swap
  · rw [not_exists] at hmint
    have hmem : a ∈ s.world.mintAuthorizations.rows := op.authorizations s.world hmint ▸ ha
    exact absurd hissued (hbefore a (Lib.Table.find?_key_of_mem hmem))
  obtain ⟨mint, rfl⟩ := hmint
  obtain ⟨clock, checkerId, reason, auth, approval, program, pos, rfl, hprogramId, hissuable,
    hunder⟩ := MintOp.newly_issued_unblocked ha hissued hbefore
  cases hlatest : latestVerified s.world auth.programId with
  | none =>
    -- Without a snapshot the age is the largest safe integer.
    have hunfed := hunder.unfed hlatest
    rw [hmax] at hunfed
    have hle : ¬maxSafeInteger > max := of_decide_eq_false hunfed
    omega
  | some snapshot =>
    obtain ⟨hmem, hprogram, hverified⟩ := mem_latestVerified hlatest
    obtain ⟨time, htime, hle⟩ := h snapshot hmem
    have hage := hunder.feed hlatest
    rw [hmax] at hage
    have hsince := (ho auth approval hissuable snapshot hlatest).since_le hage
    exact ⟨clock, checkerId, reason, rfl, (snapshot, time), htime, hprogram.trans hprogramId.symm,
      hverified, hsince.trans hle⟩

/-- **The age of the feed is real**, in every run in which no timestamp is ahead of its
ingestion. -/
theorem feed_recent {max : Int} (hmax : Runtime.maxLiabilityFeedAgeS = some max)
    (hsafe : max < maxSafeInteger) {s : Fed} (hs : Timely s) {ops : List FedOp}
    (hops : Lib.Meets Fed.step (Honest max) s ops) : Lib.Meets Fed.step (IssuesFed max) s ops :=
  Lib.meets_inv (fun _ _ h ho => h.step ho) (fun _ _ h ho => h.issuesFed hmax hsafe ho) hs hops

end

/-! ## A timestamp in the future -/

attribute [local instance] Runtime.ascii

namespace Sample

/-- A program with a reserve of 100 and no snapshot. -/
def unfedReserve : World := { world with liabilitySnapshots := Lib.Table.empty _ }

/-- The instant of the timestamp of `supply`. -/
def supplyInstant : Int := 1767225600000

/-- A snapshot that reports that nothing circulates. -/
def noSupply : IngestOp :=
  ⟨{ supply "1" none with circulatingMinor := "0", effectiveLiabilityMinor := "0" }, "L1"⟩

/-- The snapshot is ingested at a time, and a mint goes through the workflow at another. -/
def mintFed (ingestedAt mintedAt : Int) : List FedOp :=
  ⟨ingestedAt, .platform (.ingest noSupply)⟩ ::
    [.request (request "R-M1" "50") "M1" "N-M1", .review "M1" "alice" "AP-M1",
      .approve (fun _ => mintedAt) "M1" "bob" "ok"].map fun op => ⟨mintedAt, .platform (.mint op)⟩

theorem mintFed_honest : Lib.Meets Fed.step (Honest 900) ⟨unfedReserve, []⟩
    (mintFed supplyInstant supplyInstant) := by
  have hseen : ∀ auth ∈ (((mintFed supplyInstant supplyInstant).take 3).foldl Fed.step
      ⟨unfedReserve, []⟩).world.mintAuthorizations.find? "M1",
      ∀ snapshot ∈ latestVerified (((mintFed supplyInstant supplyInstant).take 3).foldl Fed.step
        ⟨unfedReserve, []⟩).world auth.programId,
        Resolves supplyInstant snapshot.snapshotTimestamp 900 := by
    decide +kernel
  refine ⟨fun row hstores => ?_, trivial, trivial, fun auth _ hissuable snapshot hlatest =>
    hseen auth hissuable.found snapshot hlatest, trivial⟩
  have hdate : newDateOf "2026-01-01T00:00:00Z" = some supplyInstant := by decide
  have htimestamp := (snapshotRow_names hstores.made).2.2
  exact (Option.some.inj (hdate.symm.trans htimestamp)).ge

end Sample

/-- A mint at the time of an ingestion. -/
theorem feed_recent_supply : Lib.Meets Fed.step (IssuesFed 900) ⟨Sample.unfedReserve, []⟩
    (Sample.mintFed Sample.supplyInstant Sample.supplyInstant) := by
  apply feed_recent rfl (by decide) ?_ Sample.mintFed_honest
  intro row hrow
  cases hrow

/-- The last operation issues, 56 years after the only ingestion. -/
theorem issued_unfed :
    (∃ a ∈ ((Sample.mintFed 0 Sample.supplyInstant).foldl Fed.step
        ⟨Sample.unfedReserve, []⟩).world.mintAuthorizations.rows,
      a.status = .issued ∧ a.id = "M1") ∧
    (∀ a ∈ (((Sample.mintFed 0 Sample.supplyInstant).take 3).foldl Fed.step
        ⟨Sample.unfedReserve, []⟩).world.mintAuthorizations.find? "M1", a.status ≠ .issued) ∧
    (((Sample.mintFed 0 Sample.supplyInstant).take 3).foldl Fed.step
      ⟨Sample.unfedReserve, []⟩).ingested.map Prod.snd = [0] := by
  decide +kernel

/-- A snapshot with a timestamp in the future keeps the mint open. -/
theorem future_timestamp_mints : ¬∀ [Runtime] (max : Int) (s : Fed) (ops : List FedOp),
    Runtime.maxLiabilityFeedAgeS = some max → max < maxSafeInteger →
      s.world.liabilitySnapshots.rows = [] → Lib.Meets Fed.step (IssuesFed max) s ops := by
  intro h
  obtain ⟨⟨a, ha, hissued, hid⟩, hbefore, htimes⟩ := issued_unfed
  have hfed := (h 900 ⟨Sample.unfedReserve, []⟩ (Sample.mintFed 0 Sample.supplyInstant) rfl
    (by decide) rfl).2.2.2.1
  obtain ⟨clock, checkerId, reason, hop, p, hp, -, -, hrecent⟩ :=
    hfed a ha hissued (by rw [hid]; exact hbefore)
  have hclock : (fun _ => Sample.supplyInstant) = clock := by
    simp only [SystemOp.platform.injEq, PlatformOp.mint.injEq, MintOp.approve.injEq] at hop
    exact hop.1
  have htime : p.2 ∈ ((((Sample.mintFed 0 Sample.supplyInstant).take 3).foldl Fed.step
      ⟨Sample.unfedReserve, []⟩).ingested.map Prod.snd) := List.mem_map_of_mem hp
  rw [htimes, List.mem_singleton] at htime
  rw [← hclock, htime] at hrecent
  exact absurd hrecent (by decide)

end TrusteeBank
