import TrusteeBank.Decimals
import TrusteeBank.Services.ReserveRecords
import Mathlib.Logic.Function.Basic

/-!
# What the served proof of reserve shows

The content of a reserve snapshot is signed with the instant it is taken. The instant is neither
stored nor served: a snapshot is served with the instant the database inserted it. So the signed
content can be computed from the served fields only where those determine the instant.

**Theorem (`recoverable_iff`).** For any set of snapshots there is a function of the served fields
other than signature and hash that returns the content that was signed, exactly when any two of
them that are taken of one record were signed at instants with the same text.

Everything else that is signed is served under another name or is constant (`signed_eq`), so the
question is whether the text of the instant factors through the served fields, and these are equal
exactly for snapshots of one record (`sameRecord_iff`).

* `createSnapshot_stores`: what a snapshot leaves in the database;
* `recovers_createdAt_iff`: the time of insertion can be used exactly where the two instants have
  the same text;
* `not_recoverable`: over all clocks there is no such function.
-/

set_option autoImplicit false

namespace TrusteeBank

open Lib (Call)
open ReserveService

section

variable [Runtime]

/-! ## What a snapshot leaves -/

theorem run_program (programId : String) (w : World) :
    (program programId).run w = (orThrow (w.programs.find? programId)
      (.notFound ("Program " ++ programId ++ " not found")), w) := rfl

/-- The content of a position that can be read. -/
theorem run_observedContent_of {w : World} {clock : Clock} {programId : String}
    {pos : ReservePosition} {program : Program}
    (hpos : positionAt w (clock 0) programId = .ok pos)
    (hprogram : w.programs.find? programId = some program) :
    (observedContent clock programId).run w =
      (.ok (pos, snapshotContent pos programId program.assetId (isoString (clock 1))), w) := by
  unfold observedContent
  rw [Call.run_bind, run_position, hpos]
  simp only
  rw [Call.run_bind, run_program, hprogram]
  rfl

/-- Observing the position changes nothing. -/
theorem run_observedContent (clock : Clock) (programId : String) (w : World) :
    (∃ e, (observedContent clock programId).run w = (.error e, w)) ∨
      ∃ p pos, w.programs.find? programId = some p ∧
        positionAt w (clock 0) programId = .ok pos ∧
        (observedContent clock programId).run w =
          (.ok (pos, snapshotContent pos programId p.assetId (isoString (clock 1))), w) := by
  cases hpos : positionAt w (clock 0) programId with
  | error e =>
    unfold observedContent
    rw [Call.run_bind, run_position, hpos]
    exact .inl ⟨e, rfl⟩
  | ok pos =>
    obtain ⟨p, hp, -⟩ := positionAt_ok hpos
    exact .inr ⟨p, pos, hp, rfl, run_observedContent_of hpos hp⟩

/-- **What was signed is what was observed, and the row is stored under its identifier.** -/
theorem createSnapshot_stores {sha256Hex : String → String} {clock : Clock}
    {programId id : String} {createdAt : Int} {w w' : World} {r : SnapshotResult}
    (h : (createSnapshot sha256Hex clock programId id createdAt).run w = (.ok r, w')) :
    ∃ (p : Program) (pos : ReservePosition) (hash : String),
      w.programs.find? programId = some p ∧ positionAt w (clock 0) programId = .ok pos ∧
      (observedContent clock programId).run w =
        (.ok (pos, snapshotContent pos programId p.assetId (isoString (clock 1))), w) ∧
      w'.reserveSnapshots.find? id = some (createdSnapshot pos
        (snapshotContent pos programId p.assetId (isoString (clock 1)))
        (signPayload .reserveSnapshot
          (snapshotContent pos programId p.assetId (isoString (clock 1))).json)
        hash id createdAt) := by
  unfold createSnapshot at h
  rw [Call.run_bind] at h
  rcases run_observedContent clock programId w with ⟨e, hfails⟩ | ⟨p, pos, hp, hpos, hobserved⟩
  · rw [hfails] at h
    cases h
  · rw [hobserved] at h
    simp only at h
    rw [Call.run_lift_bind] at h
    set content := snapshotContent pos programId p.assetId (isoString (clock 1)) with hcontent
    cases hhash : contentHashOf sha256Hex content with
    | error e =>
      rw [hhash] at h
      cases h
    | ok hash =>
      rw [hhash] at h
      simp only at h
      rw [Call.run_bind] at h
      rcases Entity.run_create_cases Prisma.reserveSnapshot _ (createdSnapshot pos content
        (signPayload .reserveSnapshot content.json) hash id createdAt) w with
        ⟨e, hfails⟩ | ⟨t, -, ht, hstored⟩
      · rw [hfails] at h
        cases h
      · refine ⟨p, pos, hash, hp, hpos, hobserved, ?_⟩
        rw [hstored] at h
        simp only at h
        have hp' : (Prisma.reserveSnapshot.set t w).programs.find? programId = some p := hp
        rw [Call.run_bind, run_program, hp'] at h
        simp only [orThrow] at h
        rw [Call.run_bind, run_publishWithArtifact] at h
        simp only at h
        have hkept : w'.reserveSnapshots = t := by
          unfold announceShortfall at h
          split_ifs at h
          · rw [Call.run_bind, run_publish] at h
            exact (congrArg (fun out => out.2.reserveSnapshots) h).symm
          · exact (congrArg (fun out => out.2.reserveSnapshots) h).symm
        rw [hkept, Lib.Table.find?_insert? ht]
        exact if_pos rfl

/-! ## Signed and served -/

/-- What is served, other than the signature and the hash. -/
structure PublicSnapshot where
  snapshotId : String
  programId : String
  assetId : String
  referenceCurrency : String
  eligibleReserveMinor : String
  circulatingLiabilityMinor : String
  requiredReserveMinor : String
  surplusMinor : String
  reserveRatioBps : Option Int
  reconciliationStatus : String
  createdAt : String
deriving DecidableEq, Repr

def ServedSnapshot.unsigned (s : ServedSnapshot) : PublicSnapshot where
  snapshotId := s.snapshotId
  programId := s.programId
  assetId := s.assetId
  referenceCurrency := s.referenceCurrency
  eligibleReserveMinor := s.eligibleReserveMinor
  circulatingLiabilityMinor := s.circulatingLiabilityMinor
  requiredReserveMinor := s.requiredReserveMinor
  surplusMinor := s.surplusMinor
  reserveRatioBps := s.reserveRatioBps
  reconciliationStatus := s.reconciliationStatus
  createdAt := s.createdAt

/-- The content, were it signed at an instant with this text. -/
def PublicSnapshot.contentAt (s : PublicSnapshot) (timestamp : String) : SnapshotContent where
  programId := s.programId
  assetId := s.assetId
  referenceCurrency := s.referenceCurrency
  timestamp := timestamp
  eligibleReserveMinor := s.eligibleReserveMinor
  circulatingLiabilityMinor := s.circulatingLiabilityMinor
  requiredReserveMinor := s.requiredReserveMinor
  surplusMinor := s.surplusMinor
  reserveRatioBps := s.reserveRatioBps
  dataSources := ["reserve-subledger", "paychain-liability-feed"]

/-- A snapshot that was taken: in which state, when, and under which identifier. The database
inserts it at the instant it is signed or later. -/
structure TakenSnapshot where
  state : World
  sha256Hex : String → String
  clock : Clock
  programId : String
  id : String
  createdAt : Int
  after : clock 1 ≤ createdAt
  result : SnapshotResult
  succeeded : ((createSnapshot sha256Hex clock programId id createdAt).run state).1 = .ok result

namespace TakenSnapshot

/-- The state it leaves. -/
def leaves (t : TakenSnapshot) : World :=
  ((createSnapshot t.sha256Hex t.clock t.programId t.id t.createdAt).run t.state).2

/-- The text of the instant it is signed at. -/
def signedAt (t : TakenSnapshot) : String := isoString (t.clock 1)

/-- The content that was signed. -/
def Signs (t : TakenSnapshot) (content : SnapshotContent) : Prop :=
  ∃ pos, ((observedContent t.clock t.programId).run t.state).1 = .ok (pos, content)

/-- What `getSnapshot` serves of it. -/
def Serves (t : TakenSnapshot) (s : ServedSnapshot) : Prop :=
  ((getSnapshot t.id).run t.leaves).1 = .ok s

/-- The program and the position it is taken of. -/
structure Of (t : TakenSnapshot) (p : Program) (pos : ReservePosition) : Prop where
  enrolled : t.state.programs.find? t.programId = some p
  position : positionAt t.state (t.clock 0) t.programId = .ok pos

theorem Of.unique {t : TakenSnapshot} {p p' : Program} {pos pos' : ReservePosition}
    (h : t.Of p pos) (h' : t.Of p' pos') : p = p' ∧ pos = pos' :=
  ⟨Option.some.inj (h.enrolled.symm.trans h'.enrolled),
    Except.ok.inj (h.position.symm.trans h'.position)⟩

end TakenSnapshot

/-- The figures of a position that are served. -/
def figures (pos : ReservePosition) : String × Int × Int × Int × Int × Option Int :=
  (pos.currency, pos.eligibleReserve.minor, pos.reserveObligation.minor, pos.requiredReserve.minor,
    pos.surplus.minor, pos.reserveRatioBps)

/-- Two snapshots are taken of one record: under one identifier, of one program and asset, with the
same figures, and with times of insertion of the same text. -/
def SameRecord (t t' : TakenSnapshot) : Prop :=
  t.id = t'.id ∧ t.programId = t'.programId ∧ isoString t.createdAt = isoString t'.createdAt ∧
    ∃ p pos p' pos', t.Of p pos ∧ t'.Of p' pos' ∧ p.assetId = p'.assetId ∧
      figures pos = figures pos'

theorem run_getSnapshot {w : World} {id : String} {row : ReserveSnapshot}
    (h : w.reserveSnapshots.find? id = some row) :
    (getSnapshot id).run w = (.ok (serializeSnapshot row), w) := by
  unfold getSnapshot
  rw [Call.run_bind, Entity.run_findUnique]
  simp only [Prisma.reserveSnapshot_get]
  rw [Call.run_lift_bind, h]
  rfl

/-- What `latestSnapshot` serves, `getSnapshot` serves under its identifier. -/
theorem latestSnapshot_served {w : World} {programId : String} {s : ServedSnapshot}
    (h : ((latestSnapshot programId).run w).1 = .ok s) :
    ((getSnapshot s.snapshotId).run w).1 = .ok s := by
  unfold latestSnapshot at h
  rw [Call.run_bind, Entity.run_findLatest] at h
  simp only [Prisma.reserveSnapshot_get] at h
  rw [Call.run_lift_bind] at h
  cases hrow : latestBy ReserveSnapshot.createdAt
      (w.reserveSnapshots.rows.filter fun s => s.programId = programId) with
  | none =>
    rw [hrow] at h
    cases h
  | some row =>
    rw [hrow] at h
    obtain rfl : serializeSnapshot row = s := Except.ok.inj h
    have hfound : w.reserveSnapshots.find? row.id = some row :=
      Lib.Table.find?_key_of_mem (List.mem_of_mem_filter (mem_of_latestBy hrow))
    exact congrArg Prod.fst (run_getSnapshot hfound)

/-- What is served is the row of the position. -/
theorem TakenSnapshot.served (t : TakenSnapshot) :
    ∃ p pos hash, t.Of p pos ∧
      (observedContent t.clock t.programId).run t.state =
        (.ok (pos, snapshotContent pos t.programId p.assetId t.signedAt), t.state) ∧
      t.Serves (serializeSnapshot (createdSnapshot pos
        (snapshotContent pos t.programId p.assetId t.signedAt)
        (signPayload .reserveSnapshot
          (snapshotContent pos t.programId p.assetId t.signedAt).json)
        hash t.id t.createdAt)) := by
  obtain ⟨p, pos, hash, hp, hpos, hobserved, hstored⟩ := createSnapshot_stores
    (Prod.ext t.succeeded rfl : (createSnapshot t.sha256Hex t.clock t.programId t.id
      t.createdAt).run t.state = (.ok t.result, t.leaves))
  exact ⟨p, pos, hash, ⟨hp, hpos⟩, hobserved, congrArg Prod.fst (run_getSnapshot hstored)⟩

/-- Every snapshot is signed and served, and the two agree but for the instant. -/
theorem TakenSnapshot.signed (t : TakenSnapshot) :
    ∃ s, t.Serves s ∧ t.Signs (s.unsigned.contentAt t.signedAt) ∧
      s.unsigned.createdAt = isoString t.createdAt := by
  obtain ⟨p, pos, hash, -, hobserved, hserved⟩ := t.served
  refine ⟨_, hserved, ⟨pos, ?_⟩, rfl⟩
  rw [hobserved]
  rfl

/-- **The same fields are served exactly of one record.** -/
theorem sameRecord_iff {t t' : TakenSnapshot} {s s' : ServedSnapshot} (hs : t.Serves s)
    (hs' : t'.Serves s') : SameRecord t t' ↔ s.unsigned = s'.unsigned := by
  obtain ⟨p, pos, hash, hof, -, hserved⟩ := t.served
  obtain ⟨p', pos', hash', hof', -, hserved'⟩ := t'.served
  obtain rfl := Except.ok.inj (hserved.symm.trans hs)
  obtain rfl := Except.ok.inj (hserved'.symm.trans hs')
  simp only [ServedSnapshot.unsigned, serializeSnapshot, createdSnapshot, snapshotContent,
    PublicSnapshot.mk.injEq]
  constructor
  · rintro ⟨hid, hprogram, hcreated, q, o, q', o', hq, hq', hasset, hfigures⟩
    obtain ⟨rfl, rfl⟩ := hof.unique hq
    obtain ⟨rfl, rfl⟩ := hof'.unique hq'
    simp only [figures, Prod.mk.injEq] at hfigures
    obtain ⟨hcurrency, heligible, hobligation, hrequired, hsurplus, hratio⟩ := hfigures
    exact ⟨hid, hprogram, hasset, hcurrency, congrArg _ heligible, congrArg _ hobligation,
      congrArg _ hrequired, congrArg _ hsurplus, hratio, by rw [hsurplus], hcreated⟩
  · rintro ⟨hid, hprogram, hasset, hcurrency, heligible, hobligation, hrequired, hsurplus, hratio, -,
      hcreated⟩
    refine ⟨hid, hprogram, hcreated, p, pos, p', pos', hof, hof', hasset, ?_⟩
    simp only [figures, Prod.mk.injEq]
    exact ⟨hcurrency, toString_injective heligible, toString_injective hobligation,
      toString_injective hrequired, toString_injective hsurplus, hratio⟩

/-- **What is signed is what is served, at the instant it was signed.** -/
theorem signed_eq {t : TakenSnapshot} {s : ServedSnapshot} {content : SnapshotContent}
    (hs : t.Serves s) (hcontent : t.Signs content) :
    content = s.unsigned.contentAt t.signedAt ∧ s.unsigned.createdAt = isoString t.createdAt := by
  obtain ⟨s', hs', ⟨pos', hsigned⟩, hcreated⟩ := t.signed
  obtain ⟨pos, hcontent⟩ := hcontent
  obtain rfl : s' = s := Except.ok.inj (hs'.symm.trans hs)
  exact ⟨(Prod.mk.inj (Except.ok.inj (hcontent.symm.trans hsigned))).2, hcreated⟩

/-! ## Recovering what was signed -/

/-- The function returns the signed content of every snapshot of the set. -/
def Recovers (f : PublicSnapshot → SnapshotContent) (S : Set TakenSnapshot) : Prop :=
  ∀ t ∈ S, ∀ s content, t.Serves s → t.Signs content → f s.unsigned = content

/-- Snapshots of one record are signed at instants with the same text. -/
def DeterminesInstant (S : Set TakenSnapshot) : Prop :=
  ∀ t ∈ S, ∀ t' ∈ S, SameRecord t t' → t.signedAt = t'.signedAt

/-- **When the signed content can be recovered.** -/
theorem recoverable_iff (S : Set TakenSnapshot) :
    (∃ f, Recovers f S) ↔ DeterminesInstant S := by
  constructor
  · rintro ⟨f, hf⟩ t ht t' ht' hrecord
    obtain ⟨r, hs, hsigned, -⟩ := t.signed
    obtain ⟨r', hs', hsigned', -⟩ := t'.signed
    have hsame := (sameRecord_iff hs hs').mp hrecord
    have hcontent : f r.unsigned = r.unsigned.contentAt t.signedAt := hf t ht r _ hs hsigned
    have hcontent' : f r'.unsigned = r'.unsigned.contentAt t'.signedAt :=
      hf t' ht' r' _ hs' hsigned'
    rw [hsame, hcontent'] at hcontent
    exact (congrArg SnapshotContent.timestamp hcontent).symm
  · intro h
    -- The text of the instant factors through the served fields.
    let served := { x : TakenSnapshot × ServedSnapshot // x.1 ∈ S ∧ x.1.Serves x.2 }
    have hfactors : Function.FactorsThrough (fun x : served => x.1.1.signedAt)
        (fun x : served => x.1.2.unsigned) :=
      fun x y hxy => h x.1.1 x.2.1 y.1.1 y.2.1 ((sameRecord_iff x.2.2 y.2.2).mpr hxy)
    obtain ⟨instant, hinstant⟩ := (Function.factorsThrough_iff _).mp hfactors
    refine ⟨fun s => s.contentAt (instant s), fun t ht s content hs hcontent => ?_⟩
    rw [(signed_eq hs hcontent).1]
    exact congrArg s.unsigned.contentAt (congrFun hinstant ⟨(t, s), ht, hs⟩).symm

/-- The time of insertion will do exactly where it has the text of the instant of signing. -/
theorem recovers_createdAt_iff (S : Set TakenSnapshot) :
    Recovers (fun s => s.contentAt s.createdAt) S ↔
      ∀ t ∈ S, t.signedAt = isoString t.createdAt := by
  constructor
  · intro h t ht
    obtain ⟨s, hs, hsigned, hcreated⟩ := t.signed
    have hrecovered := h t ht s _ hs hsigned
    rw [← hcreated]
    exact (congrArg SnapshotContent.timestamp hrecovered).symm
  · intro h t ht s content hs hcontent
    obtain ⟨rfl, hcreated⟩ := signed_eq hs hcontent
    show s.unsigned.contentAt s.unsigned.createdAt = _
    rw [hcreated, h t ht]

end

/-! ## Two instants, one proof -/

namespace Sample

attribute [local instance] Runtime.ascii

/-- A program without deposits. -/
def provenProgram : Program where
  id := "P1"
  issuerId := "I1"
  assetId := "A1"
  referenceCurrency := "USD"
  requiredRatioBps := 10000
  safetyBufferBps := 0
  status := .active

def provenWorld : World :=
  { World.empty with programs := ⟨[provenProgram], List.nodup_singleton _⟩ }

/-- A snapshot signed at the epoch and inserted two seconds later. -/
def early : TakenSnapshot where
  state := provenWorld
  sha256Hex _ := "hash"
  clock _ := 0
  programId := "P1"
  id := "S1"
  createdAt := 2000
  after := by decide
  result := ⟨"S1", none⟩
  succeeded := by decide +kernel

/-- The same snapshot signed a second later. -/
def late : TakenSnapshot where
  state := provenWorld
  sha256Hex _ := "hash"
  clock _ := 1000
  programId := "P1"
  id := "S1"
  createdAt := 2000
  after := by decide
  result := ⟨"S1", none⟩
  succeeded := by decide +kernel

def emptyProof : PublicSnapshot where
  snapshotId := "S1"
  programId := "P1"
  assetId := "A1"
  referenceCurrency := "USD"
  eligibleReserveMinor := "0"
  circulatingLiabilityMinor := "0"
  requiredReserveMinor := "0"
  surplusMinor := "0"
  reserveRatioBps := none
  reconciliationStatus := "OK"
  createdAt := "1970-01-01T00:00:02.000Z"

end Sample

open Sample

section

attribute [local instance] Runtime.ascii

/-- **No function of the served fields returns the signed content for every clock.** -/
theorem not_recoverable : ¬∃ f, Recovers f Set.univ := by
  rw [recoverable_iff]
  intro h
  have hserved (t : TakenSnapshot) (ht : ((getSnapshot t.id).run t.leaves).1.map
      ServedSnapshot.unsigned = .ok emptyProof) : ∃ s, t.Serves s ∧ s.unsigned = emptyProof := by
    obtain ⟨s, hs, -, -⟩ := t.signed
    rw [show ((getSnapshot t.id).run t.leaves).1 = .ok s from hs] at ht
    exact ⟨s, hs, Except.ok.inj ht⟩
  obtain ⟨s, hs, hpublic⟩ := hserved early (by decide +kernel)
  obtain ⟨s', hs', hpublic'⟩ := hserved late (by decide +kernel)
  have hrecord := (sameRecord_iff hs hs').mpr (hpublic.trans hpublic'.symm)
  have hsame := h early trivial late trivial hrecord
  exact absurd hsame (by decide +kernel)

end

end TrusteeBank
