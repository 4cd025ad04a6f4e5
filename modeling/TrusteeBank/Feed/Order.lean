import TrusteeBank.Feed.Signatures
import TrusteeBank.Lib.Interleave
import TrusteeBank.Services.MintEffects

/-!
# The order of the liability feed

`ingest` reads the latest sequence, verifies the signature and inserts the row as separate steps,
so of two concurrent ingestions the one with the lower sequence may be stored last. The index on
program and sequence still refuses a second row with the same sequence, and the position and the
mint guard take the verified row with the highest sequence, not the last one stored.

**Theorem (`feed_order`).** Whatever ingestions, position reads and guard reads run concurrently,
the snapshots of a program have distinct sequences, and the sequence of the one selected never
decreases.
-/

set_option autoImplicit false

namespace TrusteeBank

open Lib (Call Pool)
open LiabilityService MintService

section

variable [Runtime]

/-! ## The latest row -/

omit [Runtime] in
theorem latestBy_append {ρ : Type} (order : ρ → Int) (rows : List ρ) (r : ρ) :
    latestBy order (rows ++ [r]) = match latestBy order rows with
      | some b => if order b < order r then some r else some b
      | none => some r := by
  unfold latestBy
  rw [List.foldl_append]
  rfl

/-- The sequence of the snapshot the query that `position` and `gatherGuardFacts` share selects. -/
def selectedSequence (w : World) (programId : String) : Option Int :=
  ((ReserveService.latestLiability programId).run w).1.toOption.bind
    (Option.map LiabilitySnapshot.sequence)

theorem selectedSequence_eq (w : World) (programId : String) :
    selectedSequence w programId = (latestVerified w programId).map LiabilitySnapshot.sequence :=
  rfl

/-- The second sequence is no lower than the first, if there is a first. -/
def NotBehind (a b : Option Int) : Prop := ∀ n, a = some n → ∃ m, b = some m ∧ n ≤ m

omit [Runtime] in
theorem NotBehind.refl (a : Option Int) : NotBehind a a := fun n h => ⟨n, h, le_rfl⟩

omit [Runtime] in
theorem NotBehind.trans {a b c : Option Int} (h : NotBehind a b) (h' : NotBehind b c) :
    NotBehind a c := by
  intro n hn
  obtain ⟨m, hm, hle⟩ := h n hn
  obtain ⟨k, hk, hle'⟩ := h' m hm
  exact ⟨k, hk, hle.trans hle'⟩

omit [Runtime] in
/-- One more row does not lower the highest. -/
theorem notBehind_append {ρ : Type} (order : ρ → Int) (rows : List ρ) (r : ρ) :
    NotBehind ((latestBy order rows).map order) ((latestBy order (rows ++ [r])).map order) := by
  intro n hn
  rw [latestBy_append]
  cases hlatest : latestBy order rows with
  | none => simp [hlatest] at hn
  | some b =>
    rw [hlatest, Option.map_some, Option.some.injEq] at hn
    simp only
    split_ifs with hlt
    · exact ⟨order r, rfl, by omega⟩
    · exact ⟨order b, rfl, by omega⟩

/-! ## Steps on the feed -/

/-- No two snapshots of a program have the same sequence. -/
def SequencesDistinct (w : World) : Prop :=
  (w.liabilitySnapshots.rows.map fun s => (s.programId, s.sequence)).Nodup

/-- A step leaves the snapshots alone, or stores one with a sequence its program does not have. -/
def FeedMove (w w' : World) : Prop :=
  w'.liabilitySnapshots = w.liabilitySnapshots ∨
    ∃ row, w'.liabilitySnapshots.rows = w.liabilitySnapshots.rows ++ [row] ∧
      ∀ s ∈ w.liabilitySnapshots.rows, (s.programId, s.sequence) ≠ (row.programId, row.sequence)

/-- The feed is in order, as far as it was before. -/
def KeepsFeed (w w' : World) : Prop :=
  (SequencesDistinct w → SequencesDistinct w') ∧
    ∀ programId, NotBehind (selectedSequence w programId) (selectedSequence w' programId)

theorem KeepsFeed.refl (w : World) : KeepsFeed w w :=
  ⟨id, fun _ => NotBehind.refl _⟩

theorem KeepsFeed.trans (w w' w'' : World) (h : KeepsFeed w w') (h' : KeepsFeed w' w'') :
    KeepsFeed w w'' :=
  ⟨h'.1 ∘ h.1, fun programId => (h.2 programId).trans (h'.2 programId)⟩

/-- **One step keeps the order.** -/
theorem FeedMove.keepsFeed {w w' : World} (h : FeedMove w w') : KeepsFeed w w' := by
  rcases h with h | ⟨row, hrows, hfresh⟩
  · refine ⟨fun hw => ?_, fun programId => ?_⟩
    · unfold SequencesDistinct
      rw [h]
      exact hw
    · simp only [selectedSequence_eq, latestVerified, h]
      exact NotBehind.refl _
  · refine ⟨fun hw => ?_, fun programId => ?_⟩
    · unfold SequencesDistinct
      rw [hrows, List.map_append, List.map_singleton]
      refine List.nodup_append.mpr ⟨hw, List.nodup_singleton _, ?_⟩
      rintro a ha b hb rfl
      obtain ⟨s, hs, rfl⟩ := List.mem_map.mp ha
      exact hfresh s hs (List.mem_singleton.mp hb)
    · simp only [selectedSequence_eq, latestVerified]
      rw [hrows, List.filter_append, List.filter_singleton]
      cases row.programId = programId && row.signatureVerified with
      | false => simpa using NotBehind.refl _
      | true => exact notBehind_append _ _ row

/-! ## The requests -/

/-- A request that writes the feed, or one that reads it. -/
inductive FeedRequest
  | ingest (op : IngestOp)
  | position (clock : Clock) (programId : String)
  | gatherGuardFacts (clock : Clock) (authId : String) (makerCheckerComplete : Bool)

def FeedRequest.call : FeedRequest → Service Unit
  | .ingest op => op.call
  | .position clock programId => (ReserveService.position clock programId).void
  | .gatherGuardFacts clock authId makerCheckerComplete =>
    (MintService.gatherGuardFacts clock authId makerCheckerComplete).void

omit [Runtime] in
theorem checkUnique_eq_ok {taken : Bool} {u : Unit} (h : checkUnique taken = .ok u) :
    taken = false := by
  cases taken
  · rfl
  · cases h

/-- The index on program and sequence. -/
theorem snapshotConstraints_fresh {row : LiabilitySnapshot} {w : World}
    (h : snapshotConstraints row w = .ok ()) : ∀ s ∈ w.liabilitySnapshots.rows,
      (s.programId, s.sequence) ≠ (row.programId, row.sequence) := by
  unfold snapshotConstraints at h
  obtain ⟨_, -, h⟩ := bind_eq_ok.mp h
  obtain ⟨_, -, h⟩ := bind_eq_ok.mp h
  obtain ⟨_, hunique, -⟩ := bind_eq_ok.mp h
  intro s hs heq
  have htaken := List.any_eq_false.mp (checkUnique_eq_ok hunique) s hs
  rw [Prod.mk.injEq] at heq
  simp [heq.1, heq.2] at htaken

/-- **Every step of a request leaves the snapshots alone or stores a fresh one.** -/
theorem FeedRequest.within (request : FeedRequest) : request.call.Within FeedMove := by
  have hkept {α : Type} {x : Service α} (h : x.Keeps World.liabilitySnapshots) :
      x.Within FeedMove := h.within fun _ _ => .inl
  cases request with
  | position clock programId =>
    exact hkept ((position_keeps _ clock programId).bind fun _ => trivial)
  | gatherGuardFacts clock authId makerCheckerComplete =>
    exact hkept ((gatherGuardFacts_keeps _ clock authId makerCheckerComplete).bind
      fun _ => trivial)
  | ingest op =>
    refine Call.Within.bind ?_ fun _ => trivial
    unfold LiabilityService.ingest
    refine (hkept (Call.keeps_lift _ _)).bind fun sequence => ?_
    refine (hkept (Call.keeps_read _ _ _)).bind fun latest => ?_
    refine (hkept (Call.keeps_lift _ _)).bind fun _ => ?_
    refine (hkept (verify_keeps _)).bind fun verified => ?_
    refine (hkept (Call.keeps_lift _ _)).bind fun row => Call.Within.bind ?_ fun _ => trivial
    refine Call.within_query (fun _ => .inl rfl) fun w r w' h => ?_
    obtain ⟨hcheck, -, t, ht, rfl⟩ := Prisma.liabilitySnapshot.createTx_ok h
    exact .inr ⟨row, (Lib.Table.insert?_eq_some ht).1, snapshotConstraints_fresh hcheck⟩

/-! ## Every schedule -/

/-- **The feed stays in order.** At any two moments of any interleaving, the snapshots of a program
have distinct sequences, and the one selected later has no lower a sequence. -/
theorem feed_order {ι : Type} [DecidableEq ι] {w : World} (hw : SequencesDistinct w)
    (requests : ι → FeedRequest) (schedule later : List ι) (programId : String) :
    let p := (Pool.start w fun i => (requests i).call).exec schedule
    SequencesDistinct p.state ∧ SequencesDistinct (p.exec later).state ∧
      NotBehind (selectedSequence p.state programId)
        (selectedSequence (p.exec later).state programId) := by
  intro p
  obtain ⟨hcalls, hbefore⟩ := Pool.rel_exec KeepsFeed.refl KeepsFeed.trans
    (fun _ _ => FeedMove.keepsFeed)
    (p := Pool.start w fun i => (requests i).call) (fun i => (requests i).within) schedule
  obtain ⟨-, hafter⟩ := Pool.rel_exec KeepsFeed.refl KeepsFeed.trans
    (fun _ _ => FeedMove.keepsFeed) hcalls later
  exact ⟨hbefore.1 hw, hafter.1 (hbefore.1 hw), hafter.2 programId⟩

end

/-! ## The lower sequence is stored last -/

namespace Sample

attribute [local instance] keyed

/-- Two ingestions, of the sequences 1 and 2. -/
def twoFeeds : Bool → FeedRequest
  | false => .ingest ⟨supply "1" none, "L1"⟩
  | true => .ingest ⟨supply "2" none, "L2"⟩

end Sample

attribute [local instance] Sample.keyed

theorem feed_order_example :
    let p := (Pool.start Sample.unfed fun i => (Sample.twoFeeds i).call).exec
      [true, false, true, true]
    selectedSequence p.state "P1" = some 2 ∧
      (p.exec [false, false]).state.liabilitySnapshots.rows.map (·.sequence) = [2, 1] ∧
      NotBehind (selectedSequence p.state "P1")
        (selectedSequence (p.exec [false, false]).state "P1") := by
  have horder := feed_order (w := Sample.unfed) List.nodup_nil Sample.twoFeeds
    [true, false, true, true] [false, false] "P1"
  exact ⟨by decide +kernel, by decide +kernel, horder.2.2⟩

end TrusteeBank
