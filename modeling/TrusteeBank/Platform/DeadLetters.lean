import TrusteeBank.Services.Scheduler

/-!
# Reported dead letters

The dead-letter alert reads the hundred newest dead letters, leaves out those it remembers, and
reports the rest. What it remembers does not move the window: the hundred newest stay the hundred
newest, and an event behind them is never read.

**State** (`CronState.Consistent`). The set in Redis has the events that were listed, and none of
them was listed twice.

* `run_deadLetterAlert`: what one run reports;
* `reported_iff`: runs enough list every dead letter, and none twice, exactly when those behind the
  newest hundred have been listed before;
* `old_dead_letter_unreported`: of 101 dead letters one is never listed.
-/

set_option autoImplicit false

namespace TrusteeBank

open Lib (Call)

/-! ## What was listed -/

namespace CronState

/-- The events the notifications list, in their order. -/
def listedIds (s : CronState) : List String := s.notices.flatMap Notice.listed

/-- The set in Redis has the events that were listed, each of them once. -/
structure Consistent (s : CronState) : Prop where
  sent : ∀ id, id ∈ s.sent ↔ id ∈ s.listedIds
  once : s.listedIds.Nodup

/-- Every dead letter has been listed. -/
def AllReported (s : CronState) : Prop :=
  ∀ r ∈ s.events.rows, r.deadLettered = true → r.id ∈ s.listedIds

/-- What the next run reports. -/
def fresh (s : CronState) : List DeadLetter := s.dead.filter fun d => d.id ∉ s.sent

/-- The state after a run that reaches Redis and whose notification is delivered. -/
def alerted (s : CronState) : CronState :=
  if s.fresh = [] then s
  else { s with
    notices := s.notices ++ [.deadLetters s.fresh]
    sent := s.sent ++ s.fresh.map DeadLetter.id }

/-! ## The window -/

theorem mem_deadLettered {s : CronState} {r : OutboxRow} :
    r ∈ s.deadLettered ↔ r ∈ s.events.rows ∧ r.deadLettered = true := by
  unfold deadLettered
  rw [List.mem_mergeSort, List.mem_filter]

theorem nodup_deadLettered (s : CronState) : (s.deadLettered.map fun r => r.id).Nodup := by
  have hperm := List.mergeSort_perm (s.events.rows.filter fun r => r.deadLettered)
    fun a b => decide (b.sequence ≤ a.sequence)
  exact (hperm.map _).nodup_iff.mpr (s.events.nodup.sublist (List.filter_sublist.map _))

theorem dead_ids (s : CronState) :
    s.dead.map DeadLetter.id = (s.deadLettered.map fun r => r.id).take 100 := by
  unfold dead
  rw [List.map_map, List.map_take]
  rfl

theorem nodup_dead (s : CronState) : (s.dead.map DeadLetter.id).Nodup := by
  rw [dead_ids]
  exact s.nodup_deadLettered.sublist (List.take_sublist _ _)

/-- A dead letter is in the window or behind it, and not both. -/
theorem mem_dead_or_drop {s : CronState} {r : OutboxRow} (hr : r ∈ s.deadLettered) :
    r.id ∈ s.dead.map DeadLetter.id ∨ r ∈ s.deadLettered.drop 100 := by
  rw [← List.take_append_drop 100 s.deadLettered, List.mem_append] at hr
  refine hr.imp (fun hr => ?_) id
  rw [dead_ids, ← List.map_take]
  exact List.mem_map_of_mem hr

theorem not_mem_dead_of_drop {s : CronState} {r : OutboxRow} (hr : r ∈ s.deadLettered.drop 100) :
    r.id ∉ s.dead.map DeadLetter.id := by
  have hnodup := s.nodup_deadLettered
  rw [← List.take_append_drop 100 s.deadLettered, List.map_append] at hnodup
  intro hdead
  rw [dead_ids, ← List.map_take] at hdead
  exact (List.nodup_append.mp hnodup).2.2 _ hdead _ (List.mem_map_of_mem hr) rfl

/-! ## One run -/

theorem alerted_events (s : CronState) : s.alerted.events = s.events := by
  unfold alerted
  split_ifs <;> rfl

theorem alerted_dead (s : CronState) : s.alerted.dead = s.dead := by
  unfold dead deadLettered
  rw [alerted_events]

theorem alerted_sent (s : CronState) :
    s.alerted.sent = s.sent ++ s.fresh.map DeadLetter.id := by
  unfold alerted
  split_ifs with h
  · rw [h, List.map_nil, List.append_nil]
  · rfl

theorem alerted_listedIds (s : CronState) :
    s.alerted.listedIds = s.listedIds ++ s.fresh.map DeadLetter.id := by
  unfold alerted
  split_ifs with h
  · rw [h, List.map_nil, List.append_nil]
  · simp [listedIds, Notice.listed]

/-- What is in the window is remembered or reported. -/
theorem mem_sent_or_fresh {s : CronState} {id : String} (h : id ∈ s.dead.map DeadLetter.id) :
    id ∈ s.sent ∨ id ∈ s.fresh.map DeadLetter.id := by
  obtain ⟨d, hd, rfl⟩ := List.mem_map.mp h
  by_cases hsent : d.id ∈ s.sent
  · exact .inl hsent
  · exact .inr (List.mem_map_of_mem (List.mem_filter.mpr ⟨hd, by simpa using hsent⟩))

theorem fresh_subset {s : CronState} {id : String} (h : id ∈ s.fresh.map DeadLetter.id) :
    id ∈ s.dead.map DeadLetter.id :=
  (List.filter_sublist.map DeadLetter.id).subset h

/-- The next run has nothing to report. -/
theorem alerted_alerted (s : CronState) : s.alerted.alerted = s.alerted := by
  have hfresh : s.alerted.fresh = [] := by
    unfold fresh
    rw [List.filter_eq_nil_iff, alerted_dead]
    intro d hd
    have hmem := mem_sent_or_fresh (List.mem_map_of_mem (f := DeadLetter.id) hd)
    rw [← List.mem_append, ← alerted_sent] at hmem
    simpa using hmem
  exact if_pos hfresh

theorem Consistent.alerted {s : CronState} (h : s.Consistent) : s.alerted.Consistent := by
  constructor
  · intro id
    rw [alerted_sent, alerted_listedIds, List.mem_append, List.mem_append, h.sent]
  · rw [alerted_listedIds, List.nodup_append]
    refine ⟨h.once, s.nodup_dead.sublist (List.filter_sublist.map _), ?_⟩
    rintro id hlisted other hother rfl
    obtain ⟨d, hd, hid⟩ := List.mem_map.mp hother
    have hsent := (h.sent id).mpr hlisted
    have hnot := (List.mem_filter.mp hd).2
    simp only [hid, decide_eq_true_eq] at hnot
    exact hnot hsent

/-- What has been listed after a run: what had been before, and the window. -/
theorem Consistent.mem_listedIds {s : CronState} (h : s.Consistent) {id : String} :
    id ∈ s.alerted.listedIds ↔ id ∈ s.listedIds ∨ id ∈ s.dead.map DeadLetter.id := by
  rw [alerted_listedIds, List.mem_append]
  constructor
  · exact fun hid => hid.imp_right fresh_subset
  · rintro (hid | hid)
    · exact .inl hid
    · rcases mem_sent_or_fresh hid with hsent | hfresh
      · exact .inl ((h.sent id).mp hsent)
      · exact .inr hfresh

/-- A run leaves nothing unreported exactly when what is behind the window has been listed. -/
theorem Consistent.allReported_iff {s : CronState} (h : s.Consistent) :
    s.alerted.AllReported ↔ ∀ r ∈ s.deadLettered.drop 100, r.id ∈ s.listedIds := by
  unfold AllReported
  rw [alerted_events]
  constructor
  · intro hall r hr
    obtain ⟨hmem, hdead⟩ := mem_deadLettered.mp (List.mem_of_mem_drop hr)
    exact (h.mem_listedIds.mp (hall r hmem hdead)).resolve_right (not_mem_dead_of_drop hr)
  · intro hbehind r hr hdead
    refine h.mem_listedIds.mpr ?_
    rcases mem_dead_or_drop (mem_deadLettered.mpr ⟨hr, hdead⟩) with hwindow | hdrop
    · exact .inr hwindow
    · exact .inl (hbehind r hdrop)

end CronState

section

variable [Runtime]

/-! ## Runs of the job -/

/-- Redis answers, and the notification is delivered. -/
def CronPass.Reliable (pass : CronPass) : Prop :=
  (∃ answers, pass.redis = some answers ∧ ∀ command, answers command = true) ∧
    pass.delivers = true

/-- Run the job once. -/
def alertStep (s : SchedulerState) (pass : CronPass) : SchedulerState :=
  ((SchedulerService.deadLetterAlert pass).run s).2

/-- **What one run reports.** -/
theorem run_deadLetterAlert {pass : CronPass} (hpass : pass.Reliable) (s : SchedulerState) :
    alertStep s pass = (s.1, s.2.alerted) := by
  obtain ⟨⟨answers, hredis, hanswers⟩, hdelivers⟩ := hpass
  unfold alertStep SchedulerService.deadLetterAlert
  rw [Call.run_read_bind]
  simp only [hredis]
  unfold SchedulerService.unsent
  rw [Call.run_read_bind, if_pos (hanswers _)]
  have hfresh : (s.2.dead.filter fun d => d.id ∉ s.2.sent) = s.2.fresh := rfl
  rw [hfresh]
  unfold CronState.alerted
  split_ifs with h
  · rfl
  · unfold SchedulerService.notify SchedulerService.sadd
    rw [Call.run_bind, Call.run_query, if_pos hdelivers]
    simp only
    rw [Call.run_query, if_pos (hanswers _)]

/-- After a first run, more runs change nothing. -/
theorem run_alerts {passes : List CronPass} (hpasses : ∀ pass ∈ passes, pass.Reliable)
    (hne : passes ≠ []) (s : SchedulerState) :
    passes.foldl alertStep s = (s.1, s.2.alerted) := by
  induction passes generalizing s with
  | nil => exact absurd rfl hne
  | cons pass passes ih =>
    rw [List.foldl_cons, run_deadLetterAlert (hpasses pass List.mem_cons_self)]
    by_cases hrest : passes = []
    · rw [hrest]
      rfl
    · rw [ih (fun p hp => hpasses p (List.mem_cons_of_mem _ hp)) hrest]
      simp only [CronState.alerted_alerted]

theorem consistent_run {passes : List CronPass} (hpasses : ∀ pass ∈ passes, pass.Reliable)
    {s : SchedulerState} (hs : s.2.Consistent) : (passes.foldl alertStep s).2.Consistent := by
  by_cases hne : passes = []
  · rw [hne]
    exact hs
  · rw [run_alerts hpasses hne]
    exact hs.alerted

/-- A pass on which nothing fails. -/
def reliablePass : CronPass where
  clock := fun _ => 0
  redis := some fun _ => true
  delivers := true
  program _ :=
    { code := "", snapshotClock := fun _ => 0, snapshotId := "", snapshotCreatedAt := 0
      runClock := fun _ => 0, runId := "", runCreatedAt := 0, positionClock := fun _ => 0 }

omit [Runtime] in
theorem reliable_replicate (n : Nat) : ∀ pass ∈ List.replicate n reliablePass, pass.Reliable := by
  intro pass hpass
  rw [(List.mem_replicate.mp hpass).2]
  exact ⟨⟨_, rfl, fun _ => rfl⟩, rfl⟩

/-- **Every dead letter is listed and none twice**, after runs enough, exactly when those behind
the newest hundred have been listed before. -/
theorem reported_iff {s : SchedulerState} (hs : s.2.Consistent) :
    (∃ n, ∀ passes : List CronPass, (∀ pass ∈ passes, pass.Reliable) → n ≤ passes.length →
      (passes.foldl alertStep s).2.AllReported ∧
        (passes.foldl alertStep s).2.listedIds.Nodup) ↔
      ∀ r ∈ s.2.deadLettered.drop 100, r.id ∈ s.2.listedIds := by
  rw [← hs.allReported_iff]
  constructor
  · rintro ⟨n, h⟩
    have hreported := (h (List.replicate (n + 1) reliablePass) (reliable_replicate _)
      (by simp)).1
    rwa [run_alerts (reliable_replicate _) (by simp)] at hreported
  · intro hreported
    refine ⟨1, fun passes hpasses hlength => ⟨?_, (consistent_run hpasses hs).once⟩⟩
    rw [run_alerts hpasses (List.ne_nil_of_length_pos hlength)]
    exact hreported

end

/-! ## A hundred and one dead letters -/

attribute [local instance] Runtime.ascii

namespace Sample

/-- A dead letter. -/
def deadEvent (n : Nat) : OutboxRow where
  eventType := "mint.confirmed"
  targetPlatform := "PAYCHAIN"
  payload := .null
  artifact := none
  signatureKeyId := "key-1"
  signatureValue := "signature"
  id := String.ofList (List.replicate n 'e')
  sequence := n
  createdAt := 0
  deliveredAt := none
  attempts := 8
  deadLettered := true
  payload_json := rfl

theorem deadEvent_id_inj {m n : Nat} (h : (deadEvent m).id = (deadEvent n).id) : m = n := by
  have hlist := congrArg (fun s : String => s.toList.length) h
  simpa [deadEvent] using hlist

/-- Dead letters of which none was reported. -/
def backlog (n : Nat) : SchedulerState :=
  (World.empty, {
    events := ⟨(List.range n).map deadEvent, by
      rw [List.map_map]
      exact List.nodup_range.map fun _ _ h => deadEvent_id_inj h⟩
    locks := []
    sent := []
    notices := [] })

theorem backlog_consistent (n : Nat) : (backlog n).2.Consistent :=
  ⟨fun _ => Iff.rfl, List.nodup_nil⟩

theorem backlog_deadLettered (n : Nat) : (backlog n).2.deadLettered.length = n := by
  have hall : ((backlog n).2.events.rows.filter fun r => r.deadLettered) =
      (List.range n).map deadEvent := by
    refine List.filter_eq_self.mpr fun r hr => ?_
    obtain ⟨k, -, rfl⟩ := List.mem_map.mp hr
    rfl
  unfold CronState.deadLettered
  rw [List.length_mergeSort, hall, List.length_map, List.length_range]

end Sample

/-- A backlog of a hundred is reported. -/
theorem reported_hundred :
    ∃ n, ∀ passes : List CronPass, (∀ pass ∈ passes, pass.Reliable) → n ≤ passes.length →
      (passes.foldl alertStep (Sample.backlog 100)).2.AllReported ∧
        (passes.foldl alertStep (Sample.backlog 100)).2.listedIds.Nodup := by
  refine (reported_iff (Sample.backlog_consistent 100)).mpr fun r hr => ?_
  rw [List.drop_eq_nil_of_le (le_of_eq (Sample.backlog_deadLettered 100))] at hr
  cases hr

/-- Of a hundred and one dead letters one is never listed. -/
theorem old_dead_letter_unreported : ¬∀ [Runtime] (s : SchedulerState), s.2.Consistent →
    ∃ n, ∀ passes : List CronPass, (∀ pass ∈ passes, pass.Reliable) → n ≤ passes.length →
      (passes.foldl alertStep s).2.AllReported := by
  intro h
  obtain ⟨n, hn⟩ := h (Sample.backlog 101) (Sample.backlog_consistent 101)
  have hreported := hn (List.replicate (n + 1) reliablePass) (reliable_replicate _) (by simp)
  rw [run_alerts (reliable_replicate _) (by simp)] at hreported
  have hbehind := (Sample.backlog_consistent 101).allReported_iff.mp hreported
  have hlength : ((Sample.backlog 101).2.deadLettered.drop 100).length = 1 := by
    rw [List.length_drop, Sample.backlog_deadLettered]
  obtain ⟨r, hr⟩ := List.length_eq_one_iff.mp hlength
  have hlisted := hbehind r (hr ▸ List.mem_singleton_self r)
  exact absurd hlisted List.not_mem_nil

end TrusteeBank
