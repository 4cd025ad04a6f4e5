import TrusteeBank.Lib.Interleave
import TrusteeBank.Reserve.ProofOfReserve
import TrusteeBank.Services.Mint
import TrusteeBank.Services.Scheduler

/-!
# The locks of the scheduler

Every replica of the API ticks, and a tick runs a job when it gets the job's lock. The lock is not
given back: it expires after the interval of the job, which is what paces the job.

**Phases** (`TickPhase`). The jobs whose lock a tick has got.

* `TickMove`: what a tick does in one step, and which steps only the holder of a lock takes;
* `job_not_overlapped`: two ticks of any replicas that work on one job are an interval apart;
* `programCycle_reports`: a program of the reserve cycle is reported or named in an alert;
* `programs_covered`: with Redis, no interval passes without a report on every active program.
-/

set_option autoImplicit false

namespace TrusteeBank

open Lib (Call Pool Meets Table inv_run)
open SchedulerService

/-! ## Jobs -/

inductive CronJob
  | reserveCycle
  | deadLetterAlert
deriving DecidableEq, Repr

namespace CronJob

def name : CronJob → String
  | reserveCycle => "reserve-cycle"
  | deadLetterAlert => "deadletter-alert"

def key (job : CronJob) : String := "trustee:cron:" ++ job.name

/-- The expiry of the job's lock. -/
def ttlMs (cfg : SchedulerConfig) : CronJob → Int
  | reserveCycle => cfg.reserveCycleMs
  | deadLetterAlert => cfg.deadLetterMs

/-- When a tick asks for the job's lock. -/
def time (pass : CronPass) : CronJob → Int
  | reserveCycle => pass.clock 0
  | deadLetterAlert => pass.clock 2

/-- The steps that belong to a job: calls of the services to the reserve cycle, and the read of the
outbox to the dead-letter alert. -/
def Owns : CronJob → CronStep → Prop
  | reserveCycle, .service _ => True
  | deadLetterAlert, .outbox => True
  | _, _ => False

theorem key_inj {job job' : CronJob} (h : job.key = job'.key) : job = job' := by
  revert h
  cases job <;> cases job' <;> decide

end CronJob

section

variable [Runtime]

/-! ## What the reserve cycle stores -/

/-- What a position is computed from. -/
def World.positionTables (w : World) :=
  (w.programs, w.liabilitySnapshots, w.reserveAdjustments, w.ledger)

/-- Snapshots and runs are stored, and no position changes. -/
structure CycleStep (w w' : World) : Prop where
  snapshots : ∀ {id r}, w.reserveSnapshots.find? id = some r → w'.reserveSnapshots.find? id = some r
  runs : ∀ {id r}, w.reconciliationRuns.find? id = some r → w'.reconciliationRuns.find? id = some r
  tables : w'.positionTables = w.positionTables

theorem CycleStep.refl (w : World) : CycleStep w w := ⟨id, id, rfl⟩

theorem CycleStep.trans {w w' w'' : World} (h : CycleStep w w') (h' : CycleStep w' w'') :
    CycleStep w w'' :=
  ⟨fun hr => h'.snapshots (h.snapshots hr), fun hr => h'.runs (h.runs hr),
    h'.tables.trans h.tables⟩

theorem cycleStep_of_readOnly {α : Type} {x : Service α} (h : x.ReadOnly) :
    x.Within CycleStep :=
  Call.Keeps.within h fun w w' heq => by
    rw [show w' = w from heq]
    exact .refl w

theorem outboxCreate_cycleStep (event : OutboxEvent) :
    (outboxCreate event).Within CycleStep :=
  Call.within_query .refl fun w a w' h => by
    cases h
    exact ⟨id, id, rfl⟩

/-! ## The moves of a tick -/

abbrev TickPhase := CronJob → Bool

/-- The locks after one was set. -/
def lockedUntil (s : SchedulerState) (key : String) (expiresAt : Int) : SchedulerState :=
  (s.1, { s.2 with locks := s.2.locks.filter (fun l => l.1 ≠ key) ++ [(key, expiresAt)] })

/-- What a tick does in one step. -/
inductive TickMove (cfg : SchedulerConfig) (pass : CronPass) :
    TickPhase → CronStep → SchedulerState → SchedulerState → TickPhase → Prop
  | refused (job : CronJob) (φ : TickPhase) (s : SchedulerState) :
      TickMove cfg pass φ (.redis "SET" job.key) s s φ
  | acquired (job : CronJob) (φ : TickPhase) (s : SchedulerState) (httl : 0 < job.ttlMs cfg)
      (hfree : ∀ l ∈ s.2.locks, l.1 = job.key → l.2 ≤ job.time pass) :
      TickMove cfg pass φ (.redis "SET" job.key) s
        (lockedUntil s job.key (job.time pass + job.ttlMs cfg)) (Function.update φ job true)
  | works {job : CronJob} {φ : TickPhase} {q : CronStep} {s s' : SchedulerState}
      (hown : φ job = true) (hjob : job.Owns q) (hlocks : s'.2.locks = s.2.locks) :
      TickMove cfg pass φ q s s' φ
  | beside {φ : TickPhase} {q : CronStep} {s s' : SchedulerState}
      (hjob : ∀ job : CronJob, ¬job.Owns q) (hlocks : s'.2.locks = s.2.locks) :
      TickMove cfg pass φ q s s' φ

variable {cfg : SchedulerConfig} {pass : CronPass} {φ : TickPhase}

/-- Calls of the services are the reserve cycle's. -/
theorem onFst_obeys {α : Type} (hown : φ .reserveCycle = true) (x : Service α) :
    (x.onFst CronStep.service : Cron α).Obeys (TickMove cfg pass) (fun _ => True)
      (fun φ' _ => φ' = φ) φ := by
  induction x with
  | done r => exact rfl
  | step q eff next ih =>
    intro s _
    exact ⟨φ, .works hown trivial rfl, ih s.1⟩

theorem notify_obeys (delivers : Bool) (notice : Notice) :
    (SchedulerService.notify delivers notice).Obeys (TickMove cfg pass) (fun _ => True)
      (fun φ' _ => φ' = φ) φ := by
  intro s _
  refine ⟨φ, .beside (fun job => by cases job <;> exact id) ?_, rfl⟩
  dsimp only
  split_ifs <;> rfl

theorem reserveCycle_obeys (hown : φ .reserveCycle = true) :
    (reserveCycle cfg pass).Obeys (TickMove cfg pass) (fun _ => True)
      (fun φ' _ => φ' = φ) φ := by
  unfold reserveCycle
  refine (onFst_obeys hown _).bind (fun φ' alerts hφ => ?_) fun _ _ h => h
  subst hφ
  split_ifs
  · exact notify_obeys _ _
  · exact rfl

theorem deadLetterAlert_obeys (hown : φ .deadLetterAlert = true) :
    (deadLetterAlert pass).Obeys (TickMove cfg pass) (fun _ => True)
      (fun φ' _ => φ' = φ) φ := by
  unfold deadLetterAlert
  refine Call.Obeys.read_bind fun s _ => ⟨φ, .works hown trivial rfl, ?_⟩
  cases pass.redis with
  | none => exact rfl
  | some answers =>
    have hreport (fresh : List DeadLetter) : (if fresh = [] then return () else do
        SchedulerService.notify pass.delivers (.deadLetters fresh)
        sadd answers (fresh.map DeadLetter.id) : Cron Unit).Obeys (TickMove cfg pass)
          (fun _ => True) (fun φ' _ => φ' = φ) φ := by
      split_ifs
      · exact rfl
      · refine (notify_obeys _ _).bind (fun φ' _ hφ => ?_) fun _ _ h => h
        subst hφ
        intro s' _
        refine ⟨φ', .beside (fun job => by cases job <;> exact id) ?_, rfl⟩
        dsimp only
        split_ifs <;> rfl
    exact Call.Obeys.read_bind fun s' _ =>
      ⟨φ, .beside (fun job => by cases job <;> exact id) rfl, hreport _⟩

/-- A tick asks for a lock, and works on the job when it gets it. -/
theorem attempt_obeys {answers : String → Bool} (hredis : pass.redis = some answers)
    (job : CronJob) {body : Cron Unit}
    (hbody : ∀ φ' : TickPhase, φ' job = true → body.Obeys (TickMove cfg pass) (fun _ => True)
      (fun φ'' _ => φ'' = φ') φ') (φ : TickPhase) :
    (SchedulerService.attempt pass (job.time pass) job.name (job.ttlMs cfg) body).Obeys
      (TickMove cfg pass) (fun _ => True) (fun _ _ => True) φ := by
  unfold SchedulerService.attempt SchedulerService.acquire
  rw [hredis]
  refine Call.Obeys.query_bind (fun s acquired s' _ hs => ?_) fun s e _ hs => ?_
  · by_cases hfails : answers "SET" = false ∨ job.ttlMs cfg ≤ 0
    · rw [if_pos hfails] at hs
      cases hs
      exact ⟨φ, .refused job φ s, trivial⟩
    · rw [if_neg hfails] at hs
      by_cases hheld : (s.2.locks.any fun l => l.1 = "trustee:cron:" ++ job.name &&
          decide (job.time pass < l.2)) = true
      · rw [if_pos hheld] at hs
        cases hs
        exact ⟨φ, .refused job φ s, trivial⟩
      · rw [if_neg hheld] at hs
        cases hs
        have hfree : ∀ l ∈ s.2.locks, l.1 = job.key → l.2 ≤ job.time pass := by
          intro l hl hkey
          by_contra hlater
          exact hheld (List.any_eq_true.mpr ⟨l, hl, by
            simp only [Bool.and_eq_true, decide_eq_true_eq]
            exact ⟨hkey, by omega⟩⟩)
        refine ⟨_, .acquired job φ s (by omega) hfree, ?_⟩
        rw [if_pos rfl]
        exact ((hbody _ (Function.update_self ..)).mono fun _ _ _ => trivial).tryCatch
          (fun _ _ _ => trivial) fun _ _ _ => trivial
  · by_cases hfails : answers "SET" = false ∨ job.ttlMs cfg ≤ 0
    · rw [if_pos hfails] at hs
      cases hs
    · rw [if_neg hfails] at hs
      split_ifs at hs

/-- **A tick keeps to its moves**, where there is a Redis. -/
theorem tick_obeys {answers : String → Bool} (hredis : pass.redis = some answers)
    (φ : TickPhase) :
    (tick cfg pass).Obeys (TickMove cfg pass) (fun _ => True) (fun _ _ => True) φ := by
  unfold tick
  refine (attempt_obeys hredis .reserveCycle (fun φ' hown => reserveCycle_obeys hown) φ).bind
    (fun φ' _ _ => ?_) fun _ _ _ => trivial
  exact attempt_obeys hredis .deadLetterAlert (fun φ' hown => deadLetterAlert_obeys hown) φ'

/-! ## Any number of replicas -/

variable {ι : Type}

/-- Every lock that a tick has got is there until an interval after the tick, or was got again
later. -/
structure LocksHeld (cfg : SchedulerConfig) (passes : ι → CronPass)
    (p : Pool ι CronStep SchedulerState ApiError Unit) (ph : ι → TickPhase) : Prop where
  held : ∀ i job, ph i job = true → ∃ l ∈ p.state.2.locks, l.1 = job.key ∧
    job.time (passes i) + job.ttlMs cfg ≤ l.2
  spaced : ∀ i j job, i ≠ j → ph i job = true → ph j job = true →
    job.time (passes i) + job.ttlMs cfg ≤ job.time (passes j) ∨
      job.time (passes j) + job.ttlMs cfg ≤ job.time (passes i)
  owned : ∀ i q (job : CronJob), (i, q) ∈ p.history → job.Owns q → ph i job = true

namespace LocksHeld

variable {passes : ι → CronPass} {p : Pool ι CronStep SchedulerState ApiError Unit}
  {ph : ι → TickPhase}

/-- A step that leaves the locks, by a tick that owns what it does. -/
theorem same [DecidableEq ι] (h : LocksHeld cfg passes p ph) {i : ι} {q : CronStep}
    {eff : SchedulerState → SchedulerState} {next : SchedulerState → Cron Unit}
    (hi : p.calls i = .step q eff next) (hlocks : (eff p.state).2.locks = p.state.2.locks)
    (howns : ∀ job : CronJob, job.Owns q → ph i job = true) :
    LocksHeld cfg passes (p.step i) ph := by
  rw [Pool.step_of_step hi]
  refine ⟨fun j job hj => ?_, h.spaced, fun j q' job hmem hjob => ?_⟩
  · rw [hlocks]
    exact h.held j job hj
  · rcases List.mem_cons.mp hmem with heq | hmem
    · obtain ⟨rfl, rfl⟩ := Prod.mk.inj heq
      exact howns job hjob
    · exact h.owned j q' job hmem hjob

/-- **A lock is got.** Whoever had it before is an interval back. -/
theorem acquire [DecidableEq ι] (h : LocksHeld cfg passes p ph) {i : ι} {job : CronJob}
    {eff : SchedulerState → SchedulerState} {next : SchedulerState → Cron Unit}
    (hi : p.calls i = .step (.redis "SET" job.key) eff next) (httl : 0 < job.ttlMs cfg)
    (hfree : ∀ l ∈ p.state.2.locks, l.1 = job.key → l.2 ≤ job.time (passes i))
    (heff : eff p.state = lockedUntil p.state job.key (job.time (passes i) + job.ttlMs cfg)) :
    LocksHeld cfg passes (p.step i)
      (Function.update ph i (Function.update (ph i) job true)) := by
  have hearlier {j : ι} (hj : ph j job = true) :
      job.time (passes j) + job.ttlMs cfg ≤ job.time (passes i) := by
    obtain ⟨l, hl, hkey, hle⟩ := h.held j job hj
    exact hle.trans (hfree l hl hkey)
  -- What a tick has after the step, it had before, or it is the lock that was got.
  have hbefore {j : ι} {job' : CronJob}
      (hj : Function.update ph i (Function.update (ph i) job true) j job' = true) :
      (j = i ∧ job' = job) ∨ ph j job' = true := by
    by_cases hji : j = i
    · subst hji
      rw [Function.update_self] at hj
      by_cases hjob : job' = job
      · exact .inl ⟨rfl, hjob⟩
      · exact .inr (by rwa [Function.update_of_ne hjob] at hj)
    · exact .inr (by rwa [Function.update_of_ne hji] at hj)
  rw [Pool.step_of_step hi, heff]
  refine ⟨fun j job' hj => ?_, fun j j' job' hne hj hj' => ?_, fun j q job' hmem hjob => ?_⟩
  · by_cases hjob : job' = job
    · subst hjob
      refine ⟨_, List.mem_append_right _ List.mem_cons_self, rfl, ?_⟩
      rcases hbefore hj with ⟨rfl, -⟩ | hj
      · exact le_refl _
      · have hle := hearlier hj
        simp only
        omega
    · obtain ⟨l, hl, hkey, hle⟩ :=
        h.held j job' ((hbefore hj).resolve_left fun heq => hjob heq.2)
      have hother : l.1 ≠ job.key := fun heq => hjob (CronJob.key_inj (hkey.symm.trans heq))
      exact ⟨l, List.mem_append_left _ (List.mem_filter.mpr ⟨hl, decide_eq_true hother⟩), hkey, hle⟩
  · rcases hbefore hj with ⟨rfl, rfl⟩ | hj₀
    · rcases hbefore hj' with ⟨rfl, -⟩ | hj₀'
      · exact absurd rfl hne
      · exact .inr (hearlier hj₀')
    · rcases hbefore hj' with ⟨rfl, rfl⟩ | hj₀'
      · exact .inl (hearlier hj₀)
      · exact h.spaced j j' job' hne hj₀ hj₀'
  · rcases List.mem_cons.mp hmem with heq | hmem
    · obtain ⟨rfl, rfl⟩ := Prod.mk.inj heq
      cases job' <;> exact hjob.elim
    · have hj := h.owned j q job' hmem hjob
      by_cases hji : j = i
      · subst hji
        rw [Function.update_self]
        by_cases hjob' : job' = job
        · rw [hjob', Function.update_self]
        · rw [Function.update_of_ne hjob']
          exact hj
      · rw [Function.update_of_ne hji]
        exact hj

/-- **One step of a tick.** -/
theorem step [DecidableEq ι] (h : LocksHeld cfg passes p ph) {i : ι} {q : CronStep}
    {eff : SchedulerState → SchedulerState} {next : SchedulerState → Cron Unit} {φ' : TickPhase}
    (hi : p.calls i = .step q eff next)
    (hmove : TickMove cfg (passes i) (ph i) q p.state (eff p.state) φ') :
    LocksHeld cfg passes (p.step i) (Function.update ph i φ') := by
  generalize hs' : eff p.state = s' at hmove
  cases hmove with
  | refused job φ s =>
    rw [Function.update_eq_self]
    exact h.same hi (by rw [hs']) fun job' hjob => by cases job' <;> exact hjob.elim
  | acquired job φ s httl hfree => exact h.acquire hi httl hfree hs'
  | @works job φ q s s' hown hjob hlocks =>
    rw [Function.update_eq_self]
    refine h.same hi (by rw [hs']; exact hlocks) fun job' hjob' => ?_
    have hsame : job' = job := by
      cases q <;> cases job <;> cases job' <;> first | rfl | exact hjob.elim | exact hjob'.elim
    rw [hsame]
    exact hown
  | beside hjob hlocks =>
    rw [Function.update_eq_self]
    exact h.same hi (by rw [hs']; exact hlocks) fun job' hjob' => absurd hjob' (hjob job')

end LocksHeld

/-- **The ticks that work on a job are an interval apart**, whichever replicas they are of and
however their steps alternate. -/
theorem job_not_overlapped [DecidableEq ι] {passes : ι → CronPass}
    (hredis : ∀ i, (passes i).redis ≠ none) (s : SchedulerState) (schedule : List ι)
    (job : CronJob) {i j : ι} (hne : i ≠ j) {q q' : CronStep} :
    let p := (Pool.start s fun i => tick cfg (passes i)).exec schedule
    (i, q) ∈ p.history → job.Owns q → (j, q') ∈ p.history → job.Owns q' →
    job.time (passes i) + job.ttlMs cfg ≤ job.time (passes j) ∨
      job.time (passes j) + job.ttlMs cfg ≤ job.time (passes i) := by
  intro p hi hq hj hq'
  have hobey : (Pool.start s fun i => tick cfg (passes i)).Obey
      (fun i => TickMove cfg (passes i)) (fun _ => True) (fun _ _ => True)
      fun _ _ => false := by
    intro i
    obtain ⟨answers, hanswers⟩ := Option.ne_none_iff_exists'.mp (hredis i)
    exact tick_obeys hanswers _
  have hstart : LocksHeld cfg passes (Pool.start s fun i => tick cfg (passes i))
      fun _ _ => false :=
    ⟨fun _ _ h => absurd h Bool.false_ne_true, fun _ _ _ _ h => absurd h Bool.false_ne_true,
      fun _ _ _ h => absurd h List.not_mem_nil⟩
  obtain ⟨ph, hlocks, -⟩ := Pool.inv_exec (fun _ _ _ => trivial)
    (fun p ph i q eff next φ' h _ _ hi hmove _ => h.step hi hmove) hstart hobey
    (Meets.of_forall (C := fun _ _ => True) (fun _ _ => trivial) _ schedule)
  exact hlocks.spaced i j job hne (hlocks.owned i q job hi hq) (hlocks.owned j q' job hj hq')

/-! ## The reserve cycle -/

theorem CycleStep.positionAt_eq {w w' : World} (h : CycleStep w w') (now : Int)
    (programId : String) : positionAt w' now programId = positionAt w now programId := by
  obtain ⟨hprograms, hrest⟩ := Prod.mk.inj h.tables
  obtain ⟨hliabilities, hrest⟩ := Prod.mk.inj hrest
  obtain ⟨hadjustments, hledger⟩ := Prod.mk.inj hrest
  exact positionAt_congr hprograms hliabilities hadjustments (fun _ _ _ _ => by rw [hledger]) now

theorem createSnapshot_cycleStep (sha256Hex : String → String) (clock : Clock)
    (programId id : String) (createdAt : Int) :
    (ReserveService.createSnapshot sha256Hex clock programId id createdAt).Within CycleStep := by
  have hprogram (programId : String) : (ReserveService.program programId).ReadOnly :=
    (Call.keeps_read _ _ _).bind fun _ => Call.keeps_lift _ _
  have hobserved : (ReserveService.observedContent clock programId).ReadOnly :=
    (position_keeps _ _ _).bind fun pos => (hprogram _).bind fun found => Call.keeps_pure _ _
  unfold ReserveService.createSnapshot
  refine (cycleStep_of_readOnly hobserved).bind fun observed => ?_
  refine Call.Within.bind (x := MonadLiftT.monadLift _) trivial fun contentHash => ?_
  refine Call.Within.bind (Call.within_query .refl fun w r w' h => ?_) fun snapshot => ?_
  · obtain ⟨-, -, t, ht, rfl⟩ := Prisma.reserveSnapshot.createTx_ok h
    exact ⟨Table.find?_insert?_of_some ht, fun hr => hr, rfl⟩
  · refine (cycleStep_of_readOnly (hprogram _)).bind fun issuing => ?_
    refine (outboxCreate_cycleStep _).bind fun _ => Call.Within.bind ?_ fun _ => trivial
    unfold ReserveService.announceShortfall
    split_ifs
    · exact outboxCreate_cycleStep _
    · trivial

theorem reconcileReserve_cycleStep (clock : Clock) (id : String) (createdAt : Int)
    (programId actor : String) :
    (ReconciliationService.reconcileReserve clock id createdAt programId actor).Within
      CycleStep := by
  unfold ReconciliationService.reconcileReserve
  refine (cycleStep_of_readOnly (position_keeps _ _ _)).bind fun pos => ?_
  refine Call.Within.bind (Call.within_query .refl fun w r w' h => ?_) fun run => ?_
  · obtain ⟨-, -, t, ht, rfl⟩ := Prisma.reconciliationRun.createTx_ok h
    exact ⟨fun hr => hr, Table.find?_insert?_of_some ht, rfl⟩
  · split_ifs
    · exact (outboxCreate_cycleStep _).bind fun _ => trivial
    · trivial

theorem programCycle_cycleStep (cfg : SchedulerConfig) (pass : ProgramPass) (program : Program) :
    (programCycle cfg pass program).Within CycleStep := by
  unfold programCycle
  refine Call.Within.tryCatch ?_ fun err => trivial
  refine (createSnapshot_cycleStep _ _ _ _ _).bind fun snap => ?_
  refine (reconcileReserve_cycleStep _ _ _ _ _).bind fun run => ?_
  exact (cycleStep_of_readOnly (position_keeps _ _ _)).bind fun pos => trivial

/-- The surplus of a position does not depend on the time. -/
theorem positionAt_surplus {w : World} {now now' : Int} {programId : String}
    {pos pos' : ReservePosition} (h : positionAt w now programId = .ok pos)
    (h' : positionAt w now' programId = .ok pos') : pos'.surplus.minor = pos.surplus.minor := by
  obtain ⟨program, hprogram, hcurrency, -, heligible, -⟩ := positionAt_ok h
  obtain ⟨program', hprogram', hcurrency', -, heligible', -⟩ := positionAt_ok h'
  obtain rfl := Option.some.inj (hprogram.symm.trans hprogram')
  obtain ⟨hobligation, hsurplus, -⟩ := positionAt_obligation hprogram h
  obtain ⟨hobligation', hsurplus', -⟩ := positionAt_obligation hprogram h'
  rw [hsurplus, hsurplus', hobligation, hobligation', heligible, heligible', hcurrency, hcurrency']

/-- What is stored and said about a program: a signed snapshot, a run, and where the reserve is
short an exception and an alert; or an alert that its cycle failed. -/
def CycleReported (pass : ProgramPass) (w : World) (program : Program) (alerts : List String)
    (w' : World) : Prop :=
  (∃ err : ApiError, "ERROR · " ++ programLabel pass program ++ ": reserve cycle failed — " ++
    err.message ∈ alerts) ∨
  ∃ pos snap run, positionAt w (pass.snapshotClock 0) program.id = .ok pos ∧
    w'.reserveSnapshots.find? pass.snapshotId = some snap ∧ snap.programId = program.id ∧
    snap.surplusMinor = pos.surplus.minor ∧
    w'.reconciliationRuns.find? pass.runId = some run ∧ run.programId = some program.id ∧
    (pos.surplus.minor < 0 → "RESERVE_SHORTFALL" ∈ run.exceptions.map ReconciliationException.type ∧
      ∃ alert ∈ alerts, ("SHORTFALL · " ++ programLabel pass program).toList <+: alert.toList)

theorem CycleReported.mono {pass : ProgramPass} {w₀ w w' w'' : World} {program : Program}
    {alerts alerts' : List String} (h : CycleReported pass w program alerts w')
    (hposition : positionAt w (pass.snapshotClock 0) program.id =
      positionAt w₀ (pass.snapshotClock 0) program.id)
    (hstep : CycleStep w' w'') (halerts : alerts ⊆ alerts') :
    CycleReported pass w₀ program alerts' w'' := by
  rcases h with ⟨err, herr⟩ | ⟨pos, snap, run, hpos, hsnap, hof, hsurplus, hrun, hfor, hshort⟩
  · exact .inl ⟨err, halerts herr⟩
  · refine .inr ⟨pos, snap, run, hposition ▸ hpos, hstep.snapshots hsnap, hof, hsurplus,
      hstep.runs hrun, hfor, fun hneg => ?_⟩
    obtain ⟨hexception, alert, halert, htext⟩ := hshort hneg
    exact ⟨hexception, alert, halerts halert, htext⟩

/-- A reconciliation that succeeds stores its run. -/
theorem reconcileReserve_stores {clock : Clock} {id : String} {createdAt : Int}
    {programId actor : String} {w w' : World} {r : ReconciliationRun}
    (h : (ReconciliationService.reconcileReserve clock id createdAt programId actor).run w =
      (.ok r, w')) :
    ∃ pos, positionAt w (clock 0) programId = .ok pos ∧
      w'.reconciliationRuns.find? id = some (ReconciliationService.reserveRun id createdAt
        programId pos (ReconciliationService.reserveExceptions pos programId) actor) := by
  unfold ReconciliationService.reconcileReserve at h
  rw [Call.run_bind, run_position] at h
  cases hpos : positionAt w (clock 0) programId with
  | error e =>
    rw [hpos] at h
    cases h
  | ok pos =>
    rw [hpos] at h
    simp only at h
    refine ⟨pos, rfl, ?_⟩
    unfold ReconciliationService.record at h
    rw [Call.run_bind] at h
    set row := ReconciliationService.reserveRun id createdAt programId pos
      (ReconciliationService.reserveExceptions pos programId) actor
    rcases Entity.run_create_cases Prisma.reconciliationRun
      (fun _ => ReconciliationService.runConstraints row) row w with
      ⟨e, hfails⟩ | ⟨t, -, ht, hstored⟩
    · rw [hfails] at h
      cases h
    · rw [hstored] at h
      have hkept : w'.reconciliationRuns = t := by
        simp only at h
        split_ifs at h
        · rw [Call.run_bind, run_publish] at h
          exact (congrArg (fun out => out.2.reconciliationRuns) h).symm
        · exact (congrArg (fun out => out.2.reconciliationRuns) h).symm
      rw [hkept, Table.find?_insert? ht]
      exact if_pos rfl

omit [Runtime] in
/-- The alert of a program whose reserve is short. -/
theorem shortfall_alert {pos : ReservePosition} (hneg : pos.surplus.minor < 0)
    (cfg : SchedulerConfig) (pass : ProgramPass) (program : Program) (snapshotId : String) :
    ∃ alert ∈ positionAlerts cfg pass program snapshotId pos,
      ("SHORTFALL · " ++ programLabel pass program).toList <+: alert.toList := by
  unfold positionAlerts
  rw [if_pos hneg]
  refine ⟨_, List.mem_append_left _ List.mem_cons_self, ?_⟩
  simp only [String.toList_append, List.append_assoc]
  exact ⟨_, List.append_assoc ..⟩

/-- **A program of the reserve cycle is reported**, or it is named in an alert. -/
theorem programCycle_reports (cfg : SchedulerConfig) (pass : ProgramPass) (program : Program)
    (w : World) : ∃ alerts w', (programCycle cfg pass program).run w = (.ok alerts, w') ∧
      CycleStep w w' ∧ CycleReported pass w program alerts w' := by
  have hcycle : CycleStep w ((programCycle cfg pass program).run w).2 :=
    (programCycle_cycleStep cfg pass program).run CycleStep.refl (fun _ _ _ => CycleStep.trans) w
  revert hcycle
  unfold programCycle
  rw [Call.run_tryCatch, Call.run_bind]
  rcases hsnapshot : (ReserveService.createSnapshot cfg.sha256Hex pass.snapshotClock program.id
    pass.snapshotId pass.snapshotCreatedAt).run w with ⟨err | snap, w₁⟩
  · exact fun hcycle => ⟨_, w₁, rfl, hcycle, .inl ⟨err, List.mem_cons_self⟩⟩
  simp only
  rw [Call.run_bind]
  rcases hrun : (ReconciliationService.reconcileReserve pass.runClock pass.runId
    pass.runCreatedAt program.id "scheduler").run w₁ with ⟨err | run, w₂⟩
  · exact fun hcycle => ⟨_, w₂, rfl, hcycle, .inl ⟨err, List.mem_cons_self⟩⟩
  simp only
  rw [Call.run_bind, run_position]
  cases hlast : positionAt w₂ (pass.positionClock 0) program.id with
  | error err => exact fun hcycle => ⟨_, w₂, rfl, hcycle, .inl ⟨err, List.mem_cons_self⟩⟩
  | ok last =>
    intro hcycle
    refine ⟨_, w₂, rfl, hcycle, .inr ?_⟩
    have hfirst : CycleStep w w₁ := by
      have h := (createSnapshot_cycleStep cfg.sha256Hex pass.snapshotClock program.id
        pass.snapshotId pass.snapshotCreatedAt).run CycleStep.refl (fun _ _ _ => CycleStep.trans) w
      rwa [hsnapshot] at h
    have hsecond : CycleStep w₁ w₂ := by
      have h := (reconcileReserve_cycleStep pass.runClock pass.runId pass.runCreatedAt program.id
        "scheduler").run CycleStep.refl (fun _ _ _ => CycleStep.trans) w₁
      rwa [hrun] at h
    obtain ⟨p, pos, hash, -, hpos, -, hstored⟩ := createSnapshot_stores hsnapshot
    obtain ⟨pos', hpos', hstoredRun⟩ := reconcileReserve_stores hrun
    -- The three positions have one surplus.
    rw [hfirst.positionAt_eq] at hpos'
    rw [hsecond.positionAt_eq, hfirst.positionAt_eq] at hlast
    have hsurplus' := positionAt_surplus hpos hpos'
    have hsurplus := positionAt_surplus hpos hlast
    refine ⟨pos, _, _, hpos, hsecond.snapshots hstored, rfl, rfl, hstoredRun, rfl, fun hneg => ?_⟩
    refine ⟨?_, shortfall_alert (hsurplus ▸ hneg) cfg pass program snap.id⟩
    have hneg' : pos'.surplus.minor < 0 := hsurplus' ▸ hneg
    unfold ReconciliationService.reserveRun ReconciliationService.reserveExceptions
    rw [if_pos hneg']
    exact List.mem_map.mpr ⟨_, List.mem_append_left _ List.mem_cons_self, rfl⟩

/-- **All programs of the list**, whatever happens to one of them. -/
theorem cycleAlerts_reports (cfg : SchedulerConfig) (pass : CronPass) (programs : List Program)
    (w : World) : ∃ alerts w', (cycleAlerts cfg pass programs).run w = (.ok alerts, w') ∧
      CycleStep w w' ∧
      ∀ p ∈ programs, CycleReported (pass.program p.id) w p alerts w' := by
  induction programs generalizing w with
  | nil => exact ⟨[], w, rfl, .refl w, fun _ hp => absurd hp List.not_mem_nil⟩
  | cons program programs ih =>
    obtain ⟨alerts, w₁, hone, hstep, hreported⟩ :=
      programCycle_reports cfg (pass.program program.id) program w
    obtain ⟨rest, w₂, hrest, hsteps, hothers⟩ := ih w₁
    refine ⟨alerts ++ rest, w₂, ?_, hstep.trans hsteps, List.forall_mem_cons.mpr ⟨?_, ?_⟩⟩
    · rw [cycleAlerts, Call.run_bind, hone]
      simp only
      rw [Call.run_bind, hrest]
      rfl
    · exact hreported.mono rfl hsteps (List.subset_append_left _ _)
    · intro p hp
      exact (hothers p hp).mono (hstep.positionAt_eq _ _) (.refl w₂)
        (List.subset_append_right _ _)

/-- The reserve cycle reports on every active program, and sends its alerts. -/
theorem reserveCycle_reports (cfg : SchedulerConfig) (pass : CronPass) (s : SchedulerState) :
    ∃ alerts, ((reserveCycle cfg pass).run s).2.2.locks = s.2.locks ∧
      (∀ p ∈ s.1.programs.rows, p.status = .active →
        CycleReported (pass.program p.id) s.1 p alerts ((reserveCycle cfg pass).run s).2.1) ∧
      (alerts ≠ [] → pass.delivers = true → ∃ raisedAt,
        .reserveAlerts raisedAt alerts ∈ ((reserveCycle cfg pass).run s).2.2.notices) := by
  obtain ⟨w, c⟩ := s
  obtain ⟨alerts, w', hrun, -, hreported⟩ :=
    cycleAlerts_reports cfg pass (w.programs.rows.filter fun p => p.status = .active) w
  have hactive : (activeAlerts cfg pass).run w = (.ok alerts, w') := by
    unfold activeAlerts
    rw [Call.run_bind, Entity.run_findMany]
    exact hrun
  unfold reserveCycle
  rw [Call.run_bind, Call.run_onFst, hactive]
  simp only
  refine ⟨alerts, ?_⟩
  have hall : ∀ p ∈ w.programs.rows, p.status = .active →
      CycleReported (pass.program p.id) w p alerts w' := fun p hp hactive =>
    hreported p (List.mem_filter.mpr ⟨hp, decide_eq_true hactive⟩)
  by_cases hnone : alerts = []
  · rw [if_neg (by simp [hnone])]
    exact ⟨rfl, hall, fun h => absurd hnone h⟩
  · rw [if_pos (List.length_pos_of_ne_nil hnone)]
    unfold SchedulerService.notify
    rw [Call.run_query]
    cases hdelivers : pass.delivers with
    | false => exact ⟨rfl, hall, fun _ h => absurd h Bool.false_ne_true⟩
    | true => exact ⟨rfl, hall, fun _ _ => ⟨_, List.mem_append_right _ List.mem_cons_self⟩⟩

/-! ## The lock of the reserve cycle over a run -/

/-- The cycle of a tick reported on the active programs, and sent its alerts. -/
def CycleRan (pass : CronPass) (s s' : SchedulerState) : Prop :=
  ∃ alerts, (∀ p ∈ s.1.programs.rows, p.status = .active →
      CycleReported (pass.program p.id) s.1 p alerts s'.1) ∧
    (alerts ≠ [] → pass.delivers = true → ∃ raisedAt,
      .reserveAlerts raisedAt alerts ∈ s'.2.notices)

/-- What the dead-letter alert leaves: the database, the other lock, and what was sent. -/
structure BesideReserve (s s' : SchedulerState) : Prop where
  database : s'.1 = s.1
  lock : ∀ l ∈ s'.2.locks, l.1 = CronJob.reserveCycle.key → l ∈ s.2.locks
  notices : s.2.notices ⊆ s'.2.notices

theorem BesideReserve.refl (s : SchedulerState) : BesideReserve s s :=
  ⟨rfl, fun _ hl _ => hl, List.Subset.refl _⟩

theorem BesideReserve.trans {s s' s'' : SchedulerState} (h : BesideReserve s s')
    (h' : BesideReserve s' s'') : BesideReserve s s'' :=
  ⟨h'.database.trans h.database, fun l hl hkey => h.lock l (h'.lock l hl hkey) hkey,
    List.Subset.trans h.notices h'.notices⟩

theorem deadLetterAlert_beside (pass : CronPass) :
    (deadLetterAlert pass).Within BesideReserve := by
  have hread {α : Type} (q : CronStep) (g : SchedulerState → α) :
      (Call.read q g : Cron α).Within BesideReserve := fun s => ⟨.refl s, trivial⟩
  unfold deadLetterAlert
  refine (hread _ _).bind fun dead => ?_
  cases pass.redis with
  | none => trivial
  | some answers =>
    refine (hread _ _).bind fun fresh => ?_
    split_ifs
    · trivial
    · refine Call.Within.bind (Call.within_query .refl fun s a s' h => ?_) fun _ =>
        Call.within_query .refl fun s a s' h => ?_
      · split_ifs at h <;> cases h
        · exact ⟨rfl, fun _ hl _ => hl, List.subset_append_left _ _⟩
        · exact .refl s
      · split_ifs at h
        cases h
        exact ⟨rfl, fun _ hl _ => hl, List.Subset.refl _⟩

theorem attemptDeadLetter_beside (pass : CronPass) (now ttlMs : Int) :
    (SchedulerService.attempt pass now "deadletter-alert" ttlMs (deadLetterAlert pass)).Within
      BesideReserve := by
  unfold SchedulerService.attempt SchedulerService.acquire
  refine Call.Within.bind ?_ fun acquired => ?_
  · cases pass.redis with
    | none => trivial
    | some answers =>
      refine Call.within_query .refl fun s a s' h => ?_
      split_ifs at h <;> cases h
      · exact .refl s
      · exact .refl s
      · refine ⟨rfl, fun l hl hkey => ?_, List.Subset.refl _⟩
        rcases List.mem_append.mp hl with hl | hl
        · exact List.mem_of_mem_filter hl
        · rw [List.mem_singleton.mp hl] at hkey
          have hother : "trustee:cron:" ++ "deadletter-alert" ≠ CronJob.reserveCycle.key := by decide
          exact absurd hkey hother
  · split_ifs
    · exact (deadLetterAlert_beside pass).tryCatch fun _ => trivial
    · trivial

/-- Redis answers when the tick asks for a lock. -/
def CronPass.Connected (pass : CronPass) : Prop :=
  ∃ answers, pass.redis = some answers ∧ answers "SET" = true

variable {s : SchedulerState}

/-- A lock that is free is got. -/
theorem run_acquire_free {now ttlMs : Int} {job : String} (hconnected : pass.Connected)
    (httl : 0 < ttlMs) (hfree : ∀ l ∈ s.2.locks, l.1 = "trustee:cron:" ++ job → l.2 ≤ now) :
    (acquire pass now job ttlMs).run s =
      (.ok true, lockedUntil s ("trustee:cron:" ++ job) (now + ttlMs)) := by
  obtain ⟨answers, hredis, hset⟩ := hconnected
  have hnone : ¬(s.2.locks.any fun l => l.1 = "trustee:cron:" ++ job && decide (now < l.2)) = true := by
    intro hany
    obtain ⟨l, hl, hlive⟩ := List.any_eq_true.mp hany
    simp only [Bool.and_eq_true, decide_eq_true_eq] at hlive
    have hle := hfree l hl hlive.1
    omega
  have hfails : ¬(answers "SET" = false ∨ ttlMs ≤ 0) := by
    rw [hset]
    simp only [Bool.true_eq_false, false_or]
    omega
  unfold acquire
  rw [hredis]
  unfold setNx
  rw [Call.run_query, if_neg hfails, if_neg hnone]
  rfl

/-- A lock that is held is not. -/
theorem run_acquire_held {now ttlMs : Int} {job : String} (hconnected : pass.Connected)
    {l : String × Int} (hl : l ∈ s.2.locks) (hkey : l.1 = "trustee:cron:" ++ job)
    (hlive : now < l.2) : (acquire pass now job ttlMs).run s = (.ok false, s) := by
  obtain ⟨answers, hredis, hset⟩ := hconnected
  have hany : (s.2.locks.any fun l => l.1 = "trustee:cron:" ++ job && decide (now < l.2)) = true :=
    List.any_eq_true.mpr ⟨l, hl, by simp [hkey, hlive]⟩
  unfold acquire
  rw [hredis]
  unfold setNx
  rw [Call.run_query]
  split_ifs <;> rfl

/-- **A tick that finds the lock free** runs the cycle, and the lock is held for an interval. -/
theorem tick_free (hconnected : pass.Connected) (httl : 0 < cfg.reserveCycleMs)
    (hfree : ∀ l ∈ s.2.locks, l.1 = CronJob.reserveCycle.key → l.2 ≤ pass.clock 0) :
    CycleRan pass s ((tick cfg pass).run s).2 ∧
      ∀ l ∈ ((tick cfg pass).run s).2.2.locks, l.1 = CronJob.reserveCycle.key →
        l.2 = pass.clock 0 + cfg.reserveCycleMs := by
  have hacquired := @run_acquire_free _ pass s _ _ "reserve-cycle" hconnected httl hfree
  set s₁ := lockedUntil s ("trustee:cron:" ++ "reserve-cycle") (pass.clock 0 + cfg.reserveCycleMs)
    with hs₁
  obtain ⟨alerts, hlocks, hreported, hnotices⟩ := reserveCycle_reports cfg pass s₁
  set s₂ := ((reserveCycle cfg pass).run s₁).2 with hs₂
  have hfirst : (SchedulerService.attempt pass (pass.clock 0) "reserve-cycle" cfg.reserveCycleMs
      (reserveCycle cfg pass)).run s = (.ok (), s₂) := by
    unfold SchedulerService.attempt
    rw [Call.run_bind, hacquired]
    simp only [if_true]
    unfold runSafely
    rw [Call.run_tryCatch]
    rcases hrun : (reserveCycle cfg pass).run s₁ with ⟨e | u, s'⟩
    · rw [hs₂, hrun]
      rfl
    · rw [hs₂, hrun]
  have hbeside := (attemptDeadLetter_beside pass (pass.clock 2) cfg.deadLetterMs).run
    BesideReserve.refl (fun _ _ _ => BesideReserve.trans) s₂
  unfold tick
  rw [Call.run_bind, hfirst]
  refine ⟨⟨alerts, fun p hp hactive => ?_, fun hne hdelivers => ?_⟩, fun l hl hkey => ?_⟩
  · rw [hbeside.database]
    exact hreported p hp hactive
  · obtain ⟨raisedAt, hsent⟩ := hnotices hne hdelivers
    exact ⟨raisedAt, hbeside.notices hsent⟩
  · have hl₁ := hbeside.lock l hl hkey
    rw [hlocks] at hl₁
    rcases List.mem_append.mp hl₁ with hl₁ | hl₁
    · exact absurd hkey (of_decide_eq_true (List.mem_filter.mp hl₁).2)
    · rw [List.mem_singleton.mp hl₁]

/-- **A tick that finds the lock held** leaves it. -/
theorem tick_held (hconnected : pass.Connected) {l : String × Int} (hl : l ∈ s.2.locks)
    (hkey : l.1 = CronJob.reserveCycle.key) (hlive : pass.clock 0 < l.2) :
    ∀ l' ∈ ((tick cfg pass).run s).2.2.locks, l'.1 = CronJob.reserveCycle.key →
      l' ∈ s.2.locks := by
  have hfirst : (SchedulerService.attempt pass (pass.clock 0) "reserve-cycle" cfg.reserveCycleMs
      (reserveCycle cfg pass)).run s = (.ok (), s) := by
    unfold SchedulerService.attempt
    rw [Call.run_bind, @run_acquire_held _ pass s _ _ "reserve-cycle" hconnected _ hl hkey hlive]
    rfl
  unfold tick
  rw [Call.run_bind, hfirst]
  exact ((attemptDeadLetter_beside pass (pass.clock 2) cfg.deadLetterMs).run
    BesideReserve.refl (fun _ _ _ => BesideReserve.trans) s).lock

/-! ## Ticks among other requests -/

/-- A tick of some replica, or anything else that happens to the database. -/
inductive CronOp
  | tick (pass : CronPass)
  | database (f : World → World)

def CronOp.step (cfg : SchedulerConfig) (s : SchedulerState) : CronOp → SchedulerState
  | .tick pass => ((SchedulerService.tick cfg pass).run s).2
  | .database f => (f s.1, s.2)

/-- A tick of the run has run the cycle, at the given time. -/
def CycleAt (cfg : SchedulerConfig) (s : SchedulerState) (ops : List CronOp) (time : Int) : Prop :=
  ∃ earlier pass rest, ops = earlier ++ .tick pass :: rest ∧ pass.clock 0 = time ∧
    CycleRan pass (earlier.foldl (CronOp.step cfg) s)
      (CronOp.step cfg (earlier.foldl (CronOp.step cfg) s) (.tick pass))

theorem CycleAt.append {ops : List CronOp} {time : Int} (h : CycleAt cfg s ops time)
    (more : List CronOp) : CycleAt cfg s (ops ++ more) time := by
  obtain ⟨earlier, pass, rest, rfl, htime, hran⟩ := h
  exact ⟨earlier, pass, rest ++ more, by simp, htime, hran⟩

/-- Who holds the lock has run the cycle. -/
theorem lock_ran (httl : 0 < cfg.reserveCycleMs) (hunlocked : ∀ l ∈ s.2.locks,
      l.1 ≠ CronJob.reserveCycle.key) {ops : List CronOp}
    (hconnected : ∀ pass, .tick pass ∈ ops → pass.Connected) :
    ∀ l ∈ (ops.foldl (CronOp.step cfg) s).2.locks, l.1 = CronJob.reserveCycle.key →
      CycleAt cfg s ops (l.2 - cfg.reserveCycleMs) := by
  induction ops using List.reverseRecOn with
  | nil => exact fun l hl hkey => absurd hkey (hunlocked l hl)
  | append_singleton ops op ih =>
    have ih := ih fun pass hpass => hconnected pass (List.mem_append_left _ hpass)
    rw [List.foldl_append]
    intro l hl hkey
    cases op with
    | database f => exact (ih l hl hkey).append _
    | tick pass =>
      have hpass := hconnected pass (List.mem_append_right _ List.mem_cons_self)
      by_cases hfree : ∀ l ∈ (ops.foldl (CronOp.step cfg) s).2.locks,
          l.1 = CronJob.reserveCycle.key → l.2 ≤ pass.clock 0
      · obtain ⟨hran, hlocks⟩ := tick_free hpass httl hfree
        refine ⟨ops, pass, [], rfl, ?_, hran⟩
        have htime := hlocks l hl hkey
        omega
      · push Not at hfree
        obtain ⟨l', hl', hkey', hlive⟩ := hfree
        exact (ih l (tick_held hpass hl' hkey' hlive l hl hkey) hkey).append _

/-- **No interval passes without a report on every active program**, where Redis answers: whenever
a replica ticks, it or a tick less than an interval before it has run the cycle. -/
theorem programs_covered (httl : 0 < cfg.reserveCycleMs)
    (hunlocked : ∀ l ∈ s.2.locks, l.1 ≠ CronJob.reserveCycle.key) {before : List CronOp}
    {pass : CronPass}
    (hconnected : ∀ pass', .tick pass' ∈ before ++ [CronOp.tick pass] → pass'.Connected) :
    ∃ time, pass.clock 0 < time + cfg.reserveCycleMs ∧
      CycleAt cfg s (before ++ [.tick pass]) time := by
  have hpass := hconnected pass (List.mem_append_right _ List.mem_cons_self)
  by_cases hfree : ∀ l ∈ (before.foldl (CronOp.step cfg) s).2.locks,
      l.1 = CronJob.reserveCycle.key → l.2 ≤ pass.clock 0
  · obtain ⟨hran, -⟩ := tick_free hpass httl hfree
    exact ⟨pass.clock 0, by omega, before, pass, [], rfl, rfl, hran⟩
  · push Not at hfree
    obtain ⟨l, hl, hkey, hlive⟩ := hfree
    refine ⟨l.2 - cfg.reserveCycleMs, by omega, CycleAt.append ?_ _⟩
    exact lock_ran httl hunlocked
      (fun pass' hpass' => hconnected pass' (List.mem_append_left _ hpass')) l hl hkey

end

/-! ## Two replicas -/

namespace Sample

def hourlyCycle : SchedulerConfig := ⟨3600000, 300000, some 3600, fun text => text⟩

/-- A tick at one instant, with Redis and without a failing mail. -/
def hourlyTick (nowMs : Int) : CronPass where
  clock _ := nowMs
  redis := some fun _ => true
  delivers := true
  program programId := ⟨"PUSD", fun _ => nowMs, "S-" ++ programId, nowMs, fun _ => nowMs,
    "R-" ++ programId, nowMs, fun _ => nowMs⟩

theorem hourlyTick_connected (nowMs : Int) : (hourlyTick nowMs).Connected := ⟨_, rfl, rfl⟩

/-- The second replica ticks an hour after the first. -/
def hourApart (second : Bool) : CronPass := hourlyTick (if second then 3600000 else 0)

attribute [local instance] Runtime.ascii

def quiet : SchedulerState := (World.empty, ⟨.empty _, [], [], []⟩)

/-- Each of them gets the lock, and reads the active programs. -/
def alternateTicks : Pool Bool CronStep SchedulerState ApiError Unit :=
  (Pool.start quiet fun i => SchedulerService.tick hourlyCycle (hourApart i)).exec
    [false, false, true, true]

theorem job_not_overlapped_hour :
    (false, .service ⟨.program, .findMany, "ACTIVE"⟩) ∈ alternateTicks.history ∧
      (true, .service ⟨.program, .findMany, "ACTIVE"⟩) ∈ alternateTicks.history ∧
      (CronJob.reserveCycle.time (hourApart false) + 3600000 ≤
          CronJob.reserveCycle.time (hourApart true) ∨
        CronJob.reserveCycle.time (hourApart true) + 3600000 ≤
          CronJob.reserveCycle.time (hourApart false)) := by
  have hfirst : (false, CronStep.service ⟨.program, .findMany, "ACTIVE"⟩) ∈ alternateTicks.history := by
    decide
  have hsecond : (true, CronStep.service ⟨.program, .findMany, "ACTIVE"⟩) ∈ alternateTicks.history := by
    decide
  exact ⟨hfirst, hsecond, job_not_overlapped (fun _ => Option.some_ne_none _) quiet
    [false, false, true, true] .reserveCycle Bool.false_ne_true hfirst trivial hsecond trivial⟩

theorem twoTicks_connected (pass : CronPass)
    (h : .tick pass ∈ [CronOp.tick (hourlyTick 0)] ++ [CronOp.tick (hourlyTick 1800000)]) :
    pass.Connected := by
  have hmem : pass = hourlyTick 0 ∨ pass = hourlyTick 1800000 := by simpa using h
  rcases hmem with rfl | rfl <;> exact hourlyTick_connected _

/-- The tick at half past finds the lock held. -/
theorem programs_covered_half :
    ∃ time, 1800000 < time + 3600000 ∧
      CycleAt hourlyCycle (world, quiet.2)
        ([.tick (hourlyTick 0)] ++ [.tick (hourlyTick 1800000)]) time :=
  @programs_covered _ hourlyCycle (world, quiet.2) (by decide)
    (fun _ hl => absurd hl List.not_mem_nil) [.tick (hourlyTick 0)] (hourlyTick 1800000)
    twoTicks_connected

end Sample

end TrusteeBank
