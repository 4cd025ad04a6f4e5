import TrusteeBank.Services.Reconciliation
import TrusteeBank.Services.ReserveRecords
import TrusteeBank.Webhooks.Delivery

/-!
# The scheduler

`SchedulerService.tick` runs two jobs, each under a lock in Redis whose expiry paces it: the
reserve cycle signs a snapshot of every active program, reconciles its reserve and reports what is
short or stale; the dead-letter alert reports the events whose delivery was given up, and remembers
in Redis which it has reported.

**State** (`SchedulerState`). The database of the services, and beside it what only the jobs use:
the rows of the outbox with the state of their delivery, the locks and the set in Redis, and the
notifications that were sent. A replica does not start a tick while one is running.

**Surroundings** (`CronPass`). Every tick has its own clock, its own answers of Redis, and its own
identifiers for the rows it stores.
-/

set_option autoImplicit false

namespace TrusteeBank

open Lib (Call Table)

/-! ## Notifications -/

/-- What the dead-letter alert selects of an event. -/
structure DeadLetter where
  id : String
  eventType : String
  targetPlatform : String
  attempts : Nat
deriving DecidableEq, Repr

/-- The notifications of the jobs. -/
inductive Notice
  | reserveAlerts (raisedAt : String) (alerts : List String)
  | deadLetters (fresh : List DeadLetter)
deriving DecidableEq, Repr

namespace Notice

def subject : Notice → String
  | reserveAlerts _ alerts => "Reserve alerts (" ++ toString alerts.length ++ ")"
  | deadLetters fresh => "Webhook dead-letters (" ++ toString fresh.length ++ ")"

/-- The line of an event in the digest. -/
def deadLetterLine (d : DeadLetter) : String :=
  "• " ++ d.eventType ++ " → " ++ d.targetPlatform ++ " (event " ++ d.id ++ ", " ++
    toString d.attempts ++ " attempts)"

def text : Notice → String
  | reserveAlerts raisedAt alerts =>
    "Trustee reserve cycle at " ++ raisedAt ++ " raised " ++ toString alerts.length ++
      " alert(s):\n\n" ++ "\n".intercalate (alerts.map fun a => "• " ++ a)
  | deadLetters fresh =>
    "The following outbox events exhausted delivery retries and were dead-lettered:\n\n" ++
      "\n".intercalate (fresh.map deadLetterLine) ++
      "\n\nInvestigate the receiver, then replay from the admin portal delivery log."

/-- The events a notification lists. -/
def listed : Notice → List String
  | reserveAlerts _ _ => []
  | deadLetters fresh => fresh.map DeadLetter.id

end Notice

/-! ## State -/

/-- What the jobs use beside the database of the services. -/
structure CronState where
  events : Table fun r : OutboxRow => r.id
  /-- The keys of the locks, and when Redis drops them. -/
  locks : List (String × Int)
  /-- `trustee:alert:deadletter:sent`. -/
  sent : List String
  notices : List Notice

namespace OutboxRow

def deadLetter (r : OutboxRow) : DeadLetter where
  id := r.id
  eventType := r.eventType
  targetPlatform := r.targetPlatform
  attempts := r.attempts

end OutboxRow

namespace CronState

/-- The events that are dead-lettered, the newest first. -/
def deadLettered (s : CronState) : List OutboxRow :=
  (s.events.rows.filter fun r => r.deadLettered).mergeSort fun a b => b.sequence ≤ a.sequence

/-- What the alert reads: the newest hundred. -/
def dead (s : CronState) : List DeadLetter := (s.deadLettered.take 100).map OutboxRow.deadLetter

end CronState

section

variable [Runtime]

abbrev SchedulerState := World × CronState

/-- The steps of the jobs: calls of the services, and calls of their own. -/
inductive CronStep
  | service (q : Query)
  | outbox
  | redis (command key : String)
  | notify
deriving DecidableEq, Repr

abbrev Cron := Call CronStep SchedulerState ApiError

structure SchedulerConfig where
  /-- `RESERVE_CYCLE_INTERVAL_MS`, an hour when unset. -/
  reserveCycleMs : Int
  /-- `DEADLETTER_ALERT_INTERVAL_MS`, five minutes when unset. -/
  deadLetterMs : Int
  /-- `FEED_STALE_SECONDS`, an hour when unset. -/
  feedStaleSeconds : JsNumber
  sha256Hex : String → String

/-- What the reserve cycle meets at one program: readings of the clock, and the identifiers and
times the database fills in. -/
structure ProgramPass where
  /-- The program's `code`, a column no operation reads. -/
  code : String
  snapshotClock : Clock
  snapshotId : String
  snapshotCreatedAt : Int
  runClock : Clock
  runId : String
  runCreatedAt : Int
  positionClock : Clock

/-- What a tick meets. -/
structure CronPass where
  clock : Clock
  /-- Whether Redis answers a command; `none` where there is no Redis. -/
  redis : Option (String → Bool)
  /-- Whether the mail service accepts a notification. -/
  delivers : Bool
  program : String → ProgramPass

/-! ## Reconciliation of the reserve -/

namespace ReconciliationService

/-- What is exceptional about a position. -/
def reserveExceptions (pos : ReservePosition) (programId : String) :
    List ReconciliationException :=
  (if pos.surplus.minor < 0 then
    [⟨"RESERVE_SHORTFALL", .object
      [("eligibleReserveMinor", .string (toString pos.eligibleReserve.minor)),
       ("requiredReserveMinor", .string (toString pos.requiredReserve.minor)),
       ("shortfallMinor", .string (toString pos.surplus.minor))]⟩]
  else []) ++
  (if pos.liabilityAgeSeconds = none then
    [⟨"MISSING_LIABILITY_FEED", .object [("programId", .string programId)]⟩]
  else [])

/-- The row of a run over the reserve of a program. -/
def reserveRun (id : String) (createdAt : Int) (programId : String) (pos : ReservePosition)
    (exceptions : List ReconciliationException) (actor : String) : ReconciliationRun where
  id := id
  scope := "RESERVE"
  programId := some programId
  tenantId := none
  status := if exceptions.length ≠ 0 then "EXCEPTIONS" else "OK"
  summary := .object
    [("eligibleReserveMinor", .string (toString pos.eligibleReserve.minor)),
     ("reserveObligationMinor", .string (toString pos.reserveObligation.minor)),
     ("reserveRatioBps", .ofInt? pos.reserveRatioBps)]
  createdBy := some actor
  createdAt := createdAt
  exceptions := exceptions

/-- Eligible reserve against the circulating liability. -/
def reconcileReserve (clock : Clock) (id : String) (createdAt : Int) (programId actor : String) :
    Service ReconciliationRun := do
  let pos ← ReserveService.position clock programId
  let exceptions := reserveExceptions pos programId
  let run ← record (reserveRun id createdAt programId pos exceptions actor)
  if exceptions.length > 0 then
    EventsService.publish PlatformEvent.reconciliationExceptionCreated
      (.object [("runId", .string run.id), ("programId", .string programId),
        ("types", .strings (exceptions.map ReconciliationException.type))]) "PAYCHAIN"
    return run
  else return run

end ReconciliationService

namespace SchedulerService

/-! ## Locks and notifications -/

/-- `SET key now PX ttl NX`: the key is set unless it is there. Redis refuses an expiry that is not
positive. -/
def setNx (answers : String → Bool) (key : String) (now ttlMs : Int) : Cron Bool :=
  Call.query (.redis "SET" key) fun s =>
    if answers "SET" = false ∨ ttlMs ≤ 0 then .ok (false, s)
    else if s.2.locks.any fun l => l.1 = key && now < l.2 then .ok (false, s)
    else
      let others := s.2.locks.filter fun l => l.1 ≠ key
      .ok (true, s.1, { s.2 with locks := others ++ [(key, now + ttlMs)] })

/-- Acquire a job lock; without Redis every tick runs the job. -/
def acquire (pass : CronPass) (now : Int) (job : String) (ttlMs : Int) : Cron Bool :=
  match pass.redis with
  | none => return true
  | some answers => setNx answers ("trustee:cron:" ++ job) now ttlMs

/-- `notify`: a notification that is not accepted is logged and lost. -/
def notify (delivers : Bool) (notice : Notice) : Cron Unit :=
  Call.query .notify fun s =>
    if delivers then .ok ((), s.1, { s.2 with notices := s.2.notices ++ [notice] })
    else .ok ((), s)

/-- Log the error of a job. -/
def runSafely (job : Cron Unit) : Cron Unit := job.tryCatch fun _ => return ()

/-! ## The reserve cycle -/

def programLabel (pass : ProgramPass) (program : Program) : String :=
  pass.code ++ " (" ++ program.id ++ ")"

/-- The alerts a position raises. -/
def positionAlerts (cfg : SchedulerConfig) (pass : ProgramPass) (program : Program)
    (snapshotId : String) (pos : ReservePosition) : List String :=
  (if pos.surplus.minor < 0 then
    ["SHORTFALL · " ++ programLabel pass program ++ ": eligible " ++
      toString pos.eligibleReserve.minor ++ " < required " ++ toString pos.requiredReserve.minor ++
      " (short " ++ toString pos.surplus.minor ++ " " ++ pos.currency ++ "). ratio=" ++
      (pos.reserveRatioBps.map toString).getD "n/a" ++ "bps snapshot=" ++ snapshotId]
  else []) ++
  match pos.liabilityAgeSeconds with
  | none => ["STALE FEED · " ++ programLabel pass program ++
      ": no PayChain liability snapshot on record."]
  | some age =>
    if exceeds age cfg.feedStaleSeconds then
      ["STALE FEED · " ++ programLabel pass program ++ ": liability feed is " ++ toString age ++
        "s old (threshold " ++ (cfg.feedStaleSeconds.map toString).getD "NaN" ++ "s)."]
    else []

/-- One program: a snapshot, a reconciliation, and the alerts of its position. -/
def programCycle (cfg : SchedulerConfig) (pass : ProgramPass) (program : Program) :
    Service (List String) :=
  Call.tryCatch
    (do
      let snap ← ReserveService.createSnapshot cfg.sha256Hex pass.snapshotClock program.id
        pass.snapshotId pass.snapshotCreatedAt
      let _ ← ReconciliationService.reconcileReserve pass.runClock pass.runId pass.runCreatedAt
        program.id "scheduler"
      let pos ← ReserveService.position pass.positionClock program.id
      return positionAlerts cfg pass program snap.id pos)
    fun err => return ["ERROR · " ++ programLabel pass program ++ ": reserve cycle failed — " ++
      err.message]

/-- The alerts of the programs, in their order. -/
def cycleAlerts (cfg : SchedulerConfig) (pass : CronPass) : List Program → Service (List String)
  | [] => return []
  | program :: programs => do
    let alerts ← programCycle cfg (pass.program program.id) program
    let rest ← cycleAlerts cfg pass programs
    return alerts ++ rest

/-- The alerts of the active programs. -/
def activeAlerts (cfg : SchedulerConfig) (pass : CronPass) : Service (List String) := do
  let programs ← Prisma.program.findMany "ACTIVE" fun p => p.status = .active
  cycleAlerts cfg pass programs

/-- Proof of reserve, reconciliation, and the alerts they raise. -/
def reserveCycle (cfg : SchedulerConfig) (pass : CronPass) : Cron Unit := do
  let alerts ← (activeAlerts cfg pass).onFst CronStep.service
  if alerts.length > 0 then notify pass.delivers (.reserveAlerts (isoString (pass.clock 1)) alerts)
  else return ()

/-! ## The dead-letter alert -/

def sentKey : String := "trustee:alert:deadletter:sent"

/-- The events that were not reported yet; all of them when Redis does not answer. -/
def unsent (answers : String → Bool) (dead : List DeadLetter) : Cron (List DeadLetter) :=
  Call.read (.redis "SISMEMBER" sentKey) fun s =>
    if answers "SISMEMBER" then dead.filter fun d => d.id ∉ s.2.sent else dead

/-- Remember what was reported. -/
def sadd (answers : String → Bool) (ids : List String) : Cron Unit :=
  Call.query (.redis "SADD" sentKey) fun s =>
    if answers "SADD" then .ok ((), s.1, { s.2 with sent := s.2.sent ++ ids })
    else .error (.thrown "Error" "Connection is closed.")

/-- Report the events that are dead-lettered and were not reported. -/
def deadLetterAlert (pass : CronPass) : Cron Unit := do
  let dead ← Call.read .outbox fun s => s.2.dead
  match pass.redis with
  | none => return ()
  | some answers => do
    let fresh ← unsent answers dead
    if fresh = [] then return ()
    else
      notify pass.delivers (.deadLetters fresh)
      sadd answers (fresh.map DeadLetter.id)

/-! ## A tick -/

/-- Run a job if its lock is free. -/
def attempt (pass : CronPass) (now : Int) (job : String) (ttlMs : Int) (body : Cron Unit) :
    Cron Unit := do
  let acquired ← acquire pass now job ttlMs
  if acquired then runSafely body else return ()

/-- Attempt each job under its own lock. -/
def tick (cfg : SchedulerConfig) (pass : CronPass) : Cron Unit := do
  attempt pass (pass.clock 0) "reserve-cycle" cfg.reserveCycleMs (reserveCycle cfg pass)
  attempt pass (pass.clock 2) "deadletter-alert" cfg.deadLetterMs (deadLetterAlert pass)

end SchedulerService

/-! ## What a tick leaves alone -/

section

variable {τ : Type} {g : World → τ}

/-- A view that does not look at the snapshots and the events is kept by a snapshot. -/
theorem createSnapshot_keeps (hset : ∀ t (w : World), g { w with reserveSnapshots := t } = g w)
    (hevent : ∀ event, (outboxCreate event).Keeps g) (sha256Hex : String → String) (clock : Clock)
    (programId id : String) (createdAt : Int) :
    (ReserveService.createSnapshot sha256Hex clock programId id createdAt).Keeps g := by
  have hprogram (programId : String) : (ReserveService.program programId).Keeps g :=
    (Call.keeps_read _ _ _).bind fun _ => Call.keeps_lift _ _
  unfold ReserveService.createSnapshot ReserveService.observedContent
  refine ((position_keeps g _ _).bind fun pos => (hprogram _).bind fun found =>
    Call.keeps_pure _ _).bind fun observed => ?_
  refine (Call.keeps_lift _ _).bind fun contentHash => ?_
  refine (Prisma.reserveSnapshot.keeps_create hset _ _).bind fun snapshot => ?_
  refine (hprogram _).bind fun issuing => (hevent _).bind fun _ => ?_
  refine Call.Keeps.bind ?_ fun _ => Call.keeps_pure _ _
  unfold ReserveService.announceShortfall
  split_ifs
  · exact hevent _
  · exact Call.keeps_pure _ _

theorem reconcileReserve_keeps
    (hset : ∀ t (w : World), g { w with reconciliationRuns := t } = g w)
    (hevent : ∀ event, (outboxCreate event).Keeps g) (clock : Clock) (id : String)
    (createdAt : Int) (programId actor : String) :
    (ReconciliationService.reconcileReserve clock id createdAt programId actor).Keeps g := by
  unfold ReconciliationService.reconcileReserve
  refine (position_keeps g _ _).bind fun pos => ?_
  refine (Prisma.reconciliationRun.keeps_create hset _ _).bind fun run => ?_
  split_ifs
  · exact (hevent _).bind fun _ => Call.keeps_pure _ _
  · exact Call.keeps_pure _ _

theorem programCycle_keeps (hsnapshots : ∀ t (w : World), g { w with reserveSnapshots := t } = g w)
    (hruns : ∀ t (w : World), g { w with reconciliationRuns := t } = g w)
    (hevent : ∀ event, (outboxCreate event).Keeps g) (cfg : SchedulerConfig) (pass : ProgramPass)
    (program : Program) : (SchedulerService.programCycle cfg pass program).Keeps g := by
  unfold SchedulerService.programCycle
  refine Call.Keeps.tryCatch ?_ fun err => Call.keeps_pure _ _
  refine (createSnapshot_keeps hsnapshots hevent _ _ _ _ _).bind fun snap => ?_
  refine (reconcileReserve_keeps hruns hevent _ _ _ _ _).bind fun run => ?_
  exact (position_keeps g _ _).bind fun pos => Call.keeps_pure _ _

theorem cycleAlerts_keeps (hsnapshots : ∀ t (w : World), g { w with reserveSnapshots := t } = g w)
    (hruns : ∀ t (w : World), g { w with reconciliationRuns := t } = g w)
    (hevent : ∀ event, (outboxCreate event).Keeps g) (cfg : SchedulerConfig) (pass : CronPass)
    (programs : List Program) : (SchedulerService.cycleAlerts cfg pass programs).Keeps g := by
  induction programs with
  | nil => exact Call.keeps_pure _ _
  | cons program programs ih =>
    refine (programCycle_keeps hsnapshots hruns hevent cfg _ program).bind fun alerts => ?_
    exact ih.bind fun rest => Call.keeps_pure _ _

/-- A notification is not in the database. -/
theorem notify_keeps (delivers : Bool) (notice : Notice) :
    (SchedulerService.notify delivers notice).Keeps fun s => g s.1 := by
  refine Call.keeps_query fun s a s' h => ?_
  split_ifs at h <;> cases h <;> rfl

/-- A lock is not in the database. -/
theorem acquire_keeps (pass : CronPass) (now : Int) (job : String) (ttlMs : Int) :
    (SchedulerService.acquire pass now job ttlMs).Keeps fun s => g s.1 := by
  unfold SchedulerService.acquire
  cases pass.redis with
  | none => exact Call.keeps_pure _ _
  | some answers =>
    refine Call.keeps_query fun s a s' h => ?_
    split_ifs at h <;> cases h <;> rfl

theorem attempt_keeps {body : Cron Unit} (hbody : body.Keeps fun s => g s.1) (pass : CronPass)
    (now : Int) (job : String) (ttlMs : Int) :
    (SchedulerService.attempt pass now job ttlMs body).Keeps fun s => g s.1 := by
  unfold SchedulerService.attempt
  refine (acquire_keeps pass now job ttlMs).bind fun acquired => ?_
  split_ifs
  · exact Call.Keeps.tryCatch hbody fun err => Call.keeps_pure _ _
  · exact Call.keeps_pure _ _

theorem reserveCycle_keeps
    (hsnapshots : ∀ t (w : World), g { w with reserveSnapshots := t } = g w)
    (hruns : ∀ t (w : World), g { w with reconciliationRuns := t } = g w)
    (hevent : ∀ event, (outboxCreate event).Keeps g) (cfg : SchedulerConfig) (pass : CronPass) :
    (SchedulerService.reserveCycle cfg pass).Keeps fun s => g s.1 := by
  unfold SchedulerService.reserveCycle
  have hactive : (SchedulerService.activeAlerts cfg pass).Keeps g :=
    (Call.keeps_read _ _ _).bind fun _ => cycleAlerts_keeps hsnapshots hruns hevent cfg pass _
  refine (hactive.onFst CronStep.service).bind fun alerts => ?_
  split_ifs
  · exact notify_keeps _ _
  · exact Call.keeps_pure _ _

/-- The dead-letter alert does not touch the database of the services. -/
theorem deadLetterAlert_keeps (pass : CronPass) :
    (SchedulerService.deadLetterAlert pass).Keeps fun s => g s.1 := by
  unfold SchedulerService.deadLetterAlert
  refine (Call.keeps_read _ _ _).bind fun dead => ?_
  cases pass.redis with
  | none => exact Call.keeps_pure _ _
  | some answers =>
    refine (Call.keeps_read _ _ _).bind fun fresh => ?_
    split_ifs
    · exact Call.keeps_pure _ _
    · refine (notify_keeps _ _).bind fun _ => Call.keeps_query fun s a s' h => ?_
      split_ifs at h
      cases h
      rfl

/-- **A tick stores snapshots, reconciliation runs and events, and nothing else.** -/
theorem tick_keeps (hsnapshots : ∀ t (w : World), g { w with reserveSnapshots := t } = g w)
    (hruns : ∀ t (w : World), g { w with reconciliationRuns := t } = g w)
    (hevent : ∀ event, (outboxCreate event).Keeps g) (cfg : SchedulerConfig) (pass : CronPass) :
    (SchedulerService.tick cfg pass).Keeps fun s => g s.1 :=
  (attempt_keeps (reserveCycle_keeps hsnapshots hruns hevent cfg pass) _ _ _ _).bind fun _ =>
    attempt_keeps (deadLetterAlert_keeps pass) _ _ _ _

end

end

end TrusteeBank
