import TrusteeBank.Lib.Interleave
import TrusteeBank.Webhooks.Delivery

/-!
# Replays while the worker runs

The worker makes one pass after the other. Meanwhile the services publish events, and
administrators list the outbox, look at its health, and replay events: one of them, or all that are
dead-lettered.

**The worker** (`WebhookWorker.loop`). A pass reads its batch once, and then takes several steps
for each event: it looks the client up, writes the delivery log after the request, and writes the
row from the number of attempts it had when the batch was read. It is over when a log cannot be
stored. Requests run between any two of these steps.

**Phases** (`WorkerPhase`). The events of the batch whose row is still to be written, and whether
the log already says that the receiver took the first of them.

**Replays** (`requeuedIds`). The events a request requeues are read off the state its step is taken
in: the one it names, if it is there, or those that are dead-lettered then.

* `run_deliverPending`: a pass with nothing in between is `WebhookDelivery.deliverPending`;
* `webhook_views_agree`: delivered, dead-lettered and pending split the events at any time;
* `accepted_once_per_replay`: an event is taken once, and once more for each replay;
* `replayed_events_drain`: what is replayed is delivered, oldest first.
-/

set_option autoImplicit false

namespace TrusteeBank

open Lib (Call Pool Meets Table inv_run)
open WebhookDelivery HttpAdapter

/-! ## The tables and the steps on them -/

/-- The outbox, and the audit trail of the requests. -/
structure WebhookState extends Outbox where
  auditLog : List AuditLog

/-- The state with other events. -/
def WebhookState.withEvents (s : WebhookState) (events : Table fun r : OutboxRow => r.id) :
    WebhookState :=
  { s with events }

inductive OutboxQuery
  | readPending
  | findClient (id : String)
  | logDelivery (id : String)
  | writeAttempt (id : String)
  | publish (id : String)
  | replay (id : String)
  | replayDeadLettered
  | list
  | countDead
  | countPending
  | countDelivered
  | audit
deriving DecidableEq, Repr

abbrev WebhookCall := Call OutboxQuery WebhookState ApiError

namespace OutboxRow

/-- The row of a new event: `attempts` and `deadLettered` have their defaults. -/
def Unsent (r : OutboxRow) : Prop :=
  r.deliveredAt = none ∧ r.deadLettered = false ∧ r.attempts = 0

instance (r : OutboxRow) : Decidable r.Unsent := inferInstanceAs (Decidable (_ ∧ _))

/-- `deliveredAt: null, deadLettered: false, attempts: 0`. -/
def requeued (r : OutboxRow) : OutboxRow :=
  { r with deliveredAt := none, deadLettered := false, attempts := 0 }

@[simp] theorem requeued_id (r : OutboxRow) : r.requeued.id = r.id := rfl

@[simp] theorem requeued_event (r : OutboxRow) : r.requeued.toStoredEvent = r.toStoredEvent := rfl

/-- The row after `updateMany` where `deadLettered: true`. -/
def requeuedIfDead (r : OutboxRow) : OutboxRow := if r.deadLettered then r.requeued else r

theorem requeuedIfDead_event (r : OutboxRow) :
    r.requeuedIfDead.toStoredEvent = r.toStoredEvent := by
  unfold requeuedIfDead
  split_ifs <;> rfl

theorem requeuedIfDead_id (r : OutboxRow) : r.requeuedIfDead.id = r.id :=
  congrArg StoredEvent.id r.requeuedIfDead_event

/-- The status `listWebhooks` shows. -/
def status (r : OutboxRow) : String :=
  if r.deliveredAt.isSome then "DELIVERED"
  else if r.deadLettered then "DEAD_LETTERED"
  else "PENDING"

end OutboxRow

namespace Outbox

/-- `deadLettered: true`. -/
def deadCount (s : Outbox) : Nat := s.events.rows.countP fun r => r.deadLettered

/-- `deliveredAt: { not: null }`. -/
def deliveredCount (s : Outbox) : Nat := s.events.rows.countP fun r => r.deliveredAt.isSome

/-- The requests for an event that its receiver took, by the delivery log. -/
def acceptedCount (s : Outbox) (id : String) : Nat :=
  s.deliveries.countP fun d => d.ok ∧ d.eventId = id

end Outbox

/-! ## The worker's steps -/

namespace WebhookWorker

def markAttempt (maxAttempts : Nat) (id : String) (attempts : Nat) : WebhookCall Unit :=
  Call.query (.writeAttempt id) fun s =>
    .ok ((), { s with toOutbox := WebhookDelivery.markAttempt maxAttempts id attempts s.toOutbox })

/-- `outboxEvent.update` of an event that was delivered. -/
def markDelivered (id : String) (now : Int) (attempts : Nat) : WebhookCall Unit :=
  Call.query (.writeAttempt id) fun s =>
    .ok ((), { s with toOutbox :=
      s.toOutbox.update id (fun r => { r with deliveredAt := some now, attempts }) fun _ => rfl })

/-- `webhookDelivery.create`. -/
def logDelivery (eventId : String) (attempt : Nat) (result : DeliveryResult) : WebhookCall Unit :=
  Call.query (.logDelivery eventId) fun s => do
    let row ← deliveryRow eventId attempt result
    return ((), { s with deliveries := s.deliveries ++ [row] })

variable [Runtime] [WebhookRuntime]

/-- The body of the loop of `deliverPending`, step by step. -/
def attemptDelivery (cfg : WorkerConfig) (pass : Pass) (event : OutboxRow) : WebhookCall Bool := do
  let found ← Call.read (.findClient event.id) fun _ => pass.client event.id event.targetPlatform
  match activeClient found with
  | none =>
    markAttempt cfg.maxAttempts event.id (event.attempts + 1)
    return false
  | some client =>
    let env ← finalEnvelope cfg.webhookKey pass.now client event.toStoredEvent
    let result := submit pass client event.toStoredEvent env
    let attempt := event.attempts + 1
    logDelivery event.id attempt result
    if result.delivered then
      markDelivered event.id pass.now attempt
      return true
    else
      markAttempt cfg.maxAttempts event.id attempt
      return false

def deliverAll (cfg : WorkerConfig) (pass : Pass) : List OutboxRow → Nat → WebhookCall Nat
  | [], delivered => return delivered
  | event :: events, delivered => do
    let ok ← attemptDelivery cfg pass event
    deliverAll cfg pass events (if ok then delivered + 1 else delivered)

def deliverPending (cfg : WorkerConfig) (pass : Pass) : WebhookCall Nat := do
  let pending ← Call.read .readPending fun s => s.toOutbox.batch cfg.batchSize
  deliverAll cfg pass pending 0

/-- `loop` of the worker: a pass that fails is logged, and the next one follows. -/
def loop (cfg : WorkerConfig) : List Pass → WebhookCall Unit
  | [] => return ()
  | pass :: passes => do
    (deliverPending cfg pass).void.tryCatch fun _ => return ()
    loop cfg passes

end WebhookWorker

/-! ## The requests -/

namespace WebhookAdmin

/-- What `listWebhooks` shows of an event. -/
structure ListedEvent where
  id : String
  eventType : String
  targetPlatform : String
  attempts : Nat
  status : String
  createdAt : String
deriving DecidableEq, Repr

/-- The `where` of `listWebhooks`. -/
def statusFilter (status : Option String) (r : OutboxRow) : Bool :=
  if status = some "dead" then r.deadLettered
  else if status = some "delivered" then r.deliveredAt.isSome
  else if status = some "pending" then r.Pending
  else true

def listedEvent [WebhookRuntime] (r : OutboxRow) : ListedEvent where
  id := r.id
  eventType := r.eventType
  targetPlatform := r.targetPlatform
  attempts := r.attempts
  status := r.status
  createdAt := isoString r.createdAt

def listWebhooks [WebhookRuntime] (status : Option String) (limit : Nat) :
    WebhookCall (List ListedEvent) := do
  let events ← Call.read .list fun s =>
    ((s.events.rows.filter (statusFilter status)).mergeSort fun a b =>
      b.sequence ≤ a.sequence).take (min limit 500)
  return events.map listedEvent

/-- What `integrationHealth` says of the outbox. -/
structure OutboxHealth where
  deadLettered : Nat
  pending : Nat
  delivered : Nat
deriving DecidableEq, Repr

/-- The counts of `integrationHealth`; the clients are probed over the network. -/
def integrationHealth : WebhookCall OutboxHealth := do
  let dead ← Call.read .countDead fun s => s.toOutbox.deadCount
  let pending ← Call.read .countPending fun s => s.toOutbox.pendingCount
  let delivered ← Call.read .countDelivered fun s => s.toOutbox.deliveredCount
  return ⟨dead, pending, delivered⟩

def record (entry : AuditRecord) : WebhookCall Unit :=
  Call.query .audit fun s => do
    checkTexts entry.row.givenTexts
    return ((), { s with auditLog := s.auditLog ++ [entry.row] })

def replayWebhook (id actor : String) : WebhookCall Unit := do
  Call.query (.replay id) fun s =>
    match s.events.find? id with
    | none => .error (.prisma "P2025")
    | some _ => .ok ((), s.withEvents (s.events.modify id OutboxRow.requeued fun _ => rfl))
  record
    { actor, action := "admin.webhook.replayed", subjectType := "OUTBOX_EVENT"
      subjectId := some id }

/-- The answer is the number of events that were requeued. -/
def replayDeadLettered (actor : String) : WebhookCall Nat := do
  let count ← Call.query .replayDeadLettered fun s =>
    .ok (s.toOutbox.deadCount,
      s.withEvents (s.events.mapRows OutboxRow.requeuedIfDead OutboxRow.requeuedIfDead_id))
  record
    { actor, action := "admin.webhook.replay_all", subjectType := "OUTBOX_EVENT"
      afterState := some (.object [("count", .number count)]) }
  return count

/-- `outboxEvent.create`, by a service that publishes an event. -/
def publish (row : OutboxRow) : WebhookCall Unit :=
  Call.query (.publish row.id) fun s =>
    match s.events.insert? row with
    | none => .error (.prisma "P2002")
    | some events => .ok ((), s.withEvents events)

end WebhookAdmin

/-- What runs beside the worker. -/
inductive WebhookRequest
  | publish (row : OutboxRow) (unsent : row.Unsent)
  | replayWebhook (id actor : String)
  | replayDeadLettered (actor : String)
  | listWebhooks (status : Option String) (limit : Nat)
  | integrationHealth

section

variable [Runtime] [WebhookRuntime]

def WebhookRequest.call : WebhookRequest → WebhookCall Unit
  | .publish row _ => WebhookAdmin.publish row
  | .replayWebhook id actor => WebhookAdmin.replayWebhook id actor
  | .replayDeadLettered actor => (WebhookAdmin.replayDeadLettered actor).void
  | .listWebhooks status limit => (WebhookAdmin.listWebhooks status limit).void
  | .integrationHealth => WebhookAdmin.integrationHealth.void

/-- The worker and any number of requests. -/
def webhookCalls {ι : Type} (cfg : WorkerConfig) (passes : List Pass)
    (requests : ι → WebhookRequest) : Option ι → WebhookCall Unit
  | none => WebhookWorker.loop cfg passes
  | some i => (requests i).call

end

/-! ## A pass with nothing in between -/

namespace WebhookWorker

variable [Runtime] [WebhookRuntime]

/-- The state after steps that write only the outbox. -/
def onOutbox {α : Type} (s : WebhookState) (out : Except ApiError α × Outbox) :
    Except ApiError α × WebhookState :=
  (out.1, { s with toOutbox := out.2 })

theorem run_attemptDelivery (cfg : WorkerConfig) (pass : Pass) (event : OutboxRow)
    (s : WebhookState) : (attemptDelivery cfg pass event).run s =
      onOutbox s (WebhookDelivery.attemptDelivery cfg pass event s.toOutbox) := by
  unfold attemptDelivery WebhookDelivery.attemptDelivery
  rw [Call.run_read_bind]
  cases activeClient (pass.client event.id event.targetPlatform) with
  | none => rfl
  | some client =>
    cases henv : finalEnvelope cfg.webhookKey pass.now client event.toStoredEvent with
    | error e =>
      simp only [henv]
      rfl
    | ok env =>
      simp only [henv, liftM, Call.lift_ok_bind]
      generalize submit pass client event.toStoredEvent env = result
      unfold logDelivery
      rw [Call.run_bind, Call.run_query]
      cases deliveryRow event.id (event.attempts + 1) result with
      | error e => rfl
      | ok row => cases hdelivered : result.delivered <;> rfl

theorem run_deliverAll (cfg : WorkerConfig) (pass : Pass) (events : List OutboxRow) (n : Nat)
    (s : WebhookState) : (deliverAll cfg pass events n).run s =
      onOutbox s (WebhookDelivery.deliverAll cfg pass events n s.toOutbox) := by
  induction events generalizing n s with
  | nil => rfl
  | cons event events ih =>
    rw [deliverAll, WebhookDelivery.deliverAll, Call.run_bind, run_attemptDelivery]
    rcases WebhookDelivery.attemptDelivery cfg pass event s.toOutbox with ⟨e | ok, s'⟩
    · rfl
    · exact ih _ _

/-- **A pass of the worker, alone.** -/
theorem run_deliverPending (cfg : WorkerConfig) (pass : Pass) (s : WebhookState) :
    (deliverPending cfg pass).run s =
      onOutbox s (WebhookDelivery.deliverPending cfg pass s.toOutbox) := by
  unfold deliverPending WebhookDelivery.deliverPending
  rw [Call.run_read_bind]
  exact run_deliverAll cfg pass _ 0 s

/-- The passes of the worker, alone. -/
theorem run_loop (cfg : WorkerConfig) (passes : List Pass) (s : WebhookState) :
    (loop cfg passes).run s =
      (.ok (), { s with toOutbox := passes.foldl (WebhookDelivery.step cfg) s.toOutbox }) := by
  induction passes generalizing s with
  | nil => rfl
  | cons pass passes ih =>
    have hpass : ((deliverPending cfg pass).void.tryCatch fun _ => return ()).run s =
        (.ok (), { s with toOutbox := WebhookDelivery.step cfg s.toOutbox pass }) := by
      rw [Call.run_tryCatch]
      unfold Call.void WebhookDelivery.step
      rw [Call.run_bind, run_deliverPending]
      rcases WebhookDelivery.deliverPending cfg pass s.toOutbox with ⟨_ | _, s'⟩ <;> rfl
    rw [loop, Call.run_bind, hpass]
    exact ih _

end WebhookWorker

/-! ## Moves -/

/-- The events of the batch whose row is still to be written, and whether the delivery log says
that the receiver took the first of them. -/
structure WorkerPhase where
  todo : List OutboxRow
  accepted : Bool

/-- The events after the row of an event of the batch is written. -/
def Outbox.attempted (s : Outbox) (maxAttempts : Nat) (now : Int) (accepted : Bool)
    (e : OutboxRow) : Table fun r : OutboxRow => r.id :=
  s.events.modify e.id (fun r => r.attempted maxAttempts now accepted (e.attempts + 1))
    fun r => r.attempted_id maxAttempts now accepted (e.attempts + 1)

theorem Outbox.find?_attempted_self {s : Outbox} {e r : OutboxRow}
    (hfind : s.events.find? e.id = some r) (maxAttempts : Nat) (now : Int) (accepted : Bool) :
    (s.attempted maxAttempts now accepted e).find? e.id =
      some (r.attempted maxAttempts now accepted (e.attempts + 1)) := by
  rw [attempted, Table.find?_modify, if_pos rfl, hfind]
  rfl

theorem Outbox.find?_attempted_of_ne (s : Outbox) {e : OutboxRow} {id : String} (hid : id ≠ e.id)
    (maxAttempts : Nat) (now : Int) (accepted : Bool) :
    (s.attempted maxAttempts now accepted e).find? id = s.events.find? id := by
  rw [attempted, Table.find?_modify, if_neg hid]

/-- What the worker does in one step. -/
inductive WorkerMove (cfg : WorkerConfig) :
    WorkerPhase → OutboxQuery → WebhookState → WebhookState → WorkerPhase → Prop
  | readPending (s : WebhookState) : WorkerMove cfg ⟨[], false⟩ .readPending s s
      ⟨s.toOutbox.batch cfg.batchSize, false⟩
  | findClient (e : OutboxRow) (rest : List OutboxRow) (s : WebhookState) :
      WorkerMove cfg ⟨e :: rest, false⟩ (.findClient e.id) s s ⟨e :: rest, false⟩
  | logDelivery (e : OutboxRow) (rest : List OutboxRow) (s : WebhookState) (row : DeliveryLogRow)
      (hid : row.eventId = e.id) :
      WorkerMove cfg ⟨e :: rest, false⟩ (.logDelivery e.id) s
        { s with deliveries := s.deliveries ++ [row] } ⟨e :: rest, row.ok⟩
  | logRefused (e : OutboxRow) (rest : List OutboxRow) (s : WebhookState) :
      WorkerMove cfg ⟨e :: rest, false⟩ (.logDelivery e.id) s s ⟨[], false⟩
  | writeAttempt (e : OutboxRow) (rest : List OutboxRow) (s : WebhookState) (accepted : Bool)
      (now : Int) :
      WorkerMove cfg ⟨e :: rest, accepted⟩ (.writeAttempt e.id) s
        (s.withEvents (s.toOutbox.attempted cfg.maxAttempts now accepted e)) ⟨rest, false⟩

/-- What a request does in one step. -/
inductive RequestMove : OutboxQuery → WebhookState → WebhookState → Prop
  | same (q : OutboxQuery) (s : WebhookState) : RequestMove q s s
  | audit (s : WebhookState) (row : AuditLog) :
      RequestMove .audit s { s with auditLog := s.auditLog ++ [row] }
  | publish (s : WebhookState) {row : OutboxRow} (hunsent : row.Unsent)
      {events : Table fun r : OutboxRow => r.id} (hinsert : s.events.insert? row = some events) :
      RequestMove (.publish row.id) s (s.withEvents events)
  | replay (s : WebhookState) {r : OutboxRow} {id : String} (hfind : s.events.find? id = some r) :
      RequestMove (.replay id) s
        (s.withEvents (s.events.modify id OutboxRow.requeued OutboxRow.requeued_id))
  | replayDeadLettered (s : WebhookState) : RequestMove .replayDeadLettered s
      (s.withEvents (s.events.mapRows OutboxRow.requeuedIfDead OutboxRow.requeuedIfDead_id))

/-- The protocol of a call: the worker is `none`, and a request has no phases. -/
def WebhookMove {ι : Type} (cfg : WorkerConfig) :
    Option ι → WorkerPhase → OutboxQuery → WebhookState → WebhookState → WorkerPhase → Prop
  | none => WorkerMove cfg
  | some _ => fun φ q s s' φ' => RequestMove q s s' ∧ φ' = φ

section

/-- A read of a request is no move. -/
theorem read_request_obeys {α β : Type} {Q : WorkerPhase → Except ApiError β → Prop}
    {q : OutboxQuery} {g : WebhookState → α} {f : α → WebhookCall β} {φ : WorkerPhase}
    (h : ∀ a, (f a).Obeys (fun φ q s s' φ' => RequestMove q s s' ∧ φ' = φ) (fun _ => True) Q φ) :
    (Call.read q g >>= f).Obeys (fun φ q s s' φ' => RequestMove q s s' ∧ φ' = φ)
      (fun _ => True) Q φ :=
  Call.Obeys.read_bind fun s _ => ⟨φ, ⟨.same q s, rfl⟩, h (g s)⟩

theorem WebhookAdmin.record_obeys (entry : AuditRecord) (φ : WorkerPhase) :
    (record entry).Obeys (fun φ q s s' φ' => RequestMove q s s' ∧ φ' = φ) (fun _ => True)
      (fun _ _ => True) φ := by
  refine Call.Obeys.query (fun s u s' _ hs => ?_) fun s e _ _ => ⟨φ, ⟨.same _ s, rfl⟩, trivial⟩
  obtain ⟨_, _, hs⟩ := bind_eq_ok.mp hs
  cases hs
  exact ⟨φ, ⟨.audit s entry.row, rfl⟩, trivial⟩

variable [Runtime] [WebhookRuntime] {cfg : WorkerConfig}

/-- An attempt is over when the row of its event is written, and the pass is when its log cannot
be. -/
theorem WebhookWorker.attemptDelivery_obeys (pass : Pass) (e : OutboxRow) (rest : List OutboxRow) :
    (attemptDelivery cfg pass e).Obeys (WorkerMove cfg) (fun _ => True)
      (fun φ r => match r with
        | .ok _ => φ = ⟨rest, false⟩
        | .error _ => φ = ⟨[], false⟩) ⟨e :: rest, false⟩ := by
  unfold attemptDelivery
  refine Call.Obeys.read_bind fun s _ => ⟨_, .findClient e rest s, ?_⟩
  cases activeClient (pass.client e.id e.targetPlatform) with
  | none =>
    refine Call.Obeys.query_bind (fun s u s' _ hs => ?_) fun s err _ hs => by cases hs
    cases hs
    exact ⟨_, .writeAttempt e rest s false pass.now, rfl⟩
  | some client =>
    obtain ⟨env, henv⟩ := finalEnvelope_ok cfg.webhookKey pass.now client e
    simp only [henv, liftM, Call.lift_ok_bind]
    generalize submit pass client e.toStoredEvent env = result
    refine Call.Obeys.query_bind (fun s u s' _ hs => ?_) fun s err _ _ =>
      ⟨_, .logRefused e rest s, rfl⟩
    obtain ⟨row, hrow, hs⟩ := bind_eq_ok.mp hs
    cases hs
    obtain ⟨hid, hok⟩ := deliveryRow_eq hrow
    refine ⟨_, .logDelivery e rest s row hid, ?_⟩
    rw [hok]
    cases result.delivered with
    | true =>
      refine Call.Obeys.query_bind (fun s u s' _ hs => ?_) fun s err _ hs => by cases hs
      cases hs
      exact ⟨_, .writeAttempt e rest s true pass.now, rfl⟩
    | false =>
      refine Call.Obeys.query_bind (fun s u s' _ hs => ?_) fun s err _ hs => by cases hs
      cases hs
      exact ⟨_, .writeAttempt e rest s false pass.now, rfl⟩

theorem WebhookWorker.deliverAll_obeys (pass : Pass) (events : List OutboxRow) (n : Nat) :
    (deliverAll cfg pass events n).Obeys (WorkerMove cfg) (fun _ => True)
      (fun φ _ => φ = ⟨[], false⟩) ⟨events, false⟩ := by
  induction events generalizing n with
  | nil => exact rfl
  | cons e rest ih =>
    rw [deliverAll]
    refine (attemptDelivery_obeys pass e rest).bind ?_ fun φ err h => h
    rintro φ ok rfl
    exact ih _

theorem WebhookWorker.deliverPending_obeys (pass : Pass) :
    (deliverPending cfg pass).Obeys (WorkerMove cfg) (fun _ => True)
      (fun φ _ => φ = ⟨[], false⟩) ⟨[], false⟩ := by
  unfold deliverPending
  exact Call.Obeys.read_bind fun s _ => ⟨_, .readPending s, deliverAll_obeys pass _ 0⟩

/-- **The worker keeps to its moves.** -/
theorem WebhookWorker.loop_obeys (passes : List Pass) :
    (loop cfg passes).Obeys (WorkerMove cfg) (fun _ => True) (fun φ _ => φ = ⟨[], false⟩)
      ⟨[], false⟩ := by
  induction passes with
  | nil => exact rfl
  | cons pass passes ih =>
    rw [loop]
    have hpass := (@deliverPending_obeys _ _ cfg pass).void
    refine (hpass.tryCatch (Q := fun φ _ => φ = ⟨[], false⟩) (fun _ _ h => h) ?_).bind ?_ ?_
    · exact fun φ e h => h
    · rintro φ u rfl
      exact ih
    · exact fun φ e h => h

omit [Runtime] in
/-- **A request keeps to its moves.** -/
theorem WebhookRequest.obeys (r : WebhookRequest) (φ : WorkerPhase) :
    r.call.Obeys (fun φ q s s' φ' => RequestMove q s s' ∧ φ' = φ) (fun _ => True)
      (fun _ _ => True) φ := by
  cases r with
  | publish row hunsent =>
    intro s _
    refine ⟨φ, ⟨?_, rfl⟩, trivial⟩
    cases hinsert : s.events.insert? row with
    | none =>
      simp only [hinsert]
      exact .same _ s
    | some events =>
      simp only [hinsert]
      exact .publish s hunsent hinsert
  | replayWebhook id actor =>
    refine Call.Obeys.query_bind (fun s u s' _ hs => ?_) fun s e _ _ => ⟨φ, ⟨.same _ s, rfl⟩, trivial⟩
    cases hfind : s.events.find? id with
    | none =>
      simp only [hfind] at hs
      cases hs
    | some row =>
      simp only [hfind] at hs
      cases hs
      exact ⟨φ, ⟨.replay s hfind, rfl⟩, WebhookAdmin.record_obeys _ φ⟩
  | replayDeadLettered actor =>
    refine Call.Obeys.void (Call.Obeys.query_bind (fun s n s' _ hs => ?_) fun s e _ hs => by cases hs)
    cases hs
    refine ⟨φ, ⟨.replayDeadLettered s, rfl⟩, ?_⟩
    exact (WebhookAdmin.record_obeys _ φ).bind (fun _ _ _ => trivial) fun _ _ _ => trivial
  | listWebhooks status limit => exact Call.Obeys.void (read_request_obeys fun _ => trivial)
  | integrationHealth =>
    exact Call.Obeys.void (read_request_obeys fun _ => read_request_obeys fun _ =>
      read_request_obeys fun _ => trivial)

end

/-! ## What holds at any time -/

/-- A row that has not run out of attempts unless it is dead-lettered, and is dead-lettered only
when it was not delivered. -/
structure OutboxRow.Sound (maxAttempts : Nat) (r : OutboxRow) : Prop where
  attempts_le : r.attempts ≤ maxAttempts
  dead : r.deadLettered = true → r.deliveredAt = none
  pending : r.Pending → r.attempts < maxAttempts

namespace OutboxRow

variable {maxAttempts : Nat} {r : OutboxRow}

theorem Unsent.sound (hmax : 1 ≤ maxAttempts) (h : r.Unsent) : r.Sound maxAttempts := by
  obtain ⟨hnone, hdead, hattempts⟩ := h
  refine ⟨by omega, fun _ => hnone, fun _ => by omega⟩

theorem requeued_unsent (r : OutboxRow) : r.requeued.Unsent := ⟨rfl, rfl, rfl⟩

theorem Unsent.pending (h : r.Unsent) : r.Pending := ⟨h.1, h.2.1⟩

/-- What a pass writes from the number of attempts it read, which may be out of date. -/
theorem Pending.attempted_sound (hpending : r.Pending) {attempts : Nat}
    (hbelow : attempts < maxAttempts) (now : Int) (accepted : Bool) :
    (r.attempted maxAttempts now accepted (attempts + 1)).Sound maxAttempts := by
  cases accepted with
  | true =>
    refine ⟨hbelow, fun hdead => ?_, fun h => absurd h.1 (Option.some_ne_none now)⟩
    exact absurd (hdead.symm.trans hpending.2) (by decide)
  | false =>
    refine ⟨hbelow, fun _ => hpending.1, fun h => ?_⟩
    have hleft : ¬maxAttempts ≤ attempts + 1 := of_decide_eq_false h.2
    exact Nat.lt_of_not_le hleft

end OutboxRow

/-- One when the event may still be taken without a replay: it is not there yet, or pending. -/
def Outbox.owed (s : Outbox) (id : String) : Nat :=
  match s.events.find? id with
  | none => 1
  | some r => if r.Pending then 1 else 0

theorem Outbox.owed_le (s : Outbox) (id : String) : s.owed id ≤ 1 := by
  unfold owed
  split
  · exact Nat.le_refl 1
  · split_ifs <;> omega

theorem Outbox.owed_congr {s s' : Outbox} {id : String}
    (h : s'.events.find? id = s.events.find? id) : s'.owed id = s.owed id := by
  unfold owed
  rw [h]

/-- The receiver has taken the event, and the worker is about to write that. -/
def WorkerPhase.Settles (φ : WorkerPhase) (id : String) : Prop :=
  φ.accepted = true ∧ φ.todo.head?.map (fun e => e.id) = some id

instance (φ : WorkerPhase) (id : String) : Decidable (φ.Settles id) :=
  inferInstanceAs (Decidable (_ ∧ _))

/-- What is owed of an event while the worker is in a phase. -/
def WorkerPhase.owed (φ : WorkerPhase) (s : Outbox) (id : String) : Nat :=
  if φ.Settles id then 0 else s.owed id

theorem WorkerPhase.owed_le (φ : WorkerPhase) (s : Outbox) (id : String) :
    φ.owed s id ≤ s.owed id := by
  unfold owed
  split_ifs
  · exact Nat.zero_le _
  · exact Nat.le_refl _

theorem WorkerPhase.owed_mono (φ : WorkerPhase) {s s' : Outbox} {id : String}
    (h : s'.owed id ≤ s.owed id) : φ.owed s' id ≤ φ.owed s id := by
  unfold owed
  split_ifs
  · exact Nat.le_refl 0
  · exact h

theorem WorkerPhase.owed_of_not_accepted {todo : List OutboxRow} (s : Outbox) (id : String) :
    (WorkerPhase.mk todo false).owed s id = s.owed id :=
  if_neg fun h => Bool.false_ne_true h.1

/-- Only the first event is about to be settled. -/
theorem WorkerPhase.owed_of_ne {e : OutboxRow} {rest : List OutboxRow} {accepted : Bool}
    (s : Outbox) {id : String} (hid : id ≠ e.id) :
    (WorkerPhase.mk (e :: rest) accepted).owed s id = s.owed id :=
  if_neg fun h => hid (Option.some.inj h.2).symm

theorem WorkerPhase.owed_of_accepted (e : OutboxRow) (rest : List OutboxRow) (s : Outbox) :
    (WorkerPhase.mk (e :: rest) true).owed s e.id = 0 :=
  if_pos ⟨rfl, rfl⟩

theorem Outbox.owed_pending {s : Outbox} {id : String} {r : OutboxRow}
    (hfind : s.events.find? id = some r) (hpending : r.Pending) : s.owed id = 1 := by
  unfold owed
  rw [hfind]
  exact if_pos hpending

theorem Outbox.owed_settled {s : Outbox} {id : String} {r : OutboxRow}
    (hfind : s.events.find? id = some r) (hpending : ¬r.Pending) : s.owed id = 0 := by
  unfold owed
  rw [hfind]
  exact if_neg hpending

theorem Outbox.owed_absent {s : Outbox} {id : String} (hfind : s.events.find? id = none) :
    s.owed id = 1 := by
  unfold owed
  rw [hfind]

theorem WebhookState.acceptedCount_log (s : WebhookState) (row : DeliveryLogRow) (id : String) :
    ({ s with deliveries := s.deliveries ++ [row] } : WebhookState).acceptedCount id =
      s.acceptedCount id + if row.ok ∧ row.eventId = id then 1 else 0 := by
  unfold Outbox.acceptedCount
  rw [List.countP_append, List.countP_singleton]
  simp

/-- The events that a step in this state replays. -/
def requeuedIds (q : OutboxQuery) (s : WebhookState) : List String :=
  match q with
  | .replay id => if (s.events.find? id).isSome then [id] else []
  | .replayDeadLettered => (s.events.rows.filter fun r => r.deadLettered).map fun r => r.id
  | _ => []

theorem mem_requeuedIds_replayDeadLettered {s : WebhookState} {r : OutboxRow}
    (hr : r ∈ s.events.rows) (hdead : r.deadLettered = true) :
    r.id ∈ requeuedIds .replayDeadLettered s :=
  List.mem_map_of_mem (List.mem_filter.mpr ⟨hr, hdead⟩)

/-- What holds while the worker runs: `s₀` is the state at the start, and `log` has the events that
were replayed, once for each replay. -/
structure Tracked (maxAttempts : Nat) (s₀ s : WebhookState) (log : List String)
    (φ : WorkerPhase) : Prop where
  sound : ∀ r ∈ s.events.rows, r.Sound maxAttempts
  kept : ∀ r₀ ∈ s₀.events.rows, ∃ r, s.events.find? r₀.id = some r ∧
    r.toStoredEvent = r₀.toStoredEvent
  distinct : (φ.todo.map fun e => e.id).Nodup
  todo : ∀ e ∈ φ.todo, e.attempts < maxAttempts ∧ ∃ r, s.events.find? e.id = some r ∧ r.Pending
  accepted : ∀ id, s.acceptedCount id + φ.owed s.toOutbox id ≤
    s₀.acceptedCount id + s₀.owed id + log.count id

namespace Tracked

variable {maxAttempts : Nat} {s₀ s : WebhookState} {log : List String} {φ : WorkerPhase}

theorem start (h : ∀ r ∈ s₀.events.rows, r.Sound maxAttempts) :
    Tracked maxAttempts s₀ s₀ [] ⟨[], false⟩ where
  sound := h
  kept r₀ hr₀ := ⟨r₀, Table.find?_key_of_mem hr₀, rfl⟩
  distinct := List.nodup_nil
  todo _ he := absurd he List.not_mem_nil
  accepted id := by
    rw [WorkerPhase.owed_of_not_accepted]
    exact Nat.le_add_right _ _

/-- From here on, with the worker where it is. -/
theorem restart (h : Tracked maxAttempts s₀ s log φ) : Tracked maxAttempts s s [] φ where
  sound := h.sound
  kept r hr := ⟨r, Table.find?_key_of_mem hr, rfl⟩
  distinct := h.distinct
  todo := h.todo
  accepted id := Nat.add_le_add_left (φ.owed_le s.toOutbox id) _

/-- A row of the table that a lookup of its event finds. -/
theorem kept_of_find {events : Table fun r : OutboxRow => r.id} (h : Tracked maxAttempts s₀ s log φ)
    (hfind : ∀ {id r}, s.events.find? id = some r → ∃ r', events.find? id = some r' ∧
      r'.toStoredEvent = r.toStoredEvent) :
    ∀ r₀ ∈ s₀.events.rows, ∃ r, events.find? r₀.id = some r ∧
      r.toStoredEvent = r₀.toStoredEvent := by
  intro r₀ hr₀
  obtain ⟨r, hr, hsame⟩ := h.kept r₀ hr₀
  obtain ⟨r', hr', hsame'⟩ := hfind hr
  exact ⟨r', hr', hsame'.trans hsame⟩

/-- **A step of the worker.** -/
theorem worker {cfg : WorkerConfig} (h : Tracked cfg.maxAttempts s₀ s log φ)
    {φ' : WorkerPhase} {q : OutboxQuery} {s' : WebhookState} (hmove : WorkerMove cfg φ q s s' φ') :
    Tracked cfg.maxAttempts s₀ s' log φ' := by
  cases hmove with
  | readPending s =>
    refine ⟨h.sound, h.kept, s.toOutbox.batch_nodup cfg.batchSize, fun e he => ?_, fun id => ?_⟩
    · obtain ⟨hrow, hpending⟩ := Outbox.mem_batch he
      exact ⟨(h.sound e hrow).pending hpending, e, Table.find?_key_of_mem hrow, hpending⟩
    · have haccepted := h.accepted id
      rw [WorkerPhase.owed_of_not_accepted] at haccepted ⊢
      exact haccepted
  | findClient e rest s => exact h
  | logRefused e rest s =>
    refine ⟨h.sound, h.kept, List.nodup_nil, fun _ he => absurd he List.not_mem_nil, fun id => ?_⟩
    have haccepted := h.accepted id
    rw [WorkerPhase.owed_of_not_accepted] at haccepted ⊢
    exact haccepted
  | logDelivery e rest s row hid =>
    refine ⟨h.sound, h.kept, h.distinct, h.todo, fun id => ?_⟩
    have haccepted := h.accepted id
    rw [WorkerPhase.owed_of_not_accepted] at haccepted
    rw [WebhookState.acceptedCount_log]
    by_cases htaken : row.ok = true ∧ row.eventId = id
    · -- What was owed has been taken.
      obtain ⟨hok, rfl⟩ := htaken
      obtain ⟨-, r, hfind, hpending⟩ := h.todo e List.mem_cons_self
      rw [hid, Outbox.owed_pending hfind hpending] at haccepted
      rw [if_pos ⟨hok, rfl⟩, hok, hid, WorkerPhase.owed_of_accepted]
      omega
    · have hle := WorkerPhase.owed_le ⟨e :: rest, row.ok⟩ s.toOutbox id
      rw [if_neg htaken]
      exact (Nat.add_le_add_left hle _).trans haccepted
  | writeAttempt e rest s accepted now =>
    obtain ⟨hfresh, hdistinct⟩ := List.nodup_cons.mp h.distinct
    obtain ⟨hbelow, r, hfind, hpending⟩ := h.todo e List.mem_cons_self
    have hwritten := Outbox.find?_attempted_self hfind cfg.maxAttempts now accepted
    have hsame {id : String} (hid : id ≠ e.id) :=
      s.toOutbox.find?_attempted_of_ne hid cfg.maxAttempts now accepted
    refine ⟨?_, h.kept_of_find fun {id r'} hr' => ?_, hdistinct, fun e' he' => ?_, fun id => ?_⟩
    · exact Table.forall_modify (OutboxRow.attempted_id _ _ _ _) h.sound hfind
        (hpending.attempted_sound hbelow now accepted)
    · by_cases hid : id = e.id
      · subst hid
        rw [hfind] at hr'
        obtain rfl := Option.some.inj hr'
        exact ⟨_, hwritten, r.attempted_event _ _ _ _⟩
      · exact ⟨r', (hsame hid).trans hr', rfl⟩
    · obtain ⟨hbelow', r', hfind', hpending'⟩ := h.todo e' (List.mem_cons_of_mem e he')
      have hne : e'.id ≠ e.id := fun hid => hfresh (List.mem_map.mpr ⟨e', he', hid⟩)
      exact ⟨hbelow', r', (hsame hne).trans hfind', hpending'⟩
    · refine le_trans ?_ (h.accepted id)
      refine Nat.add_le_add_left ?_ (s.acceptedCount id)
      rw [WorkerPhase.owed_of_not_accepted]
      by_cases hid : id = e.id
      · subst hid
        cases accepted with
        | true =>
          have hsettled : ¬(r.attempted cfg.maxAttempts now true (e.attempts + 1)).Pending :=
            fun hp => Option.some_ne_none now hp.1
          rw [WorkerPhase.owed_of_accepted]
          exact (Outbox.owed_settled hwritten hsettled).le
        | false =>
          rw [WorkerPhase.owed_of_not_accepted, Outbox.owed_pending hfind hpending]
          exact Outbox.owed_le _ _
      · rw [WorkerPhase.owed_of_ne _ hid]
        exact (Outbox.owed_congr (hsame hid)).le

/-- Rows are requeued, and the step counts as a replay of their events. -/
theorem requeue (hmax : 1 ≤ maxAttempts) (h : Tracked maxAttempts s₀ s log φ)
    {events : Table fun r : OutboxRow => r.id} {replayed : List String}
    (hrows : ∀ r ∈ events.rows, r ∈ s.events.rows ∨ r.Unsent)
    (hfind : ∀ {id r}, s.events.find? id = some r →
      ∃ r', events.find? id = some r' ∧ (r' = r ∨ r' = r.requeued))
    (hreplays : ∀ id, events.find? id = s.events.find? id ∨ id ∈ replayed) :
    Tracked maxAttempts s₀ (s.withEvents events) (log ++ replayed) φ := by
  refine ⟨fun r hr => ?_, h.kept_of_find fun {id r} hr => ?_, h.distinct, fun e he => ?_,
    fun id => ?_⟩
  · exact (hrows r hr).elim (h.sound r) fun hunsent => hunsent.sound hmax
  · obtain ⟨r', hr', rfl | rfl⟩ := hfind hr
    · exact ⟨r', hr', rfl⟩
    · exact ⟨r.requeued, hr', r.requeued_event⟩
  · obtain ⟨hbelow, r, hr, hpending⟩ := h.todo e he
    obtain ⟨r', hr', rfl | rfl⟩ := hfind hr
    · exact ⟨hbelow, r', hr', hpending⟩
    · exact ⟨hbelow, r.requeued, hr', r.requeued_unsent.pending⟩
  · have haccepted := h.accepted id
    change s.acceptedCount id + _ ≤ _
    rw [List.count_append]
    rcases hreplays id with hsame | hmore
    · have howed : φ.owed (s.withEvents events).toOutbox id ≤ φ.owed s.toOutbox id :=
        φ.owed_mono (Outbox.owed_congr hsame).le
      omega
    · have hcount : 0 < replayed.count id := List.count_pos_iff.mpr hmore
      have hle := (φ.owed_le (s.withEvents events).toOutbox id).trans (Outbox.owed_le _ id)
      omega

/-- **A step of a request.** -/
theorem request (hmax : 1 ≤ maxAttempts) (h : Tracked maxAttempts s₀ s log φ)
    {q : OutboxQuery} {s' : WebhookState} (hmove : RequestMove q s s') :
    Tracked maxAttempts s₀ s' (log ++ requeuedIds q s) φ := by
  cases hmove with
  | same q s =>
    exact ⟨h.sound, h.kept, h.distinct, h.todo, fun id => (h.accepted id).trans
      (Nat.add_le_add_left ((List.sublist_append_left _ _).count_le id) _)⟩
  | audit s row =>
    simp only [requeuedIds, List.append_nil]
    exact ⟨h.sound, h.kept, h.distinct, h.todo, h.accepted⟩
  | @publish s row hunsent events hinsert =>
    have hfound {id : String} {r : OutboxRow} (hr : s.events.find? id = some r) :
        events.find? id = some r := Table.find?_insert?_of_some hinsert hr
    simp only [requeuedIds, List.append_nil]
    refine ⟨Table.forall_insert? h.sound hinsert (hunsent.sound hmax),
      h.kept_of_find fun {id r} hr => ⟨r, hfound hr, rfl⟩, h.distinct, fun e he => ?_,
      fun id => ?_⟩
    · obtain ⟨hbelow, r, hr, hpending⟩ := h.todo e he
      exact ⟨hbelow, r, hfound hr, hpending⟩
    · refine le_trans ?_ (h.accepted id)
      refine Nat.add_le_add_left (φ.owed_mono ?_) (s.acceptedCount id)
      by_cases hid : row.id = id
      · subst hid
        rw [Outbox.owed_absent (Table.insert?_eq_some hinsert).2]
        exact Outbox.owed_le _ _
      · refine (Outbox.owed_congr ?_).le
        change events.find? id = _
        rw [Table.find?_insert? hinsert, if_neg hid]
  | @replay s r₀ id₀ hfind =>
    refine h.requeue hmax (fun r hr => ?_) (fun {id r} hr => ?_) fun id => ?_
    · rcases Table.mem_modify.mp hr with ⟨hr, -⟩ | ⟨r₀, -, rfl⟩
      · exact .inl hr
      · exact .inr r₀.requeued_unsent
    · rw [Table.find?_modify]
      by_cases hid : id = id₀
      · subst hid
        rw [if_pos rfl, hr]
        exact ⟨r.requeued, rfl, .inr rfl⟩
      · rw [if_neg hid]
        exact ⟨r, hr, .inl rfl⟩
    · by_cases hid : id = id₀
      · subst hid
        exact .inr (by simp [requeuedIds, hfind])
      · rw [Table.find?_modify, if_neg hid]
        exact .inl rfl
  | replayDeadLettered s =>
    refine h.requeue hmax (fun r hr => ?_) (fun {id r} hr => ?_) fun id => ?_
    · obtain ⟨r₀, hr₀, rfl⟩ := List.mem_map.mp hr
      unfold OutboxRow.requeuedIfDead
      split_ifs
      · exact .inr r₀.requeued_unsent
      · exact .inl hr₀
    · rw [Table.find?_mapRows, hr, Option.map_some]
      refine ⟨r.requeuedIfDead, rfl, ?_⟩
      unfold OutboxRow.requeuedIfDead
      split_ifs
      · exact .inr rfl
      · exact .inl rfl
    · rw [Table.find?_mapRows]
      cases hr : s.events.find? id with
      | none => exact .inl rfl
      | some r =>
        by_cases hdead : r.deadLettered = true
        · have hmem := mem_requeuedIds_replayDeadLettered (Table.mem_of_find? hr) hdead
          exact .inr (Table.key_of_find? hr ▸ hmem)
        · exact .inl (congrArg some (if_neg hdead))

end Tracked

/-! ## The three kinds of events -/

namespace OutboxRow

variable {maxAttempts : Nat} {r : OutboxRow}

/-- A sound row is delivered, dead-lettered or pending, and only one of them. -/
theorem Sound.kind (h : r.Sound maxAttempts) :
    (r.deliveredAt.isSome = true ∧ r.deadLettered = false) ∨
      (r.deliveredAt.isSome = false ∧ r.deadLettered = true) ∨
      (r.deliveredAt.isSome = false ∧ r.deadLettered = false) := by
  cases hdl : r.deadLettered with
  | true => exact .inr (.inl ⟨by rw [h.dead hdl]; rfl, rfl⟩)
  | false => cases r.deliveredAt.isSome <;> simp

theorem pending_eq (r : OutboxRow) :
    decide r.Pending = (!r.deliveredAt.isSome && !r.deadLettered) := by
  rw [Bool.eq_iff_iff, decide_eq_true_iff]
  simp [Pending]

/-- The status of a sound row is the filter that shows it. -/
theorem Sound.status_of_filter (h : r.Sound maxAttempts) {name text : String}
    (hname : (name, text) ∈ [("dead", "DEAD_LETTERED"), ("delivered", "DELIVERED"),
      ("pending", "PENDING")]) (hfilter : WebhookAdmin.statusFilter (some name) r = true) :
    r.status = text := by
  unfold WebhookAdmin.statusFilter at hfilter
  rw [pending_eq] at hfilter
  unfold status
  simp only [List.mem_cons, Prod.mk.injEq, List.not_mem_nil, or_false] at hname
  rcases hname with ⟨rfl, rfl⟩ | ⟨rfl, rfl⟩ | ⟨rfl, rfl⟩ <;>
    rcases h.kind with ⟨hd, hdl⟩ | ⟨hd, hdl⟩ | ⟨hd, hdl⟩ <;>
    rw [hd, hdl] at hfilter ⊢ <;> simp at hfilter ⊢

end OutboxRow

/-- Sound rows are of one kind each. -/
theorem Outbox.counts_add_up {maxAttempts : Nat} {s : Outbox}
    (h : ∀ r ∈ s.events.rows, r.Sound maxAttempts) :
    s.deadCount + s.pendingCount + s.deliveredCount = s.events.rows.length := by
  unfold deadCount pendingCount deliveredCount
  simp only [OutboxRow.pending_eq]
  generalize s.events.rows = rows at h
  induction rows with
  | nil => rfl
  | cons r rows ih =>
    have hrest := ih fun r' hr' => h r' (List.mem_cons_of_mem r hr')
    rw [List.countP_cons, List.countP_cons, List.countP_cons, List.length_cons, ← hrest]
    rcases (h r List.mem_cons_self).kind with ⟨hd, hdl⟩ | ⟨hd, hdl⟩ | ⟨hd, hdl⟩ <;>
      rw [hd, hdl] <;> simp <;> omega

/-! ## Any order of the steps -/

section

variable {ι : Type} [DecidableEq ι] {cfg : WorkerConfig} {s : WebhookState}

/-- The invariant of a pool, the worker being in its phase. -/
def TrackedPool (maxAttempts : Nat) (s₀ : WebhookState) (log : List String)
    (p : Pool (Option ι) OutboxQuery WebhookState ApiError Unit) (ph : Option ι → WorkerPhase) :
    Prop :=
  Tracked maxAttempts s₀ p.state log (ph none)

/-- The events that are replayed, by whichever request. -/
def replayedIds : Option ι → OutboxQuery → WebhookState → List String
  | none, _, _ => []
  | some _, q, s => requeuedIds q s

theorem TrackedPool.step (hmax : 1 ≤ cfg.maxAttempts) {log : List String}
    {p : Pool (Option ι) OutboxQuery WebhookState ApiError Unit} {ph : Option ι → WorkerPhase}
    (h : TrackedPool cfg.maxAttempts s log p ph) {i : Option ι} {q : OutboxQuery}
    {eff : WebhookState → WebhookState} {next : WebhookState → WebhookCall Unit} {φ' : WorkerPhase}
    (hi : p.calls i = .step q eff next)
    (hmove : WebhookMove cfg i (ph i) q p.state (eff p.state) φ') :
    TrackedPool cfg.maxAttempts s (log ++ replayedIds i q p.state) (p.step i)
      (Function.update ph i φ') := by
  unfold TrackedPool
  rw [Pool.step_of_step hi]
  cases i with
  | none =>
    rw [Function.update_self, replayedIds, List.append_nil]
    exact Tracked.worker h hmove
  | some i =>
    obtain ⟨hmove, -⟩ := hmove
    rw [Function.update_of_ne (Option.some_ne_none i).symm]
    exact Tracked.request hmax h hmove

variable [Runtime] [WebhookRuntime]

omit [Runtime] [WebhookRuntime] in
/-- **What a schedule keeps.** -/
theorem TrackedPool.exec (hmax : 1 ≤ cfg.maxAttempts)
    {p : Pool (Option ι) OutboxQuery WebhookState ApiError Unit} {ph : Option ι → WorkerPhase}
    (h : TrackedPool cfg.maxAttempts s [] p ph)
    (hobey : p.Obey (WebhookMove cfg) (fun _ => True) (fun _ _ => True) ph)
    (schedule : List (Option ι)) :
    ∃ ph', TrackedPool cfg.maxAttempts s (p.logged replayedIds schedule) (p.exec schedule) ph' ∧
      (p.exec schedule).Obey (WebhookMove cfg) (fun _ => True) (fun _ _ => True) ph' :=
  Pool.inv_logged replayedIds (fun _ _ _ _ => trivial)
    (fun _ _ _ _ _ _ _ _ h _ _ hi hmove _ => h.step hmax hi hmove) h hobey
    (Meets.of_forall (C := fun _ _ => True) (fun _ _ => trivial) _ schedule)

/-- **What holds after every schedule.** -/
theorem tracked_exec (hmax : 1 ≤ cfg.maxAttempts)
    (hsound : ∀ r ∈ s.events.rows, r.Sound cfg.maxAttempts) (passes : List Pass)
    (requests : ι → WebhookRequest) (schedule : List (Option ι)) :
    let p := Pool.start s (webhookCalls cfg passes requests)
    ∃ ph, TrackedPool cfg.maxAttempts s (p.logged replayedIds schedule) (p.exec schedule) ph ∧
      (p.exec schedule).Obey (WebhookMove cfg) (fun _ => True) (fun _ _ => True) ph := by
  have hobey : (Pool.start s (webhookCalls cfg passes requests)).Obey (WebhookMove cfg)
      (fun _ => True) (fun _ _ => True) fun _ => ⟨[], false⟩ := by
    intro i
    cases i with
    | none => exact (WebhookWorker.loop_obeys passes).mono fun _ _ _ => trivial
    | some i => exact (requests i).obeys _
  have hstart : TrackedPool cfg.maxAttempts s [] (Pool.start s (webhookCalls cfg passes requests))
      fun _ => ⟨[], false⟩ := Tracked.start hsound
  exact hstart.exec hmax hobey schedule

/-- **The views agree.** -/
theorem webhook_views_agree (hmax : 1 ≤ cfg.maxAttempts)
    (hsound : ∀ r ∈ s.events.rows, r.Sound cfg.maxAttempts) (passes : List Pass)
    (requests : ι → WebhookRequest) (schedule later : List (Option ι)) :
    let p := (Pool.start s (webhookCalls cfg passes requests)).exec schedule
    let s' := p.state
    (∃ health, WebhookAdmin.integrationHealth.run s' = (.ok health, s') ∧
      health.deadLettered + health.pending + health.delivered = s'.events.rows.length) ∧
    (∀ name text, (name, text) ∈ [("dead", "DEAD_LETTERED"), ("delivered", "DELIVERED"),
        ("pending", "PENDING")] → ∀ limit, ∃ events,
      (WebhookAdmin.listWebhooks (some name) limit).run s' = (.ok events, s') ∧
      ∀ e ∈ events, e.status = text) ∧
    (∀ r ∈ s'.events.rows, r.attempts ≤ cfg.maxAttempts ∧
      (r.Pending → r.attempts < cfg.maxAttempts) ∧
      ¬(r.deliveredAt ≠ none ∧ r.deadLettered = true)) ∧
    ∀ r ∈ s'.events.rows, ∃ r', (p.exec later).state.events.find? r.id = some r' ∧
      r'.toStoredEvent = r.toStoredEvent := by
  intro p s'
  obtain ⟨ph, h, hobey⟩ := tracked_exec hmax hsound passes requests schedule
  have hrestart : TrackedPool cfg.maxAttempts s' [] p ph := Tracked.restart h
  obtain ⟨ph', hlater, -⟩ := hrestart.exec hmax hobey later
  refine ⟨⟨_, rfl, Outbox.counts_add_up h.sound⟩, fun name text hname limit => ⟨_, rfl, ?_⟩,
    fun r hr => ?_, hlater.kept⟩
  · intro e he
    obtain ⟨r, hr, rfl⟩ := List.mem_map.mp he
    have hmem := (List.mergeSort_perm _ _).mem_iff.mp (List.mem_of_mem_take hr)
    obtain ⟨hrow, hfilter⟩ := List.mem_filter.mp hmem
    exact (h.sound r hrow).status_of_filter hname hfilter
  · have hr := h.sound r hr
    exact ⟨hr.attempts_le, hr.pending, fun hboth => hboth.1 (hr.dead hboth.2)⟩

end

/-! ## Receivers that take everything -/

namespace Outbox

variable {s : Outbox}

theorem length_batch (s : Outbox) (batchSize : Nat) :
    (s.batch batchSize).length = min batchSize s.pendingCount := by
  unfold batch pendingCount
  rw [List.length_take, List.length_mergeSort, List.countP_eq_length_filter]

/-- **The batch has the oldest of the pending events.** -/
theorem batch_oldest {batchSize : Nat} {r p : OutboxRow} (hr : r ∈ s.batch batchSize)
    (hp : p ∈ s.events.rows) (hpending : p.Pending) (hnot : p ∉ s.batch batchSize) :
    r.sequence ≤ p.sequence := by
  unfold batch at hr hnot
  have hsorted : ((s.events.rows.filter fun r => r.Pending).mergeSort fun a b =>
      a.sequence ≤ b.sequence).Pairwise fun a b => decide (a.sequence ≤ b.sequence) = true :=
    List.pairwise_mergeSort (fun a b c hab hbc => by simp at *; omega)
      (fun a b => by simp; omega) _
  have hmem : p ∈ (s.events.rows.filter fun r => r.Pending).mergeSort fun a b =>
      a.sequence ≤ b.sequence :=
    (List.mergeSort_perm _ _).mem_iff.mpr (List.mem_filter.mpr ⟨hp, decide_eq_true hpending⟩)
  rw [← List.take_append_drop batchSize (List.mergeSort _ _)] at hsorted hmem
  have hlater := (List.mem_append.mp hmem).resolve_left hnot
  exact of_decide_eq_true ((List.pairwise_append.mp hsorted).2.2 r hr p hlater)

/-- The pending events, counted one by one. -/
theorem pendingCount_eq_sum (s : Outbox) :
    (s.pendingCount : ℤ) = s.events.sum fun r => if r.Pending then 1 else 0 := by
  unfold pendingCount Table.sum
  generalize s.events.rows = rows
  induction rows with
  | nil => rfl
  | cons r rows ih =>
    rw [List.countP_cons, List.map_cons, List.sum_cons, ← ih]
    by_cases hpending : r.Pending
    · simp [hpending, Int.add_comm]
    · simp [hpending]

/-- An event that is delivered is not pending any more. -/
theorem pendingCount_attempted {e : OutboxRow} (hevent : e ∈ s.events.rows)
    (hpending : e.Pending) (maxAttempts : Nat) (now : Int) (deliveries : List DeliveryLogRow) :
    Outbox.pendingCount ⟨s.attempted maxAttempts now true e, deliveries⟩ + 1 =
      s.pendingCount := by
  have hsum := Table.sum_modify (Table.find?_key_of_mem hevent)
    (fun r => r.attempted maxAttempts now true (e.attempts + 1))
    (fun r => r.attempted_id maxAttempts now true (e.attempts + 1))
    fun r => if r.Pending then (1 : ℤ) else 0
  have hsettled : ¬(e.attempted maxAttempts now true (e.attempts + 1)).Pending :=
    fun hp => Option.some_ne_none now hp.1
  rw [if_pos hpending, if_neg hsettled, ← pendingCount_eq_sum] at hsum
  have hcount := pendingCount_eq_sum ⟨s.attempted maxAttempts now true e, deliveries⟩
  unfold attempted at hcount ⊢
  rw [hsum] at hcount
  omega

end Outbox

/-- The events in the list have been delivered, and nothing else has happened. -/
structure Taken (s : Outbox) (events : List OutboxRow) (s' : Outbox) : Prop where
  rows : ∃ f : OutboxRow → OutboxRow, s'.events.rows = s.events.rows.map f ∧
    ∀ r, (f r).toStoredEvent = r.toStoredEvent ∧ (f r).deadLettered = r.deadLettered ∧
      (r.id ∈ events.map (fun e => e.id) → ¬(f r).Pending) ∧
      (r.id ∉ events.map (fun e => e.id) → f r = r)
  count : s'.pendingCount + events.length = s.pendingCount

section

variable [Runtime] [WebhookRuntime] {cfg : WorkerConfig} {s : Outbox} {pass : Pass}

/-- An event that an active client's receiver takes is delivered. -/
theorem Pass.delivers_of_answer (r : OutboxRow) {client : WebhookClient}
    (hclient : activeClient (pass.client r.id r.targetPlatform) = some client)
    (hanswer : ∀ post, (pass.answer r.id post).result.delivered = true) :
    pass.Delivers cfg r.toStoredEvent := by
  obtain ⟨env, henv⟩ := finalEnvelope_ok cfg.webhookKey pass.now client r
  obtain ⟨post, hpost⟩ := submit_of_final pass henv
  exact ⟨client, env, hclient, henv, hpost ▸ hanswer post⟩

theorem attemptDelivery_of_delivers {event : OutboxRow}
    (h : pass.Delivers cfg event.toStoredEvent) :
    ∃ deliveries, attemptDelivery cfg pass event s =
      (.ok true, ⟨s.attempted cfg.maxAttempts pass.now true event, deliveries⟩) := by
  have hlogs := h.logs
  obtain ⟨client, env, hclient, henv, hresult⟩ := h
  obtain ⟨row, hrow⟩ := deliveryRow_of_storable (hlogs client env hclient henv) event.id
    (event.attempts + 1)
  unfold attemptDelivery
  simp only [hclient, henv, hrow, hresult, if_true]
  exact ⟨_, rfl⟩

theorem deliverAll_taken {events : List OutboxRow}
    (hevents : ∀ e ∈ events, e ∈ s.events.rows ∧ e.Pending)
    (hnodup : (events.map fun e => e.id).Nodup)
    (haccept : ∀ e ∈ events, pass.Delivers cfg e.toStoredEvent) (n : Nat) :
    Taken s events (deliverAll cfg pass events n s).2 := by
  induction events generalizing s n with
  | nil => exact ⟨⟨id, (List.map_id _).symm, fun r => ⟨rfl, rfl, by simp, fun _ => rfl⟩⟩, rfl⟩
  | cons event events ih =>
    obtain ⟨hfresh, hnodup⟩ := List.nodup_cons.mp hnodup
    obtain ⟨hevent, hpending⟩ := hevents event List.mem_cons_self
    obtain ⟨deliveries, hrun⟩ :=
      @attemptDelivery_of_delivers _ _ cfg s pass event (haccept event List.mem_cons_self)
    have hrest : ∀ e ∈ events,
        e ∈ (s.attempted cfg.maxAttempts pass.now true event).rows ∧ e.Pending := by
      intro e he
      obtain ⟨hmem, hpending'⟩ := hevents e (List.mem_cons_of_mem event he)
      have hne : e.id ≠ event.id := fun hid => hfresh (List.mem_map.mpr ⟨e, he, hid⟩)
      exact ⟨Table.mem_modify.mpr (.inl ⟨hmem, hne⟩), hpending'⟩
    obtain ⟨⟨f, hrows, hf⟩, hcount⟩ := @ih ⟨s.attempted cfg.maxAttempts pass.now true event, deliveries⟩
      hrest hnodup (fun e he => haccept e (List.mem_cons_of_mem event he)) (n + 1)
    rw [deliverAll, hrun]
    refine ⟨⟨fun r => f (if r.id = event.id then
      r.attempted cfg.maxAttempts pass.now true (event.attempts + 1) else r), ?_, fun r => ?_⟩, ?_⟩
    · exact hrows.trans (List.map_map ..)
    · obtain ⟨hsame, hdead, htaken, hleft⟩ := hf r
      rw [List.map_cons, List.mem_cons]
      dsimp only
      by_cases hid : r.id = event.id
      · -- The row is written now, and not touched again.
        obtain ⟨hsame', hdead', -, hleft'⟩ :=
          hf (r.attempted cfg.maxAttempts pass.now true (event.attempts + 1))
        have hdone := hleft' (by rw [OutboxRow.attempted_id, hid]; exact hfresh)
        rw [if_pos hid]
        refine ⟨hsame'.trans (r.attempted_event _ _ _ _), hdead', fun _ => ?_, fun hout => ?_⟩
        · rw [hdone]
          exact fun hp => Option.some_ne_none pass.now hp.1
        · exact absurd (Or.inl hid) hout
      · rw [if_neg hid]
        exact ⟨hsame, hdead, fun hin => htaken (hin.resolve_left hid),
          fun hout => hleft fun hin => hout (.inr hin)⟩
    · have hone := Outbox.pendingCount_attempted hevent hpending cfg.maxAttempts pass.now deliveries
      simp only [if_true, List.length_cons]
      omega

theorem step_taken (haccept : ∀ r ∈ s.events.rows, pass.Delivers cfg r.toStoredEvent) :
    Taken s (s.batch cfg.batchSize) (step cfg s pass) :=
  deliverAll_taken (fun _ he => Outbox.mem_batch he) (s.batch_nodup cfg.batchSize)
    (fun e he => haccept e (Outbox.mem_batch he).1) 0

omit [Runtime] [WebhookRuntime] in
/-- Rows that have a key in common with a row of the batch are that row. -/
theorem Outbox.mem_batch_of_id {batchSize : Nat} {r : OutboxRow} (hr : r ∈ s.events.rows)
    (hid : r.id ∈ (s.batch batchSize).map fun e => e.id) : r ∈ s.batch batchSize := by
  obtain ⟨e, he, heq⟩ := List.mem_map.mp hid
  have hsame : e = r :=
    List.inj_on_of_nodup_map s.events.nodup (Outbox.mem_batch he).1 hr heq
  exact hsame ▸ he

/-- After passes with room for `n` events: the oldest `n` of the events that were pending have been
delivered. -/
structure Drained (s₀ s : Outbox) (n : Nat) : Prop where
  count : s.pendingCount = s₀.pendingCount - n
  events : s.events.rows.map (fun r => r.toStoredEvent) =
    s₀.events.rows.map fun r => r.toStoredEvent
  dead : ∀ r ∈ s.events.rows, r.deadLettered = false
  oldest : ∀ r ∈ s.events.rows, ∀ p ∈ s.events.rows, ¬r.Pending → p.Pending →
    (∃ r₀ ∈ s₀.events.rows, r₀.id = r.id ∧ r₀.Pending) → r.sequence ≤ p.sequence

omit [Runtime] [WebhookRuntime] in
theorem Drained.start {s₀ : Outbox} (hdead : ∀ r ∈ s₀.events.rows, r.deadLettered = false) :
    Drained s₀ s₀ 0 where
  count := rfl
  events := rfl
  dead := hdead
  oldest r hr _ _ hr' _ hbefore := by
    obtain ⟨r₀, hr₀, hid, hpending⟩ := hbefore
    have hsame : r₀ = r := List.inj_on_of_nodup_map s₀.events.nodup hr₀ hr hid
    exact absurd (hsame ▸ hpending) hr'

omit [Runtime] [WebhookRuntime] in
/-- **One pass more.** -/
theorem Drained.next {s₀ s' : Outbox} {n batchSize : Nat} (h : Drained s₀ s n)
    (htaken : Taken s (s.batch batchSize) s') : Drained s₀ s' (n + batchSize) := by
  obtain ⟨⟨f, hrows, hf⟩, hcount⟩ := htaken
  have hid (r : OutboxRow) : (f r).id = r.id := congrArg StoredEvent.id (hf r).1
  refine ⟨?_, ?_, fun r' hr' => ?_, fun r' hr' p' hp' hr₁ hp₁ hbefore => ?_⟩
  · have hcount' := h.count
    rw [Outbox.length_batch] at hcount
    omega
  · rw [hrows, List.map_map, ← h.events]
    exact List.map_congr_left fun r _ => (hf r).1
  · rw [hrows] at hr'
    obtain ⟨r, hr, rfl⟩ := List.mem_map.mp hr'
    exact (hf r).2.1.trans (h.dead r hr)
  · rw [hrows] at hr' hp'
    obtain ⟨r, hr, rfl⟩ := List.mem_map.mp hr'
    obtain ⟨p, hp, rfl⟩ := List.mem_map.mp hp'
    -- What is pending now was not in the batch.
    have hout : p.id ∉ (s.batch batchSize).map fun e => e.id := fun hin => (hf p).2.2.1 hin hp₁
    have hsame : f p = p := (hf p).2.2.2 hout
    rw [hsame] at hp₁ ⊢
    have hseq : (f r).sequence = r.sequence := congrArg StoredEvent.sequence (hf r).1
    rw [hseq]
    rw [hid] at hbefore
    by_cases hin : r.id ∈ (s.batch batchSize).map fun e => e.id
    · exact Outbox.batch_oldest (Outbox.mem_batch_of_id hr hin) hp hp₁ fun hmem =>
        hout (List.mem_map_of_mem hmem)
    · rw [(hf r).2.2.2 hin] at hr₁
      exact h.oldest r hr p hp hr₁ hp₁ hbefore

theorem Drained.passes {s₀ : Outbox} {n : Nat} (h : Drained s₀ s n) {passes : List Pass}
    (haccept : ∀ pass ∈ passes, ∀ r ∈ s₀.events.rows, pass.Delivers cfg r.toStoredEvent) :
    Drained s₀ (passes.foldl (step cfg) s) (n + passes.length * cfg.batchSize) := by
  induction passes generalizing s n with
  | nil => simpa using h
  | cons pass passes ih =>
    have htaken : Taken s (s.batch cfg.batchSize) (step cfg s pass) := step_taken fun r hr => by
      have hmem : r.toStoredEvent ∈ s₀.events.rows.map fun r => r.toStoredEvent :=
        h.events ▸ List.mem_map_of_mem hr
      obtain ⟨r₀, hr₀, hsame⟩ := List.mem_map.mp hmem
      exact hsame ▸ haccept pass List.mem_cons_self r₀ hr₀
    have hrest := ih (h.next htaken) fun pass' hpass' =>
      haccept pass' (List.mem_cons_of_mem pass hpass')
    have hplaces : n + cfg.batchSize + passes.length * cfg.batchSize =
        n + (pass :: passes).length * cfg.batchSize := by
      rw [List.length_cons, Nat.add_mul, Nat.one_mul]
      omega
    rw [← hplaces]
    exact hrest

/-! ### The events that are replayed -/

omit [Runtime] [WebhookRuntime] in
/-- The events after `replayDeadLettered`, also when its audit row is refused. -/
theorem WebhookAdmin.run_replayDeadLettered (actor : String) (s : WebhookState) :
    ((replayDeadLettered actor).run s).2.events =
      s.events.mapRows OutboxRow.requeuedIfDead OutboxRow.requeuedIfDead_id := by
  unfold replayDeadLettered record
  rw [Call.run_bind, Call.run_query]
  dsimp only
  rw [Call.run_bind, Call.run_query]
  cases checkTexts (AuditRecord.row _).givenTexts <;> rfl

omit [Runtime] [WebhookRuntime] in
theorem OutboxRow.requeuedIfDead_pending (r : OutboxRow) :
    r.requeuedIfDead.Pending ↔ r.Pending ∨ r.deadLettered = true := by
  unfold requeuedIfDead
  split_ifs with hdead
  · exact ⟨fun _ => .inr hdead, fun _ => r.requeued_unsent.pending⟩
  · simp [hdead]

omit [Runtime] [WebhookRuntime] in
theorem OutboxRow.requeuedIfDead_dead (r : OutboxRow) : r.requeuedIfDead.deadLettered = false := by
  unfold requeuedIfDead
  split_ifs with hdead
  · rfl
  · simpa using hdead

omit [Runtime] [WebhookRuntime] in
/-- What is replayed is pending, besides what was. -/
theorem Outbox.pendingCount_replayed {s s' : Outbox}
    (h : s'.events = s.events.mapRows OutboxRow.requeuedIfDead OutboxRow.requeuedIfDead_id) :
    s'.pendingCount = s.pendingCount + s.deadCount := by
  unfold pendingCount deadCount
  rw [h]
  unfold Table.mapRows
  simp only
  generalize s.events.rows = rows
  induction rows with
  | nil => rfl
  | cons r rows ih =>
    rw [List.map_cons, List.countP_cons, List.countP_cons, List.countP_cons, ih]
    have hpending := r.requeuedIfDead_pending
    by_cases hdead : r.deadLettered = true
    · have hnot : ¬r.Pending := fun hp => Bool.false_ne_true (hp.2.symm.trans hdead)
      rw [if_pos (decide_eq_true (hpending.mpr (.inr hdead))), if_neg (by simpa using hnot),
        if_pos hdead]
      omega
    · have hsame : decide r.requeuedIfDead.Pending = decide r.Pending :=
        decide_eq_decide.mpr (hpending.trans (or_iff_left hdead))
      rw [hsame, if_neg hdead]
      omega

/-- **What is replayed is delivered, oldest first**, once the receivers take everything. -/
theorem replayed_events_drain {s : WebhookState} {passes : List Pass} (actor : String)
    (haccept : ∀ pass ∈ passes, ∀ r ∈ s.events.rows, pass.Delivers cfg r.toStoredEvent) :
    let s' := ((WebhookWorker.loop cfg passes).run
      ((WebhookAdmin.replayDeadLettered actor).run s).2).2
    s'.deadCount = 0 ∧
    s'.pendingCount = s.pendingCount + s.deadCount - passes.length * cfg.batchSize ∧
    s'.events.rows.map (fun r => r.toStoredEvent) = s.events.rows.map (fun r => r.toStoredEvent) ∧
    ∀ r ∈ s'.events.rows, ∀ p ∈ s'.events.rows, r.deliveredAt ≠ none → p.Pending →
      (∃ r₀ ∈ s.events.rows, r₀.id = r.id ∧ (r₀.Pending ∨ r₀.deadLettered = true)) →
      r.sequence ≤ p.sequence := by
  intro s'
  have hevents := WebhookAdmin.run_replayDeadLettered actor s
  have hs' : s'.toOutbox = passes.foldl (step cfg)
      ((WebhookAdmin.replayDeadLettered actor).run s).2.toOutbox := by
    change ((WebhookWorker.loop cfg passes).run _).2.toOutbox = _
    rw [WebhookWorker.run_loop]
  generalize ((WebhookAdmin.replayDeadLettered actor).run s).2 = s₁ at hevents hs'
  have hsame : s₁.events.rows.map (fun r => r.toStoredEvent) =
      s.events.rows.map fun r => r.toStoredEvent := by
    rw [hevents]
    unfold Table.mapRows
    rw [List.map_map]
    exact List.map_congr_left fun r _ => r.requeuedIfDead_event
  have hdead : ∀ r ∈ s₁.events.rows, r.deadLettered = false := by
    intro r hr
    rw [hevents] at hr
    obtain ⟨r₀, -, rfl⟩ := List.mem_map.mp hr
    exact r₀.requeuedIfDead_dead
  have haccept₁ : ∀ pass ∈ passes, ∀ r ∈ s₁.events.rows, pass.Delivers cfg r.toStoredEvent := by
    intro pass hpass r hr
    have hmem : r.toStoredEvent ∈ s.events.rows.map fun r => r.toStoredEvent :=
      hsame ▸ List.mem_map_of_mem hr
    obtain ⟨r₀, hr₀, heq⟩ := List.mem_map.mp hmem
    exact heq ▸ haccept pass hpass r₀ hr₀
  have hdrained := (Drained.start hdead).passes haccept₁
  rw [← hs', Nat.zero_add] at hdrained
  refine ⟨?_, ?_, hdrained.events.trans hsame, fun r hr p hp hdelivered hpending hbefore => ?_⟩
  · unfold Outbox.deadCount
    rw [List.countP_eq_zero]
    intro r hr
    rw [hdrained.dead r hr]
    exact Bool.false_ne_true
  · rw [hdrained.count, Outbox.pendingCount_replayed hevents]
  · refine hdrained.oldest r hr p hp (fun h => hdelivered h.1) hpending ?_
    obtain ⟨r₀, hr₀, hid, hkind⟩ := hbefore
    have hmem : r₀.requeuedIfDead ∈ s₁.events.rows := by
      rw [hevents]
      exact List.mem_map_of_mem hr₀
    exact ⟨r₀.requeuedIfDead, hmem, r₀.requeuedIfDead_id.trans hid,
      r₀.requeuedIfDead_pending.mpr hkind⟩

end

/-! ## Two events that are replayed -/

namespace Sample

/-- The receiver takes what it gets. -/
def acceptingPass : Pass where
  now := 1767225600000
  client _ _ := some ⟨"paychain", some "https://paychain/hooks", false⟩
  answer _ _ := .response true 200 "ok"

/-- The events have been refused twice. -/
def refusedRow (id : String) (sequence : Int) : OutboxRow :=
  { untriedEvent id sequence with attempts := 2, deadLettered := true }

theorem refusedRows_nodup :
    ([refusedRow "evt_1" 1, refusedRow "evt_2" 2].map fun r => r.id).Nodup := by decide

def refusedState : WebhookState where
  events := ⟨[refusedRow "evt_1" 1, refusedRow "evt_2" 2], refusedRows_nodup⟩
  deliveries := []
  auditLog := []

theorem refusedState_sound : ∀ r ∈ refusedState.events.rows, r.Sound twoAttempts.maxAttempts := by
  intro r hr
  simp only [refusedState, List.mem_cons, List.not_mem_nil, or_false] at hr
  rcases hr with rfl | rfl <;>
    exact ⟨by decide, fun _ => rfl, fun h => absurd h.2 (by decide)⟩

attribute [local instance] Runtime.ascii plainWebhooks

theorem acceptingPass_delivers (cfg : WorkerConfig) (r : OutboxRow) :
    acceptingPass.Delivers cfg r.toStoredEvent :=
  Pass.delivers_of_answer r rfl fun _ => rfl

theorem replayed_events_drain_two :
    ((WebhookWorker.loop twoAttempts [acceptingPass, acceptingPass]).run
      ((WebhookAdmin.replayDeadLettered "ops").run refusedState).2).2.pendingCount = 0 :=
  (replayed_events_drain "ops" fun pass hpass r _ => by
    have hpass : pass = acceptingPass := by simpa using hpass
    exact hpass ▸ acceptingPass_delivers twoAttempts r).2.1.trans (by decide)

/-- The worker makes one pass, and somebody replays all that is dead-lettered. -/
def replayPool : Pool (Option Unit) OutboxQuery WebhookState ApiError Unit :=
  Pool.start refusedState (webhookCalls twoAttempts [acceptingPass]
    fun _ => .replayDeadLettered "ops")

/-- The pass finds nothing pending before the replay. -/
def passFirst : List (Option Unit) := [none, some (), some ()]

theorem webhook_views_agree_replayed :
    (∃ health, WebhookAdmin.integrationHealth.run (replayPool.exec passFirst).state =
      (.ok health, (replayPool.exec passFirst).state) ∧
      health.deadLettered + health.pending + health.delivered = 2) ∧
    (replayPool.exec passFirst).state.pendingCount = 2 :=
  ⟨(webhook_views_agree (by decide) refusedState_sound [acceptingPass]
    (fun _ => .replayDeadLettered "ops") passFirst []).1, by decide⟩

end Sample

end TrusteeBank
