import TrusteeBank.Lib.Counters
import TrusteeBank.Paykh.LoyaltyBooks

/-!
# Concurrent changes of the counters

Any number of requests fund, reserve and release on one program fund, and issue and redeem its
stablecoin. Each of them reads the rows it needs and writes absolute values computed from them, in
a later step; an issuance and a redemption ask PayChain in between.

* `CounterRequest.updates`: a request adds its change to what it has read, whatever the others do;
* `counters_add_up`: if no counter that a request writes was written since the request read it, and
  a reservation or a release that writes can be recorded, the counters are in the end what they were
  plus the changes of the requests that succeeded.

Without the condition an update is lost (`reservation_lost`).
-/

set_option autoImplicit false

namespace TrusteeBank

open Lib (Call Pool Counters)
open LoyaltyService hiding bind
open ProgramFundsService hiding create

section

variable [Runtime]

/-! ## Counters and requests -/

/-- The counters of a program fund and of its liability. -/
inductive FundCounter
  | fundedMinor | reservedMinor | outstandingMinor | issuedTotalMinor | redeemedTotalMinor
deriving DecidableEq, Repr

instance FundCounter.fintype : Fintype FundCounter where
  elems := {.fundedMinor, .reservedMinor, .outstandingMinor, .issuedTotalMinor, .redeemedTotalMinor}
  complete c := by cases c <;> decide

/-- The value of a counter in the two rows. -/
def FundCounter.of (f : PaykhProgramFund) (l : PaykhLoyaltyLiability) : FundCounter → Int
  | .fundedMinor => f.fundedMinor
  | .reservedMinor => f.reservedMinor
  | .outstandingMinor => l.outstandingMinor
  | .issuedTotalMinor => l.issuedTotalMinor
  | .redeemedTotalMinor => l.redeemedTotalMinor

/-- The read of the row that has the counter. -/
def FundCounter.read (fundId liabilityId : String) : FundCounter → Query
  | .fundedMinor | .reservedMinor => ⟨.paykhProgramFund, .findUnique, fundId⟩
  | .outstandingMinor | .issuedTotalMinor | .redeemedTotalMinor =>
    ⟨.paykhLoyaltyLiability, .findUnique, liabilityId⟩

/-- A request on a program fund or on its liability. -/
inductive CounterRequest
  | fund (amountMinor actor : String)
  | reserve (amountMinor actor : String)
  | release (amountMinor actor : String)
  | issue (gateway : IssuanceGateway) (uuid id : String) (input : IssueLoyaltyInput)
  | redeem (gateway : IssuanceGateway) (clock : Clock) (uuid id : String)
    (input : RedeemLoyaltyInput)

namespace CounterRequest

def call (fundId liabilityId : String) : CounterRequest → Service Unit
  | .fund amountMinor actor => (ProgramFundsService.fund fundId amountMinor actor).void
  | .reserve amountMinor actor => (ProgramFundsService.reserve fundId amountMinor actor).void
  | .release amountMinor actor => (ProgramFundsService.release fundId amountMinor actor).void
  | .issue gateway uuid id input =>
    (LoyaltyService.issue gateway uuid id { input with liabilityId }).void
  | .redeem gateway clock uuid id input =>
    (LoyaltyService.redeem gateway clock uuid id { input with liabilityId }).void

/-- The amount a request asks for, at the peg of the liability. -/
def amount (l : PaykhLoyaltyLiability) : CounterRequest → Except ApiError Int
  | .fund amountMinor _ | .reserve amountMinor _ | .release amountMinor _ => bigInt amountMinor
  | .issue _ _ _ input =>
    (resolveAmount l input.amountMinor input.units).map fun resolved => resolved.1.minor
  | .redeem _ _ _ _ input =>
    (resolveAmount l input.amountMinor input.units).map fun resolved => resolved.1.minor

/-- Whether the request adds its amount to the counter, takes it away, or leaves it. -/
def sign : CounterRequest → FundCounter → Int
  | .fund .., .fundedMinor => 1
  | .reserve .., .reservedMinor => 1
  | .release .., .reservedMinor => -1
  | .issue .., .reservedMinor | .issue .., .outstandingMinor | .issue .., .issuedTotalMinor => 1
  | .redeem .., .outstandingMinor => -1
  | .redeem .., .redeemedTotalMinor => 1
  | _, _ => 0

/-- The change of a counter by a request that succeeds. -/
def change (l : PaykhLoyaltyLiability) (r : CounterRequest) (c : FundCounter) : Int :=
  r.sign c * (r.amount l).toOption.getD 0

/-- The audit row of the request can be stored. An issuance and a redemption have posted an entry of
the same actor by then, and a funding writes no row. -/
def Recordable : CounterRequest → Prop
  | .reserve _ actor | .release _ actor => FitsText actor
  | _ => True

instance : DecidablePred Recordable := fun r => by
  cases r <;> unfold Recordable <;> infer_instance

/-- The step in which a request writes its counters. -/
def write (fundId liabilityId : String) : CounterRequest → Query
  | .fund .. | .reserve .. | .release .. => ⟨.paykhProgramFund, .update, fundId⟩
  | .issue .. => ⟨.paykhLoyaltyIssuance, .transaction, liabilityId⟩
  | .redeem .. => ⟨.paykhLoyaltyRedemption, .transaction, liabilityId⟩

end CounterRequest

/-- The terms by which a liability turns units into backing. -/
def PaykhLoyaltyLiability.peg (l : PaykhLoyaltyLiability) : String × Int :=
  (l.pegCurrency, l.denominationMinor)

theorem resolveAmount_congr {l l' : PaykhLoyaltyLiability} (h : l.peg = l'.peg)
    (amountMinor units : Option String) :
    resolveAmount l amountMinor units = resolveAmount l' amountMinor units := by
  obtain ⟨hcurrency, hdenomination⟩ : l.pegCurrency = l'.pegCurrency ∧
      l.denominationMinor = l'.denominationMinor := by
    simpa [PaykhLoyaltyLiability.peg] using h
  unfold resolveAmount
  rw [hcurrency, hdenomination]

section

variable {ι : Type}

/-- The fund and its liability are there, and its peg is the one of the start. -/
def Bound (fundId liabilityId : String) (l₀ : PaykhLoyaltyLiability) (w : World) : Prop :=
  ∃ f l, w.paykhProgramFunds.find? fundId = some f ∧
    w.paykhLoyaltyLiabilities.find? liabilityId = some l ∧ l.programFundId = fundId ∧
    l.peg = l₀.peg

/-- The value of a counter of a fund and a liability, 0 if there is no such row. -/
def counterValue (fundId liabilityId : String) (w : World) : FundCounter → Int
  | .fundedMinor => (w.paykhProgramFunds.find? fundId).elim 0 (·.fundedMinor)
  | .reservedMinor => (w.paykhProgramFunds.find? fundId).elim 0 (·.reservedMinor)
  | .outstandingMinor => (w.paykhLoyaltyLiabilities.find? liabilityId).elim 0 (·.outstandingMinor)
  | .issuedTotalMinor => (w.paykhLoyaltyLiabilities.find? liabilityId).elim 0 (·.issuedTotalMinor)
  | .redeemedTotalMinor =>
    (w.paykhLoyaltyLiabilities.find? liabilityId).elim 0 (·.redeemedTotalMinor)

theorem counterValue_eq {fundId liabilityId : String} {w : World} {f : PaykhProgramFund}
    {l : PaykhLoyaltyLiability} (hf : w.paykhProgramFunds.find? fundId = some f)
    (hl : w.paykhLoyaltyLiabilities.find? liabilityId = some l) (c : FundCounter) :
    counterValue fundId liabilityId w c = c.of f l := by
  cases c <;> simp [counterValue, FundCounter.of, hf, hl]

/-- The counters, and the requests that change them. -/
def fundCounters (fundId liabilityId : String) (l₀ : PaykhLoyaltyLiability)
    (requests : ι → CounterRequest) : Counters ι Query World FundCounter Int where
  value := counterValue fundId liabilityId
  valid := Bound fundId liabilityId l₀
  touches i c := (requests i).sign c ≠ 0
  change i := (requests i).change l₀
  read := FundCounter.read fundId liabilityId
  write i := (requests i).write fundId liabilityId
  commits i := (requests i).Recordable
  read_ne_write c i := by
    cases c <;> cases requests i <;> simp [FundCounter.read, CounterRequest.write]
  change_untouched i c h := by
    simp only [not_not] at h
    simp [CounterRequest.change, h]

end

/-! ## The rows -/

section

variable {fundId liabilityId : String} {l₀ : PaykhLoyaltyLiability} {w w' : World}

/-- A step that leaves both tables as they are. -/
theorem Bound.congr (h : Bound fundId liabilityId l₀ w)
    (hfunds : w'.paykhProgramFunds = w.paykhProgramFunds)
    (hliabilities : w'.paykhLoyaltyLiabilities = w.paykhLoyaltyLiabilities) :
    Bound fundId liabilityId l₀ w' := by
  unfold Bound
  rw [hfunds, hliabilities]
  exact h

theorem counterValue_congr (hfunds : w'.paykhProgramFunds = w.paykhProgramFunds)
    (hliabilities : w'.paykhLoyaltyLiabilities = w.paykhLoyaltyLiabilities) (c : FundCounter) :
    counterValue fundId liabilityId w' c = counterValue fundId liabilityId w c := by
  cases c <;> simp only [counterValue, hfunds, hliabilities]

/-- The fund is still there after it is rewritten. -/
theorem find?_updateFund {f : PaykhProgramFund} (hf : w.paykhProgramFunds.find? fundId = some f)
    (g : PaykhProgramFund → PaykhProgramFund) (hg : ∀ r, (g r).id = r.id) :
    (w.updateFund fundId g hg).paykhProgramFunds.find? fundId = some (g f) := by
  show (w.paykhProgramFunds.modify fundId g hg).find? fundId = some (g f)
  rw [Lib.Table.find?_modify, if_pos rfl, hf, Option.map_some]

end

/-! ## One request -/

section

variable {ι : Type} {fundId liabilityId : String} {l₀ : PaykhLoyaltyLiability}
  {requests : ι → CounterRequest} {i : ι} {α : Type} {seen : FundCounter → Option Int}

/-- The steps of a request add to the counters what it has to. -/
abbrev Counts (fundId liabilityId : String) (l₀ : PaykhLoyaltyLiability)
    (requests : ι → CounterRequest) (i : ι) (x : Service α) (φ : Lib.Update FundCounter Int) :
    Prop :=
  (fundCounters fundId liabilityId l₀ requests).Updates i x φ

/-- What is seen in a fund that is read. -/
def sawFund (f : PaykhProgramFund) (seen : FundCounter → Option Int) : FundCounter → Option Int
  | .fundedMinor => some f.fundedMinor
  | .reservedMinor => some f.reservedMinor
  | c => seen c

/-- What is seen in a liability that is read. -/
def sawLiability (l : PaykhLoyaltyLiability) (seen : FundCounter → Option Int) :
    FundCounter → Option Int
  | .outstandingMinor => some l.outstandingMinor
  | .issuedTotalMinor => some l.issuedTotalMinor
  | .redeemedTotalMinor => some l.redeemedTotalMinor
  | c => seen c

/-- No counter is read in a step on another model. -/
theorem read_ne {q : Query} (hfund : q.model ≠ .paykhProgramFund)
    (hliability : q.model ≠ .paykhLoyaltyLiability) (c : FundCounter) :
    (fundCounters fundId liabilityId l₀ requests).read c ≠ q := by
  rintro rfl
  cases c <;> simp [fundCounters, FundCounter.read] at hfund hliability

/-- The fund is read. -/
theorem Counts.fund_bind {g : Option PaykhProgramFund → Service α}
    (h : ∀ f, f.id = fundId →
      Counts fundId liabilityId l₀ requests i (g (some f)) (.reading (sawFund f seen))) :
    Counts fundId liabilityId l₀ requests i
      (Prisma.paykhProgramFund.findUnique fundId >>= g) (.reading seen) := by
  refine Counters.Updates.look_bind ?_
  rintro w ⟨f, l, hf, hl, -⟩
  have hseen : (fundCounters fundId liabilityId l₀ requests).look w
      ⟨.paykhProgramFund, .findUnique, fundId⟩ seen = sawFund f seen := by
    funext c
    cases c <;> simp [Counters.look, fundCounters, FundCounter.read, sawFund, counterValue, hf]
  simp only [Prisma.paykhProgramFund_get, hf, Prisma.paykhProgramFund_model, hseen]
  exact h f (Lib.Table.key_of_find? hf)

theorem Counts.requireFund_bind {g : PaykhProgramFund → Service α}
    (h : ∀ f, f.id = fundId →
      Counts fundId liabilityId l₀ requests i (g f) (.reading (sawFund f seen))) :
    Counts fundId liabilityId l₀ requests i (requireFund fundId >>= g) (.reading seen) := by
  unfold requireFund
  rw [bind_assoc]
  refine Counts.fund_bind fun f hid => ?_
  rw [orThrow, Call.lift_ok_bind]
  exact h f hid

/-- The liability is read. -/
theorem Counts.liability_bind {g : PaykhLoyaltyLiability → Service α}
    (h : ∀ l, l.id = liabilityId → l.programFundId = fundId → l.peg = l₀.peg →
      Counts fundId liabilityId l₀ requests i (g l) (.reading (sawLiability l seen))) :
    Counts fundId liabilityId l₀ requests i (requireLiability liabilityId >>= g)
      (.reading seen) := by
  unfold requireLiability
  rw [bind_assoc]
  refine Counters.Updates.look_bind ?_
  rintro w ⟨f, l, hf, hl, hbound, hpeg⟩
  have hseen : (fundCounters fundId liabilityId l₀ requests).look w
      ⟨.paykhLoyaltyLiability, .findUnique, liabilityId⟩ seen = sawLiability l seen := by
    funext c
    cases c <;> simp [Counters.look, fundCounters, FundCounter.read, sawLiability, counterValue, hl]
  simp only [Prisma.paykhLoyaltyLiability_get, hl, Prisma.paykhLoyaltyLiability_model, hseen, orThrow,
    Call.lift_ok_bind]
  exact h l (Lib.Table.key_of_find? hl) hbound hpeg

theorem Counts.post_bind (e : JournalEntry) {g : Unit → Service α}
    (h : e.Fits → Counts fundId liabilityId l₀ requests i (g ()) (.reading seen)) :
    Counts fundId liabilityId l₀ requests i (ReserveLedgerService.post e >>= g)
      (.reading seen) := by
  refine Counters.Updates.quiet_bind (read_ne (by simp) (by simp)) ?_
  intro w a w' hw hpost
  obtain ⟨hfits, rfl⟩ := post_ok hpost
  exact ⟨counterValue_congr rfl rfl, hw.congr rfl rfl, h hfits⟩

theorem Counts.record_bind {entry : AuditRecord}
    (hentry : (requests i).Recordable → entry.Fits) {g : Unit → Service α}
    (h : Counts fundId liabilityId l₀ requests i (g ()) .written) :
    Counts fundId liabilityId l₀ requests i (AuditService.record entry >>= g) .written := by
  unfold AuditService.record auditCreate
  refine Counters.Updates.after_bind ?_ ?_ fun _ => h
  · intro w a w' hw hrecord
    rw [(auditCreate_ok hrecord).2]
    exact ⟨counterValue_congr rfl rfl, hw.congr rfl rfl⟩
  · intro w e hw hrecord hrecordable
    rw [checkTexts_eq_ok (u := ()).mpr (hentry hrecordable)] at hrecord
    cases hrecord

theorem Counts.publish_bind (eventType : String) (payload : JsValue) {g : Unit → Service α}
    (h : Counts fundId liabilityId l₀ requests i (g ()) .written) :
    Counts fundId liabilityId l₀ requests i
      (EventsService.publishToPaykh eventType payload >>= g) .written := by
  unfold EventsService.publishToPaykh EventsService.publish outboxCreate
  refine Counters.Updates.after_bind ?_ (fun _ _ _ h => nomatch h) fun _ => h
  rintro w a w' hw ⟨⟩
  exact ⟨counterValue_congr rfl rfl, hw.congr rfl rfl⟩

theorem Counts.announce_bind (remaining : Int) {g : Unit → Service α}
    (h : Counts fundId liabilityId l₀ requests i (g ()) .written) :
    Counts fundId liabilityId l₀ requests i (announceExhausted fundId remaining >>= g)
      .written := by
  unfold announceExhausted
  split_ifs
  · exact Counts.publish_bind _ _ h
  · exact h

theorem Counts.enabled_bind (key : String) {g : Unit → Service α}
    (h : Counts fundId liabilityId l₀ requests i (g ()) (.reading seen)) :
    Counts fundId liabilityId l₀ requests i (FeatureFlagsService.requireEnabled key >>= g)
      (.reading seen) := by
  unfold FeatureFlagsService.requireEnabled FeatureFlagsService.isEnabled
  rw [bind_assoc, bind_assoc]
  refine Counters.Updates.skip_bind (read_ne (by simp) (by simp)) fun w _ => ?_
  rw [pure_bind]
  exact Call.Obeys.throwIf_bind (fun _ => trivial) fun _ => h

theorem Counts.merchant_bind (merchantId : String) {g : PaykhMerchant → Service α}
    (h : ∀ m, Counts fundId liabilityId l₀ requests i (g m) (.reading seen)) :
    Counts fundId liabilityId l₀ requests i (MerchantsService.requireActive merchantId >>= g)
      (.reading seen) := by
  unfold MerchantsService.requireActive
  simp only [bind_assoc]
  refine Counters.Updates.skip_bind (read_ne (by simp) (by simp)) fun w _ => ?_
  refine Call.Obeys.lift_bind (fun _ _ => trivial) fun m _ => ?_
  refine Call.Obeys.throwIf_bind (fun _ => trivial) fun _ => ?_
  refine Call.Obeys.throwIf_bind (fun _ => trivial) fun _ => ?_
  exact h m

/-- A request that fails before its write. -/
theorem Counts.lift_bind {β : Type} {r : Except ApiError β} {g : β → Service α}
    (h : ∀ a, r = .ok a → Counts fundId liabilityId l₀ requests i (g a) (.reading seen)) :
    Counts fundId liabilityId l₀ requests i ((MonadLiftT.monadLift r : Service β) >>= g)
      (.reading seen) :=
  Call.Obeys.lift_bind (fun _ _ => trivial) h

theorem Counts.throwIf_bind {c : Prop} [Decidable c] {e : ApiError} {g : Unit → Service α}
    (h : ¬c → Counts fundId liabilityId l₀ requests i (g ()) (.reading seen)) :
    Counts fundId liabilityId l₀ requests i (Call.throwIf c e >>= g) (.reading seen) :=
  Call.Obeys.throwIf_bind (fun _ => trivial) h

theorem Counts.safeguard_bind (required : Bool) (entry : Except ApiError JournalEntry)
    {g : Unit → Service α}
    (h : Counts fundId liabilityId l₀ requests i (g ()) (.reading seen)) :
    Counts fundId liabilityId l₀ requests i (safeguard required entry >>= g) (.reading seen) := by
  unfold safeguard
  split_ifs
  · rw [bind_assoc]
    refine Counts.lift_bind fun e _ => ?_
    exact Counts.post_bind e fun _ => h
  · exact h

/-- The write of a counter of the fund. -/
theorem Counts.updateFund_bind {values : List Int} {u : PaykhProgramFund → PaykhProgramFund}
    {hu : ∀ r, (u r).id = r.id} {g : PaykhProgramFund → Service α}
    (hwrite : (requests i).write fundId liabilityId = ⟨.paykhProgramFund, .update, fundId⟩)
    (htouched : ∀ f l c, (requests i).sign c ≠ 0 →
      ∃ m, seen c = some m ∧ c.of (u f) l = m + (requests i).change l₀ c)
    (huntouched : ∀ f l c, (requests i).sign c = 0 → c.of (u f) l = c.of f l)
    (h : ∀ f, Counts fundId liabilityId l₀ requests i (g f) .written) :
    Counts fundId liabilityId l₀ requests i
      (Prisma.paykhProgramFund.update (int8Columns values) fundId u hu >>= g)
      (.reading seen) := by
  show Counts fundId liabilityId l₀ requests i (Call.query ⟨.paykhProgramFund, .update, fundId⟩
    (Prisma.paykhProgramFund.updateTx (int8Columns values) fundId u hu) >>= g) (.reading seen)
  rw [← hwrite]
  refine Counters.Updates.write_bind ?_ h
  rintro w a w' ⟨f, l, hf, hl, hbound, hpeg⟩ htx
  obtain ⟨-, -, -, -, rfl⟩ := Entity.updateTx_ok _ htx
  have hf' := find?_updateFund hf u hu
  refine ⟨fun c hc => ?_, fun c hc => ?_, ⟨u f, l, hf', hl, hbound, hpeg⟩⟩
  · obtain ⟨m, hm, hvalue⟩ := htouched f l c hc
    exact ⟨m, hm, (counterValue_eq hf' hl c).trans hvalue⟩
  · have hsame := huntouched f l c (not_not.mp hc)
    exact (counterValue_eq hf' hl c).trans (hsame.trans (counterValue_eq hf hl c).symm)

/-! ### The five requests -/

theorem fund_counts {amountMinor actor : String} (hr : requests i = .fund amountMinor actor) :
    Counts fundId liabilityId l₀ requests i (ProgramFundsService.fund fundId amountMinor actor)
      (.reading seen) := by
  unfold ProgramFundsService.fund
  refine Counts.requireFund_bind fun f _ => ?_
  refine Counts.lift_bind fun minor hminor => ?_
  refine Counts.throwIf_bind fun _ => ?_
  refine Counts.lift_bind fun required _ => ?_
  refine Counts.safeguard_bind required _ ?_
  refine Counts.updateFund_bind (by rw [hr]; rfl) ?_ ?_ fun updated => ?_
  · intro f' l c hc
    rw [hr] at hc ⊢
    cases c <;> first | exact absurd rfl hc | skip
    refine ⟨f.fundedMinor, rfl, ?_⟩
    simp [FundCounter.of, PaykhProgramFund.withFunded, CounterRequest.change,
      CounterRequest.sign, CounterRequest.amount, hminor, Except.toOption]
  · intro f' l c hc
    rw [hr] at hc
    cases c <;> first | rfl | cases hc
  · exact Counts.publish_bind _ _ trivial

theorem reserve_counts {amountMinor actor : String}
    (hr : requests i = .reserve amountMinor actor) :
    Counts fundId liabilityId l₀ requests i (ProgramFundsService.reserve fundId amountMinor actor)
      (.reading seen) := by
  unfold ProgramFundsService.reserve
  refine Counts.requireFund_bind fun f _ => ?_
  refine Counts.lift_bind fun minor hminor => ?_
  refine Counts.throwIf_bind fun _ => ?_
  refine Counts.updateFund_bind (by rw [hr]; rfl) ?_ ?_ fun updated => ?_
  · intro f' l c hc
    rw [hr] at hc ⊢
    cases c <;> first | exact absurd rfl hc | skip
    refine ⟨f.reservedMinor, rfl, ?_⟩
    simp [FundCounter.of, PaykhProgramFund.withReserved, CounterRequest.change,
      CounterRequest.sign, CounterRequest.amount, hminor, Except.toOption]
  · intro f' l c hc
    rw [hr] at hc
    cases c <;> first | rfl | cases hc
  · refine Counts.record_bind (fun h => ?_) (Counts.announce_bind _ trivial)
    rw [hr] at h
    exact AuditRecord.fits_iff.mpr ⟨h, by simp⟩

theorem release_counts {amountMinor actor : String}
    (hr : requests i = .release amountMinor actor) :
    Counts fundId liabilityId l₀ requests i (ProgramFundsService.release fundId amountMinor actor)
      (.reading seen) := by
  unfold ProgramFundsService.release
  refine Counts.requireFund_bind fun f _ => ?_
  refine Counts.lift_bind fun minor hminor => ?_
  refine Counts.throwIf_bind fun _ => ?_
  refine Counts.updateFund_bind (by rw [hr]; rfl) ?_ ?_ fun updated => ?_
  · intro f' l c hc
    rw [hr] at hc ⊢
    cases c <;> first | exact absurd rfl hc | skip
    refine ⟨f.reservedMinor, rfl, ?_⟩
    simp [FundCounter.of, PaykhProgramFund.withReserved, CounterRequest.change,
      CounterRequest.sign, CounterRequest.amount, hminor, Except.toOption]
    omega
  · intro f' l c hc
    rw [hr] at hc
    cases c <;> first | rfl | cases hc
  · refine Counts.record_bind (fun h => ?_) trivial
    rw [hr] at h
    exact AuditRecord.fits_iff.mpr ⟨h, by simp⟩

/-- The rows after an issuance. -/
theorem find?_issuedOn {w : World} {f f' : PaykhProgramFund} {l l' : PaykhLoyaltyLiability}
    (hf : w.paykhProgramFunds.find? f.id = some f')
    (hl : w.paykhLoyaltyLiabilities.find? l.id = some l') (amount : Int) :
    (w.issuedOn f l amount).paykhProgramFunds.find? f.id =
        some (f'.withReserved (f.reservedMinor + amount)) ∧
      (w.issuedOn f l amount).paykhLoyaltyLiabilities.find? l.id =
        some (l'.asIssued (l.outstandingMinor + amount) (l.issuedTotalMinor + amount)) := by
  constructor
  · exact find?_updateFund hf _ (PaykhProgramFund.withReserved_id _)
  · exact find?_updateLiability hl _ (PaykhLoyaltyLiability.asIssued_id _ _)

theorem issue_counts {gateway : IssuanceGateway} {uuid id : String} {input : IssueLoyaltyInput}
    (hr : requests i = .issue gateway uuid id input) :
    Counts fundId liabilityId l₀ requests i
      (LoyaltyService.issue gateway uuid id { input with liabilityId }) (.reading seen) := by
  unfold LoyaltyService.issue
  refine Counts.enabled_bind _ ?_
  refine Counts.liability_bind fun l hid hbound hpeg => ?_
  rw [hbound]
  refine Counts.fund_bind fun f hfid => ?_
  rw [orThrow, Call.lift_ok_bind]
  refine Counts.lift_bind fun resolved hresolved => ?_
  refine Counts.throwIf_bind fun _ => ?_
  refine Counts.throwIf_bind fun _ => ?_
  refine Counts.lift_bind fun e he => ?_
  refine Counts.post_bind e fun hstored => ?_
  refine Counts.lift_bind fun chain _ => ?_
  have hactor := actor_of_transferEntry he hstored
  have hamount : (requests i).amount l₀ = .ok resolved.1.minor := by
    rw [hr]
    simp only [CounterRequest.amount, ← resolveAmount_congr hpeg, hresolved]
    rfl
  have hwrite : ⟨.paykhLoyaltyIssuance, .transaction, l.id⟩ =
      (fundCounters fundId liabilityId l₀ requests).write i := by
    simp [fundCounters, hr, CounterRequest.write, hid]
  rw [hwrite]
  refine Counters.Updates.write_bind ?_ fun issuance => ?_
  · rintro w a w' ⟨f', l', hf', hl', hbound', hpeg'⟩ htx
    obtain ⟨-, t, rfl⟩ := issueTx_ok htx
    obtain ⟨hf₁, hl₁⟩ := find?_issuedOn (hfid.symm ▸ hf') (hid.symm ▸ hl') resolved.1.minor
    rw [hfid] at hf₁
    rw [hid] at hl₁
    refine ⟨fun c hc => ?_, fun c hc => ?_, ⟨_, _, hf₁, hl₁, hbound', hpeg'⟩⟩
    · have hvalue := counterValue_eq hf₁ hl₁ c
      have hsign : (requests i).sign c ≠ 0 := hc
      rw [hr] at hsign
      cases c <;> first | exact absurd rfl hsign | refine ⟨_, rfl, hvalue.trans ?_⟩
      all_goals
        simp [FundCounter.of, PaykhProgramFund.withReserved, PaykhLoyaltyLiability.asIssued,
          fundCounters, CounterRequest.change, hamount, Except.toOption]
        simp [hr, CounterRequest.sign]
    · have hvalue := counterValue_eq hf₁ hl₁ c
      have hsign : (requests i).sign c = 0 := not_not.mp hc
      rw [hr] at hsign
      have hsame := counterValue_eq hf' hl' c
      cases c <;> first | exact hvalue.trans hsame.symm | cases hsign
  · exact Counts.record_bind (fun _ => AuditRecord.fits_iff.mpr ⟨hactor, by simp⟩)
      (Counts.publish_bind _ _ trivial)

/-- The liability after a redemption. -/
theorem find?_redeemedOn {w : World} {l l' : PaykhLoyaltyLiability}
    (hl : w.paykhLoyaltyLiabilities.find? l.id = some l') (amount : Int) :
    (w.redeemedOn l amount).paykhLoyaltyLiabilities.find? l.id =
      some (l'.asRedeemed (l.outstandingMinor - amount) (l.redeemedTotalMinor + amount)) :=
  find?_updateLiability hl _ (PaykhLoyaltyLiability.asRedeemed_id _ _)

theorem redeem_counts {gateway : IssuanceGateway} {clock : Clock} {uuid id : String}
    {input : RedeemLoyaltyInput} (hr : requests i = .redeem gateway clock uuid id input) :
    Counts fundId liabilityId l₀ requests i
      (LoyaltyService.redeem gateway clock uuid id { input with liabilityId })
      (.reading seen) := by
  unfold LoyaltyService.redeem
  refine Counts.enabled_bind _ ?_
  refine Counts.merchant_bind _ fun _ => ?_
  refine Counts.liability_bind fun l hid hbound hpeg => ?_
  refine Counts.lift_bind fun resolved hresolved => ?_
  refine Counts.throwIf_bind fun _ => ?_
  refine Counts.throwIf_bind fun _ => ?_
  refine Counts.lift_bind fun e he => ?_
  refine Counts.post_bind e fun hstored => ?_
  refine Counts.lift_bind fun chain _ => ?_
  have hactor := actor_of_transferEntry he hstored
  have hamount : (requests i).amount l₀ = .ok resolved.1.minor := by
    rw [hr]
    simp only [CounterRequest.amount, ← resolveAmount_congr hpeg, hresolved]
    rfl
  have hwrite : ⟨.paykhLoyaltyRedemption, .transaction, l.id⟩ =
      (fundCounters fundId liabilityId l₀ requests).write i := by
    simp [fundCounters, hr, CounterRequest.write, hid]
  rw [hwrite]
  refine Counters.Updates.write_bind ?_ fun redemption => ?_
  · rintro w a w' ⟨f', l', hf', hl', hbound', hpeg'⟩ htx
    obtain ⟨-, t, rfl⟩ := redeemTx_ok htx
    have hl₁ := find?_redeemedOn (hid.symm ▸ hl') resolved.1.minor
    rw [hid] at hl₁
    have hf₁ : (w.redeemedOn l resolved.1.minor).paykhProgramFunds.find? fundId = some f' := hf'
    refine ⟨fun c hc => ?_, fun c hc => ?_, ⟨_, _, hf₁, hl₁, hbound', hpeg'⟩⟩
    · have hvalue := counterValue_eq hf₁ hl₁ c
      have hsign : (requests i).sign c ≠ 0 := hc
      rw [hr] at hsign
      cases c <;> first | exact absurd rfl hsign | refine ⟨_, rfl, hvalue.trans ?_⟩
      all_goals
        simp [FundCounter.of, PaykhLoyaltyLiability.asRedeemed,
          fundCounters, CounterRequest.change, hamount, Except.toOption]
        simp [hr, CounterRequest.sign]
      omega
    · have hvalue := counterValue_eq hf₁ hl₁ c
      have hsign : (requests i).sign c = 0 := not_not.mp hc
      rw [hr] at hsign
      have hsame := counterValue_eq hf' hl' c
      cases c <;> first | exact hvalue.trans hsame.symm | cases hsign
  · exact Counts.record_bind (fun _ => AuditRecord.fits_iff.mpr ⟨hactor, by simp⟩)
      (Counts.publish_bind _ _ trivial)

/-- **One request among others.** -/
theorem CounterRequest.updates (i : ι) : Counts fundId liabilityId l₀ requests i
    ((requests i).call fundId liabilityId) (.reading fun _ => none) := by
  cases hr : requests i with
  | fund amountMinor actor => exact Counters.Updates.void (fund_counts hr)
  | reserve amountMinor actor => exact Counters.Updates.void (reserve_counts hr)
  | release amountMinor actor => exact Counters.Updates.void (release_counts hr)
  | issue gateway uuid id input => exact Counters.Updates.void (issue_counts hr)
  | redeem gateway clock uuid id input => exact Counters.Updates.void (redeem_counts hr)

end

/-! ## All requests together -/

section

variable {ι : Type} [DecidableEq ι]

/-- A request that is about to write counters can be recorded, and has read each of them after every
write of it by another request. -/
def WritesFreshCounters (fundId liabilityId : String) (requests : ι → CounterRequest)
    (p : Pool ι Query World ApiError Unit) (i : ι) : Prop :=
  (p.calls i).next? = some ((requests i).write fundId liabilityId) →
    (requests i).Recordable ∧ ∀ c : FundCounter, (requests i).sign c ≠ 0 →
      ∀ e ∈ p.since (i, c.read fundId liabilityId),
        (requests e.1).sign c ≠ 0 → e.2 ≠ (requests e.1).write fundId liabilityId

instance decidableWritesFreshCounters (fundId liabilityId : String)
    (requests : ι → CounterRequest) (p : Pool ι Query World ApiError Unit) (i : ι) :
    Decidable (WritesFreshCounters fundId liabilityId requests p i) :=
  inferInstanceAs (Decidable (_ → _))

/-- The requests, served at the same time. -/
def counterPool (w : World) (fundId liabilityId : String) (requests : ι → CounterRequest) :
    Pool ι Query World ApiError Unit :=
  Pool.start w fun i => (requests i).call fundId liabilityId

end

end

/-! ## A reservation and an issuance -/

attribute [local instance] Runtime.ascii

namespace Sample

/-- A fund of 100, bound to a stablecoin. -/
def boundFund : World := [createFund, fundWith "100", bindFund].foldl SafeguardOp.step loyaltyWorld

/-- 30 are reserved, and 50 are issued. -/
def reservationAndIssuance : Bool → CounterRequest
  | false => .reserve "30" "tenant"
  | true =>
    .issue unconfigured "uuid" "I1"
      { liabilityId := "L1", customerRef := "customer", amountMinor := some "50"
        units := none, actor := "tenant" }

/-- The reservation is served, and then the issuance. -/
def reservedThenIssued : List Bool := List.replicate 3 false ++ List.replicate 7 true

/-- The issuance reads the fund, the reservation is served, and the issuance goes on. -/
def reservedMeanwhile : List Bool :=
  List.replicate 3 true ++ List.replicate 3 false ++ List.replicate 4 true

theorem boundFund_rows : ∃ f l, boundFund.paykhProgramFunds.find? "F1" = some f ∧
    boundFund.paykhLoyaltyLiabilities.find? "L1" = some l ∧ l.programFundId = "F1" := by
  have hfund : (boundFund.paykhProgramFunds.find? "F1").isSome := by decide +kernel
  have hliability : (boundFund.paykhLoyaltyLiabilities.find? "L1").map (·.programFundId) =
      some "F1" := by
    decide +kernel
  obtain ⟨f, hf⟩ := Option.isSome_iff_exists.mp hfund
  obtain ⟨l, hl, hbound⟩ := Option.map_eq_some_iff.mp hliability
  exact ⟨f, l, hf, hl, hbound⟩

end Sample

theorem reservedThenIssued_fresh : Lib.Meets Pool.step
    (WritesFreshCounters "F1" "L1" Sample.reservationAndIssuance)
    (counterPool Sample.boundFund "F1" "L1" Sample.reservationAndIssuance)
    Sample.reservedThenIssued := by
  decide +kernel

/-- What is reserved when both have ended, and what each of the two adds to it. -/
theorem reservedMeanwhile_values :
    (((counterPool Sample.boundFund "F1" "L1" Sample.reservationAndIssuance).exec
      Sample.reservedMeanwhile).state.paykhProgramFunds.find? "F1").map (·.reservedMinor) =
        some 50 ∧
    (Sample.boundFund.paykhProgramFunds.find? "F1").map (·.reservedMinor) = some 0 ∧
    (Sample.boundFund.paykhLoyaltyLiabilities.find? "L1").map (fun l =>
      ∑ i, if (((counterPool Sample.boundFund "F1" "L1" Sample.reservationAndIssuance).exec
          Sample.reservedMeanwhile).calls i).succeeded then
        (Sample.reservationAndIssuance i).change l .reservedMinor else 0) = some 80 := by
  decide +kernel

end TrusteeBank
