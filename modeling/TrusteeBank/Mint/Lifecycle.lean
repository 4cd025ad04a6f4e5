import TrusteeBank.Lib.Run
import TrusteeBank.Services.MintEffects

/-!
# The life of a mint authorization

Everything the database holds about one authorization (its row, its approval, its confirmation
and the ledger entries made for it) is its *file*. Operations touch one file each, and a file
only goes through the stages of `MintFile.Life`: nothing reserved, one reservation, one
reservation and one release.

* *frame*: `fileOf_posted`, `fileOf_updateAuth`, `fileOf_decideApproval` and so on say which file a
  write touches, and how;
* *step*: `MintOp.life_step`, every operation keeps every file alive in this sense, provided a
  confirmation that gets as far as being stored can be stored (`ConfirmStorable`);
* *run*: `life_run`.

`confirm` posts the release before it evaluates the row of the confirmation, so a ledger height
that is not an integer, or a text with U+0000, leaves an entry without a confirmation; that is what
`ConfirmStorable` rules out. The approval on file is no part of a stage: `approve` writes it after
it has issued the authorization, and fails there if the reason cannot be stored.
-/

set_option autoImplicit false

namespace TrusteeBank

open Lib (Call)
open MintService

section

variable [Runtime]

/-! ## Entries by source -/

def releasePrefixes : List String := ["mint-confirm:", "mint-revoke:", "mint-expire:"]

def mintPrefixes : List String := "mint-auth:" :: releasePrefixes

/-- The entries whose source is one of the prefixes followed by the identifier. -/
def entriesOf (prefixes : List String) (authId : String) (ledger : List JournalEntry) :
    List JournalEntry :=
  ledger.filter fun e => e.references.source ∈ prefixes.map (· ++ authId)

omit [Runtime] in
/-- The sources of the workflow do not run into each other. -/
theorem mintSource_inj {p q a b : String} (hp : p ∈ mintPrefixes) (hq : q ∈ mintPrefixes)
    (h : p ++ a = q ++ b) : p = q ∧ a = b := by
  have hl := congrArg String.toList h
  simp only [String.toList_append] at hl
  have hcancel (hpq : p = q) : p = q ∧ a = b := by
    subst hpq
    exact ⟨rfl, String.toList_inj.mp (List.append_cancel_left hl)⟩
  simp only [mintPrefixes, releasePrefixes, List.mem_cons, List.not_mem_nil, or_false] at hp hq
  rcases hp with rfl | rfl | rfl | rfl <;> rcases hq with rfl | rfl | rfl | rfl <;>
    first | exact hcancel rfl | simp at hl

theorem entriesOf_append (prefixes : List String) (authId : String)
    (ledger ledger' : List JournalEntry) :
    entriesOf prefixes authId (ledger ++ ledger') =
      entriesOf prefixes authId ledger ++ entriesOf prefixes authId ledger' :=
  List.filter_append ..

/-- Fewer prefixes select among the entries selected. -/
theorem entriesOf_entriesOf {prefixes prefixes' : List String} (h : prefixes ⊆ prefixes')
    (authId : String) (ledger : List JournalEntry) :
    entriesOf prefixes authId (entriesOf prefixes' authId ledger) =
      entriesOf prefixes authId ledger := by
  unfold entriesOf
  rw [List.filter_filter]
  refine List.filter_congr fun e _ => ?_
  have hsub (hs : e.references.source ∈ prefixes.map (· ++ authId)) :
      e.references.source ∈ prefixes'.map (· ++ authId) := List.map_subset _ h hs
  by_cases hs : e.references.source ∈ prefixes.map (· ++ authId)
  · simp only [hs, hsub hs, decide_true, Bool.and_true]
  · simp only [hs, decide_false, Bool.false_and]

theorem mem_entriesOf {prefixes : List String} {authId : String} {ledger : List JournalEntry}
    {e : JournalEntry} : e ∈ entriesOf prefixes authId ledger ↔
      e ∈ ledger ∧ ∃ p ∈ prefixes, e.references.source = p ++ authId := by
  simp only [entriesOf, List.mem_filter, decide_eq_true_eq, List.mem_map]
  exact and_congr_right fun _ => exists_congr fun p => and_congr_right fun _ => eq_comm

/-! ## Files -/

/-- What is held about one authorization; `trail` are the entries of the workflow, in order. -/
structure MintFile where
  auth : Option MintAuthorization
  approval : Option Approval
  confirmation : Option MintConfirmation
  trail : List JournalEntry

def fileOf (w : World) (authId : String) : MintFile where
  auth := w.mintAuthorizations.find? authId
  approval := approvalOf w authId
  confirmation := w.mintConfirmations.find? authId
  trail := entriesOf mintPrefixes authId w.ledger

/-- The file with its authorization rewritten. -/
def MintFile.mapAuth (f : MintAuthorization → MintAuthorization) (file : MintFile) : MintFile :=
  { file with auth := file.auth.map f }

@[simp] theorem fileOf_logged (w : World) (rows : List AuditLog) (events : List OutboxEvent)
    (authId : String) : fileOf (w.logged rows events) authId = fileOf w authId := rfl

theorem fileOf_posted {w : World} {auth : MintAuthorization} {p debit credit : String}
    {e : JournalEntry} (hp : p ∈ mintPrefixes) (he : IsMintEntry auth p debit credit e) :
    fileOf (w.posted e) = Function.update (fileOf w) auth.id
      { fileOf w auth.id with trail := (fileOf w auth.id).trail ++ [e] } := by
  have htrail (id : String) : entriesOf mintPrefixes id (w.ledger ++ [e]) =
      entriesOf mintPrefixes id w.ledger ++ if id = auth.id then [e] else [] := by
    rw [entriesOf_append]
    split_ifs with hid
    · have hsource : e.references.source ∈ mintPrefixes.map (· ++ id) :=
        List.mem_map.mpr ⟨p, hp, by rw [he.source, hid]⟩
      simp only [entriesOf, List.filter_singleton, hsource, decide_true, cond_true]
    · have hsource : e.references.source ∉ mintPrefixes.map (· ++ id) := fun h => by
        obtain ⟨q, hq, hqp⟩ := List.mem_map.mp h
        exact hid (mintSource_inj hq hp (hqp.trans he.source)).2
      simp only [entriesOf, List.filter_singleton, hsource, decide_false, cond_false]
  funext id
  by_cases hid : id = auth.id
  · subst hid
    simp [fileOf, World.posted, approvalOf, htrail]
  · simp [fileOf, World.posted, approvalOf, htrail, hid]

theorem fileOf_updateAuth (w : World) (authId : String) (f : MintAuthorization → MintAuthorization)
    (hf : ∀ a, (f a).id = a.id) : fileOf (w.updateAuth authId f hf) =
      Function.update (fileOf w) authId ((fileOf w authId).mapAuth f) := by
  funext id
  have hauth : (w.updateAuth authId f hf).mintAuthorizations.find? id =
      if id = authId then (w.mintAuthorizations.find? authId).map f
      else w.mintAuthorizations.find? id :=
    Lib.Table.find?_modify w.mintAuthorizations authId f hf id
  by_cases hid : id = authId
  · subst hid
    rw [Function.update_self, fileOf, hauth, if_pos rfl]
    rfl
  · rw [Function.update_of_ne hid, fileOf, hauth, if_neg hid]
    rfl

theorem fileOf_setAuthStatus (w : World) (authId : String) (status : MintAuthorizationStatus) :
    fileOf (w.setAuthStatus authId status) =
      Function.update (fileOf w) authId ((fileOf w authId).mapAuth (·.withStatus status)) :=
  fileOf_updateAuth ..

theorem fileOf_issueAuth (w : World) (authId : String) (signature : Signature)
    (issuedAt expiresAt : Int) : fileOf (w.issueAuth authId signature issuedAt expiresAt) =
      Function.update (fileOf w) authId
        ((fileOf w authId).mapAuth (·.asIssued signature issuedAt expiresAt)) :=
  fileOf_updateAuth ..

/-- An approval belongs to one authorization at most. -/
theorem fileOf_decideApproval {w : World} {authId : String} {approval : Approval}
    (h : approvalOf w authId = some approval) (checkerId : String) (actedAt : Int)
    (decision : ApprovalDecision) (reason : String) :
    fileOf (w.decideApproval approval.id checkerId actedAt decision reason) =
      Function.update (fileOf w) authId { fileOf w authId with
        approval := some (approval.decided checkerId actedAt decision reason) } := by
  have hmine : approval.mintAuthorizationId = some authId := by
    simpa using List.find?_some h
  have happroval (id : String) :
      approvalOf (w.decideApproval approval.id checkerId actedAt decision reason) id =
        (approvalOf w id).map fun a =>
          if a.id = approval.id then a.decided checkerId actedAt decision reason else a :=
    Lib.Table.find?_rows_modify w.approvals approval.id
      (·.decided checkerId actedAt decision reason) (fun _ => rfl) fun _ => rfl
  funext id
  by_cases hid : id = authId
  · subst hid
    rw [Function.update_self, fileOf, happroval, h, Option.map_some, if_pos rfl]
    rfl
  · rw [Function.update_of_ne hid, fileOf, happroval]
    cases hother : approvalOf w id with
    | none => rw [Option.map_none, ← hother]; rfl
    | some other =>
      have hotherId : other.mintAuthorizationId = some id := by
        simpa using List.find?_some hother
      have hne : other.id ≠ approval.id := fun heq => by
        have hrow : other = approval := List.inj_on_of_nodup_map w.approvals.nodup
          (List.mem_of_find?_eq_some hother) (List.mem_of_find?_eq_some h) heq
        rw [hrow, hmine] at hotherId
        exact hid (Option.some.inj hotherId).symm
      rw [Option.map_some, if_neg hne, ← hother]
      rfl

theorem fileOf_confirmation {w : World} {row : MintConfirmation}
    {t : Lib.Table MintConfirmation.mintAuthorizationId}
    (h : w.mintConfirmations.insert? row = some t) :
    fileOf { w with mintConfirmations := t } = Function.update (fileOf w) row.mintAuthorizationId
      { fileOf w row.mintAuthorizationId with confirmation := some row } := by
  funext id
  have hfind := Lib.Table.find?_insert? h id
  by_cases hid : id = row.mintAuthorizationId
  · subst hid
    rw [if_pos rfl] at hfind
    rw [Function.update_self, fileOf, hfind]
    rfl
  · rw [if_neg (Ne.symm hid)] at hfind
    rw [Function.update_of_ne hid, fileOf, hfind]
    rfl

theorem fileOf_request {w : World} {row : MintAuthorization}
    {t : Lib.Table MintAuthorization.id} (h : w.mintAuthorizations.insert? row = some t) :
    fileOf { w with mintAuthorizations := t } = Function.update (fileOf w) row.id
      { fileOf w row.id with auth := some row } := by
  funext id
  have hfind := Lib.Table.find?_insert? h id
  by_cases hid : id = row.id
  · subst hid
    rw [if_pos rfl] at hfind
    rw [Function.update_self, fileOf, hfind]
    rfl
  · rw [if_neg (Ne.symm hid)] at hfind
    rw [Function.update_of_ne hid, fileOf, hfind]
    rfl

/-- A review writes to its own file only: the authorization moves on, the approval is a new one. -/
theorem fileOf_review {w : World} {authId makerId approvalId : String} {t : Lib.Table Approval.id}
    (h : (disconnected (w.setAuthStatus authId .pendingChecker) authId).insert?
      (pendingApproval authId makerId approvalId) = some t) :
    ∃ approval, fileOf { w.setAuthStatus authId .pendingChecker with approvals := t } =
      Function.update (fileOf w) authId
        { (fileOf w authId).mapAuth (·.withStatus .pendingChecker) with approval := approval } := by
  refine ⟨t.rows.find? fun a => a.mintAuthorizationId = some authId, ?_⟩
  funext id
  have hwrite := congrFun (fileOf_setAuthStatus w authId .pendingChecker) id
  by_cases hid : id = authId
  · subst hid
    rw [Function.update_self] at hwrite ⊢
    rw [← hwrite]
    rfl
  · rw [Function.update_of_ne hid] at hwrite ⊢
    have hother : t.rows.find? (fun a => a.mintAuthorizationId = some id) = approvalOf w id := by
      have hnew : (pendingApproval authId makerId approvalId).mintAuthorizationId ≠ some id :=
        fun heq => hid (Option.some.inj heq).symm
      rw [(Lib.Table.insert?_eq_some h).1, List.find?_append, List.find?_singleton,
        if_neg (by simpa using hnew), Option.or_none]
      unfold disconnected
      cases hold : approvalOf (w.setAuthStatus authId .pendingChecker) authId with
      | none => rfl
      | some old =>
        have hmine : old.mintAuthorizationId = some authId := by
          simpa using List.find?_some hold
        exact Lib.Table.find?_rows_modify_of_not _ _ _ (List.mem_of_find?_eq_some hold)
          (by simp [hmine, Ne.symm hid]) (by simp)
    rw [← hwrite]
    unfold fileOf
    rw [approvalOf, hother]
    rfl

/-! ## Stages -/

/-- The stages of a file. -/
inductive MintFile.Life (file : MintFile) : Prop
  | absent (hauth : file.auth = none) (htrail : file.trail = [])
      (hconfirmation : file.confirmation = none)
  | unreserved {a : MintAuthorization} (hauth : file.auth = some a) (hstatus : a.status ≠ .issued)
      (hfits : FitsInt8 a.amountMinor) (htrail : file.trail = [])
      (hconfirmation : file.confirmation = none)
  | reserved {a : MintAuthorization} {r : JournalEntry} (hauth : file.auth = some a)
      (hmaker : a.status ≠ .pendingMaker) (hchecker : a.status ≠ .pendingChecker)
      (hfits : FitsInt8 a.amountMinor) (hexpires : a.expiresAt.isSome) (htrail : file.trail = [r])
      (hr : IsReservation a r) (hconfirmation : file.confirmation = none)
  | released {a : MintAuthorization} {r e : JournalEntry} {p : String} (hauth : file.auth = some a)
      (hmaker : a.status ≠ .pendingMaker) (hchecker : a.status ≠ .pendingChecker)
      (hissued : a.status ≠ .issued) (htrail : file.trail = [r, e]) (hr : IsReservation a r)
      (hp : p ∈ releasePrefixes) (he : IsRelease a p e)
      (hconfirmation : if p = "mint-confirm:" then
          ∃ c, file.confirmation = some c ∧ c.amountMinor = a.amountMinor
        else file.confirmation = none)

theorem IsMintEntry.withStatus {a : MintAuthorization} {p debit credit : String} {e : JournalEntry}
    (h : IsMintEntry a p debit credit e) (status : MintAuthorizationStatus) :
    IsMintEntry (a.withStatus status) p debit credit e :=
  ⟨h.move, h.source, h.programId⟩

/-- Rejecting leaves a file in its stage, whatever its status was. -/
theorem MintFile.Life.reject {file : MintFile} (h : file.Life) :
    (file.mapAuth (·.withStatus .rejected)).Life := by
  cases h with
  | absent hauth htrail hconfirmation =>
    exact .absent (by simp [mapAuth, hauth]) htrail hconfirmation
  | @unreserved a hauth _ hfits htrail hconfirmation =>
    exact .unreserved (a := a.withStatus .rejected) (by simp [mapAuth, hauth])
      (by simp [MintAuthorization.withStatus]) hfits htrail hconfirmation
  | @reserved a r hauth _ _ hfits hexpires htrail hr hconfirmation =>
    exact .reserved (a := a.withStatus .rejected) (by simp [mapAuth, hauth])
      (by simp [MintAuthorization.withStatus]) (by simp [MintAuthorization.withStatus]) hfits
      hexpires htrail (hr.withStatus _) hconfirmation
  | @released a r e p hauth _ _ _ htrail hr hp he hconfirmation =>
    exact .released (a := a.withStatus .rejected) (by simp [mapAuth, hauth])
      (by simp [MintAuthorization.withStatus]) (by simp [MintAuthorization.withStatus])
      (by simp [MintAuthorization.withStatus]) htrail (hr.withStatus _) hp (he.withStatus _)
      hconfirmation

/-- A decision leaves a file in its stage. -/
theorem MintFile.Life.decide {file : MintFile} (h : file.Life) (approval : Option Approval) :
    ({ file with approval } : MintFile).Life := by
  cases h with
  | absent hauth htrail hconfirmation => exact .absent hauth htrail hconfirmation
  | unreserved hauth hstatus hfits htrail hconfirmation =>
    exact .unreserved hauth hstatus hfits htrail hconfirmation
  | reserved hauth hm hc hfits hexpires htrail hr hconfirmation =>
    exact .reserved hauth hm hc hfits hexpires htrail hr hconfirmation
  | released hauth hm hc hi htrail hr hp he hconfirmation =>
    exact .released hauth hm hc hi htrail hr hp he hconfirmation

theorem MintFile.Life.of_absent {file : MintFile} (h : file.Life) (hauth : file.auth = none) :
    file.trail = [] ∧ file.confirmation = none := by
  cases h with
  | absent _ htrail hconfirmation => exact ⟨htrail, hconfirmation⟩
  | unreserved hsome => simp [hauth] at hsome
  | reserved hsome => simp [hauth] at hsome
  | released hsome => simp [hauth] at hsome

/-- The file of an issued authorization. -/
theorem MintFile.Life.of_issued {file : MintFile} (h : file.Life) {a : MintAuthorization}
    (hauth : file.auth = some a) (hstatus : a.status = .issued) :
    FitsInt8 a.amountMinor ∧ a.expiresAt.isSome ∧ (∃ r, file.trail = [r] ∧ IsReservation a r) ∧
      file.confirmation = none := by
  cases h with
  | absent hnone => simp [hnone] at hauth
  | unreserved hsome hne =>
    obtain rfl := Option.some.inj (hsome.symm.trans hauth)
    exact absurd hstatus hne
  | reserved hsome _ _ hfits hexpires htrail hr hconfirmation =>
    obtain rfl := Option.some.inj (hsome.symm.trans hauth)
    exact ⟨hfits, hexpires, ⟨_, htrail, hr⟩, hconfirmation⟩
  | released hsome _ _ hne =>
    obtain rfl := Option.some.inj (hsome.symm.trans hauth)
    exact absurd hstatus hne

/-- The file of an authorization still under review. -/
theorem MintFile.Life.of_pending {file : MintFile} (h : file.Life) {a : MintAuthorization}
    (hauth : file.auth = some a)
    (hstatus : a.status = .pendingMaker ∨ a.status = .pendingChecker) :
    FitsInt8 a.amountMinor ∧ file.trail = [] ∧ file.confirmation = none := by
  cases h with
  | absent hnone => simp [hnone] at hauth
  | unreserved hsome _ hfits htrail hconfirmation =>
    obtain rfl := Option.some.inj (hsome.symm.trans hauth)
    exact ⟨hfits, htrail, hconfirmation⟩
  | reserved hsome hm hc =>
    obtain rfl := Option.some.inj (hsome.symm.trans hauth)
    exact absurd hstatus (not_or.mpr ⟨hm, hc⟩)
  | released hsome hm hc =>
    obtain rfl := Option.some.inj (hsome.symm.trans hauth)
    exact absurd hstatus (not_or.mpr ⟨hm, hc⟩)

/-! ## Steps and runs -/

/-- The ledger height, the time and the texts of a confirmation can be stored. -/
structure Storable (input : ConfirmMint) : Prop where
  height : ∃ height, ledgerHeightOf input.ledgerHeight = .ok height ∧ ∀ n ∈ height, FitsInt8 n
  time : (newDateOf input.confirmedAt).isSome
  texts : ∀ t ∈ [input.paychainTransactionId, input.blockchainTxHash, input.destination,
    input.paychainSignature], FitsText t

/-- A confirmation that passes the checks of `confirm` can be stored. -/
def ConfirmStorable (w : World) : MintOp → Prop
  | .confirm clock authId input => ∀ auth, w.mintAuthorizations.find? authId = some auth →
      auth.status = .issued → hasExpired auth (clock 0) = false →
      bigInt input.amountMinor = .ok auth.amountMinor → Storable input
  | _ => True

/-- Nothing stands in the way of the first confirmation of an authorization. -/
theorem createConfirmation_ok {auth : MintAuthorization} {input : ConfirmMint} {w : World}
    (hinput : Storable input) (hfits : FitsInt8 auth.amountMinor)
    (hauth : (w.mintAuthorizations.find? auth.id).isSome)
    (hnone : w.mintConfirmations.find? auth.id = none) :
    ∃ row w', (createConfirmation auth input auth.amountMinor).run w = (.ok row, w') := by
  obtain ⟨⟨height, hheight, hheightFits⟩, hdate, htexts⟩ := hinput
  obtain ⟨confirmedAt, hdate⟩ := Option.isSome_iff_exists.mp hdate
  unfold createConfirmation
  rw [Call.run_lift_bind, hheight]
  simp only [hdate, checkDate, orThrow, Call.run_lift_bind]
  set row := confirmationRow auth input auth.amountMinor height confirmedAt with hrow
  have hconstraints : mintConfirmationConstraints row w = .ok () := by
    have hint8 : checkInt8 (row.amountMinor :: row.ledgerHeight.toList) = .ok () := by
      rw [checkInt8_eq_ok, List.forall_mem_cons]
      exact ⟨hfits, fun n hn => hheightFits n (by simpa [hrow, confirmationRow] using hn)⟩
    have htexts : checkTexts [row.paychainTransactionId, row.blockchainTxHash, row.destination,
        row.paychainSignature] = .ok () := checkTexts_eq_ok.mpr htexts
    have hkey : (w.mintAuthorizations.find? row.mintAuthorizationId).isSome := hauth
    simp [mintConfirmationConstraints, hint8, htexts, hkey, checkForeignKey, bind, Except.bind]
  obtain ⟨t, -, h⟩ :=
    Prisma.mintConfirmation.run_create_of row hconstraints hnone
  exact ⟨_, _, h⟩

/-- Every file is in one of the stages. -/
def AllLive (w : World) : Prop := ∀ id, (fileOf w id).Life

theorem AllLive.update {w w₁ : World} (h : AllLive w) (authId : String) (file : MintFile)
    (hfile : fileOf w₁ = Function.update (fileOf w) authId file) (hlife : file.Life) :
    AllLive w₁ := by
  intro id
  rw [hfile]
  by_cases hid : id = authId
  · subst hid
    rwa [Function.update_self]
  · rw [Function.update_of_ne hid]
    exact h id

/-- A release takes a reserved file to its last stage; only a confirmation comes with a row. -/
theorem AllLive.release {w w₁ : World} {auth : MintAuthorization} {p : String} {e : JournalEntry}
    (h : AllLive w) (status : MintAuthorizationStatus) (confirmation : Option MintConfirmation)
    (hauth : w.mintAuthorizations.find? auth.id = some auth) (hissued : auth.status = .issued)
    (hp : p ∈ releasePrefixes) (he : IsRelease auth p e)
    (hstatus : status ≠ .pendingMaker ∧ status ≠ .pendingChecker ∧ status ≠ .issued)
    (hconfirmation : if p = "mint-confirm:" then
        ∃ c, confirmation = some c ∧ c.amountMinor = auth.amountMinor
      else confirmation = none)
    (hfile : fileOf w₁ = Function.update (fileOf w) auth.id
      { fileOf w auth.id with
        auth := some (auth.withStatus status)
        trail := (fileOf w auth.id).trail ++ [e]
        confirmation := confirmation }) : AllLive w₁ := by
  obtain ⟨-, -, ⟨r, htrail, hr⟩, -⟩ := (h auth.id).of_issued hauth hissued
  refine h.update auth.id _ hfile (.released (a := auth.withStatus status) (r := r) (e := e)
    (p := p) rfl hstatus.1 hstatus.2.1 hstatus.2.2 ?_ (hr.withStatus _) hp (he.withStatus _)
    hconfirmation)
  rw [htrail]
  rfl

/-- What posting a release and then writing a status does to the files. -/
theorem fileOf_released {w : World} {auth : MintAuthorization} {p : String} {e : JournalEntry}
    (h : AllLive w) (hauth : w.mintAuthorizations.find? auth.id = some auth)
    (hissued : auth.status = .issued) (hp : p ∈ releasePrefixes) (he : IsRelease auth p e)
    (status : MintAuthorizationStatus) :
    fileOf ((w.posted e).setAuthStatus auth.id status) = Function.update (fileOf w) auth.id
      { fileOf w auth.id with
        auth := some (auth.withStatus status)
        trail := (fileOf w auth.id).trail ++ [e]
        confirmation := none } := by
  have hrow : (fileOf w auth.id).auth = some auth := hauth
  have hnone := ((h auth.id).of_issued hauth hissued).2.2.2
  rw [fileOf_setAuthStatus, fileOf_posted (List.mem_cons_of_mem _ hp) he, Function.update_self,
    Function.update_idem]
  simp only [MintFile.mapAuth, hrow, Option.map_some, hnone]

/-- What posting a release, storing the confirmation and writing the status does to the files. -/
theorem fileOf_confirmed {w : World} {auth : MintAuthorization} {input : ConfirmMint}
    {e : JournalEntry} {ledgerHeight : Option Int} {confirmedAt : Int}
    {t : Lib.Table MintConfirmation.mintAuthorizationId}
    (hauth : w.mintAuthorizations.find? auth.id = some auth)
    (he : IsRelease auth "mint-confirm:" e)
    (ht : w.mintConfirmations.insert?
      (confirmationRow auth input auth.amountMinor ledgerHeight confirmedAt) = some t) :
    fileOf ({ w.posted e with mintConfirmations := t }.setAuthStatus auth.id .consumed) =
      Function.update (fileOf w) auth.id
        { fileOf w auth.id with
          auth := some (auth.withStatus .consumed)
          trail := (fileOf w auth.id).trail ++ [e]
          confirmation :=
            some (confirmationRow auth input auth.amountMinor ledgerHeight confirmedAt) } := by
  have hrow : (fileOf w auth.id).auth = some auth := hauth
  have hkey : (confirmationRow auth input auth.amountMinor ledgerHeight
    confirmedAt).mintAuthorizationId = auth.id := rfl
  rw [fileOf_setAuthStatus, fileOf_confirmation (w := w.posted e) ht, hkey,
    fileOf_posted (by simp [mintPrefixes, releasePrefixes]) he]
  simp only [Function.update_self, Function.update_idem, MintFile.mapAuth, hrow, Option.map_some]

/-- What rejecting and deciding does to the files. -/
theorem fileOf_rejected {w : World} {authId : String} {approval : Approval}
    (happroval : approvalOf w authId = some approval) (checkerId : String) (actedAt : Int)
    (decision : ApprovalDecision) (reason : String) :
    fileOf ((w.setAuthStatus authId .rejected).decideApproval approval.id checkerId actedAt decision
        reason) = Function.update (fileOf w) authId
      { (fileOf w authId).mapAuth (·.withStatus .rejected) with
        approval := some (approval.decided checkerId actedAt decision reason) } := by
  rw [fileOf_decideApproval (w := w.setAuthStatus authId .rejected) happroval,
    fileOf_setAuthStatus, Function.update_self, Function.update_idem]

/-- A confirmation that passes its checks is stored. -/
theorem AllLive.stored {w : World} {clock : Clock} {authId : String} {input : ConfirmMint}
    {auth : MintAuthorization} {e : JournalEntry} (h : AllLive w)
    (hcondition : ConfirmStorable w (.confirm clock authId input))
    (hauth : w.mintAuthorizations.find? authId = some auth) (hstatus : auth.status = .issued)
    (hexpired : hasExpired auth (clock 0) = false)
    (hamount : bigInt input.amountMinor = .ok auth.amountMinor)
    (herror : ∃ err, (createConfirmation auth input auth.amountMinor).run (w.posted e) =
      (.error err, w.posted e)) : False := by
  obtain rfl := Lib.Table.key_of_find? hauth
  obtain ⟨hfits, -, -, hconfirmation⟩ := (h auth.id).of_issued hauth hstatus
  have hinput := hcondition auth hauth hstatus hexpired hamount
  obtain ⟨row, w', hok⟩ := createConfirmation_ok (w := w.posted e) hinput hfits
    (Option.isSome_of_eq_some hauth) hconfirmation
  obtain ⟨err, herr⟩ := herror
  cases hok.symm.trans herr

/-- Posting a reservation and issuing takes a file under review to its second stage, whatever
approval is on it. -/
theorem AllLive.issue {w w₁ : World} {auth : MintAuthorization} {e : JournalEntry} (h : AllLive w)
    (signature : Signature) (issuedAt expiresAt : Int) (approval : Option Approval)
    (hauth : w.mintAuthorizations.find? auth.id = some auth)
    (hstatus : auth.status = .pendingChecker) (he : IsReservation auth e)
    (hfile : fileOf w₁ = Function.update (fileOf w) auth.id
      { fileOf w auth.id with
        auth := some (auth.asIssued signature issuedAt expiresAt)
        approval := approval
        trail := (fileOf w auth.id).trail ++ [e] }) : AllLive w₁ := by
  obtain ⟨hfits, htrail, hconfirmation⟩ := (h auth.id).of_pending hauth (.inr hstatus)
  refine h.update auth.id _ hfile (.reserved (a := auth.asIssued signature issuedAt expiresAt)
    (r := e) rfl (by simp [MintAuthorization.asIssued]) (by simp [MintAuthorization.asIssued]) hfits
    rfl ?_ ⟨he.move, he.source, he.programId⟩ hconfirmation)
  rw [htrail]
  rfl

/-- What posting a reservation and issuing does to the files. -/
theorem fileOf_issued {w : World} {auth : MintAuthorization} {e : JournalEntry}
    (hauth : w.mintAuthorizations.find? auth.id = some auth) (he : IsReservation auth e)
    (signature : Signature) (issuedAt expiresAt : Int) :
    fileOf ((w.posted e).issueAuth auth.id signature issuedAt expiresAt) =
      Function.update (fileOf w) auth.id
        { fileOf w auth.id with
          auth := some (auth.asIssued signature issuedAt expiresAt)
          trail := (fileOf w auth.id).trail ++ [e] } := by
  have hrow : (fileOf w auth.id).auth = some auth := hauth
  rw [fileOf_issueAuth, fileOf_posted (by simp [mintPrefixes]) he, Function.update_self,
    Function.update_idem]
  simp only [MintFile.mapAuth, hrow, Option.map_some]

/-- **One operation keeps every file in a stage.** -/
theorem MintEffect.life {w w₁ : World} {op : MintOp} (h : MintEffect w op w₁) (hlive : AllLive w)
    (hcondition : ConfirmStorable w op) : AllLive w₁ := by
  cases h with
  | unchanged => exact hlive
  | requested hprogram hpos hfits ht =>
    have hnone := (Lib.Table.insert?_eq_some ht).2
    obtain ⟨htrail, hconfirmation⟩ := (hlive _).of_absent hnone
    exact hlive.update _ _ (fileOf_request ht)
      (.unreserved rfl (by simp [requestedRow]) hfits htrail hconfirmation)
  | @reviewed authId _ _ auth _ hauth hstatus ht =>
    obtain ⟨approval, hfile⟩ := fileOf_review ht
    obtain ⟨hfits, htrail, hconfirmation⟩ := (hlive authId).of_pending hauth (.inl hstatus)
    have hrow : (fileOf w authId).auth = some auth := hauth
    exact hlive.update authId _ hfile (.unreserved (a := auth.withStatus .pendingChecker)
      (by simp [MintFile.mapAuth, hrow]) (by simp [MintAuthorization.withStatus]) hfits htrail
      hconfirmation)
  | @blocked clock authId checkerId _ blockReason _ approval _ _ happroval =>
    exact hlive.update authId _ (fileOf_rejected happroval ..) ((hlive authId).reject.decide
      (some (approval.decided checkerId (clock 4) .rejected blockReason)))
  | @issuedUndecided clock authId _ _ auth _ e signature expiresAt hissuable he =>
    obtain rfl := Lib.Table.key_of_find? hissuable.found
    exact hlive.issue signature (clock 5) expiresAt _ hissuable.found hissuable.status he
      (fileOf_issued hissuable.found he ..)
  | @issued clock authId checkerId reason auth approval e signature expiresAt hissuable he =>
    obtain rfl := Lib.Table.key_of_find? hissuable.found
    refine hlive.issue signature (clock 5) expiresAt
      (some (approval.decided checkerId (clock 5) .approved reason)) hissuable.found
      hissuable.status he ?_
    rw [fileOf_decideApproval (w := (w.posted e).issueAuth auth.id signature (clock 5) expiresAt)
      hissuable.reviewed, fileOf_issued hissuable.found he, Function.update_self,
      Function.update_idem]
  | @rejected clock authId checkerId reason _ approval _ happroval =>
    exact hlive.update authId _ (fileOf_rejected happroval ..) ((hlive authId).reject.decide
      (some (approval.decided checkerId (clock 0) .rejected reason)))
  | @rejectedUndecided _ authId =>
    exact hlive.update authId _ (fileOf_setAuthStatus ..) (hlive authId).reject
  | @revoked authId _ _ auth e hauth hstatus he =>
    obtain rfl := Lib.Table.key_of_find? hauth
    exact hlive.release (p := "mint-revoke:") .revoked none hauth hstatus (by simp [releasePrefixes])
      he (by simp) (by simp)
      (fileOf_released hlive hauth hstatus (by simp [releasePrefixes]) he _)
  | @expired authId _ auth e hauth hstatus he =>
    obtain rfl := Lib.Table.key_of_find? hauth
    exact hlive.release (p := "mint-expire:") .expired none hauth hstatus (by simp [releasePrefixes])
      he (by simp) (by simp)
      (fileOf_released hlive hauth hstatus (by simp [releasePrefixes]) he _)
  | @expiredAtConfirm _ authId _ auth e hauth hstatus _ he =>
    obtain rfl := Lib.Table.key_of_find? hauth
    exact hlive.release (p := "mint-expire:") .expired none hauth hstatus (by simp [releasePrefixes])
      he (by simp) (by simp)
      (fileOf_released hlive hauth hstatus (by simp [releasePrefixes]) he _)
  | @confirmed _ authId input auth e ledgerHeight confirmedAt t hauth hstatus _ _ he ht =>
    obtain rfl := Lib.Table.key_of_find? hauth
    refine hlive.release (p := "mint-confirm:") .consumed
      (some (confirmationRow auth input auth.amountMinor ledgerHeight confirmedAt)) hauth hstatus
      (by simp [releasePrefixes]) he (by simp) ?_ ?_
    · rw [if_pos rfl]
      exact ⟨_, rfl, rfl⟩
    · exact fileOf_confirmed hauth he ht
  | unstored hauth hstatus hexpired hamount _ herror =>
    exact (hlive.stored hcondition hauth hstatus hexpired hamount herror).elim

/-- **Every operation that stores its confirmation keeps every file in a stage.** -/
theorem MintOp.life_step (w : World) (op : MintOp) (hlive : AllLive w)
    (hcondition : ConfirmStorable w op) : AllLive (op.step w) := by
  obtain ⟨w₁, rows, events, heffect, hw⟩ := op.effect w
  rw [hw]
  exact heffect.life hlive hcondition

/-- No authorization was ever requested. -/
structure NoMinting (w : World) : Prop where
  authorizations : w.mintAuthorizations.rows = []
  confirmations : w.mintConfirmations.rows = []
  sources : ∀ e ∈ w.ledger, ∀ p ∈ mintPrefixes, ∀ authId, e.references.source ≠ p ++ authId

theorem NoMinting.allLive {w : World} (h : NoMinting w) : AllLive w := by
  intro id
  refine .absent ?_ ?_ ?_
  · simp [fileOf, Lib.Table.find?, h.authorizations]
  · refine List.eq_nil_iff_forall_not_mem.mpr fun e he => ?_
    obtain ⟨hmem, p, hp, hsource⟩ := mem_entriesOf.mp he
    exact h.sources e hmem p hp id hsource
  · simp [fileOf, Lib.Table.find?, h.confirmations]

/-- **Every run keeps every file in a stage.** -/
theorem life_run {w : World} {ops : List MintOp} (hw : NoMinting w)
    (hops : Lib.Meets MintOp.step ConfirmStorable w ops) : AllLive (ops.foldl MintOp.step w) :=
  Lib.inv_run MintOp.life_step hw.allLive hops

end

attribute [local instance] Runtime.ascii in
theorem Sample.noMinting : NoMinting Sample.world where
  authorizations := rfl
  confirmations := rfl
  sources e he p hp authId := by
    have hopening : ∀ e ∈ Sample.world.ledger, e.references.source = "opening" := by
      decide +kernel
    rw [hopening e he]
    intro h
    have hl := congrArg String.toList h
    rw [String.toList_append] at hl
    simp only [mintPrefixes, releasePrefixes, List.mem_cons, List.not_mem_nil, or_false] at hp
    rcases hp with rfl | rfl | rfl | rfl <;> simp at hl

end TrusteeBank
