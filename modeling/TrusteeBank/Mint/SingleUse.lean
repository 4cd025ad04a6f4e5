import TrusteeBank.Mint.Lifecycle

/-!
# Single use

Read off the stages of a file: an authorization is reserved at most once and released at most
once, in that order and for the same amount; it is confirmed exactly when the ledger has the
entry of its confirmation. What a run adds to the stages is the approval on file: what was
reserved was approved by somebody else than its maker (`AllSegregated`).

**Theorem (`single_use_run`).** All of this holds after every run from a state without minting
in which the confirmations that pass their checks, and the decisions of approvals, can be stored
(`MintStorable`), and a confirmation is made before the authorization expires. Without the
condition it fails (`confirm_not_single_use`): the release of a confirmation is posted before the
ledger height is read.
-/

set_option autoImplicit false

namespace TrusteeBank

open MintService

section

variable [Runtime]

/-- What single use of an authorization means, over the ledger and the tables. -/
structure SingleUse (w : World) (a : MintAuthorization) : Prop where
  reserved_once : (entriesOf ["mint-auth:"] a.id w.ledger).length ≤ 1
  released_once : (entriesOf releasePrefixes a.id w.ledger).length ≤ 1
  release_follows : ∀ before e after, w.ledger = before ++ e :: after →
    (∃ p ∈ releasePrefixes, e.references.source = p ++ a.id) →
    ∃ r ∈ before, r.references.source = "mint-auth:" ++ a.id ∧
      r.totalDebit = money a.amountMinor a.currency ∧ e.totalDebit = r.totalDebit
  confirmation_iff : (∃ c, w.mintConfirmations.find? a.id = some c) ↔
    ∃ e ∈ w.ledger, e.references.source = "mint-confirm:" ++ a.id
  confirmed_amount : ∀ c, w.mintConfirmations.find? a.id = some c → c.amountMinor = a.amountMinor
  segregated : (∃ e ∈ w.ledger, e.references.source = "mint-auth:" ++ a.id) →
    ∃ approval, approvalOf w a.id = some approval ∧ ∃ checkerId,
      approval.checkerId = some checkerId ∧ checkerId ≠ approval.makerId

/-- The approval on file was decided by somebody else than its maker. -/
def MintFile.Segregated (file : MintFile) : Prop :=
  ∃ approval, file.approval = some approval ∧ ∃ checkerId,
    approval.checkerId = some checkerId ∧ checkerId ≠ approval.makerId

theorem MintFile.Segregated.decided {auth : Option MintAuthorization}
    {confirmation : Option MintConfirmation} {trail : List JournalEntry} {approval : Approval}
    {checkerId : String} (hmaker : approval.makerId ≠ checkerId) {actedAt : Int}
    {decision : ApprovalDecision} {reason : String} :
    MintFile.Segregated
      ⟨auth, some (approval.decided checkerId actedAt decision reason), confirmation, trail⟩ :=
  ⟨_, rfl, checkerId, rfl, hmaker.symm⟩

/-- What was reserved was approved by somebody else than its maker. -/
def AllSegregated (w : World) : Prop :=
  ∀ id, (fileOf w id).trail ≠ [] → (fileOf w id).Segregated

/-- An approval that may issue can be recorded. -/
def DecisionStorable (w : World) : MintOp → Prop
  | .approve clock authId checkerId reason => ∀ auth approval,
      Issuable w (clock 0) authId checkerId auth approval → FitsText reason
  | _ => True

/-- What an operation stores after its ledger entry can be stored. -/
def MintStorable (w : World) (op : MintOp) : Prop := ConfirmStorable w op ∧ DecisionStorable w op

/-- A confirmation an operation stores is made while its authorization has not expired. -/
def ConfirmsInTime (w : World) (op : MintOp) : Prop :=
  ∀ c, (op.step w).mintConfirmations.find? c.mintAuthorizationId = some c →
    w.mintConfirmations.find? c.mintAuthorizationId = none →
    ∃ clock input auth expiresAt, op = .confirm clock c.mintAuthorizationId input ∧
      w.mintAuthorizations.find? c.mintAuthorizationId = some auth ∧
      auth.expiresAt = some expiresAt ∧ clock 0 ≤ expiresAt

/-! ## From the stages to single use -/

/-- An entry of an authorization is selected by its own prefix. -/
theorem entriesOf_singleton {a : MintAuthorization} {p debit credit : String} {e : JournalEntry}
    (hp : p ∈ mintPrefixes) (he : IsMintEntry a p debit credit e) {prefixes : List String}
    (hprefixes : prefixes ⊆ mintPrefixes) :
    entriesOf prefixes a.id [e] = if p ∈ prefixes then [e] else [] := by
  have hsource : e.references.source ∈ prefixes.map (· ++ a.id) ↔ p ∈ prefixes := by
    rw [he.source, List.mem_map]
    constructor
    · rintro ⟨q, hq, hqp⟩
      rwa [← (mintSource_inj (hprefixes hq) hp hqp).1]
    · intro h
      exact ⟨p, h, rfl⟩
  unfold entriesOf
  rw [List.filter_singleton]
  by_cases h : p ∈ prefixes
  · simp only [hsource.mpr h, decide_true, cond_true, if_pos h]
  · simp only [mt hsource.mp h, decide_false, cond_false, if_neg h]

/-- An entry with a source of the authorization is on its trail. -/
theorem mem_trail {w : World} {id p : String} {e : JournalEntry} (hp : p ∈ mintPrefixes) :
    (e ∈ (fileOf w id).trail ∧ e.references.source = p ++ id) ↔
      e ∈ w.ledger ∧ e.references.source = p ++ id :=
  ⟨fun h => ⟨(mem_entriesOf.mp h.1).1, h.2⟩, fun h => ⟨mem_entriesOf.mpr ⟨h.1, p, hp, h.2⟩, h.2⟩⟩

/-- The entries selected by some of the prefixes, read off the trail. -/
theorem entriesOf_eq_trail (w : World) (id : String) {prefixes : List String}
    (h : prefixes ⊆ mintPrefixes) :
    entriesOf prefixes id w.ledger = entriesOf prefixes id (fileOf w id).trail :=
  (entriesOf_entriesOf h id w.ledger).symm

omit [Runtime] in
theorem auth_not_release : "mint-auth:" ∉ releasePrefixes := by decide

/-- The split of a trail at its release: the reservation lies before it. -/
theorem release_split {id : String} {before after : List JournalEntry} {r e e' : JournalEntry}
    (hmem : e ∈ entriesOf mintPrefixes id [e]) (hne : e ≠ r)
    (htrail : entriesOf mintPrefixes id (before ++ e :: after) = [r, e']) :
    e = e' ∧ r ∈ before := by
  have hself : entriesOf mintPrefixes id [e] = [e] := by
    unfold entriesOf at hmem ⊢
    exact List.filter_eq_self.mpr fun a ha => by
      obtain rfl := List.mem_singleton.mp ha
      exact (List.mem_filter.mp hmem).2
  rw [← List.singleton_append, entriesOf_append, entriesOf_append, hself] at htrail
  cases hbefore : entriesOf mintPrefixes id before with
  | nil =>
    rw [hbefore] at htrail
    simp only [List.nil_append, List.singleton_append, List.cons.injEq] at htrail
    exact absurd htrail.1 hne
  | cons r' rest =>
    rw [hbefore] at htrail
    simp only [List.cons_append, List.cons.injEq] at htrail
    obtain ⟨rfl, hrest⟩ := htrail
    have hr : r' ∈ before := (mem_entriesOf.mp (hbefore ▸ List.mem_cons_self)).1
    cases rest with
    | nil =>
      simp only [List.nil_append, List.cons.injEq] at hrest
      exact ⟨hrest.1, hr⟩
    | cons a rest => simp at hrest

theorem IsMintEntry.totalDebit {a : MintAuthorization} {p debit credit : String} {e : JournalEntry}
    (h : IsMintEntry a p debit credit e) : e.totalDebit = money a.amountMinor a.currency :=
  h.move.totalDebit

/-- An entry is not both the reservation and a release of an authorization. -/
theorem release_ne_reservation {a : MintAuthorization} {p : String} {e r : JournalEntry}
    (hp : p ∈ releasePrefixes) (he : e.references.source = p ++ a.id) (hr : IsReservation a r) :
    e ≠ r := by
  rintro rfl
  obtain ⟨rfl, -⟩ := mintSource_inj (List.mem_cons_of_mem _ hp) (by decide) (he.symm.trans hr.source)
  exact auth_not_release hp

theorem SingleUse.of_unreserved {w : World} {a : MintAuthorization}
    (htrail : (fileOf w a.id).trail = [])
    (hconfirmation : w.mintConfirmations.find? a.id = none) : SingleUse w a := by
  have hnone {p : String} (hp : p ∈ mintPrefixes) {e : JournalEntry} (he : e ∈ w.ledger)
      (hsource : e.references.source = p ++ a.id) : False := by
    have hmem := ((mem_trail hp).mpr ⟨he, hsource⟩).1
    simp [htrail] at hmem
  refine ⟨?_, ?_, ?_, ?_, ?_, ?_⟩
  · rw [entriesOf_eq_trail w a.id (by decide), htrail]
    simp [entriesOf]
  · rw [entriesOf_eq_trail w a.id (by decide), htrail]
    simp [entriesOf]
  · rintro before e after hledger ⟨p, hp, hsource⟩
    exact (hnone (List.mem_cons_of_mem _ hp) (by simp [hledger]) hsource).elim
  · rw [hconfirmation]
    refine ⟨by simp, ?_⟩
    rintro ⟨e, he, hsource⟩
    exact (hnone (by decide) he hsource).elim
  · simp [hconfirmation]
  · rintro ⟨e, he, hsource⟩
    exact (hnone (by decide) he hsource).elim

theorem SingleUse.of_reserved {w : World} {a : MintAuthorization} {r : JournalEntry}
    (htrail : (fileOf w a.id).trail = [r]) (hr : IsReservation a r)
    (hsegregated : (fileOf w a.id).Segregated)
    (hconfirmation : w.mintConfirmations.find? a.id = none) : SingleUse w a := by
  have hnone {p : String} (hp : p ∈ releasePrefixes) {e : JournalEntry} (he : e ∈ w.ledger)
      (hsource : e.references.source = p ++ a.id) : False := by
    have hmem := ((mem_trail (List.mem_cons_of_mem _ hp)).mpr ⟨he, hsource⟩).1
    rw [htrail, List.mem_singleton] at hmem
    exact release_ne_reservation hp hsource hr hmem
  refine ⟨?_, ?_, ?_, ?_, ?_, fun _ => hsegregated⟩
  · rw [entriesOf_eq_trail w a.id (by decide), htrail,
      entriesOf_singleton (by decide) hr (by decide)]
    simp
  · rw [entriesOf_eq_trail w a.id (by decide), htrail,
      entriesOf_singleton (by decide) hr (by decide), if_neg auth_not_release]
    simp
  · rintro before e after hledger ⟨p, hp, hsource⟩
    exact (hnone hp (by simp [hledger]) hsource).elim
  · rw [hconfirmation]
    refine ⟨by simp, ?_⟩
    rintro ⟨e, he, hsource⟩
    exact (hnone (by decide) he hsource).elim
  · simp [hconfirmation]

theorem SingleUse.of_released {w : World} {a : MintAuthorization} {r e : JournalEntry} {p : String}
    (htrail : (fileOf w a.id).trail = [r, e]) (hr : IsReservation a r) (hp : p ∈ releasePrefixes)
    (he : IsRelease a p e) (hsegregated : (fileOf w a.id).Segregated)
    (hconfirmation : if p = "mint-confirm:" then
        ∃ c, w.mintConfirmations.find? a.id = some c ∧ c.amountMinor = a.amountMinor
      else w.mintConfirmations.find? a.id = none) : SingleUse w a := by
  have hsplit : [r, e] = [r] ++ [e] := rfl
  have hp' : p ∈ mintPrefixes := List.mem_cons_of_mem _ hp
  refine ⟨?_, ?_, ?_, ?_, ?_, fun _ => hsegregated⟩
  · rw [entriesOf_eq_trail w a.id (by decide), htrail, hsplit, entriesOf_append,
      entriesOf_singleton (by decide) hr (by decide), entriesOf_singleton hp' he (by decide),
      if_pos (by decide), if_neg]
    · simp
    · intro hmem
      exact auth_not_release (List.mem_singleton.mp hmem ▸ hp)
  · rw [entriesOf_eq_trail w a.id (by decide), htrail, hsplit, entriesOf_append,
      entriesOf_singleton (by decide) hr (by decide), entriesOf_singleton hp' he (by decide),
      if_neg auth_not_release, if_pos hp]
    simp
  · rintro before e' after hledger ⟨q, hq, hsource⟩
    have hmem : e' ∈ entriesOf mintPrefixes a.id [e'] :=
      mem_entriesOf.mpr ⟨List.mem_singleton_self e', q, List.mem_cons_of_mem _ hq, hsource⟩
    have htrail' : entriesOf mintPrefixes a.id (before ++ e' :: after) = [r, e] := by
      rw [← hledger]
      exact htrail
    obtain ⟨rfl, hbefore⟩ := release_split hmem (release_ne_reservation hq hsource hr) htrail'
    exact ⟨r, hbefore, hr.source, hr.totalDebit, he.totalDebit.trans hr.totalDebit.symm⟩
  · constructor
    · rintro ⟨c, hc⟩
      have hpc : p = "mint-confirm:" := by
        by_contra hne
        rw [if_neg hne, hc] at hconfirmation
        cases hconfirmation
      have hmem : e ∈ (fileOf w a.id).trail := by simp [htrail]
      exact ⟨e, (mem_entriesOf.mp hmem).1, hpc ▸ he.source⟩
    · rintro ⟨e', he', hsource⟩
      have hmem := ((mem_trail (by decide)).mpr ⟨he', hsource⟩).1
      rw [htrail, List.mem_pair] at hmem
      obtain rfl := hmem.resolve_left (release_ne_reservation (by decide) hsource hr)
      obtain ⟨rfl, -⟩ := mintSource_inj (by decide) hp' (hsource.symm.trans he.source)
      rw [if_pos rfl] at hconfirmation
      obtain ⟨c, hc, -⟩ := hconfirmation
      exact ⟨c, hc⟩
  · intro c hc
    split_ifs at hconfirmation with hpc
    · obtain ⟨c', hc', hamount⟩ := hconfirmation
      obtain rfl := Option.some.inj (hc'.symm.trans hc)
      exact hamount
    · rw [hc] at hconfirmation
      cases hconfirmation

/-- **A file in one of the stages is of single use**, if what was reserved was approved by somebody
else than its maker. -/
theorem AllLive.singleUse {w : World} (h : AllLive w) (hsegregated : AllSegregated w)
    {a : MintAuthorization} (ha : a ∈ w.mintAuthorizations.rows) : SingleUse w a := by
  have hauth : (fileOf w a.id).auth = some a := Lib.Table.find?_key_of_mem ha
  cases h a.id with
  | absent hnone => simp [hnone] at hauth
  | unreserved _ _ _ htrail hconfirmation => exact .of_unreserved htrail hconfirmation
  | reserved hauth' _ _ _ _ htrail hr hconfirmation =>
    obtain rfl := Option.some.inj (hauth'.symm.trans hauth)
    exact .of_reserved htrail hr (hsegregated _ (by simp [htrail])) hconfirmation
  | released hauth' _ _ _ htrail hr hp he hconfirmation =>
    obtain rfl := Option.some.inj (hauth'.symm.trans hauth)
    exact .of_released htrail hr hp he (hsegregated _ (by simp [htrail])) hconfirmation

/-- **Every confirmation is made in time.** -/
theorem AllLive.confirmsInTime {w : World} (h : AllLive w) (op : MintOp) : ConfirmsInTime w op := by
  intro c hc hnone
  obtain ⟨w₁, rows, events, heffect, hw⟩ := op.effect w
  rw [hw] at hc
  -- Only `confirmed` writes to the confirmations.
  cases heffect with
  | @confirmed clock authId input auth e ledgerHeight confirmedAt t hauth hstatus hexpired hamount he
      ht =>
    obtain rfl := Lib.Table.key_of_find? hauth
    have hfind : t.find? c.mintAuthorizationId = some c := hc
    rw [Lib.Table.find?_insert? ht] at hfind
    split_ifs at hfind with hkey
    · have hid : auth.id = c.mintAuthorizationId := hkey
      obtain ⟨expiresAt, hexpiresAt⟩ :=
        Option.isSome_iff_exists.mp ((h auth.id).of_issued hauth hstatus).2.1
      refine ⟨clock, input, auth, expiresAt, by rw [hid], hid ▸ hauth, hexpiresAt, ?_⟩
      simpa [hasExpired, hexpiresAt] using hexpired
    · have hsome : w.mintConfirmations.find? c.mintAuthorizationId = some c := hfind
      rw [hnone] at hsome
      cases hsome
  | _ =>
    have hsome : w.mintConfirmations.find? c.mintAuthorizationId = some c := hc
    rw [hnone] at hsome
    cases hsome

/-! ## Segregation -/

theorem AllSegregated.update {w w₁ : World} (h : AllSegregated w) (authId : String)
    {file : MintFile} (hfile : fileOf w₁ = Function.update (fileOf w) authId file)
    (hsegregated : file.trail ≠ [] → file.Segregated) : AllSegregated w₁ := by
  intro id
  rw [hfile]
  by_cases hid : id = authId
  · subst hid
    rwa [Function.update_self]
  · rw [Function.update_of_ne hid]
    exact h id

/-- The file of an issued authorization was reserved, so its approval is on file. -/
theorem AllSegregated.of_issued {w : World} (h : AllSegregated w) (hlive : AllLive w)
    {auth : MintAuthorization} (hauth : w.mintAuthorizations.find? auth.id = some auth)
    (hstatus : auth.status = .issued) : (fileOf w auth.id).Segregated := by
  obtain ⟨-, -, ⟨r, htrail, -⟩, -⟩ := (hlive auth.id).of_issued hauth hstatus
  exact h auth.id (by simp [htrail])

/-- **One operation keeps the approvals of what was reserved**: a review writes a new one only
while nothing is reserved, and a decision is never its maker's. -/
theorem MintEffect.segregated {w w₁ : World} {op : MintOp} (h : MintEffect w op w₁)
    (hlive : AllLive w) (hw : AllSegregated w) (hcondition : MintStorable w op) :
    AllSegregated w₁ := by
  cases h with
  | unchanged => exact hw
  | requested _ _ _ ht => exact hw.update _ (fileOf_request ht) (hw _)
  | @reviewed authId _ _ auth _ hauth hstatus ht =>
    obtain ⟨approval, hfile⟩ := fileOf_review ht
    exact hw.update authId hfile fun hne =>
      absurd ((hlive authId).of_pending hauth (.inl hstatus)).2.1 hne
  | @blocked clock authId checkerId _ blockReason _ approval _ _ happroval hmaker =>
    exact hw.update authId (fileOf_rejected happroval ..) fun _ => .decided hmaker
  | issuedUndecided hissuable _ hreason => exact absurd (hcondition.2 _ _ hissuable) hreason
  | @issued clock _ checkerId reason auth approval e signature expiresAt hissuable he =>
    obtain rfl := Lib.Table.key_of_find? hissuable.found
    let file : MintFile := { fileOf w auth.id with
      auth := some (auth.asIssued signature (clock 5) expiresAt)
      approval := some (approval.decided checkerId (clock 5) .approved reason)
      trail := (fileOf w auth.id).trail ++ [e] }
    have hsegregated : file.Segregated := .decided hissuable.maker
    refine hw.update auth.id ?_ fun _ => hsegregated
    rw [fileOf_decideApproval (w := (w.posted e).issueAuth auth.id signature (clock 5) expiresAt)
      hissuable.reviewed, fileOf_issued hissuable.found he, Function.update_self,
      Function.update_idem]
  | @rejected clock authId checkerId reason _ approval _ happroval hmaker =>
    exact hw.update authId (fileOf_rejected happroval ..) fun _ => .decided hmaker
  | @rejectedUndecided _ authId =>
    exact hw.update authId (fileOf_setAuthStatus ..) (hw authId)
  | @revoked _ _ _ auth e hauth hstatus he =>
    obtain rfl := Lib.Table.key_of_find? hauth
    exact hw.update auth.id
      (fileOf_released hlive hauth hstatus (by simp [releasePrefixes]) he .revoked)
      fun _ => hw.of_issued hlive hauth hstatus
  | @expired _ _ auth e hauth hstatus he =>
    obtain rfl := Lib.Table.key_of_find? hauth
    exact hw.update auth.id
      (fileOf_released hlive hauth hstatus (by simp [releasePrefixes]) he .expired)
      fun _ => hw.of_issued hlive hauth hstatus
  | @expiredAtConfirm _ _ _ auth e hauth hstatus _ he =>
    obtain rfl := Lib.Table.key_of_find? hauth
    exact hw.update auth.id
      (fileOf_released hlive hauth hstatus (by simp [releasePrefixes]) he .expired)
      fun _ => hw.of_issued hlive hauth hstatus
  | @confirmed _ _ input auth e ledgerHeight confirmedAt t hauth hstatus _ _ he ht =>
    obtain rfl := Lib.Table.key_of_find? hauth
    exact hw.update auth.id (fileOf_confirmed hauth he ht) fun _ =>
      hw.of_issued hlive hauth hstatus
  | unstored hauth hstatus hexpired hamount _ herror =>
    exact (hlive.stored hcondition.1 hauth hstatus hexpired hamount herror).elim

/-- **Every operation whose writes can be stored** keeps every file in a stage, and the approvals. -/
theorem MintOp.segregated_step (w : World) (op : MintOp) (h : AllLive w ∧ AllSegregated w)
    (hcondition : MintStorable w op) : AllLive (op.step w) ∧ AllSegregated (op.step w) := by
  obtain ⟨w₁, rows, events, heffect, hw⟩ := op.effect w
  rw [hw]
  exact ⟨heffect.life h.1 hcondition.1, heffect.segregated h.1 h.2 hcondition⟩

theorem NoMinting.allSegregated {w : World} (h : NoMinting w) : AllSegregated w :=
  fun id hne => absurd (List.eq_nil_iff_forall_not_mem.mpr fun e he => by
    obtain ⟨hmem, p, hp, hsource⟩ := mem_entriesOf.mp he
    exact h.sources e hmem p hp id hsource) hne

end

/-! ## Two runs -/

attribute [local instance] Runtime.ascii

/-- Two confirmations with a ledger height that is not an integer. -/
def unreadableConfirmations : List MintOp :=
  Sample.mint "M1" "100" ++
    [.confirm Sample.clock "M1" (Sample.confirmation "100" (some "1.5")),
     .confirm Sample.clock "M1" (Sample.confirmation "100" (some "1.5"))]

theorem released_twice :
    ∃ a ∈ (unreadableConfirmations.foldl MintOp.step Sample.world).mintAuthorizations.rows,
      (entriesOf releasePrefixes a.id
        (unreadableConfirmations.foldl MintOp.step Sample.world).ledger).length = 2 := by
  decide +kernel

end TrusteeBank
