import TrusteeBank.Lib.Run
import TrusteeBank.Mint.GuardSignals
import TrusteeBank.Services.BankReconciliation

/-!
# Bank connectivity and mints

The process remembers when it last read a bank live, and the mint guard compares the age of that
with a maximum. A process that has read no bank since it started has no age to compare, and
`gatherGuardFacts` takes it to be zero seconds.

**The machine** (`Banked`). A state, and the times of the live reads that returned a balance.
Reads of accounts on any connection, restarts and mints happen in any order.

**Theorem (`connectivity_recent`).** In every run in which an approval that may issue finds some
time remembered, and every bank that is reached replies with an amount, whatever becomes `ISSUED`
does so within the maximum of a live read. The invariant is that the time that is remembered is one
of a read. Without the condition a process that never reached a bank issues
(`restarted_process_mints`).
-/

set_option autoImplicit false

namespace TrusteeBank

open Lib (Call)
open BankBalanceService

section

variable [Runtime]

/-- A state, and the times of the live reads that returned a balance. -/
structure Banked where
  world : World
  reads : List Int

inductive BankOp
  | read (banks : BankRegistry) (now : Int) (account : AccountBalanceRef)
  | restart
  | mint (op : MintOp)

/-- The reads that succeeded, once another has returned: a balance from an API was read live. -/
def noteRead (reads : List Int) (now : Int)
    (result : Except ApiError (Option BankBalanceResult)) : List Int :=
  match result with
  | .ok (some balance) => if balance.source = "api" then now :: reads else reads
  | _ => reads

/-- Serve one operation alone. A restart loses the memory of the process. -/
def Banked.step (s : Banked) : BankOp → Banked
  | .read banks now account =>
    let out := (clearedBalanceForAccount banks now account).run s.world
    ⟨out.2, noteRead s.reads now out.1⟩
  | .restart => ⟨{ s.world with lastSuccessfulCheck := none }, s.reads⟩
  | .mint op => ⟨op.step s.world, s.reads⟩

/-- Whatever an operation makes `ISSUED`, a bank was read live at most `max` seconds before the
guard looked. -/
def IssuesConnected (max : Int) (s : Banked) (op : BankOp) : Prop :=
  ∀ a ∈ (s.step op).world.mintAuthorizations.rows, a.status = .issued →
    NotIssued s.world a.id → ∃ clock checkerId reason,
      op = .mint (.approve clock a.id checkerId reason) ∧
        ∃ t ∈ s.reads, clock 2 - max * 1000 ≤ t

/-- A time is remembered where an approval that may issue compares it with the maximum, and a bank
that is reached replies with an amount. -/
def Reached (max : Int) (s : Banked) : BankOp → Prop
  | .read banks _ account => ∀ conn url reply, liveUrl banks account = some (conn, url) →
      banks.getAccountBalance account.id url ((nonEmpty conn.authTokenEnv).bind banks.env)
        (account.coreBankingRef.getD account.id) = .ok reply →
          ∃ minor, bigInt reply.clearedMinor = .ok minor
  | .mint (.approve clock authId checkerId _) =>
    (∃ auth approval, Issuable s.world (clock 0) authId checkerId auth approval) →
      ∃ t, s.world.lastSuccessfulCheck = some t ∧ Resolves (clock 2) t max
  | _ => True

/-- The time that is remembered is of a live read. -/
def Remembers (s : Banked) : Prop := ∀ t, s.world.lastSuccessfulCheck = some t → t ∈ s.reads

/-! ## The memory of the process -/

/-- The workflow does not touch the memory of the process. -/
theorem MintOp.lastSuccessfulCheck (w : World) (op : MintOp) :
    (op.step w).lastSuccessfulCheck = w.lastSuccessfulCheck := by
  obtain ⟨w₁, rows, events, heffect, hw⟩ := op.effect w
  have hkept : w₁.lastSuccessfulCheck = w.lastSuccessfulCheck := by
    cases heffect <;> rfl
  rw [hw]
  exact hkept

omit [Runtime] in
theorem mem_noteRead {t : Int} {reads : List Int} (h : t ∈ reads) (now : Int)
    (result : Except ApiError (Option BankBalanceResult)) : t ∈ noteRead reads now result := by
  unfold noteRead
  split
  · split_ifs
    · exact List.mem_cons_of_mem now h
    · exact h
  · exact h

/-- **Every operation remembers only live reads.** -/
theorem Remembers.step {max : Int} {s : Banked} {op : BankOp} (h : Remembers s)
    (hop : Reached max s op) : Remembers (s.step op) := by
  intro t ht
  cases op with
  | restart => cases ht
  | mint op =>
    have hkept : s.world.lastSuccessfulCheck = some t :=
      (op.lastSuccessfulCheck s.world).symm.trans ht
    exact h t hkept
  | read banks now account =>
    simp only [Banked.step, run_clearedBalanceForAccount] at ht ⊢
    rcases afterRead_cases banks now account s.world with hsame |
      ⟨conn, url, reply, hurl, hreply, hstate⟩
    · rw [hsame] at ht
      exact mem_noteRead (h t ht) now _
    · obtain ⟨minor, hminor⟩ := hop conn url reply hurl hreply
      obtain ⟨balance, hread, hsource⟩ := readBalance_live hurl hreply hminor
      rw [hstate, Option.some.injEq] at ht
      rw [hread, ← ht]
      simp only [noteRead, if_pos hsource]
      exact List.mem_cons_self

/-! ## Approvals -/

/-- **An approval that finds a time remembered issues within the maximum of it.** -/
theorem Remembers.issuesConnected {max : Int} (hmax : Runtime.maxBankConnectivityAgeS = some max)
    {s : Banked} {op : BankOp} (h : Remembers s) (hop : Reached max s op) :
    IssuesConnected max s op := by
  intro a ha hissued hbefore
  cases op with
  | restart => exact absurd hissued (hbefore a (Lib.Table.find?_key_of_mem ha))
  | read banks now account =>
    have hkept := congrArg World.mintAuthorizations
      ((BankBalanceService.clearedBalanceForAccount_keeps banks now account).run s.world)
    have hmem : a ∈ s.world.mintAuthorizations.rows := hkept ▸ ha
    exact absurd hissued (hbefore a (Lib.Table.find?_key_of_mem hmem))
  | mint op =>
    obtain ⟨clock, checkerId, reason, auth, approval, program, pos, rfl, -, hissuable, hunder⟩ :=
      MintOp.newly_issued_unblocked ha hissued hbefore
    obtain ⟨t, ht, hresolves⟩ := hop ⟨auth, approval, hissuable⟩
    have hage := hunder.bank
    rw [ht, hmax] at hage
    exact ⟨clock, checkerId, reason, rfl, t, h t ht, hresolves.since_le hage⟩

/-- **Whatever becomes `ISSUED` does so within the maximum of a live read**, in every run in which
a time is remembered whenever it matters. -/
theorem connectivity_recent {max : Int} (hmax : Runtime.maxBankConnectivityAgeS = some max)
    {s : Banked} (hs : Remembers s) {ops : List BankOp}
    (hops : Lib.Meets Banked.step (Reached max) s ops) :
    Lib.Meets Banked.step (IssuesConnected max) s ops :=
  Lib.meets_inv (fun _ _ h hop => h.step hop) (fun _ _ h hop => h.issuesConnected hmax hop) hs hops

end

/-! ## A process that was restarted -/

attribute [local instance] Runtime.ascii

namespace Sample

/-- The account of the program is at a bank that is read live. -/
def reserveAccount : AccountBalanceRef := ⟨"T1", some "bank-1", none, "USD", 0⟩

/-- The bank replies that 100 are cleared. -/
def liveBank : BankRegistry where
  accounts := fun _ => [reserveAccount]
  connections := [⟨"bank-1", "API", some "url", none⟩]
  env := fun _ => none
  getAccountBalance := fun _ _ _ _ => .ok ⟨"100", "USD"⟩

/-- A mint after a read. -/
def mintRead : List BankOp :=
  .read liveBank 0 reserveAccount :: (mint "M1" "50").map .mint

/-- A mint after a restart. -/
def mintRestarted : List BankOp := .restart :: (mint "M1" "50").map .mint

theorem mintRead_reached : Lib.Meets Banked.step (Reached 300) ⟨world, []⟩ mintRead := by
  have hremembered : (((mintRead.take 3).foldl Banked.step
      ⟨world, []⟩).world.lastSuccessfulCheck) = some 0 := by decide +kernel
  refine ⟨?_, trivial, trivial, fun _ => ⟨0, hremembered, by decide⟩, trivial⟩
  intro conn url reply hurl hreply
  cases hreply
  exact ⟨100, by decide⟩

end Sample

/-- A process that has read the bank issues. -/
theorem connectivity_recent_read :
    Lib.Meets Banked.step (IssuesConnected 300) ⟨Sample.world, []⟩ Sample.mintRead := by
  apply connectivity_recent rfl ?_ Sample.mintRead_reached
  intro t ht
  cases ht

/-- The last operation issues, and no bank has been read. -/
theorem issued_unread :
    (∃ a ∈ (Sample.mintRestarted.foldl Banked.step
        ⟨Sample.world, []⟩).world.mintAuthorizations.rows, a.status = .issued ∧ a.id = "M1") ∧
    (∀ a ∈ ((Sample.mintRestarted.take 3).foldl Banked.step
        ⟨Sample.world, []⟩).world.mintAuthorizations.find? "M1", a.status ≠ .issued) ∧
    ((Sample.mintRestarted.take 3).foldl Banked.step ⟨Sample.world, []⟩).reads = [] := by
  decide +kernel

/-- A process that was restarted issues for a program whose account is read live, before any bank
is read. -/
theorem restarted_process_mints : ¬∀ [Runtime] (max : Int) (banks : BankRegistry) (s : Banked)
    (ops : List BankOp), Runtime.maxBankConnectivityAgeS = some max → s.reads = [] →
      (∀ program ∈ s.world.programs.rows, ∃ account ∈ banks.accounts program.id,
        (liveUrl banks account).isSome = true) →
      Lib.Meets Banked.step (IssuesConnected max) s ops := by
  intro h
  obtain ⟨⟨a, ha, hissued, hid⟩, hbefore, hunread⟩ := issued_unread
  have hlive : ∀ program ∈ Sample.world.programs.rows,
      ∃ account ∈ Sample.liveBank.accounts program.id,
        (liveUrl Sample.liveBank account).isSome = true :=
    fun _ _ => ⟨Sample.reserveAccount, List.mem_singleton_self _, by decide⟩
  have hconnected :=
    (h 300 Sample.liveBank ⟨Sample.world, []⟩ Sample.mintRestarted rfl rfl hlive).2.2.2.1
  obtain ⟨_, _, _, -, t, ht, -⟩ := hconnected a ha hissued (by rw [hid]; exact hbefore)
  have hread : t ∈ ((Sample.mintRestarted.take 3).foldl Banked.step ⟨Sample.world, []⟩).reads := ht
  rw [hunread] at hread
  cases hread

end TrusteeBank
