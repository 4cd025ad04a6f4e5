import TrusteeBank.Infra

/-!
# Bank reconciliation

`ReserveService.reconcileBank` compares the ledger cash of a program with what the banks of its
accounts report. Each account resolves to a connection that says how its balance is read; an
account on an offline bank is uncovered, and then nothing is asserted.

The columns of the accounts, the connections and the replies of the banks are what the operation
is given.

**Theorem (`run_clearedBalanceForAccount`).** What an account reads depends on the registry and the
banks only (`readBalance`), and a reply leaves the time it came in the memory of the process.

**Theorem (`run_reconcileBank`).** The verdict is returned and published, and stored nowhere.
-/

set_option autoImplicit false

namespace TrusteeBank

open Lib (Call)
open LedgerAccountCode

section

variable [Runtime]

/-! ## The banks -/

structure AccountBalanceRef where
  id : String
  bankId : Option String
  coreBankingRef : Option String
  currency : String
  mockClearedMinor : Int

structure BankConnection where
  bankId : String
  integrationMode : String
  baseUrl : Option String
  authTokenEnv : Option String

/-- What a bank replies. -/
structure BankAccountBalance where
  clearedMinor : String
  currency : String

structure BankBalanceResult where
  minor : Int
  currency : String
  source : String
  bankId : Option String
deriving DecidableEq, Repr

/-- The registry of the banks, and the banks, as one operation finds them. -/
structure BankRegistry where
  /-- The accounts of a program. -/
  accounts : String → List AccountBalanceRef
  connections : List BankConnection
  env : String → Option String
  /-- The reply, when an account is read, of the bank at a URL for a token and a reference. -/
  getAccountBalance :
    String → String → Option String → String → Except ApiError BankAccountBalance

/-- A text that is neither missing nor empty. -/
def nonEmpty (text : Option String) : Option String := text.filter fun t => t ≠ ""

namespace BankBalanceService

/-- The connection of an account. -/
def connectionOf (banks : BankRegistry) (account : AccountBalanceRef) : Option BankConnection :=
  (nonEmpty account.bankId).bind fun bankId => banks.connections.find? fun c => c.bankId = bankId

/-- The URL of the bank of an account that is read live. -/
def liveUrl (banks : BankRegistry) (account : AccountBalanceRef) : Option (BankConnection × String) :=
  match connectionOf banks account with
  | some conn =>
    if conn.integrationMode = "API" then (nonEmpty conn.baseUrl).map fun url => (conn, url) else none
  | none => none

/-- Remember the time of a live read. -/
def setLastSuccessfulCheck (now : Int) : Service Unit :=
  Call.query ⟨.processMemory, .update, "lastSuccessfulCheck"⟩ fun w =>
    .ok ((), { w with lastSuccessfulCheck := some now })

/-- Cleared balance for a single account, resolving its bank connection. -/
def clearedBalanceForAccount (banks : BankRegistry) (now : Int) (account : AccountBalanceRef) :
    Service (Option BankBalanceResult) :=
  match liveUrl banks account with
  | some (conn, baseUrl) => do
    let token := (nonEmpty conn.authTokenEnv).bind banks.env
    let res ← banks.getAccountBalance account.id baseUrl token
      (account.coreBankingRef.getD account.id)
    setLastSuccessfulCheck now
    let minor ← bigInt res.clearedMinor
    return some {
      minor
      currency := if res.currency = "" then account.currency else res.currency
      source := "api"
      bankId := account.bankId }
  | none =>
    if ((connectionOf banks account).map BankConnection.integrationMode).getD "MOCK" = "MOCK" then
      return some {
        minor := account.mockClearedMinor
        currency := account.currency
        source := "mock"
        bankId := account.bankId }
    else return none

/-- The balances of the accounts, in their order. -/
def clearedBalances (banks : BankRegistry) (now : Int) :
    List AccountBalanceRef → Service (List (AccountBalanceRef × Option BankBalanceResult))
  | [] => return []
  | account :: accounts => do
    let balance ← clearedBalanceForAccount banks now account
    let rest ← clearedBalances banks now accounts
    return (account, balance) :: rest

end BankBalanceService

/-! ## What an account reads -/

namespace BankBalanceService

/-- The balance an account reads: what its bank replies, or what the operator set. -/
def readBalance (banks : BankRegistry) (account : AccountBalanceRef) :
    Except ApiError (Option BankBalanceResult) :=
  match liveUrl banks account with
  | some (conn, baseUrl) => do
    let res ← banks.getAccountBalance account.id baseUrl
      ((nonEmpty conn.authTokenEnv).bind banks.env) (account.coreBankingRef.getD account.id)
    let minor ← bigInt res.clearedMinor
    let currency := if res.currency = "" then account.currency else res.currency
    return some ⟨minor, currency, "api", account.bankId⟩
  | none =>
    if ((connectionOf banks account).map BankConnection.integrationMode).getD "MOCK" = "MOCK" then
      return some ⟨account.mockClearedMinor, account.currency, "mock", account.bankId⟩
    else return none

/-- The state a read leaves: the time of a bank's reply is remembered. -/
def afterRead (banks : BankRegistry) (now : Int) (account : AccountBalanceRef) (w : World) :
    World :=
  match liveUrl banks account with
  | some (conn, baseUrl) =>
    match banks.getAccountBalance account.id baseUrl ((nonEmpty conn.authTokenEnv).bind banks.env)
      (account.coreBankingRef.getD account.id) with
    | .ok _ => { w with lastSuccessfulCheck := some now }
    | .error _ => w
  | none => w

/-- **A read, alone.** -/
theorem run_clearedBalanceForAccount (banks : BankRegistry) (now : Int)
    (account : AccountBalanceRef) (w : World) :
    (clearedBalanceForAccount banks now account).run w =
      (readBalance banks account, afterRead banks now account w) := by
  unfold clearedBalanceForAccount readBalance afterRead
  cases liveUrl banks account with
  | none =>
    simp only
    split_ifs <;> rfl
  | some live =>
    obtain ⟨conn, baseUrl⟩ := live
    simp only
    rw [Call.run_lift_bind]
    cases banks.getAccountBalance account.id baseUrl ((nonEmpty conn.authTokenEnv).bind banks.env)
        (account.coreBankingRef.getD account.id) with
    | error e => rfl
    | ok res =>
      have hcheck : (setLastSuccessfulCheck now).run w =
          (.ok (), { w with lastSuccessfulCheck := some now }) := rfl
      simp only
      rw [Call.run_bind, hcheck]
      simp only
      rw [Call.run_lift_bind]
      cases hminor : bigInt res.clearedMinor with
      | error e => simp [hminor, bind, Except.bind]
      | ok minor => simp [hminor, bind, Except.bind, pure, Except.pure]

/-- Nothing is remembered, or a bank replied. -/
theorem afterRead_cases (banks : BankRegistry) (now : Int) (account : AccountBalanceRef)
    (w : World) :
    afterRead banks now account w = w ∨
    ∃ conn url reply, liveUrl banks account = some (conn, url) ∧
      banks.getAccountBalance account.id url ((nonEmpty conn.authTokenEnv).bind banks.env)
        (account.coreBankingRef.getD account.id) = .ok reply ∧
      afterRead banks now account w = { w with lastSuccessfulCheck := some now } := by
  unfold afterRead
  cases hurl : liveUrl banks account with
  | none => exact .inl rfl
  | some live =>
    obtain ⟨conn, url⟩ := live
    simp only
    cases hreply : banks.getAccountBalance account.id url
        ((nonEmpty conn.authTokenEnv).bind banks.env)
        (account.coreBankingRef.getD account.id) with
    | error e => exact .inl rfl
    | ok reply => exact .inr ⟨conn, url, reply, rfl, hreply, rfl⟩

omit [Runtime] in
/-- A reply that carries an amount is a balance from an API. -/
theorem readBalance_live {banks : BankRegistry} {account : AccountBalanceRef}
    {conn : BankConnection} {url : String} {reply : BankAccountBalance} {minor : Int}
    (hurl : liveUrl banks account = some (conn, url))
    (hreply : banks.getAccountBalance account.id url ((nonEmpty conn.authTokenEnv).bind banks.env)
      (account.coreBankingRef.getD account.id) = .ok reply)
    (hminor : bigInt reply.clearedMinor = .ok minor) :
    ∃ balance, readBalance banks account = .ok (some balance) ∧ balance.source = "api" := by
  unfold readBalance
  rw [hurl]
  simp only [hreply, hminor, bind, Except.bind, pure, Except.pure]
  exact ⟨_, rfl, rfl⟩

end BankBalanceService

/-! ## Reconciliation -/

/-- `{ accountId, bankId, source, balanceMinor }`. -/
structure BankLine where
  accountId : String
  bankId : Option String
  source : String
  balanceMinor : Option String
deriving DecidableEq, Repr

structure BankReconciliation where
  programId : String
  currency : String
  ledgerCashMinor : String
  bankTotalMinor : String
  driftMinor : String
  reconciled : Option Bool
  accountsCovered : Nat
  accountsUncovered : Nat
  banks : List BankLine
  note : Option String
  asOf : String
deriving DecidableEq, Repr

namespace ReserveService

open BankBalanceService ReserveLedgerService

def bankLine (account : AccountBalanceRef) (balance : Option BankBalanceResult) : BankLine :=
  match balance with
  | some b => ⟨account.id, b.bankId, b.source, some (toString b.minor)⟩
  | none => ⟨account.id, account.bankId, "manual", none⟩

def bankTotal (balances : List (AccountBalanceRef × Option BankBalanceResult)) : Int :=
  (balances.map fun b => (b.2.map BankBalanceResult.minor).getD 0).sum

def uncoveredAccounts (balances : List (AccountBalanceRef × Option BankBalanceResult)) : Nat :=
  balances.countP fun b => b.2.isNone

/-- Reconciliation is asserted when every account was independently covered. -/
def reconciledOf (uncovered : Nat) (drift : Int) : Option Bool :=
  if uncovered = 0 then some (decide (drift = 0)) else none

def uncoveredNote (uncovered : Nat) : Option String :=
  if uncovered > 0 then
    some (toString uncovered ++ " account(s) on manual/offline banks — not independently verified.")
  else none

/-- Reconcile the ledger cash of a program against the balances its banks report. -/
def reconcileBank (banks : BankRegistry) (clock : Clock) (programId : String) :
    Service BankReconciliation := do
  let found ← Prisma.program.findUnique programId
  let program ← orThrow found (.notFound ("Program " ++ programId ++ " not found"))
  let currency := program.referenceCurrency
  let ledgerCash ← accountBalance programId assetTrusteeBankCash currency
  let balances ← clearedBalances banks (clock 0) (banks.accounts programId)
  let uncovered := uncoveredAccounts balances
  let drift := bankTotal balances - ledgerCash.minor
  let reconciled := reconciledOf uncovered drift
  if reconciled = some false then
    EventsService.publish PlatformEvent.reconciliationExceptionCreated
      (.object [("programId", .string programId), ("type", .string "BANK_LEDGER_DRIFT"),
        ("ledgerCashMinor", .string (toString ledgerCash.minor)),
        ("bankTotalMinor", .string (toString (bankTotal balances))),
        ("driftMinor", .string (toString drift))]) "PAYCHAIN"
  return {
    programId, currency
    ledgerCashMinor := toString ledgerCash.minor
    bankTotalMinor := toString (bankTotal balances)
    driftMinor := toString drift
    reconciled
    accountsCovered := (banks.accounts programId).length - uncovered
    accountsUncovered := uncovered
    banks := balances.map fun b => bankLine b.1 b.2
    note := uncoveredNote uncovered
    asOf := isoString (clock 1) }

end ReserveService

/-! ## What reconciliation leaves -/

/-- The state without its events and the memory of the last live read. -/
def World.unpublished (w : World) : World := { w with outbox := [], lastSuccessfulCheck := none }

namespace BankBalanceService

theorem clearedBalanceForAccount_keeps (banks : BankRegistry) (now : Int)
    (account : AccountBalanceRef) :
    (clearedBalanceForAccount banks now account).Keeps World.unpublished := by
  unfold clearedBalanceForAccount
  split
  · refine Call.Keeps.bind (Call.keeps_lift _ _) fun res => ?_
    refine Call.Keeps.bind (Call.keeps_query ?_) fun _ => ?_
    · intro w a w' h
      cases h
      rfl
    · exact Call.Keeps.bind (Call.keeps_lift _ _) fun minor => Call.keeps_pure _ _
  · split_ifs
    · exact Call.keeps_pure _ _
    · exact Call.keeps_pure _ _

theorem clearedBalances_keeps (banks : BankRegistry) (now : Int)
    (accounts : List AccountBalanceRef) :
    (clearedBalances banks now accounts).Keeps World.unpublished := by
  induction accounts with
  | nil => exact Call.keeps_pure _ _
  | cons account accounts ih =>
    exact Call.Keeps.bind (clearedBalanceForAccount_keeps banks now account) fun balance =>
      Call.Keeps.bind ih fun rest => Call.keeps_pure _ _

end BankBalanceService

namespace ReserveService

open BankBalanceService

theorem publish_keeps (eventType : String) (payload : JsValue) (targetPlatform : String) :
    (EventsService.publish eventType payload targetPlatform).Keeps World.unpublished := by
  unfold EventsService.publish outboxCreate
  refine Call.keeps_query ?_
  intro w a w' h
  cases h
  simp [World.unpublished, World.logged]

theorem reconcileBank_keeps (banks : BankRegistry) (clock : Clock) (programId : String) :
    (reconcileBank banks clock programId).Keeps World.unpublished := by
  unfold reconcileBank
  refine Call.Keeps.bind (Call.keeps_read _ _ _) fun found => ?_
  refine Call.Keeps.bind (Call.keeps_lift _ _) fun program => ?_
  refine Call.Keeps.bind ?_ fun ledgerCash => ?_
  · exact Call.Keeps.bind (Call.keeps_read _ _ _) fun rows =>
      Call.Keeps.bind (Call.keeps_lift _ _) fun type => Call.keeps_pure _ _
  refine Call.Keeps.bind (clearedBalances_keeps banks _ _) fun balances => ?_
  dsimp only
  split_ifs
  · exact Call.Keeps.bind (publish_keeps _ _ _) fun _ => Call.keeps_pure _ _
  · exact Call.keeps_pure _ _

/-- **The verdict is stored nowhere**: a reconciliation leaves every table but the outbox as it
was. -/
theorem run_reconcileBank (banks : BankRegistry) (clock : Clock) (programId : String) (w : World) :
    ((reconcileBank banks clock programId).run w).2.unpublished = w.unpublished :=
  (reconcileBank_keeps banks clock programId).run w

end ReserveService

end

end TrusteeBank
