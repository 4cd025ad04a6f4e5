import TrusteeBank.Lib.Run
import TrusteeBank.Reserve.Operations
import TrusteeBank.Services.Funding

/-!
# Funding instructions and the deposits that name them

A deposit is matched to a funding instruction by `DepositsService`; the instruction is issued and
cancelled by `FundingService`, which never sees the deposits.

**The invariant** (`Honoured`). An instruction is named by at most one deposit, which is of its
program, currency and amount, and no instruction that a matched or cleared deposit names is
cancelled.

**Where it fails** (`Misuses`). `match` compares the currency and the amount and nothing else: it
reads neither the clock nor the program, status and earlier use of the instruction. `cancel`
refuses the status `FUNDED`, which nothing sets.

* `honoured_step_iff`: an operation keeps the invariant, and matches to an open instruction only,
  exactly when it is not one of these;
* `instructions_run`: so does a run without them;
* `instruction_matched_twice`: two deposits are matched to one instruction.
-/

set_option autoImplicit false

namespace TrusteeBank

open Lib (Call Meets)

section

variable [Runtime]

/-! ## The two services together -/

inductive InstructionOp
  | funding (op : FundingOp)
  | deposit (op : DepositOp)

/-- An operation and the time at which it is served. -/
structure TimedOp where
  time : Int
  op : InstructionOp

def TimedOp.step (w : World) (s : TimedOp) : World :=
  match s.op with
  | .funding op => op.step w
  | .deposit op => op.step w

/-! ## The invariant -/

/-- The deposit pays for the instruction. -/
def Deposit.Funds (d : Deposit) (fundingInstructionId : String) : Prop :=
  d.fundingInstructionId = some fundingInstructionId ∧ (d.status = .matched ∨ d.status = .cleared)

structure Honoured (w : World) : Prop where
  /-- At most one deposit names an instruction. -/
  once : ∀ i a d a' d', w.deposits.find? a = some d → d.fundingInstructionId = some i →
    w.deposits.find? a' = some d' → d'.fundingInstructionId = some i → a = a'
  /-- A deposit agrees with the instruction it names. -/
  agrees : ∀ i a d, w.deposits.find? a = some d → d.fundingInstructionId = some i →
    ∃ fi, w.fundingInstructions.find? i = some fi ∧ fi.programId = d.programId ∧
      fi.currency = d.currency ∧ fi.amountMinor = d.amountMinor
  /-- An instruction that was paid for is not cancelled. -/
  live : ∀ i a d fi, w.deposits.find? a = some d → d.Funds i →
    w.fundingInstructions.find? i = some fi → fi.status ≠ .cancelled

/-- A deposit that a match leaves paying for an instruction, and that did not pay for it before, is
matched to an instruction that is neither cancelled nor late. -/
def MatchesOpen (w : World) (s : TimedOp) : Prop :=
  match s.op with
  | .deposit (.match depositId fundingInstructionId _) =>
    ∀ d, (s.step w).deposits.find? depositId = some d → d.Funds fundingInstructionId →
      (∀ old, w.deposits.find? depositId = some old → ¬old.Funds fundingInstructionId) →
      ∃ fi, w.fundingInstructions.find? fundingInstructionId = some fi ∧
        fi.status ≠ .cancelled ∧ s.time ≤ fi.expiresAt
  | _ => True

/-! ## What goes wrong -/

/-- The deposit and the instruction pass the checks of `match`. -/
structure Matching (w : World) (depositId fundingInstructionId : String) (d : Deposit)
    (fi : FundingInstruction) : Prop where
  deposit : w.deposits.find? depositId = some d
  status : d.status = .detected ∨ d.status = .unmatched
  instruction : w.fundingInstructions.find? fundingInstructionId = some fi
  currency : fi.currency = d.currency
  amount : fi.amountMinor = d.amountMinor

/-- The operation matches a deposit to an instruction of another program, or to one that is
cancelled, late or named by another deposit, or cancels an instruction that was paid for. -/
def Misuses (w : World) (s : TimedOp) : Prop :=
  match s.op with
  | .deposit (.match depositId fundingInstructionId _) =>
    ∃ d fi, Matching w depositId fundingInstructionId d fi ∧
      (fi.programId ≠ d.programId ∨ fi.status = .cancelled ∨ fi.expiresAt < s.time ∨
        ∃ a d', w.deposits.find? a = some d' ∧ a ≠ depositId ∧
          d'.fundingInstructionId = some fundingInstructionId)
  | .funding (.cancel id _) =>
    ∃ fi, w.fundingInstructions.find? id = some fi ∧ fi.status ≠ .funded ∧
      ∃ a d, w.deposits.find? a = some d ∧ d.Funds id
  | _ => False

/-! ## The two tables after a write -/

theorem find?_updateDeposit (w : World) (depositId : String) (f : Deposit → Deposit)
    (hf : ∀ d, (f d).id = d.id) (a : String) :
    (w.updateDeposit depositId f hf).deposits.find? a =
      if a = depositId then (w.deposits.find? depositId).map f else w.deposits.find? a :=
  Lib.Table.find?_modify w.deposits depositId f hf a

theorem find?_cancelInstruction (w : World) (id i : String) :
    (w.cancelInstruction id).fundingInstructions.find? i =
      if i = id then (w.fundingInstructions.find? id).map FundingInstruction.asCancelled
      else w.fundingInstructions.find? i :=
  Lib.Table.find?_modify w.fundingInstructions id FundingInstruction.asCancelled
    FundingInstruction.asCancelled_id i

/-- A match that passes the checks is made, whether or not it can be recorded. -/
theorem run_match_of {w : World} {depositId fundingInstructionId : String} {d : Deposit}
    {fi : FundingInstruction} (h : Matching w depositId fundingInstructionId d fi)
    (actor : String) : ∃ rows events,
      ((DepositsService.match depositId fundingInstructionId actor).run w).2 =
        (w.updateDeposit depositId (Deposit.asMatched fundingInstructionId)
          (Deposit.asMatched_id fundingInstructionId)).logged rows events := by
  unfold DepositsService.match
  rw [Call.run_bind, run_requireDeposit, h.deposit, orThrow]
  simp only
  have hstatus : ¬(d.status ≠ .detected ∧ d.status ≠ .unmatched) := by
    rcases h.status with hs | hs <;> simp [hs]
  rw [Call.run_throwIf_bind, if_neg hstatus, Call.run_bind, Entity.run_findUnique]
  simp only [Prisma.fundingInstruction_get]
  rw [Call.run_lift_bind, h.instruction]
  simp only [orThrow]
  rw [Call.run_throwIf_bind, if_neg (not_ne_iff.mpr h.currency), Call.run_throwIf_bind,
    if_neg (not_ne_iff.mpr h.amount), Call.run_bind, run_updateDeposit h.deposit]
  exact ((logs_record _).bind fun _ => (logs_outboxCreate _).bind fun _ => logs_pure _) _

/-- A deposit that is still to be matched pays for nothing. -/
theorem Matching.not_funds {w : World} {depositId fundingInstructionId : String} {d : Deposit}
    {fi : FundingInstruction} (h : Matching w depositId fundingInstructionId d fi) (i : String) :
    ¬d.Funds i := by
  rintro ⟨-, hstatus⟩
  rcases h.status with hs | hs <;> rw [hs] at hstatus <;> simp at hstatus

/-- A match that leaves its deposit paying for the instruction passed the checks. -/
theorem matching_of_funds {w : World} {time : Int} {depositId fundingInstructionId actor : String}
    {d : Deposit} (hd : (TimedOp.step w
      ⟨time, .deposit (.match depositId fundingInstructionId actor)⟩).deposits.find? depositId =
        some d) (hfunds : d.Funds fundingInstructionId)
    (hbefore : ∀ old, w.deposits.find? depositId = some old → ¬old.Funds fundingInstructionId) :
    ∃ d fi, Matching w depositId fundingInstructionId d fi := by
  obtain ⟨w₁, rows, events, heffect, hw⟩ :=
    DepositOp.effect w (.match depositId fundingInstructionId actor)
  cases heffect with
  | unchanged =>
    change (DepositOp.step w (.match depositId fundingInstructionId actor)).deposits.find? _ = _ at hd
    rw [hw] at hd
    exact absurd hfunds (hbefore d hd)
  | matched hdeposit hstatus hfi hcurrency hamount =>
    exact ⟨_, _, hdeposit, hstatus, hfi, hcurrency, hamount⟩

/-! ## One operation -/

theorem Honoured.congr {w w' : World} (h : Honoured w) (hdeposits : w'.deposits = w.deposits)
    (hinstructions : w'.fundingInstructions = w.fundingInstructions) : Honoured w' where
  once := hdeposits ▸ h.once
  agrees := by
    rw [hdeposits, hinstructions]
    exact h.agrees
  live := by
    rw [hdeposits, hinstructions]
    exact h.live

/-- No deposit names an instruction that it did not name before. -/
theorem Honoured.of_deposits {w w' : World} (h : Honoured w)
    (hinstructions : w'.fundingInstructions = w.fundingInstructions)
    (hdeposits : ∀ i a d', w'.deposits.find? a = some d' → d'.fundingInstructionId = some i →
      ∃ d, w.deposits.find? a = some d ∧ d.fundingInstructionId = some i ∧
        d.programId = d'.programId ∧ d.currency = d'.currency ∧ d.amountMinor = d'.amountMinor ∧
        (d'.Funds i → d.Funds i)) : Honoured w' where
  once i a d a' d' hd hi hd' hi' := by
    obtain ⟨b, hb, hbi, -⟩ := hdeposits i a d hd hi
    obtain ⟨b', hb', hbi', -⟩ := hdeposits i a' d' hd' hi'
    exact h.once i a b a' b' hb hbi hb' hbi'
  agrees i a d hd hi := by
    obtain ⟨b, hb, hbi, hprogram, hcurrency, hamount, -⟩ := hdeposits i a d hd hi
    obtain ⟨fi, hfi, hp, hc, ha⟩ := h.agrees i a b hb hbi
    exact ⟨fi, hinstructions ▸ hfi, hp.trans hprogram, hc.trans hcurrency, ha.trans hamount⟩
  live i a d fi hd hfunds hfi := by
    obtain ⟨b, hb, -, -, -, -, hclaim⟩ := hdeposits i a d hd hfunds.1
    exact h.live i a b fi hb (hclaim hfunds) (hinstructions ▸ hfi)

/-- A new deposit names no instruction. -/
theorem Honoured.insert {w : World} (h : Honoured w) {row : Deposit} {t : Lib.Table Deposit.id}
    (ht : w.deposits.insert? row = some t) (hnone : row.fundingInstructionId = none) :
    Honoured { w with deposits := t } := by
  refine h.of_deposits rfl fun i a d hd hi => ?_
  change t.find? a = some d at hd
  rw [Lib.Table.find?_insert? ht] at hd
  split_ifs at hd
  · rw [Option.some.injEq] at hd
    rw [← hd, hnone] at hi
    cases hi
  · exact ⟨d, hd, hi, rfl, rfl, rfl, id⟩

/-- A match to an open instruction of the program that no other deposit names. -/
theorem Honoured.matched {w : World} (h : Honoured w) {depositId i : String} {d : Deposit}
    {fi : FundingInstruction} (hm : Matching w depositId i d fi)
    (hprogram : fi.programId = d.programId) (hopen : fi.status ≠ .cancelled)
    (hfree : ∀ a d', w.deposits.find? a = some d' → d'.fundingInstructionId = some i →
      a = depositId) :
    Honoured (w.updateDeposit depositId (Deposit.asMatched i) (Deposit.asMatched_id i)) := by
  -- After the write a deposit is the matched one, which names `i`, or an old one.
  have hcases {a : String} {d' : Deposit} (hd' : (w.updateDeposit depositId (Deposit.asMatched i)
      (Deposit.asMatched_id i)).deposits.find? a = some d') :
      a = depositId ∧ d' = d.asMatched i ∨ a ≠ depositId ∧ w.deposits.find? a = some d' := by
    rw [find?_updateDeposit] at hd'
    split_ifs at hd' with ha
    · rw [hm.deposit, Option.map_some, Option.some.injEq] at hd'
      exact .inl ⟨ha, hd'.symm⟩
    · exact .inr ⟨ha, hd'⟩
  refine ⟨fun j a b a' b' hb hj hb' hj' => ?_, fun j a b hb hj => ?_, fun j a b fj hb hj hfj => ?_⟩
  · rcases hcases hb with ⟨ha, rfl⟩ | ⟨ha, hold⟩ <;>
      rcases hcases hb' with ⟨ha', rfl⟩ | ⟨ha', hold'⟩
    · exact ha.trans ha'.symm
    · cases hj
      exact absurd (hfree a' b' hold' hj') ha'
    · cases hj'
      exact absurd (hfree a b hold hj) ha
    · exact h.once j a b a' b' hold hj hold' hj'
  · rcases hcases hb with ⟨ha, rfl⟩ | ⟨ha, hold⟩
    · cases hj
      exact ⟨fi, hm.instruction, hprogram, hm.currency, hm.amount⟩
    · exact h.agrees j a b hold hj
  · rcases hcases hb with ⟨ha, rfl⟩ | ⟨ha, hold⟩
    · cases hj.1
      change w.fundingInstructions.find? i = some fj at hfj
      rw [hm.instruction, Option.some.injEq] at hfj
      exact hfj ▸ hopen
    · exact h.live j a b fj hold hj hfj

theorem deposit_honoured {w w₁ : World} {op : DepositOp} {time : Int} (he : DepositEffect w op w₁)
    (h : Honoured w) (hop : ¬Misuses w ⟨time, .deposit op⟩) : Honoured w₁ := by
  cases he with
  | unchanged => exact h
  | unbooked _ ht _ hnone => exact h.insert ht hnone
  | registered _ ht _ _ _ _ hnone => exact (h.insert ht hnone).congr rfl rfl
  | @matched depositId i actor d fi hdeposit hstatus hfi hcurrency hamount =>
    have hm : Matching w depositId i d fi := ⟨hdeposit, hstatus, hfi, hcurrency, hamount⟩
    refine h.matched hm ?_ ?_ fun a d' hd' hi => ?_
    · exact not_ne_iff.mp fun hne => hop ⟨d, fi, hm, .inl hne⟩
    · exact fun hcancelled => hop ⟨d, fi, hm, .inr (.inl hcancelled)⟩
    · exact not_ne_iff.mp fun hne => hop ⟨d, fi, hm, .inr (.inr (.inr ⟨a, d', hd', hne, hi⟩))⟩
  | @cleared clock depositId actor d e hdeposit hstatus _ _ _ =>
    have hposted : Honoured (w.posted e) := h.congr rfl rfl
    refine hposted.of_deposits rfl fun i a d' hd' hi => ?_
    rw [find?_updateDeposit] at hd'
    split_ifs at hd' with ha
    · -- The cleared deposit was matched to the instruction it names.
      change (w.deposits.find? depositId).map _ = some d' at hd'
      rw [hdeposit, Option.map_some, Option.some.injEq] at hd'
      subst hd' ha
      exact ⟨d, hdeposit, hi, rfl, rfl, rfl, fun _ => ⟨hi, .inl hstatus⟩⟩
    · exact ⟨d', hd', hi, rfl, rfl, rfl, id⟩

theorem funding_honoured {w w₁ : World} {op : FundingOp} {time : Int} (he : FundingEffect w op w₁)
    (h : Honoured w) (hop : ¬Misuses w ⟨time, .funding op⟩) : Honoured w₁ := by
  cases he with
  | unchanged => exact h
  | @created clock input id uuid amountMinor expiresAt t ht =>
    refine ⟨h.once, fun i a d hd hi => ?_, fun i a d fi hd hfunds hfi => ?_⟩
    · obtain ⟨fi, hfi, hagrees⟩ := h.agrees i a d hd hi
      exact ⟨fi, Lib.Table.find?_insert?_of_some ht hfi, hagrees⟩
    · obtain ⟨old, hold, -⟩ := h.agrees i a d hd hfunds.1
      change t.find? i = some fi at hfi
      rw [Lib.Table.find?_insert?_of_some ht hold, Option.some.injEq] at hfi
      exact hfi ▸ h.live i a d old hd hfunds hold
  | @cancelled id actor fi hfi hstatus =>
    refine ⟨h.once, fun i a d hd hi => ?_, fun i a d fj hd hfunds hfj => ?_⟩
    · obtain ⟨fj, hfj, hagrees⟩ := h.agrees i a d hd hi
      rw [find?_cancelInstruction]
      split_ifs with heq
      · subst heq
        rw [hfj, Option.map_some]
        exact ⟨fj.asCancelled, rfl, hagrees⟩
      · exact ⟨fj, hfj, hagrees⟩
    · rw [find?_cancelInstruction] at hfj
      split_ifs at hfj with heq
      · subst heq
        exact absurd ⟨fi, hfi, hstatus, a, d, hd, hfunds⟩ hop
      · exact h.live i a d fj hd hfunds hfj

/-- **Every operation but these keeps the invariant.** -/
theorem honoured_step {w : World} {s : TimedOp} (h : Honoured w) (hs : ¬Misuses w s) :
    Honoured (s.step w) := by
  obtain ⟨time, op⟩ := s
  cases op with
  | funding op =>
    exact after_effect (op.effect w) (fun _ he => funding_honoured he h hs)
      fun h _ _ => h.congr rfl rfl
  | deposit op =>
    exact after_effect (op.effect w) (fun _ he => deposit_honoured he h hs)
      fun h _ _ => h.congr rfl rfl

theorem matchesOpen_of {w : World} {s : TimedOp} (hs : ¬Misuses w s) : MatchesOpen w s := by
  unfold MatchesOpen
  split
  · next depositId i actor heq =>
    intro d hd hfunds hbefore
    obtain ⟨time, op⟩ := s
    change op = _ at heq
    subst heq
    obtain ⟨d, fi, hm⟩ := matching_of_funds hd hfunds hbefore
    unfold Misuses at hs
    refine ⟨fi, hm.instruction, fun hcancelled => ?_, not_lt.mp fun hlate => ?_⟩
    · exact hs ⟨d, fi, hm, .inr (.inl hcancelled)⟩
    · exact hs ⟨d, fi, hm, .inr (.inr (.inl hlate))⟩
  · trivial

/-- **The condition is exact**: an operation of the other kind breaks the invariant, or matches to
an instruction that is not open. -/
theorem honoured_step_iff {w : World} {s : TimedOp} (h : Honoured w) :
    Honoured (s.step w) ∧ MatchesOpen w s ↔ ¬Misuses w s := by
  refine ⟨fun ⟨hafter, hopen⟩ hs => ?_, fun hs => ⟨honoured_step h hs, matchesOpen_of hs⟩⟩
  obtain ⟨time, op⟩ := s
  unfold Misuses at hs
  split at hs
  · next depositId i actor heq =>
    change op = _ at heq
    subst heq
    obtain ⟨d, fi, hm, hs⟩ := hs
    obtain ⟨rows, events, hrun⟩ := run_match_of hm actor
    have hw : TimedOp.step w ⟨time, .deposit (.match depositId i actor)⟩ =
        (w.updateDeposit depositId (Deposit.asMatched i) (Deposit.asMatched_id i)).logged rows
          events := by
      show ((DepositsService.match depositId i actor).void.run w).2 = _
      rw [Call.run_void_snd, hrun]
    have hmatched : ((w.updateDeposit depositId (Deposit.asMatched i)
        (Deposit.asMatched_id i)).logged rows events).deposits.find? depositId =
          some (d.asMatched i) := by
      refine (find?_updateDeposit w depositId _ (Deposit.asMatched_id i) depositId).trans ?_
      rw [if_pos rfl, hm.deposit, Option.map_some]
    obtain ⟨fi', hfi', hlive, hintime⟩ := hopen (d.asMatched i) (hw ▸ hmatched) ⟨rfl, .inl rfl⟩
      fun old hold => Option.some.inj (hm.deposit.symm.trans hold) ▸ hm.not_funds i
    rw [hm.instruction, Option.some.injEq] at hfi'
    subst hfi'
    rw [hw] at hafter
    rcases hs with hprogram | hcancelled | hlate | ⟨a, d', hd', hne, hi⟩
    · obtain ⟨fj, hfj, hp, -⟩ := hafter.agrees i depositId _ hmatched rfl
      change w.fundingInstructions.find? i = some fj at hfj
      rw [hm.instruction, Option.some.injEq] at hfj
      exact hprogram (hfj ▸ hp)
    · exact hlive hcancelled
    · exact absurd hlate (not_lt.mpr hintime)
    · have hother : ((w.updateDeposit depositId (Deposit.asMatched i)
          (Deposit.asMatched_id i)).logged rows events).deposits.find? a = some d' := by
        refine (find?_updateDeposit w depositId _ (Deposit.asMatched_id i) a).trans ?_
        rw [if_neg hne, hd']
      exact hne (hafter.once i a d' depositId _ hother hi hmatched rfl)
  · next id actor heq =>
    change op = _ at heq
    subst heq
    obtain ⟨fi, hfi, hstatus, a, d, hd, hfunds⟩ := hs
    obtain ⟨rows, events, hrun⟩ := run_cancel_of hfi hstatus actor
    have hw : TimedOp.step w ⟨time, .funding (.cancel id actor)⟩ =
        (w.cancelInstruction id).logged rows events := by
      show ((FundingService.cancel id actor).void.run w).2 = _
      rw [Call.run_void_snd, hrun]
    rw [hw] at hafter
    have hcancelled : ((w.cancelInstruction id).logged rows events).fundingInstructions.find? id =
        some fi.asCancelled := by
      show (w.cancelInstruction id).fundingInstructions.find? id = _
      rw [find?_cancelInstruction, if_pos rfl, hfi, Option.map_some]
    exact hafter.live id a d _ hd hfunds hcancelled rfl
  · exact hs

/-! ## Runs -/

/-- A deposit that pays for an instruction goes on paying for it. -/
def FundsKept (w w' : World) : Prop :=
  ∀ i a d, w.deposits.find? a = some d → d.Funds i →
    ∃ d', w'.deposits.find? a = some d' ∧ d'.Funds i

theorem FundsKept.refl (w : World) : FundsKept w w := fun _ _ d hd hfunds => ⟨d, hd, hfunds⟩

theorem FundsKept.trans (w w' w'' : World) (h : FundsKept w w') (h' : FundsKept w' w'') :
    FundsKept w w'' := by
  intro i a d hd hfunds
  obtain ⟨d', hd', hfunds'⟩ := h i a d hd hfunds
  exact h' i a d' hd' hfunds'

theorem fundsKept_step (w : World) (s : TimedOp) : FundsKept w (s.step w) := by
  obtain ⟨time, op⟩ := s
  intro i a d hd hfunds
  cases op with
  | funding op =>
    obtain ⟨w₁, rows, events, he, hw⟩ := op.effect w
    show ∃ d', (op.step w).deposits.find? a = some d' ∧ d'.Funds i
    rw [hw]
    cases he <;> exact ⟨d, hd, hfunds⟩
  | deposit op =>
    obtain ⟨w₁, rows, events, he, hw⟩ := op.effect w
    show ∃ d', (op.step w).deposits.find? a = some d' ∧ d'.Funds i
    rw [hw]
    cases he with
    | unchanged => exact ⟨d, hd, hfunds⟩
    | unbooked _ ht _ _ => exact ⟨d, Lib.Table.find?_insert?_of_some ht hd, hfunds⟩
    | registered _ ht _ _ _ _ _ => exact ⟨d, Lib.Table.find?_insert?_of_some ht hd, hfunds⟩
    | @matched depositId j actor d' fi hdeposit hstatus _ _ _ =>
      -- The deposit that is matched was not matched before.
      have hne : a ≠ depositId := by
        rintro rfl
        rw [hd, Option.some.injEq] at hdeposit
        subst hdeposit
        rcases hfunds.2 with h | h <;> rw [h] at hstatus <;> simp at hstatus
      refine ⟨d, (find?_updateDeposit w depositId _ (Deposit.asMatched_id j) a).trans ?_, hfunds⟩
      rw [if_neg hne, hd]
    | @cleared clock depositId actor d' e hdeposit hstatus _ _ _ =>
      by_cases ha : a = depositId
      · subst ha
        refine ⟨d.asCleared (clock 0), (find?_updateDeposit (w.posted e) a _
          (Deposit.asCleared_id (clock 0)) a).trans ?_, hfunds.1, .inr rfl⟩
        rw [if_pos rfl]
        show (w.deposits.find? a).map _ = _
        rw [hd, Option.map_some]
      · refine ⟨d, (find?_updateDeposit (w.posted e) depositId _
          (Deposit.asCleared_id (clock 0)) a).trans ?_, hfunds⟩
        rw [if_neg ha]
        exact hd

/-- What is promised of a run from a state. -/
structure FundingKept (w : World) (ops : List TimedOp) : Prop where
  honoured : Honoured (ops.foldl TimedOp.step w)
  /-- Every match of the run was to an open instruction. -/
  matched : ∀ before s after, ops = before ++ s :: after →
    MatchesOpen (before.foldl TimedOp.step w) s
  /-- What was paid for after a part of the run is not cancelled at its end. -/
  live : ∀ before after, ops = before ++ after → ∀ i a d fi,
    (before.foldl TimedOp.step w).deposits.find? a = some d → d.Funds i →
      (ops.foldl TimedOp.step w).fundingInstructions.find? i = some fi → fi.status ≠ .cancelled

/-- **Funding instructions are honoured once** in every run that misuses none. -/
theorem instructions_run {w : World} {ops : List TimedOp} (hw : Honoured w)
    (hops : Meets TimedOp.step (fun w s => ¬Misuses w s) w ops) : FundingKept w ops := by
  have hend : Honoured (ops.foldl TimedOp.step w) :=
    Lib.inv_run (fun _ _ h hs => honoured_step h hs) hw hops
  refine ⟨hend, ?_, ?_⟩
  · rintro before s after rfl
    exact matchesOpen_of (Lib.meets_append.mp hops).2.1
  · rintro before after rfl i a d fi hd hfunds hfi
    have hkept : FundsKept (before.foldl TimedOp.step w)
        ((before ++ after).foldl TimedOp.step w) := by
      rw [List.foldl_append]
      exact Lib.rel_run FundsKept.refl FundsKept.trans (fun w s _ => fundsKept_step w s)
        (Lib.meets_append.mp hops).2
    obtain ⟨d', hd', hfunds'⟩ := hkept i a d hd hfunds
    exact hend.live i a d' fi hd' hfunds' hfi

end

/-! ## One instruction, two deposits -/

attribute [local instance] Runtime.ascii

namespace Sample

/-- A deposit of 100 is registered. -/
def registerAt (id bankTransactionId : String) : TimedOp :=
  ⟨1000, .deposit (.register
    { programId := "P1", trusteeAccountId := "T1", bankTransactionId, amountMinor := "100"
      currency := "USD", payerName := none, paymentReference := none
      transactionDate := "2026-01-01T00:00:00Z", actor := "bank" } id)⟩

/-- A deposit is matched to the instruction. -/
def matchAt (id : String) : TimedOp := ⟨1000, .deposit (.match id "F1" "bank")⟩

/-- Two deposits are matched to the instruction. -/
def matchedTwice : List TimedOp :=
  [registerAt "D1" "B1", registerAt "D2" "B2", matchAt "D1", matchAt "D2"]

theorem emptyReserve_honoured : Honoured emptyReserve where
  once _ _ _ _ _ hd := by cases hd
  agrees _ _ _ hd := by cases hd
  live _ _ _ _ hd := by cases hd

/-- What a deposit names after a run. -/
def namedBy (ops : List TimedOp) (depositId : String) : Option (Option String) :=
  ((ops.foldl TimedOp.step emptyReserve).deposits.find? depositId).map (·.fundingInstructionId)

/-- A deposit that is registered may be matched to the instruction. -/
theorem matchAt_allowed : ¬Misuses ((registerAt "D1" "B1").step emptyReserve) (matchAt "D1") := by
  have hdeposits : ∀ d ∈ ((registerAt "D1" "B1").step emptyReserve).deposits.rows,
      d.id = "D1" ∧ d.programId = "P1" := by
    decide +kernel
  have hinstructions : ∀ fi ∈ ((registerAt "D1" "B1").step emptyReserve).fundingInstructions.rows,
      fi.programId = "P1" ∧ fi.status ≠ .cancelled ∧ 1000 ≤ fi.expiresAt := by
    decide +kernel
  rintro ⟨d, fi, hm, hmisused⟩
  obtain ⟨-, hd⟩ := hdeposits d (Lib.Table.mem_of_find? hm.deposit)
  obtain ⟨hprogram, hlive, hintime⟩ := hinstructions fi (Lib.Table.mem_of_find? hm.instruction)
  rcases hmisused with h | h | h | ⟨a, d', hd', hne, -⟩
  · exact h (hprogram.trans hd.symm)
  · exact hlive h
  · exact absurd h (not_lt.mpr hintime)
  · obtain ⟨hid, -⟩ := hdeposits d' (Lib.Table.mem_of_find? hd')
    exact hne ((Lib.Table.key_of_find? hd').symm.trans hid)

end Sample

theorem instructions_run_example :
    Sample.namedBy [Sample.registerAt "D1" "B1", Sample.matchAt "D1"] "D1" = some (some "F1") ∧
      FundingKept Sample.emptyReserve [Sample.registerAt "D1" "B1", Sample.matchAt "D1"] :=
  ⟨by decide +kernel,
    instructions_run Sample.emptyReserve_honoured ⟨id, Sample.matchAt_allowed, trivial⟩⟩

/-- Two deposits are matched to one instruction. -/
theorem instruction_matched_twice : ¬∀ [Runtime] (w : World) (ops : List TimedOp),
    Honoured w → FundingKept w ops := by
  intro h
  have honce := (h Sample.emptyReserve Sample.matchedTwice
    Sample.emptyReserve_honoured).honoured.once
  have h₁ : Sample.namedBy Sample.matchedTwice "D1" = some (some "F1") := by decide +kernel
  have h₂ : Sample.namedBy Sample.matchedTwice "D2" = some (some "F1") := by decide +kernel
  obtain ⟨d, hd, hi⟩ := Option.map_eq_some_iff.mp h₁
  obtain ⟨d', hd', hi'⟩ := Option.map_eq_some_iff.mp h₂
  exact absurd (honce "F1" "D1" d "D2" d' hd hi hd' hi') (by decide)

end TrusteeBank
