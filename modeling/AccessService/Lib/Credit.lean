/-
  AccessService.Lib.Credit

  Debts covered by credits: two finite sets, and what each kind of transaction
  does to the balance.  Nothing says which credit covers which debt.
-/

import Mathlib.Data.Finset.Card

namespace AccessService.Lib.Credit

variable {α β : Type}

/-- There is a credit for every debt. -/
def Covered (debts : Finset α) (credits : Finset β) : Prop := debts.card ≤ credits.card

/-- There is one more. -/
def Spare (debts : Finset α) (credits : Finset β) : Prop := debts.card < credits.card

instance (debts : Finset α) (credits : Finset β) : Decidable (Covered debts credits) :=
  Nat.decLe _ _

instance (debts : Finset α) (credits : Finset β) : Decidable (Spare debts credits) :=
  Nat.decLt _ _

variable {debts debts' : Finset α} {credits credits' : Finset β} {a : α} {b : β}

/-- Debts go and credits come. -/
theorem Covered.mono (h : Covered debts credits) (hdebts : debts' ⊆ debts)
    (hcredits : credits ⊆ credits') : Covered debts' credits' :=
  calc debts'.card ≤ debts.card := Finset.card_le_card hdebts
    _ ≤ credits.card := h
    _ ≤ credits'.card := Finset.card_le_card hcredits

/-- Without credits there are no debts. -/
theorem Covered.debts_eq_empty (h : Covered debts credits) (hcredits : credits = ∅) :
    debts = ∅ := by
  subst hcredits
  exact Finset.card_eq_zero.mp (Nat.le_zero.mp h)

/-- A credit is spent on a debt. -/
theorem Covered.pay [DecidableEq α] [DecidableEq β] (h : Covered debts credits)
    (ha : a ∈ debts) (hdebts : debts' ⊆ debts.erase a) (hcredits : credits ⊆ insert b credits') :
    Covered debts' credits' := by
  have hpaid : debts'.card + 1 ≤ debts.card := by
    rw [← Finset.card_erase_add_one ha]
    exact Nat.succ_le_succ (Finset.card_le_card hdebts)
  have hspent : credits.card ≤ credits'.card + 1 :=
    (Finset.card_le_card hcredits).trans (Finset.card_insert_le b credits')
  exact Nat.le_of_succ_le_succ ((hpaid.trans h).trans hspent)

/-- A credit is spent on nothing. -/
theorem Covered.waste [DecidableEq β] (h : Covered debts credits) (hdebts : debts' ⊆ debts)
    (hcredits : credits ⊆ insert b credits') (hspare : b ∉ credits ∨ Spare debts credits) :
    Covered debts' credits' := by
  rcases hspare with hb | hspare
  · refine h.mono hdebts fun c hc => ?_
    rcases Finset.mem_insert.mp (hcredits hc) with rfl | hc'
    · exact absurd hc hb
    · exact hc'
  · have hspent : credits.card ≤ credits'.card + 1 :=
      (Finset.card_le_card hcredits).trans (Finset.card_insert_le b credits')
    exact (Finset.card_le_card hdebts).trans
      (Nat.le_of_lt_succ (Nat.lt_of_lt_of_le hspare hspent))

/-- A debt is made, out of a spare credit. -/
theorem Spare.owe [DecidableEq α] (h : Spare debts credits) (hdebts : debts' ⊆ insert a debts)
    (hcredits : credits ⊆ credits') : Covered debts' credits' :=
  calc debts'.card ≤ (insert a debts).card := Finset.card_le_card hdebts
    _ ≤ debts.card + 1 := Finset.card_insert_le a debts
    _ ≤ credits.card := h
    _ ≤ credits'.card := Finset.card_le_card hcredits

/-- A debt is made together with a credit. -/
theorem Covered.issue [DecidableEq α] [DecidableEq β] (h : Covered debts credits)
    (hdebts : debts' ⊆ insert a debts) (hb : b ∉ credits) (hcredits : insert b credits ⊆ credits') :
    Covered debts' credits' :=
  calc debts'.card ≤ (insert a debts).card := Finset.card_le_card hdebts
    _ ≤ debts.card + 1 := Finset.card_insert_le a debts
    _ ≤ credits.card + 1 := Nat.succ_le_succ h
    _ = (insert b credits).card := (Finset.card_insert_of_notMem hb).symm
    _ ≤ credits'.card := Finset.card_le_card hcredits

end AccessService.Lib.Credit
