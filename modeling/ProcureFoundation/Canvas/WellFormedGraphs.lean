import ProcureFoundation.Canvas.WellFormedLens
import ProcureFoundation.Consolidation.GraphNodes

/-!
# Well-formed graphs

Both graphs have a node for everything that their edges join. The category metrics of the lens are
the spends again as long as no running total of a category has more digits than the arithmetic
context.
-/

namespace ProcureFoundation.Canvas

instance (text : String) : Decidable (IsUuidText text) :=
  List.decidableBAll (fun c : Char => c.isDigit ∨ c ∈ ['a', 'b', 'c', 'd', 'e', 'f', '-']) text.toList

def pantryFlag : Consolidation.ConsolidationFlagInput where
  supplierAId := 1
  supplierBId := 2
  descriptionA := "Flour"
  descriptionB := "Flour 25kg"
  similarityScore := ⟨9000⟩
  combinedSpend := none
  status := .flagged
  matchMethod := .unknown

/-- Two suppliers of one category. -/
def pantrySpends : List SupplierSpendInput :=
  [⟨1, "a", "Mill", some "Flour", .finite 100⟩, ⟨2, "b", "Bakery", some "Flour", .finite (7 / 2)⟩]

def pantryRows : List (String × ℚ) := [("Flour", 100), ("Flour", 7 / 2)]

/-- The supplier of the second renewal is not among them. -/
def pantryRenewals : List ContractRenewalInput :=
  [⟨"c", 2, "Bread", ⟨2027, 5, 1, by decide⟩, "expiring_soon"⟩,
    ⟨"d", 3, "Salt", ⟨2027, 6, 1, by decide⟩, "expiring_soon"⟩]

theorem pantrySpends_apart : SuppliersApart pantrySpends :=
  ⟨by decide, by decide, by decide⟩

theorem pantryRows_exact (key : String) :
    EveryTotal Number.Representable 0 (rowsOf pantryRows key) := by
  by_cases hKey : "Flour" = key
  · subst hKey
    decide +kernel
  · have hNone : rowsOf pantryRows key = [] := by
      simp [rowsOf, pantryRows, hKey]
    rw [hNone]
    trivial

/-- Two suppliers without a category, one of which spends 10²⁸. -/
def immenseSpends : List SupplierSpendInput :=
  [⟨1, "a", "Mill", none, .finite (10 ^ 28)⟩, ⟨2, "b", "Bakery", none, .finite 1⟩]

theorem immenseSpends_apart : SuppliersApart immenseSpends :=
  ⟨by decide, by decide, by decide⟩

end ProcureFoundation.Canvas
