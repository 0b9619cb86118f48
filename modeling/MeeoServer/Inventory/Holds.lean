/-
# The reserved counter

Six code paths close a reservation, and each moves the counters by the quantity it has read.
Most of them look at the status before they write, the sweeper does not, and none of them
looks at the moment of the write.  The counter stays equal to the sum of the active
reservations in every run in which a reservation is still active when it is closed.
-/
import MeeoServer.Inventory.Accounting

namespace MeeoServer

/-- The calls that correct the counters by hand. -/
def Call.correctsStock : Call → Bool
  | .addStock .. | .removeStock .. | .adjustStock .. => true
  | _ => false

/-- Only these calls commit a correction. -/
lemma Call.Spec.correctsStock {config : GatewayConfig} {I : Database → Database → Prop}
    {x : Call} {s : Database} {c : Commit} (h : Call.Spec I config x s c)
    (hx : x.correctsStock = false) : c.correctsStock = false := by
  cases c with
  | addStock v quantity | removeStock v quantity | adjustStock input delta =>
    exfalso
    cases x <;> simp_all [Call.Spec, Call.correctsStock, CheckoutBatch, TransitionBatch,
      ConfirmBatch, InitializeBatch, AttemptBatch, VerifyBatch, FailureBatch, ManualBatch,
      RefundBatch]
  | _ => rfl

/-- The reserved counters say what the active reservations say, and no unit has appeared or
vanished. -/
structure Balanced (total : VariantId → ℤ) (s : Database) : Prop extends UnitsKept total s where
  slack : ∀ v, s.stock.slack v = 0

end MeeoServer
