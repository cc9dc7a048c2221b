import SignOnOperator.Cluster.Call
/-!
# Metrics

How often the operator did what since it started, in words of 64 bits.
-/
namespace SignOnOperator

structure Metrics where
  reconciled : UInt64 := 0
  failed : UInt64 := 0
  provisioned : UInt64 := 0
  cleanedUp : UInt64 := 0
  duplicates : UInt64 := 0
  compensated : UInt64 := 0
  deriving DecidableEq, Repr

/-- The metrics with one more. -/
def Metrics.count (m : Metrics) : Counter → Metrics
  | .reconciled => { m with reconciled := m.reconciled + 1 }
  | .failed => { m with failed := m.failed + 1 }
  | .provisioned => { m with provisioned := m.provisioned + 1 }
  | .cleanedUp => { m with cleanedUp := m.cleanedUp + 1 }
  | .duplicate => { m with duplicates := m.duplicates + 1 }
  | .compensated => { m with compensated := m.compensated + 1 }

end SignOnOperator
