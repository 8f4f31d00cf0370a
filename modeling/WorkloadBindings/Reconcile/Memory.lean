import WorkloadBindings.Index.Tracker
import WorkloadBindings.Metrics
import WorkloadBindings.Reconcile.Call

/-!
# What the controllers remember

Between passes the controllers of both kinds share a memory: the subject of each binding, how often
each binding failed since it last succeeded, and counts. A failed binding is looked at again after a
delay that doubles with each failure, up to a limit. Delays are counted in nanoseconds and saturate
where a 64-bit count of seconds ends.
-/

namespace WorkloadBindings

/-- The delays of the controllers, in nanoseconds. -/
structure ReconcileParams where
  /-- After a success. -/
  resync : Nat
  /-- After the first failure. -/
  backoffMin : Nat
  /-- After any number of failures, at most. -/
  backoffMax : Nat
  deriving DecidableEq

/-- The nanoseconds of a number of milliseconds. -/
def ofMillis (n : Nat) : Nat := n * 1000000

/-- The longest delay. -/
def longestDelay : Nat := 18446744073709551616 * 1000000000 - 1

/-- The most failures that are counted. -/
def mostFailures : Nat := 4294967295

/-- How many passes of a kind ended how, and how many workloads were patched in them. -/
structure PassCounts where
  ok : Nat := 0
  error : Nat := 0
  bound : Nat := 0
  unbound : Nat := 0
  deriving DecidableEq

/-- The memory that the controllers share. -/
structure Memory where
  tracker : Tracker := {}
  /-- The failures of a binding since it last succeeded. -/
  failures : SortedMap BindingId Nat := .empty
  counts : PerKind PassCounts := .both {}
  deriving DecidableEq

namespace Memory

/-- The memory after a note. -/
def record (m : Memory) : Note → Memory
  | .tracked id subject => { m with tracker := m.tracker.track id subject }
  | .untracked id => { m with tracker := m.tracker.untrack id }
  | .patched k .bind n =>
    { m with counts := m.counts.modify k fun c => { c with bound := c.bound + n } }
  | .patched k .unbind n =>
    { m with counts := m.counts.modify k fun c => { c with unbound := c.unbound + n } }
  | .succeeded id =>
    { m with
      failures := m.failures.erase id
      counts := m.counts.modify id.kind fun c => { c with ok := c.ok + 1 } }
  | .failed id =>
    { m with counts := m.counts.modify id.kind fun c => { c with error := c.error + 1 } }

/-- The factor after some failures: a power of two that fits 32 bits. -/
def factor (failures : Nat) : Nat := if failures < 32 then Nat.pow 2 failures else 4294967295

/-- The delay after some failures. -/
def delay (p : ReconcileParams) (failures : Nat) : Nat :=
  min (min (p.backoffMin * factor failures) longestDelay) p.backoffMax

/-- How long to wait after a failure of a binding, and the memory with that failure. -/
def backoff (m : Memory) (p : ReconcileParams) (id : BindingId) : Nat × Memory :=
  let n := (m.failures.get? id).getD 0
  (delay p n, { m with failures := m.failures.insert id (min (n + 1) mostFailures) })

/-- The samples of the controllers. -/
def samples (m : Memory) : List String :=
  Metrics.sorted (BindingKind.all.flatMap fun k =>
    let c := m.counts.get k
    let passes (result : String) :=
      Metrics.counted "reconciles_total" [("kind", k.name), ("result", result)]
    let patches (change : Change) :=
      Metrics.counted "subject_patches_total" [("kind", k.name), ("operation", change.name)]
    passes "ok" c.ok ++ passes "error" c.error ++ patches .bind c.bound ++
      patches .unbind c.unbound)

end Memory

end WorkloadBindings
