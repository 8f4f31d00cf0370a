import WorkloadBindings.Webhook.Pass

/-!
# The webhook loop in time

The loop makes a step whenever the store has notified it since it last looked, and on every tick.
The first tick comes at the beginning and the others after a fixed time each; several notifications
before it looks count as one.
-/

namespace WorkloadBindings

/-- The state of the webhook loop; times are in nanoseconds since its beginning. -/
structure WebhookLoop where
  settings : WebhookSettings
  /-- The time between two ticks. -/
  resync : Nat
  /-- The notifications of the store that were seen. -/
  seen : Nat := 0
  clock : Nat := 0
  nextTick : Nat := 0
  metrics : WebhookMetrics := {}
  deriving DecidableEq, Repr

namespace WebhookLoop

/-- Makes a step. -/
def step (l : WebhookLoop) (leads : Bool) (store : Store) : Exchange WebhookLoop := do
  let metrics ← Webhook.step l.settings leads store l.metrics
  pure { l with metrics }

/-- Makes a step if the store has notified. -/
def notice (l : WebhookLoop) (leads : Bool) (store : Store) : Exchange WebhookLoop :=
  if l.seen < store.notifications then
    { l with seen := store.notifications }.step leads store
  else pure l

/-- The number of ticks until a time. -/
def ticksUntil (l : WebhookLoop) (limit : Nat) : Nat :=
  if limit < l.nextTick then 0
  else if l.resync = 0 then 1
  else (limit - l.nextTick) / l.resync + 1

/-- Makes a step for each of some ticks. -/
def tick (leads : Bool) (store : Store) : (ticks : Nat) → WebhookLoop → Exchange WebhookLoop
  | 0, l => pure l
  | ticks + 1, l => do
    let l ← { l with nextTick := l.nextTick + l.resync }.step leads store
    tick leads store ticks l

/-- Makes the steps that are due until a time. -/
def advance (l : WebhookLoop) (leads : Bool) (store : Store) (limit : Nat) :
    Exchange WebhookLoop := do
  let l ← l.notice leads store
  let l ← tick leads store (l.ticksUntil limit) l
  pure { l with clock := limit }

end WebhookLoop

end WorkloadBindings
