import Mathlib.Algebra.Group.Nat.Defs
import Mathlib.Order.MinMax
import WorkloadBindings.Proofs.Reconcile.Controllers
import WorkloadBindings.Proofs.Reconcile.Released

/-!
# Delays over a run

A failure of a binding asks for a delay that doubles with each failure since the binding's last
success, up to a limit (`Memory.delay_eq_of_lt`). A pass notes a success just when it is the leader's and
ends with that (`ControllerTurn.IsFrom.hasSucceeded_answered`). So over a run the memory counts, for each
binding by itself, the failures since its last success (`ControllerRun.getD_failures`), and every delay is
the one for that count (`ControllerRun.delay_of_past`).
-/

namespace WorkloadBindings

open Reconcile

/-! ## Delays -/

namespace Memory

variable {p : ReconcileParams}

/-- The factor is a power of two, as far as that fits 32 bits. -/
theorem factor_eq (n : Nat) : factor n = min (2 ^ n) (2 ^ 32 - 1) := by
  unfold factor
  split
  · rename_i hlt
    have hpow : 2 ^ n ≤ 2 ^ 31 := Nat.pow_le_pow_right (by decide) (by omega)
    exact (min_eq_left (hpow.trans (by decide))).symm
  · rename_i hge
    have hpow : 2 ^ 32 ≤ 2 ^ n := Nat.pow_le_pow_right (by decide) (by omega)
    exact (min_eq_right ((by decide : 2 ^ 32 - 1 ≤ 2 ^ 32).trans hpow)).symm

/-- The factor does not decrease. -/
theorem monotone_factor : Monotone factor := by
  intro a b hab
  rw [factor_eq, factor_eq]
  exact min_le_min_right _ (Nat.pow_le_pow_right (by decide) hab)

/-- The delay does not decrease. -/
theorem monotone_delay (p : ReconcileParams) : Monotone (delay p) := fun _ _ hab =>
  min_le_min_right _ (min_le_min_right _ (Nat.mul_le_mul_left _ (monotone_factor hab)))

/-- The delay is at most the limit. -/
theorem delay_le (p : ReconcileParams) (n : Nat) : delay p n ≤ p.backoffMax := min_le_right _ _

/-- When the limit is itself a delay, the product saturates beyond it, and so the delay is the first one
times the factor, up to the limit. -/
theorem delay_eq (hmax : p.backoffMax ≤ longestDelay) (n : Nat) :
    delay p n = min p.backoffMax (p.backoffMin * min (2 ^ n) (2 ^ 32 - 1)) := by
  calc delay p n = min (min (p.backoffMin * factor n) longestDelay) p.backoffMax := rfl
    _ = min (p.backoffMin * factor n) p.backoffMax := by rw [min_assoc, min_eq_right hmax]
    _ = min p.backoffMax (p.backoffMin * min (2 ^ n) (2 ^ 32 - 1)) := by rw [factor_eq, min_comm]

/-- Below 32 failures the factor is the power of two. -/
theorem delay_eq_of_lt (hmax : p.backoffMax ≤ longestDelay) {n : Nat} (hn : n < 32) :
    delay p n = min p.backoffMax (p.backoffMin * 2 ^ n) := by
  have hfactor : factor n = 2 ^ n := if_pos hn
  rw [delay_eq hmax, ← factor_eq, hfactor]

/-- Where the count of failures stops, the delay has stopped before. -/
theorem delay_min_mostFailures (n : Nat) : delay p (min n mostFailures) = delay p n := by
  rcases Nat.le_total n mostFailures with hle | hge
  · rw [Nat.min_eq_left hle]
  · -- Both counts are beyond those that change the factor.
    have hfar : ¬ n < 32 := Nat.not_lt.2 ((by decide : 32 ≤ mostFailures).trans hge)
    have hfactor : factor mostFailures = factor n := by
      rw [factor, factor, if_neg hfar, if_neg (by decide)]
    rw [Nat.min_eq_right hge, delay, delay, hfactor]

end Memory

/-! ## Successes -/

/-- Only a noted success changes the count of failures, and it begins that of its binding anew. -/
theorem Memory.get?_failures_afterCall (memory : Memory) (c : Call) (id : BindingId) :
    (memory.afterCall c).failures.get? id =
      if c.success? = some id then none else memory.failures.get? id := by
  cases c with
  | note n =>
    cases n with
    | succeeded id' =>
      change (memory.failures.erase id').get? id = if some id' = some id then none else _
      rw [SortedMap.get?_erase]
      refine if_congr ?_ rfl rfl
      rw [Std.compare_eq_iff_eq, Option.some.injEq, eq_comm]
    | patched k change => cases change <;> rfl
    | _ => rfl
  | _ => rfl

namespace ControllerTurn

variable {p : ReconcileParams} {turn : ControllerTurn}

/-- A pass that succeeded noted a success of its binding, and of no other. -/
theorem IsFrom.successes_of_hasSucceeded (h : turn.IsFrom p) (hsucceeded : turn.hasSucceeded = true) :
    ∃ id, turn.binding.id = .ok id ∧ turn.said.successes = [id] := by
  obtain ⟨hleads, action, hrest⟩ := hasSucceeded_iff.1 hsucceeded
  cases hid : turn.binding.id with
  | error abort =>
    have hend := (h.of_unnamed hleads hid).2
    rw [hrest] at hend
    cases hend
  | ok id =>
    refine ⟨id, rfl, ?_⟩
    rw [← turn.said.of_pivots.2.2]
    exact (h.mayEnd hleads hid hrest).2

/-- A pass in which nothing was said has not succeeded. -/
theorem IsFrom.not_hasSucceeded_of_nil (h : turn.IsFrom p) (hsaid : turn.said = []) :
    turn.hasSucceeded = false := by
  rw [Bool.eq_false_iff]
  intro hsucceeded
  obtain ⟨id, -, hnoted⟩ := h.successes_of_hasSucceeded hsucceeded
  rw [hsaid] at hnoted
  cases hnoted

/-- With an answer, the pass of a binding becomes a success just when the call notes that. -/
theorem IsFrom.hasSucceeded_answered (h : turn.IsFrom p) {c : Call}
    {next : c.Answer → Talk PassEnd} (hrest : turn.rest = .ask c next) (answer : c.Answer)
    (id : BindingId) :
    ((turn.answered c next answer).hasSucceeded && turn.isOf id) = true ↔
      c.success? = some id := by
  have hanswered := h.answered hrest answer
  obtain ⟨hleads, own, hown⟩ := h.exists_id hrest
  have hmay := h.maySay_next hleads hown hrest
  have hbefore : turn.said.successes = [] := turn.said.of_pivots.2.2 ▸ hmay.1
  have hafter : (turn.answered c next answer).said.successes = c.success?.toList := by
    change Transcript.successes (turn.said ++ [⟨c, answer⟩]) = _
    rw [Transcript.successes_append, hbefore, Transcript.successes_cons]
    exact List.append_nil _
  rw [Bool.and_eq_true, isOf_iff, hown, Except.ok.injEq]
  constructor
  · rintro ⟨hsucceeded, rfl⟩
    obtain ⟨id', hid', hnoted⟩ := hanswered.successes_of_hasSucceeded hsucceeded
    obtain rfl : own = id' := Except.ok.inj (hown.symm.trans hid')
    rw [hafter] at hnoted
    exact Option.toList_eq_singleton_iff.1 hnoted
  · intro hnoted
    obtain rfl : c = .note (.succeeded id) := by
      cases c with
      | note n =>
        cases n with
        | succeeded => rw [Option.some.inj hnoted]
        | _ => cases hnoted
      | _ => cases hnoted
    obtain rfl : id = own := hmay.2
    refine ⟨hasSucceeded_iff.2 ⟨hleads, ?_⟩, rfl⟩
    -- After a success nothing is said, and the pass ends with an action.
    cases hleft : next answer with
    | ask c' next' =>
      have hmore := (hanswered.maySay_next hleads hown hleft).1
      rw [Transcript.of_pivots _ |>.2.2, hafter] at hmore
      cases hmore
    | done ended =>
      have hend := (hanswered.mayEnd hleads hown hleft).2
      rw [Transcript.of_pivots _ |>.2.2, hafter] at hend
      match ended, hend with
      | .ok (.ok action), _ => exact ⟨action, hleft⟩

end ControllerTurn

/-! ## Counting failures -/

namespace Occurrence

/-- Something that happened to a binding: a pass of it went on, or a failure of it asked for a delay. -/
def isOf (id : BindingId) : Occurrence → Bool
  | went turn => turn.isOf id
  | delayed id' _ => id' == id

/-- How often a binding asked for a delay since the leader's last pass of it that succeeded. -/
def failuresSince (id : BindingId) : List Occurrence → Nat
  | [] => 0
  | went turn :: past => if turn.hasSucceeded && turn.isOf id then 0 else failuresSince id past
  | delayed id' _ :: past => failuresSince id past + if id' = id then 1 else 0

/-- What happens to other bindings is of no account. -/
theorem failuresSince_filter (id : BindingId) (past : List Occurrence) :
    failuresSince id (past.filter (isOf id)) = failuresSince id past := by
  induction past with
  | nil => rfl
  | cons o past ih =>
    cases hown : o.isOf id with
    | true =>
      rw [List.filter_cons_of_pos hown]
      cases o <;> simp only [failuresSince, ih]
    | false =>
      rw [List.filter_cons_of_neg (by simp [hown]), ih]
      cases o with
      | went turn =>
        have hother : turn.isOf id = false := hown
        rw [failuresSince, hother, Bool.and_false]
        rfl
      | delayed id' delay =>
        have hother : id' ≠ id := by simpa [isOf] using hown
        rw [failuresSince, if_neg hother, Nat.add_zero]

end Occurrence

namespace ControllerRun

open Occurrence

variable {p : ReconcileParams} {c : ControllerRun}

/-- The memory counts the failures of each binding since its last success, as far as it counts. -/
theorem getD_failures (h : Relation.ReflTransGen (Step p) {} c) (id : BindingId) :
    (c.memory.failures.get? id).getD 0 = min (failuresSince id c.past) mostFailures := by
  refine of_reachable (P := fun c =>
    (c.memory.failures.get? id).getD 0 = min (failuresSince id c.past) mostFailures) rfl ?_ h
  intro c c' hsound ih hstep
  cases hstep with
  | began leads now r =>
    have hnone : (ControllerTurn.begun p leads now r).hasSucceeded = false :=
      (ControllerTurn.isFrom_begun p leads now r).not_hasSucceeded_of_nil rfl
    change _ = min (failuresSince id (.went _ :: c.past)) _
    rw [failuresSince, hnone]
    exact ih
  | @answered before after turn call next hturns hrest answer =>
    -- The count begins anew just when the answer is to the note of a success of this binding.
    have hturn : turn.IsFrom p := hsound.turns turn (by simp [hturns])
    have hsuccess := hturn.hasSucceeded_answered hrest answer id
    have hisOf : (turn.answered call next answer).isOf id = turn.isOf id := rfl
    change ((c.memory.afterCall call).failures.get? id).getD 0 =
      min (failuresSince id (.went _ :: c.past)) _
    rw [Memory.get?_failures_afterCall, failuresSince, hisOf, if_congr hsuccess rfl rfl]
    split
    · rfl
    · exact ih
  | delayed id' =>
    change ((c.memory.failures.insert id' _).get? id).getD 0 =
      min (failuresSince id (.delayed id' _ :: c.past)) _
    rw [SortedMap.get?_insert, failuresSince]
    by_cases hown : id' = id
    · -- One more is counted, unless the count is at its end.
      subst hown
      rw [if_pos Std.compare_self, if_pos rfl, Option.getD_some, ih]
      omega
    · rw [if_neg (by simpa [Std.compare_eq_iff_eq] using Ne.symm hown), if_neg hown]
      exact ih

/-- Every delay is the one for the failures since the last success before it. -/
theorem delay_of_past (h : Relation.ReflTransGen (Step p) {} c) {id : BindingId} {delay : Nat}
    {later earlier : List Occurrence} (hpast : c.past = later ++ .delayed id delay :: earlier) :
    delay = Memory.delay p (failuresSince id earlier) := by
  induction h generalizing later with
  | refl => cases later <;> cases hpast
  | @tail c c' hreach hstep ih =>
    -- The delay in question is what the step adds, or it was there before.
    have hbefore : ∀ o, o :: c.past = later ++ .delayed id delay :: earlier →
        o = .delayed id delay ∧ c.past = earlier ∨
          delay = Memory.delay p (failuresSince id earlier) := by
      intro o heq
      cases later with
      | nil => exact Or.inl (List.cons.inj heq)
      | cons o' later => exact Or.inr (ih (List.cons.inj heq).2)
    cases hstep with
    | began leads now r => exact (hbefore _ hpast).resolve_left fun h => nomatch h.1
    | answered hturns hrest answer => exact (hbefore _ hpast).resolve_left fun h => nomatch h.1
    | delayed id' =>
      rcases hbefore _ hpast with ⟨heq, rfl⟩ | hearlier
      · obtain ⟨rfl, rfl⟩ := Occurrence.delayed.inj heq
        change Memory.delay p ((c.memory.failures.get? id').getD 0) = _
        rw [getD_failures hreach, Memory.delay_min_mostFailures]
      · exact hearlier

/-- However passes of any bindings and requests for delays come one after another and side by side, the
delay that a binding gets is that for its failures since the leader's last successful pass of it, which
other bindings have no part in. It is the first delay, doubled with each failure up to the limit, as long
as the factor fits 32 bits, never less after more failures and never more than the limit. A pass without
the lease says nothing and leaves the count of failures as it is. However many failures there are, the
count in the memory stops where 32 bits end. -/
theorem delays_of_reachable (h : Relation.ReflTransGen (Step p) {} c) :
    (∀ id delay later earlier, c.past = later ++ .delayed id delay :: earlier →
      delay = Memory.delay p (failuresSince id earlier) ∧
        failuresSince id earlier = failuresSince id (earlier.filter (Occurrence.isOf id))) ∧
    (p.backoffMax ≤ longestDelay →
      (∀ k < 32, Memory.delay p k = min p.backoffMax (p.backoffMin * 2 ^ k)) ∧
      ∀ k, Memory.delay p k = min p.backoffMax (p.backoffMin * min (2 ^ k) (2 ^ 32 - 1))) ∧
    Monotone (Memory.delay p) ∧ (∀ k, Memory.delay p k ≤ p.backoffMax) ∧
    (∀ turn, .went turn ∈ c.past → turn.leads = false → turn.said = [] ∧
      ∀ id earlier, failuresSince id (.went turn :: earlier) = failuresSince id earlier) ∧
    (∀ id, (c.memory.failures.get? id).getD 0 = min (failuresSince id c.past) (2 ^ 32 - 1)) ∧
    ∀ k, Memory.factor k = min (2 ^ k) (2 ^ 32 - 1) := by
  refine ⟨fun id delay later earlier hpast => ?_,
    fun hmax => ⟨fun k hk => Memory.delay_eq_of_lt hmax hk, Memory.delay_eq hmax⟩,
    Memory.monotone_delay p, Memory.delay_le p, fun turn hmem hleads => ?_, getD_failures h,
    Memory.factor_eq⟩
  · exact ⟨delay_of_past h hpast, (failuresSince_filter id earlier).symm⟩
  · have hfrom := (isSound_of_reachable h).past turn hmem
    refine ⟨(hfrom.of_follower hleads).1, fun id earlier => ?_⟩
    rw [failuresSince, ControllerTurn.hasSucceeded, hleads]
    rfl

/-! ## A run with delays -/

/-- A binding that is being deleted, with nothing left to undo. -/
def releasedTier : BindingResource :=
  { closingTier with metadata := { closingTier.metadata with finalizers := none } }

/-- Two bindings fail, one of them three times with a pass without the lease before the third failure.
Then a pass of it succeeds, and it fails once more. -/
def pausedRun : ControllerRun :=
  let failed := ({} : ControllerRun).delayed usualDelays tierId
  let both := failed.delayed usualDelays ⟨.secret, "shop", "vault"⟩
  let twice := both.delayed usualDelays tierId
  let skipped := twice.carried usualDelays false closingTier (Call.uniform (.ok ())) 0
  let thrice := skipped.delayed usualDelays tierId
  let released := thrice.carried usualDelays true releasedTier (Call.uniform (.ok ())) 2
  released.delayed usualDelays tierId

/-- The third failure waits for two seconds, and after the success only one is counted. -/
theorem delays_of_reachable_pausedRun :
    Relation.ReflTransGen (Step usualDelays) {} pausedRun ∧
      (∃ later delay earlier, pausedRun.past = later ++ .delayed tierId delay :: earlier ∧
        failuresSince tierId earlier = 2 ∧ delay = ofMillis 2000) ∧
      failuresSince tierId pausedRun.past = 1 ∧
      (pausedRun.memory.failures.get? tierId).getD 0 = 1 := by
  have htwice : Relation.ReflTransGen (Step usualDelays) {} _ :=
    ((Relation.ReflTransGen.refl.tail (.delayed tierId)).tail
      (.delayed ⟨.secret, "shop", "vault"⟩)).tail (.delayed tierId)
  have hthrice := (htwice.trans
    (reaches_carried false closingTier (Call.uniform (.ok ())) 0 _)).tail (.delayed tierId)
  have hreach : Relation.ReflTransGen (Step usualDelays) {} pausedRun :=
    (hthrice.trans (reaches_carried true releasedTier (Call.uniform (.ok ())) 2 _)).tail
      (.delayed tierId)
  obtain ⟨hdelays, hexact, -, -, -, hcounts, -⟩ := delays_of_reachable hreach
  have honce : failuresSince tierId pausedRun.past = 1 := by rfl
  obtain ⟨later, delay, earlier, hpast, htwo⟩ : ∃ later delay earlier,
      pausedRun.past = later ++ .delayed tierId delay :: earlier ∧ failuresSince tierId earlier = 2 :=
    ⟨[_, _, _, _], _, _, rfl, by rfl⟩
  have hdelay := (hdelays tierId delay later earlier hpast).1
  rw [htwo, (hexact (by decide)).1 2 (by decide)] at hdelay
  refine ⟨hreach, ⟨later, delay, earlier, hpast, htwo, hdelay⟩, honce, ?_⟩
  rw [hcounts, honce]
  decide

end ControllerRun

end WorkloadBindings
