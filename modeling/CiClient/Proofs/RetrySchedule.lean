import Mathlib.Order.Lattice.Nat
import CiClient.Retry

/-!
# When an operation is run again

An operation is run until it is settled, that is, until its outcome is anything but an error of the
network, or until the attempts are used up. What the last run ends with is the result, whatever came
before it. The waits add up: run `k`, counted from zero, starts at `startOf k`.

`countedFrom` is the same loop with its counter, with the error that it keeps for the end, and with
waits that are held in a type of limited size. As long as the last wait can be held, nothing of this
shows: `rehearseCounted_eq`.
-/

set_option autoImplicit false

namespace CiClient.RetryPolicy

variable {α : Type}

/-! ## Waits -/

section

variable (p : RetryPolicy)

/-- The wait after run `k`. -/
def waitAfter (k : Nat) : Nat := if p.exponential then p.initialDelay * 2 ^ k else p.initialDelay

/-- When run `k` starts. -/
def startOf (k : Nat) : Nat :=
  if p.exponential then p.initialDelay * (2 ^ k - 1) else p.initialDelay * k

/-- The first wait has the length that the policy names. -/
@[simp] theorem waitAfter_zero : p.waitAfter 0 = p.initialDelay := by
  simp [waitAfter]

/-- The first run starts at once. -/
@[simp] theorem startOf_zero : p.startOf 0 = 0 := by
  simp [startOf]

/-- From one run to the next, the wait is the next one. -/
theorem nextDelay_waitAfter (k : Nat) : p.nextDelay (p.waitAfter k) = p.waitAfter (k + 1) := by
  unfold nextDelay waitAfter
  split
  · rw [Nat.pow_succ, Nat.mul_comm (2 ^ k) 2, Nat.mul_left_comm]
  · rfl

/-- Doubling waits add up to one less than the next power of two. -/
theorem startOf_succ (k : Nat) : p.startOf (k + 1) = p.startOf k + p.waitAfter k := by
  unfold startOf waitAfter
  split
  · have hpos : 0 < 2 ^ k := Nat.two_pow_pos k
    have hsum : 2 ^ (k + 1) - 1 = 2 ^ k - 1 + 2 ^ k := by
      rw [Nat.pow_succ]
      omega
    rw [hsum, Nat.mul_add]
  · rw [Nat.mul_succ]

/-- Waits do not get shorter. -/
theorem waitAfter_le {j k : Nat} (h : j ≤ k) : p.waitAfter j ≤ p.waitAfter k := by
  unfold waitAfter
  split
  · exact Nat.mul_le_mul_left _ (Nat.pow_le_pow_right (by decide) h)
  · exact Nat.le_refl _

end

/-! ## The last run -/

/-- An outcome that ends the loop before the attempts are used up. -/
def Settles (outcome : Except ClientError α) : Prop :=
  ∀ reason, outcome ≠ .error (.network reason)

/-- A success settles the operation. -/
theorem settles_ok (result : α) : Settles (.ok result) := nofun

/-- An error settles the operation unless it is one of the network. -/
theorem settles_error_iff {e : ClientError} :
    Settles (.error e : Except ClientError α) ↔ e.isTransient = false := by
  cases e with
  | network reason => exact iff_of_false (fun h => h reason rfl) nofun
  | _ => exact iff_of_true nofun rfl

/-- The runs with which the loop may end: the last attempt, and each run that settles it. -/
def endingRuns (p : RetryPolicy) (outcomes : Nat → Except ClientError α) : Set Nat :=
  {k | k + 1 = max 1 p.maxRetries ∨ Settles (outcomes k)}

section

variable {p : RetryPolicy} {outcomes : Nat → Except ClientError α} {last k : Nat}

/-- The last attempt is an ending run, so there is a first one. -/
theorem exists_isLeast_endingRuns (p : RetryPolicy) (outcomes : Nat → Except ClientError α) :
    ∃ last, IsLeast (p.endingRuns outcomes) last := by
  have hfinal : p.attempts - 1 ∈ p.endingRuns outcomes :=
    Or.inl (Nat.sub_add_cancel (Nat.le_max_left 1 _))
  exact ⟨_, Nat.sInf_mem ⟨_, hfinal⟩, fun _ => Nat.sInf_le⟩

/-- If attempts are left, the last run is settled. -/
theorem settles_last (h : IsLeast (p.endingRuns outcomes) last) (hlast : last + 1 < p.attempts) :
    Settles (outcomes last) := by
  rcases h.1 with hattempts | hsettles
  · exact absurd hattempts (Nat.ne_of_lt hlast)
  · exact hsettles

/-- Before the last run every outcome is an error of the network. -/
theorem exists_error_of_lt (h : IsLeast (p.endingRuns outcomes) last) (hk : k < last) :
    k + 1 < p.attempts ∧ ∃ e, outcomes k = .error e ∧ e.isTransient = true := by
  have hnot : k ∉ p.endingRuns outcomes := fun hmem => Nat.not_le_of_lt hk (h.2 hmem)
  simp only [endingRuns, Set.mem_ofPred_eq, not_or] at hnot
  obtain ⟨hattempt, hsettles⟩ := hnot
  have hlast : last ≤ p.attempts - 1 :=
    h.2 (Or.inl (Nat.sub_add_cancel (Nat.le_max_left 1 _)))
  refine ⟨by omega, ?_⟩
  cases houtcome : outcomes k with
  | ok result =>
    rw [houtcome] at hsettles
    exact absurd (settles_ok result) hsettles
  | error e =>
    rw [houtcome, settles_error_iff, Bool.not_eq_false] at hsettles
    exact ⟨e, rfl, hsettles⟩

end

/-! ## Timetables -/

/-- The timetable when run `k` is about to start. -/
def timetableBefore (p : RetryPolicy) (k : Nat) : Timetable :=
  ⟨p.startOf k, (List.range k).map p.startOf⟩

/-- The timetable when run `k` was the last one; nothing is waited for after it. -/
def timetableAfter (p : RetryPolicy) (k : Nat) : Timetable :=
  ⟨p.startOf k, (List.range (k + 1)).map p.startOf⟩

section

variable (p : RetryPolicy) (k : Nat)

/-- Before run `k` there are `k` runs on the timetable. -/
theorem runs_timetableBefore : (p.timetableBefore k).runs = k := by
  simp [timetableBefore, Timetable.runs]

/-- Starting a run adds it to the timetable. -/
theorem start_timetableBefore : (p.timetableBefore k).start = p.timetableAfter k := by
  simp [timetableBefore, timetableAfter, Timetable.start, List.range_succ]

/-- With the wait after it, a run leads to the next one. -/
theorem advance_timetableAfter :
    (p.timetableAfter k).advance (p.waitAfter k) = p.timetableBefore (k + 1) := by
  simp [timetableBefore, timetableAfter, Timetable.advance, startOf_succ]

/-- A run has the outcome of its number. -/
theorem run_scripted (outcomes : Nat → Except ClientError α) :
    (scripted outcomes).run (p.timetableBefore k) = (outcomes k, p.timetableAfter k) := by
  change (outcomes (p.timetableBefore k).runs, (p.timetableBefore k).start) = _
  rw [runs_timetableBefore, start_timetableBefore]

end

/-! ## The loop -/

section

variable {p : RetryPolicy} {outcomes : Nat → Except ClientError α} {last k : Nat}

/-- A run goes on with the outcome of its number. -/
theorem run_scripted_bind {β : Type} (p : RetryPolicy) (outcomes : Nat → Except ClientError α)
    (k : Nat) (next : Except ClientError α → StateM Timetable β) :
    (scripted outcomes >>= next).run (p.timetableBefore k) =
      (next (outcomes k)).run (p.timetableAfter k) := by
  change (next ((scripted outcomes).run _).1).run ((scripted outcomes).run _).2 = _
  rw [run_scripted]

/-- The loop from run `k` on. -/
def loopAt (p : RetryPolicy) (outcomes : Nat → Except ClientError α) (k : Nat) :
    Except ClientError α × Timetable :=
  (p.retryFrom (fun delay => modify (·.advance delay)) (scripted outcomes) (p.attempts - 1 - k)
    (p.waitAfter k)).run (p.timetableBefore k)

/-- Before the last run, the loop waits and goes on with the next one. -/
theorem loopAt_of_lt (h : IsLeast (p.endingRuns outcomes) last) (hk : k < last) :
    p.loopAt outcomes k = p.loopAt outcomes (k + 1) := by
  obtain ⟨hattempts, e, houtcome, htransient⟩ := exists_error_of_lt h hk
  have hmore : p.attempts - 1 - k = p.attempts - 1 - (k + 1) + 1 := by omega
  rw [loopAt, hmore, retryFrom, run_scripted_bind]
  simp only [houtcome, htransient, if_true]
  rw [StateT.run_bind]
  change (StateT.run _ ((p.timetableAfter k).advance (p.waitAfter k))) = _
  rw [nextDelay_waitAfter, advance_timetableAfter]
  rfl

/-- The loop ends with the last run. -/
theorem loopAt_last (h : IsLeast (p.endingRuns outcomes) last) :
    p.loopAt outcomes last = (outcomes last, p.timetableAfter last) := by
  rw [loopAt]
  cases hmore : p.attempts - 1 - last with
  | zero => rw [retryFrom, run_scripted]
  | succ more =>
    have hsettles := settles_last h (by omega)
    rw [retryFrom, run_scripted_bind]
    cases houtcome : outcomes last with
    | ok result => rfl
    | error e =>
      rw [houtcome, settles_error_iff] at hsettles
      simp only [hsettles]
      rfl

/-- By induction downwards from the last run: wherever the loop is entered, it ends there. -/
theorem loopAt_eq (h : IsLeast (p.endingRuns outcomes) last) (hk : k ≤ last) :
    p.loopAt outcomes k = (outcomes last, p.timetableAfter last) := by
  induction hk using Nat.decreasingInduction with
  | self => exact loopAt_last h
  | of_succ k hlt ih => rw [loopAt_of_lt h hlt, ih]

/-- The result of the loop is the outcome of the last run, and the runs start on time. -/
theorem rehearse_eq (h : IsLeast (p.endingRuns outcomes) last) :
    p.rehearse outcomes = (outcomes last, p.timetableAfter last) := by
  rw [← loopAt_eq h (Nat.zero_le last)]
  simp [rehearse, retry, loopAt, timetableBefore]

end

/-! ## The loop with its counter -/

/-- The error that a loop without runs would end with. -/
def exhausted : ClientError := .network "Max retries exceeded"

/-- The wait after the one of length `delay`. Doubling it fails when the double is longer than the
longest wait that can be held. -/
def nextDelay? (p : RetryPolicy) (limit delay : Nat) : Option Nat :=
  if p.exponential then (if 2 * delay ≤ limit then some (2 * delay) else none) else some delay

/-- The loop that counts its attempts from zero and keeps the last error: the runs that are left,
then the counter, the wait and the error. There is no result when a wait cannot be doubled. The
counter stays below the number of attempts. -/
def countedFrom {m : Type → Type} [Monad m] (p : RetryPolicy) (limit : Nat)
    (pause : Nat → m Unit) (operation : m (Except ClientError α)) :
    Nat → Nat → Nat → Option ClientError → OptionT m (Except ClientError α)
  | 0, _, _, lastError => pure (.error (lastError.getD exhausted))
  | left + 1, attempt, delay, _ => do
    match ← OptionT.lift operation with
    | .ok result => pure (.ok result)
    | .error e =>
      if attempt < p.attempts - 1 then
        if e.isTransient then do
          OptionT.lift (pause delay)
          let delay ← OptionT.mk (pure (p.nextDelay? limit delay))
          countedFrom p limit pause operation left (attempt + 1) delay (some e)
        else pure (.error e)
      else countedFrom p limit pause operation left (attempt + 1) delay (some e)

/-- Run a list of outcomes in the loop that counts. -/
def rehearseCounted (p : RetryPolicy) (limit : Nat) (outcomes : Nat → Except ClientError α) :
    Option (Except ClientError α) × Timetable :=
  (p.countedFrom limit (fun delay => modify (·.advance delay)) (scripted outcomes) p.attempts 0
    p.initialDelay none).run.run ⟨0, []⟩

section

variable {p : RetryPolicy} {limit : Nat} {outcomes : Nat → Except ClientError α} {last k : Nat}

/-- The counting loop from run `k` on. -/
def countedAt (p : RetryPolicy) (limit : Nat) (outcomes : Nat → Except ClientError α) (k : Nat)
    (lastError : Option ClientError) : Option (Except ClientError α) × Timetable :=
  (p.countedFrom limit (fun delay => modify (·.advance delay)) (scripted outcomes)
    (p.attempts - k) k (p.waitAfter k) lastError).run.run (p.timetableBefore k)

/-- Where the loop may have no result, a run goes on with the outcome of its number as well. -/
theorem run_lift_scripted_bind {β : Type} (p : RetryPolicy)
    (outcomes : Nat → Except ClientError α) (k : Nat)
    (next : Except ClientError α → OptionT (StateM Timetable) β) :
    (OptionT.lift (scripted outcomes) >>= next).run.run (p.timetableBefore k) =
      (next (outcomes k)).run.run (p.timetableAfter k) := by
  change (next ((scripted outcomes).run _).1).run.run ((scripted outcomes).run _).2 = _
  rw [run_scripted]

/-- A wait that can be held is the next one. -/
theorem nextDelay?_waitAfter (h : p.exponential = true → p.waitAfter (k + 1) ≤ limit) :
    p.nextDelay? limit (p.waitAfter k) = some (p.waitAfter (k + 1)) := by
  rw [← nextDelay_waitAfter] at h ⊢
  unfold nextDelay? nextDelay at *
  split
  · rename_i hexponential
    rw [if_pos hexponential] at h
    exact if_pos (h hexponential)
  · rfl

/-- Before the last run, the counting loop keeps the error and goes on with the next one. -/
theorem countedAt_of_lt (h : IsLeast (p.endingRuns outcomes) last) (hk : k < last)
    (hlimit : p.exponential = true → p.waitAfter (k + 1) ≤ limit)
    (lastError : Option ClientError) :
    ∃ e, p.countedAt limit outcomes k lastError =
      p.countedAt limit outcomes (k + 1) (some e) := by
  obtain ⟨hattempts, e, houtcome, htransient⟩ := exists_error_of_lt h hk
  have hleft : p.attempts - k = p.attempts - (k + 1) + 1 := by omega
  have hguard : k < p.attempts - 1 := by omega
  refine ⟨e, ?_⟩
  rw [countedAt, hleft, countedFrom, run_lift_scripted_bind]
  simp only [houtcome, htransient, hguard, if_true]
  rw [nextDelay?_waitAfter hlimit, countedAt, ← advance_timetableAfter]
  rfl

/-- The guard lets the last attempt pass without looking at its error, and the loop ends in it. -/
theorem countedAt_last (h : IsLeast (p.endingRuns outcomes) last)
    (lastError : Option ClientError) :
    p.countedAt limit outcomes last lastError = (some (outcomes last), p.timetableAfter last) := by
  have hlast : last ≤ p.attempts - 1 :=
    h.2 (Or.inl (Nat.sub_add_cancel (Nat.le_max_left 1 _)))
  have hpos : 1 ≤ p.attempts := Nat.le_max_left 1 _
  have hleft : p.attempts - last = p.attempts - 1 - last + 1 := by omega
  rw [countedAt, hleft, countedFrom, run_lift_scripted_bind]
  cases houtcome : outcomes last with
  | ok result => rfl
  | error e =>
    by_cases hguard : last < p.attempts - 1
    · have hsettles := settles_last h (by omega)
      rw [houtcome, settles_error_iff] at hsettles
      simp only [hguard, hsettles, if_true]
      rfl
    · have hnone : p.attempts - 1 - last = 0 := by omega
      simp only [hguard, if_false]
      rw [hnone]
      rfl

/-- If the last wait can be held, all are held, and the counting loop does what the loop does. -/
theorem rehearseCounted_eq (h : IsLeast (p.endingRuns outcomes) last)
    (hlimit : p.exponential = true → p.waitAfter last ≤ limit) :
    p.rehearseCounted limit outcomes = (some (outcomes last), p.timetableAfter last) := by
  have hcounted : ∀ k ≤ last, ∀ lastError, p.countedAt limit outcomes k lastError =
      (some (outcomes last), p.timetableAfter last) := by
    intro k hk
    induction hk using Nat.decreasingInduction with
    | self => exact countedAt_last h
    | of_succ k hlt ih =>
      intro lastError
      have hheld : p.exponential = true → p.waitAfter (k + 1) ≤ limit :=
        fun hexponential => Nat.le_trans (p.waitAfter_le hlt) (hlimit hexponential)
      obtain ⟨e, heq⟩ := countedAt_of_lt h hlt hheld lastError
      rw [heq, ih]
  rw [← hcounted 0 (Nat.zero_le last) none]
  simp [rehearseCounted, countedAt, timetableBefore]

end

/-! ## How often, with what result, and when -/

/-- An operation is run until it ends in anything but an error of the network, or until the attempts
are used up, and no further. The result is the outcome of its last run. Without doubling the waits,
run `k` starts after `k` of them; with doubling it starts after one less than `2 ^ k` times the
first of them; nothing is waited for after the last run. A loop whose waits are held up to a limit
does the same if the last wait that it computes is within the limit. -/
theorem runs_until_settled (p : RetryPolicy) (outcomes : Nat → Except ClientError α) :
    ∃ last, IsLeast {k | k + 1 = max 1 p.maxRetries ∨
        ∀ reason, outcomes k ≠ .error (.network reason)} last ∧
      p.rehearse outcomes =
        (outcomes last, ⟨p.startOf last, (List.range (last + 1)).map p.startOf⟩) ∧
      ∀ limit, (p.exponential = true → p.initialDelay * 2 ^ last ≤ limit) →
        p.rehearseCounted limit outcomes =
          (some (outcomes last), ⟨p.startOf last, (List.range (last + 1)).map p.startOf⟩) := by
  obtain ⟨last, hlast⟩ := exists_isLeast_endingRuns p outcomes
  refine ⟨last, hlast, rehearse_eq hlast, ?_⟩
  intro limit hlimit
  refine rehearseCounted_eq hlast ?_
  intro hexponential
  rw [waitAfter, if_pos hexponential]
  exact hlimit hexponential

/-- An operation that the network fails twice. -/
def failingTwice : Nat → Except ClientError Nat
  | 0 => .error (.network "refused")
  | 1 => .error (.network "reset")
  | _ => .error (.serialization "malformed")

/-- Two errors of the network, then one of another kind: of a hundred attempts three are made. The
longest wait of a hundred attempts could not be held in 64 bits of seconds, that of three can. -/
theorem runs_until_settled_of_malformed :
    2 ^ 64 * 1000 ≤ 50 * 2 ^ 99 ∧
      rehearse ⟨100, 50, true⟩ failingTwice =
        (.error (.serialization "malformed"), ⟨150, [0, 50, 150]⟩) ∧
      rehearseCounted ⟨100, 50, true⟩ (2 ^ 64 * 1000 - 1) failingTwice =
        (some (.error (.serialization "malformed")), ⟨150, [0, 50, 150]⟩) := by
  obtain ⟨last, hleast, hrehearse, hcounted⟩ := runs_until_settled ⟨100, 50, true⟩ failingTwice
  have hlast : last = 2 := by
    refine IsLeast.unique hleast ⟨Or.inr nofun, ?_⟩
    rintro (_ | _ | k) hk
    · rcases hk with hk | hk
      · exact absurd hk (by decide)
      · exact absurd rfl (hk "refused")
    · rcases hk with hk | hk
      · exact absurd hk (by decide)
      · exact absurd rfl (hk "reset")
    · exact Nat.le_add_left 2 k
  subst hlast
  exact ⟨by decide, hrehearse, hcounted _ fun _ => by decide⟩

end CiClient.RetryPolicy
