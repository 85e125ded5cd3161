import SymbolSearch.Cancellation
import Mathlib.Data.List.TakeDrop

/-!
# Races

A race polls its task at the beginning and again behind each step that lets others run
(`PolledAt`), and looks at the token before every poll. So what a race comes to can be read off the
steps of the task in their order (`RunsInOrder`): they are gone through up to the first poll that
finds the token cancelled, the first step that fails, or the end of the task
(`runsInOrder_race`).

A cancellation wins between two polls and loses inside of one (`race_cancels_between_polls`). At the
first poll that finds the token cancelled the race ends. But a task that cancels the token and does
not let others run afterwards comes to what it comes to by itself (`finish`).
-/

set_option autoImplicit false

namespace SymbolSearch

/-! ## Steps -/

namespace TaskStep

/-- The step cancels the token. -/
def isCancel : TaskStep → Bool
  | .cancel => true
  | _ => false

/-- The error with which a step fails, if it is begun while the token is cancelled or live. -/
def failure? (cancelled : Bool) : TaskStep → Option Error
  | .check => if cancelled then some .cancelled else none
  | .fail e => some e
  | _ => none

/-- The error with which a race ends behind a step: that of the step, or a cancellation if the step
lets others run and the token is cancelled. -/
def stop? (cancelled : Bool) : TaskStep → Option Error
  | .yield => if cancelled then some .cancelled else none
  | step => step.failure? cancelled

theorem isCancel_of_stop? {cancelled : Bool} {step : TaskStep} {e : Error}
    (h : step.stop? cancelled = some e) : step.isCancel = false := by
  cases step with
  | cancel => simp [stop?, failure?] at h
  | _ => rfl

end TaskStep

/-- The token is cancelled when the first `k` steps have been begun. -/
def tokenAfter (cancelled : Bool) (steps : List TaskStep) (k : Nat) : Bool :=
  cancelled || (steps.take k).any TaskStep.isCancel

/-- The task is polled when `k` of its steps have been begun. -/
inductive PolledAt (steps : List TaskStep) : (k : Nat) → Prop where
  | start : PolledAt steps 0
  | again {k : Nat} : steps[k]? = some .yield → PolledAt steps (k + 1)

/-- The task is stopped with an error when `k` of its steps have been begun: a poll finds the token
cancelled, or the last one of these steps fails. -/
inductive StopsAt (cancelled : Bool) (steps : List TaskStep) : (k : Nat) → Error → Prop where
  | polled {k : Nat} : PolledAt steps k → tokenAfter cancelled steps k = true →
      StopsAt cancelled steps k .cancelled
  | failed {k : Nat} {step : TaskStep} {e : Error} : steps[k]? = some step →
      step.failure? (tokenAfter cancelled steps k) = some e → StopsAt cancelled steps (k + 1) e

section Steps

variable {cancelled : Bool} {steps : List TaskStep} {k : Nat} {step : TaskStep} {e : Error}

theorem tokenAfter_zero : tokenAfter cancelled steps 0 = cancelled := by
  rw [tokenAfter, List.take_zero, List.any_nil, Bool.or_false]

theorem tokenAfter_succ (h : steps[k]? = some step) :
    tokenAfter cancelled steps (k + 1) = (tokenAfter cancelled steps k || step.isCancel) := by
  obtain ⟨hk, rfl⟩ := List.getElem?_eq_some_iff.1 h
  rw [tokenAfter, tokenAfter, List.take_succ_eq_append_getElem hk, List.any_append,
    List.any_cons, List.any_nil, Bool.or_false, Bool.or_assoc]

theorem stopsAt_zero_iff : StopsAt cancelled steps 0 e ↔ cancelled = true ∧ e = .cancelled := by
  constructor
  · rintro ⟨-, hcancelled⟩
    rw [tokenAfter_zero] at hcancelled
    exact ⟨hcancelled, rfl⟩
  · rintro ⟨rfl, rfl⟩
    exact .polled .start tokenAfter_zero

theorem stopsAt_succ_iff (h : steps[k]? = some step) :
    StopsAt cancelled steps (k + 1) e ↔ step.stop? (tokenAfter cancelled steps k) = some e := by
  constructor
  · intro hstop
    cases hstop with
    | polled hpolled htoken =>
        obtain ⟨⟩ | ⟨hyield⟩ := hpolled
        obtain rfl := Option.some.inj (h.symm.trans hyield)
        -- a step that lets others run does not cancel the token
        simp only [tokenAfter_succ h, TaskStep.isCancel, Bool.or_false] at htoken
        rw [TaskStep.stop?, if_pos htoken]
    | failed hstep hfailure =>
        obtain rfl := Option.some.inj (h.symm.trans hstep)
        cases step with
        | yield => simp [TaskStep.failure?] at hfailure
        | _ => exact hfailure
  · intro hstop
    cases step with
    | yield =>
        rw [TaskStep.stop?] at hstop
        split at hstop
        next htoken =>
          obtain rfl := Option.some.inj hstop
          exact .polled (.again h) (by rw [tokenAfter_succ h, htoken, Bool.true_or])
        next => exact absurd hstop (by simp)
    | _ => exact .failed h hstop

/-- A task is stopped with one error. -/
theorem StopsAt.unique {e' : Error} (h : StopsAt cancelled steps k e)
    (h' : StopsAt cancelled steps k e') : e = e' := by
  cases k with
  | zero => rw [(stopsAt_zero_iff.1 h).2, (stopsAt_zero_iff.1 h').2]
  | succ k =>
      obtain ⟨step, hstep⟩ : ∃ step, steps[k]? = some step := by
        cases h with
        | polled hpolled _ =>
            obtain ⟨⟩ | ⟨hyield⟩ := hpolled
            exact ⟨_, hyield⟩
        | failed hstep _ => exact ⟨_, hstep⟩
      rw [stopsAt_succ_iff hstep] at h h'
      exact Option.some.inj (h.symm.trans h')

end Steps

/-! ## Running in order -/

variable {α : Type}

/-- The steps are gone through in order up to the first stop, or else to the end of the task, which
comes to `value`. -/
structure RunsInOrder (cancelled : Bool) (steps : List TaskStep) (value : α)
    (out : RaceOutcome α) : Prop where
  goes_on : ∀ k < out.begun, ∀ e, ¬ StopsAt cancelled steps k e
  ends : (∃ e, StopsAt cancelled steps out.begun e ∧ out.result = .error e) ∨
    out.begun = steps.length ∧ (∀ e, ¬ StopsAt cancelled steps out.begun e) ∧
      out.result = .ok value
  cancelled_eq : out.cancelled = tokenAfter cancelled steps out.begun

/-- At a poll that finds the token cancelled, a run in order ends and is cancelled. -/
theorem RunsInOrder.cancelled_at_poll {cancelled : Bool} {steps : List TaskStep} {value : α}
    {out : RaceOutcome α} (hruns : RunsInOrder cancelled steps value out) {k : Nat}
    (hpolled : PolledAt steps k) (htoken : tokenAfter cancelled steps k = true)
    (hk : k ≤ out.begun) : out.begun = k ∧ out.result = .error .cancelled := by
  have hstop : StopsAt cancelled steps k .cancelled := .polled hpolled htoken
  obtain rfl : k = out.begun := by
    by_contra hne
    exact hruns.goes_on k (Nat.lt_of_le_of_ne hk hne) _ hstop
  rcases hruns.ends with ⟨e, hstopped, hresult⟩ | ⟨-, hnot, -⟩
  · rw [hstop.unique hstopped]
    exact ⟨rfl, hresult⟩
  · exact absurd hstop (hnot _)

section Race

variable (value : α)

/-- What becomes of a race behind a poll of its task. -/
def raceBehind : TaskProgress α × Nat × Bool → RaceOutcome α
  | (.ready result, begun, cancelled) => ⟨result, begun, cancelled⟩
  | (.pending rest, begun, cancelled) => raceFrom value begun cancelled rest

theorem raceFrom_cancelled (begun : Nat) (steps : List TaskStep) :
    raceFrom value begun true steps = ⟨.error .cancelled, begun, true⟩ := by
  rw [raceFrom, if_pos rfl]

theorem raceFrom_live (begun : Nat) (steps : List TaskStep) :
    raceFrom value begun false steps = raceBehind value (pollTask value begun false steps) := by
  rw [raceFrom, if_neg Bool.false_ne_true]
  split
  next hpoll => rw [hpoll, raceBehind]
  next hpoll => rw [hpoll, raceBehind]

/-- One step of a task in a race. -/
theorem raceBehind_cons (begun : Nat) (cancelled : Bool) (step : TaskStep) (steps : List TaskStep) :
    raceBehind value (pollTask value begun cancelled (step :: steps)) =
      match step.stop? cancelled with
      | some e => ⟨.error e, begun + 1, cancelled⟩
      | none =>
          raceBehind value (pollTask value (begun + 1) (cancelled || step.isCancel) steps) := by
  cases step with
  | yield =>
      -- the poll is over, and the token is looked at before the next one
      simp only [pollTask, raceBehind, TaskStep.isCancel, Bool.or_false]
      cases cancelled with
      | true => exact raceFrom_cancelled value (begun + 1) steps
      | false => exact raceFrom_live value (begun + 1) steps
  | cancel =>
      simp only [TaskStep.isCancel, Bool.or_true]
      rfl
  | check =>
      simp only [TaskStep.isCancel, Bool.or_false]
      cases cancelled with
      | true => rfl
      | false => rfl
  | fail e => rfl
  | proceed =>
      simp only [TaskStep.isCancel, Bool.or_false]
      rfl

/-- If a race has come to position `begun` without a stop, it ends in order. -/
theorem runsInOrder_raceBehind {cancelled : Bool} {steps rest : List TaskStep} {begun : Nat}
    (hrest : steps.drop begun = rest) (hbegun : begun ≤ steps.length)
    (hgoes : ∀ k ≤ begun, ∀ e, ¬ StopsAt cancelled steps k e) :
    RunsInOrder cancelled steps value
      (raceBehind value (pollTask value begun (tokenAfter cancelled steps begun) rest)) := by
  induction rest generalizing begun with
  | nil =>
      rw [List.drop_eq_nil_iff] at hrest
      exact ⟨fun k hk => hgoes k (Nat.le_of_lt hk),
        .inr ⟨Nat.le_antisymm hbegun hrest, hgoes begun (Nat.le_refl _), rfl⟩, rfl⟩
  | cons step rest ih =>
      have hstep : steps[begun]? = some step := by
        rw [← List.head?_drop, hrest, List.head?_cons]
      have hdrop : steps.drop (begun + 1) = rest := by
        rw [← List.tail_drop, hrest, List.tail_cons]
      rw [raceBehind_cons]
      cases hstop : step.stop? (tokenAfter cancelled steps begun) with
      | some e =>
          refine ⟨fun k hk => hgoes k (Nat.lt_succ_iff.1 hk),
            .inl ⟨e, (stopsAt_succ_iff hstep).2 hstop, rfl⟩, ?_⟩
          rw [tokenAfter_succ hstep, TaskStep.isCancel_of_stop? hstop, Bool.or_false]
      | none =>
          rw [← tokenAfter_succ hstep]
          refine ih hdrop (List.getElem?_eq_some_iff.1 hstep).1 fun k hk e hstopped => ?_
          rcases Nat.le_succ_iff.1 hk with hk | rfl
          · exact hgoes k hk e hstopped
          · rw [Nat.succ_eq_add_one, stopsAt_succ_iff hstep, hstop] at hstopped
            cases hstopped

/-- A race goes through the steps of its task in order. -/
theorem runsInOrder_race (cancelled : Bool) (steps : List TaskStep) :
    RunsInOrder cancelled steps value (race cancelled steps value) := by
  cases cancelled with
  | true =>
      rw [race, raceFrom_cancelled]
      exact ⟨fun k hk => absurd hk (Nat.not_lt_zero k),
        .inl ⟨_, stopsAt_zero_iff.2 ⟨rfl, rfl⟩, rfl⟩,
        tokenAfter_zero.symm⟩
  | false =>
      have hgoes : ∀ k ≤ 0, ∀ e, ¬ StopsAt false steps k e := by
        intro k hk e hstop
        obtain rfl := Nat.le_zero.1 hk
        exact Bool.false_ne_true (stopsAt_zero_iff.1 hstop).1
      have hruns := runsInOrder_raceBehind value (List.drop_zero) (Nat.zero_le _) hgoes
      rwa [tokenAfter_zero, ← raceFrom_live] at hruns

/-! ## The task by itself -/

/-- The rest of a task by itself, when some of its steps have been begun. -/
def finishFrom : (begun : Nat) → (cancelled : Bool) → List TaskStep → RaceOutcome α
  | begun, cancelled, [] => ⟨.ok value, begun, cancelled⟩
  | begun, cancelled, step :: steps =>
      match step.failure? cancelled with
      | some e => ⟨.error e, begun + 1, cancelled⟩
      | none => finishFrom (begun + 1) (cancelled || step.isCancel) steps

/-- What a task comes to by itself, if it is polled until it is ready whatever the token. -/
def finish (cancelled : Bool) (steps : List TaskStep) (value : α) : RaceOutcome α :=
  finishFrom value 0 cancelled steps

theorem le_begun_finishFrom (begun : Nat) (cancelled : Bool) (steps : List TaskStep) :
    begun ≤ (finishFrom value begun cancelled steps).begun := by
  induction steps generalizing begun cancelled with
  | nil => exact Nat.le_refl begun
  | cons step steps ih =>
      rw [finishFrom]
      split
      next => exact Nat.le_succ begun
      next => exact Nat.le_of_succ_le (ih (begun + 1) _)

/-- A race comes to what its task comes to by itself, unless it ends behind a step that lets others
run. -/
theorem raceBehind_eq_finishFrom_or {steps rest : List TaskStep} {begun : Nat} (cancelled : Bool)
    (hrest : steps.drop begun = rest) :
    raceBehind value (pollTask value begun cancelled rest) = finishFrom value begun cancelled rest ∨
      ∃ j, (raceBehind value (pollTask value begun cancelled rest)).begun = j + 1 ∧
        steps[j]? = some .yield ∧ j < (finishFrom value begun cancelled rest).begun := by
  induction rest generalizing begun cancelled with
  | nil => exact .inl rfl
  | cons step rest ih =>
      have hstep : steps[begun]? = some step := by
        rw [← List.head?_drop, hrest, List.head?_cons]
      have hdrop : steps.drop (begun + 1) = rest := by
        rw [← List.tail_drop, hrest, List.tail_cons]
      rw [raceBehind_cons, finishFrom]
      cases step with
      | yield =>
          cases cancelled with
          | true => exact .inr ⟨begun, rfl, hstep, le_begun_finishFrom value (begun + 1) _ rest⟩
          | false => exact ih _ hdrop
      -- other steps end a race just if they fail
      | fail e => exact .inl rfl
      | check =>
          cases cancelled with
          | true => exact .inl rfl
          | false => exact ih _ hdrop
      | cancel => exact ih _ hdrop
      | proceed => exact ih _ hdrop

/-- If the task has cancelled the token and comes to an end by itself before it lets others run
again, the race ends as the task does. -/
theorem race_eq_finish {cancelled : Bool} {steps : List TaskStep} {k : Nat}
    (hk : k < (race cancelled steps value).begun) (hcancel : steps[k]? = some .cancel)
    (hlast : ∀ j, k < j → j < (finish cancelled steps value).begun → steps[j]? ≠ some .yield) :
    race cancelled steps value = finish cancelled steps value := by
  cases cancelled with
  | true =>
      rw [race, raceFrom_cancelled] at hk
      exact absurd hk (Nat.not_lt_zero k)
  | false =>
      rw [race, raceFrom_live] at hk ⊢
      rcases raceBehind_eq_finishFrom_or value false (List.drop_zero (l := steps)) with
        heq | ⟨j, hbegun, hyield, hj⟩
      · exact heq
      · -- the step that lets others run would stand behind the one that cancels the token
        rw [hbegun] at hk
        have hne : k ≠ j := by
          rintro rfl
          rw [hcancel] at hyield
          cases hyield
        exact absurd hyield (hlast j (by omega) hj)

/-- **A cancellation wins between two polls and loses inside of one.** A race goes through the steps
in order, up to the first poll that finds the token cancelled, the first failure or the end. A poll
that finds the token cancelled begins no further step, and the race is cancelled. If the task has
cancelled the token and comes to an end by itself before it lets others run again, then the race
ends as the task does by itself. -/
theorem race_cancels_between_polls (cancelled : Bool) (steps : List TaskStep) :
    RunsInOrder cancelled steps value (race cancelled steps value) ∧
      (∀ k, PolledAt steps k → tokenAfter cancelled steps k = true →
        k ≤ (race cancelled steps value).begun →
          (race cancelled steps value).begun = k ∧
            (race cancelled steps value).result = .error .cancelled) ∧
      ∀ k < (race cancelled steps value).begun, steps[k]? = some .cancel →
        (∀ j, k < j → j < (finish cancelled steps value).begun → steps[j]? ≠ some .yield) →
          race cancelled steps value = finish cancelled steps value := by
  have hruns := runsInOrder_race value cancelled steps
  exact ⟨hruns, fun _ hpolled htoken hk => hruns.cancelled_at_poll hpolled htoken hk,
    fun _ hk hcancel hlast => race_eq_finish value hk hcancel hlast⟩

end Race

end SymbolSearch
