import SymbolSearch.Error

/-!
# Cancellation

A token asks a running operation to stop. Operations notice only where they poll it, so
a token is the number of polls that still find it live: none of them once it is
cancelled, any number of them if it never is.
-/

set_option autoImplicit false

namespace SymbolSearch

/-- The number of polls that find the token live, or no bound on it. -/
structure Token where
  livePolls : Option Nat
  deriving DecidableEq, Repr

namespace Token

/-- A token that is never cancelled. -/
def live : Token := ⟨none⟩

/-- A token that is cancelled. -/
def cancelled : Token := ⟨some 0⟩

/-- The token is cancelled. -/
def isCancelled (t : Token) : Bool := t.livePolls = some 0

/-- The token after a poll that found it live. -/
def polled (t : Token) : Token := ⟨t.livePolls.map (· - 1)⟩

end Token

/-! ## Racing a task against a token -/

/-- One step of a task. -/
inductive TaskStep where
  /-- Let others run, and go on when polled again. -/
  | yield
  | cancel
  /-- Fail if the token is cancelled. -/
  | check
  | fail (e : Error)
  | proceed

/-- What a poll of a task comes to: its result, or the steps that are left when it lets others
run. -/
inductive TaskProgress (α : Type) where
  | ready (result : Except Error α)
  | pending (rest : List TaskStep)

variable {α : Type}

/-- Poll a task that ends with `value`: begin its steps one after the other until it lets others
run, fails or ends. The steps begun so far are counted on, and the token is handed on. -/
def pollTask (value : α) : (begun : Nat) → (cancelled : Bool) → List TaskStep →
    TaskProgress α × Nat × Bool
  | begun, cancelled, [] => (.ready (.ok value), begun, cancelled)
  | begun, cancelled, step :: steps =>
      match step with
      | .yield => (.pending steps, begun + 1, cancelled)
      | .cancel => pollTask value (begun + 1) true steps
      | .check =>
          if cancelled then (.ready (.error .cancelled), begun + 1, cancelled)
          else pollTask value (begun + 1) cancelled steps
      | .fail e => (.ready (.error e), begun + 1, cancelled)
      | .proceed => pollTask value (begun + 1) cancelled steps

/-- A poll that leaves steps begins at least one. -/
theorem length_lt_of_pending {value : α} {begun begun' : Nat} {cancelled cancelled' : Bool}
    {steps rest : List TaskStep}
    (h : pollTask value begun cancelled steps = (.pending rest, begun', cancelled')) :
    rest.length < steps.length := by
  induction steps generalizing begun cancelled with
  | nil => simp [pollTask] at h
  | cons step steps ih =>
      rw [List.length_cons]
      cases step with
      | yield =>
          simp only [pollTask, Prod.mk.injEq, TaskProgress.pending.injEq] at h
          rw [h.1]
          exact Nat.lt_succ_self _
      | cancel => exact Nat.lt_succ_of_lt (ih h)
      | check =>
          cases cancelled with
          | true => simp [pollTask] at h
          | false => exact Nat.lt_succ_of_lt (ih h)
      | fail e => simp [pollTask] at h
      | proceed => exact Nat.lt_succ_of_lt (ih h)

/-- How a race ends. -/
structure RaceOutcome (α : Type) where
  result : Except Error α
  /-- The number of steps begun. -/
  begun : Nat
  cancelled : Bool

/-- Poll a task again and again until it is ready, unless its token is cancelled first. The token
is looked at before every poll of the task. -/
def raceFrom (value : α) (begun : Nat) (cancelled : Bool) (steps : List TaskStep) :
    RaceOutcome α :=
  if cancelled then ⟨.error .cancelled, begun, cancelled⟩
  else
    match _ : pollTask value begun cancelled steps with
    | (.ready result, begun, cancelled) => ⟨result, begun, cancelled⟩
    | (.pending rest, begun, cancelled) => raceFrom value begun cancelled rest
termination_by steps.length
decreasing_by exact length_lt_of_pending (by assumption)

/-- Run a task unless its token is cancelled first. A token that is cancelled beforehand keeps it
from beginning. -/
def race (cancelled : Bool) (steps : List TaskStep) (value : α) : RaceOutcome α :=
  raceFrom value 0 cancelled steps

end SymbolSearch
