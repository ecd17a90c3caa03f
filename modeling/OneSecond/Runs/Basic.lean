import Mathlib

/-!
# Runs of event-driven systems

A system handles one event at a time: `System.Step` relates the state in which
an event is handled to the state its handler leaves.  A `Run` records every
occurrence (the state and the event handled in it), latest first, so that the
history is at hand whenever a property speaks about what happened before: how
often, since when, at what value.

The rules below package the inductions over runs once.  `Run.historyInvariant`
is the general one; `Run.account` and `Run.covered` follow an account along a
run, `Run.meter` a counter with resets, and `Run.monotone` a measure which no
step decreases.  In all of them the step hypothesis may use that the state was
reached, so that invariants proved earlier are available there.
`exists_run_of_progress` is about what some run can still reach.
-/

namespace Runs

universe u v

variable {State : Type u} {Event : Type v}

/-- A system given by what handling an event may do to the state. -/
structure System (State : Type u) (Event : Type v) where
  Step : State → Event → State → Prop

/-- The occurrences of a run: in which state which event was handled, latest first. -/
abbrev History (State : Type u) (Event : Type v) := List (State × Event)

namespace System

/-- The same handlers, with only the `delivered` events reaching them. -/
def restrict (system : System State Event) (delivered : State → Event → Prop) :
    System State Event where
  Step state event next := delivered state event ∧ system.Step state event next

end System

/-- `Run system start history state`: handling the occurrences of `history` leads
from `start` to `state`. -/
inductive Run (system : System State Event) (start : State) :
    History State Event → State → Prop where
  | nil : Run system start [] start
  | snoc {history : History State Event} {state next : State} {event : Event}
      (run : Run system start history state) (step : system.Step state event next) :
      Run system start ((state, event) :: history) next

namespace Run

variable {system : System State Event} {start state : State} {history : History State Event}

/-- Runs compose; the later history stands in front. -/
theorem append {middle : State} {earlier later : History State Event}
    (first : Run system start earlier middle) (second : Run system middle later state) :
    Run system start (later ++ earlier) state := by
  induction second with
  | nil => exact first
  | snoc _ step ih => exact ih.snoc step

/-- Every run of a restricted system is a run of the system. -/
theorem of_restrict {delivered : State → Event → Prop}
    (run : Run (system.restrict delivered) start history state) :
    Run system start history state := by
  induction run with
  | nil => exact .nil
  | snoc _ step ih => exact ih.snoc step.2

/-- Only delivered events occur in a run of a restricted system. -/
theorem delivered {delivered : State → Event → Prop}
    (run : Run (system.restrict delivered) start history state) :
    ∀ occurrence ∈ history, delivered occurrence.1 occurrence.2 := by
  induction run with
  | nil => simp
  | snoc _ step ih =>
      intro occurrence occurred
      rcases List.mem_cons.mp occurred with rfl | earlier
      · exact step.1
      · exact ih occurrence earlier

/-- A relation between history and state which holds at the start and is kept by every step
from a reached state holds at the end of every run. -/
theorem historyInvariant {motive : History State Event → State → Prop}
    (run : Run system start history state) (initial : motive [] start)
    (preserved : ∀ {history : History State Event} {state next : State} {event : Event},
      Run system start history state → motive history state →
      system.Step state event next → motive ((state, event) :: history) next) :
    motive history state := by
  induction run with
  | nil => exact initial
  | snoc run step ih => exact preserved run ih step

/-- An inductive invariant holds at the end of every run. -/
theorem invariant (holds : State → Prop) (run : Run system start history state)
    (initial : holds start)
    (preserved : ∀ {state next : State} {event : Event}, holds state →
      system.Step state event next → holds next) : holds state :=
  run.historyInvariant (motive := fun _ state => holds state) initial
    (fun _ kept step => preserved kept step)

/-- A run is cut at any of its occurrences: the older part of the history led to the state
in which the event was handled. -/
theorem before {older : History State Event} {occurrence : State × Event}
    (run : Run system start history state) (cut : occurrence :: older <:+ history) :
    Run system start older occurrence.1 ∧ ∃ next, system.Step occurrence.1 occurrence.2 next := by
  induction run with
  | nil => simp at cut
  | snoc run step ih =>
      rcases List.suffix_cons_iff.mp cut with whole | earlier
      · cases whole
        exact ⟨run, _, step⟩
      · exact ih earlier

/-- An account whose every step books `gain` holds the opening balance and everything
booked, in whatever it is counted. -/
theorem account {Worth : Type*} [AddCommMonoid Worth] (balance : State → Worth)
    (gain : State × Event → Worth) (run : Run system start history state)
    (booked : ∀ {history : History State Event} {state next : State} {event : Event},
      Run system start history state → system.Step state event next →
      balance next = balance state + gain (state, event)) :
    balance state = balance start + (history.map gain).sum := by
  apply run.historyInvariant
    (motive := fun history state => balance state = balance start + (history.map gain).sum)
    (by simp)
  intro history state next event run balanced step
  rw [booked run step, balanced, List.map_cons, List.sum_cons, add_assoc,
    add_comm (gain (state, event))]

/-- The account of a balance in whole numbers. -/
theorem ledger (balance : State → ℤ) (gain : State × Event → ℤ)
    (run : Run system start history state)
    (booked : ∀ {history : History State Event} {state next : State} {event : Event},
      Run system start history state → system.Step state event next →
      balance next = balance state + gain (state, event)) :
    balance state = balance start + (history.map gain).sum :=
  run.account balance gain booked

/-- Credit before spending: a unit is held only if it was held before or is credited now, and a
cost takes the unit held away.  Then the costs of a run never exceed its credits. -/
theorem covered (held : State → Bool) (cost credit : State × Event → Bool)
    (run : Run system start history state) (empty : held start = false)
    (paid : ∀ {history : History State Event} {state next : State} {event : Event},
      Run system start history state → system.Step state event next →
      (cost (state, event) = true → held state = true ∧ held next = false) ∧
        (held next = true → held state = true ∨ credit (state, event) = true)) :
    history.countP cost + (if held state then 1 else 0) ≤ history.countP credit := by
  apply run.historyInvariant
    (motive := fun history state =>
      history.countP cost + (if held state then 1 else 0) ≤ history.countP credit)
    (by simp [empty])
  intro history state next event run balanced step
  rcases paid run step with ⟨spends, gains⟩
  simp only [List.countP_cons]
  cases isCost : cost (state, event) with
  | true =>
      rcases spends isCost with ⟨wasHeld, gone⟩
      simp only [wasHeld, gone, if_true, Bool.false_eq_true, if_false] at balanced ⊢
      omega
  | false =>
      cases isHeld : held next with
      | true =>
          rcases gains isHeld with wasHeld | credited
          · simp only [wasHeld, if_true, Bool.false_eq_true, if_false] at balanced ⊢
            omega
          · simp only [credited, if_true, Bool.false_eq_true, if_false]
            omega
      | false =>
          simp only [Bool.false_eq_true, if_false]
          omega

/-- A measure which no step decreases is at its largest at the end of the run. -/
theorem monotone {Value : Type*} [Preorder Value] (measure : State → Value)
    (run : Run system start history state)
    (grows : ∀ {history : History State Event} {state next : State} {event : Event},
      Run system start history state → system.Step state event next →
      measure state ≤ measure next) :
    ∀ occurrence ∈ history, measure occurrence.1 ≤ measure state := by
  apply run.historyInvariant
    (motive := fun history state => ∀ occurrence ∈ history, measure occurrence.1 ≤ measure state)
    (by simp)
  intro history state next event run bounded step occurrence occurred
  rcases List.mem_cons.mp occurred with rfl | earlier
  · exact grows run step
  · exact (bounded occurrence earlier).trans (grows run step)

end Run

/-- From every state of an invariant some run reaches the goal, if from every such state without
the goal some run leads on to a state of the invariant in which the measure is smaller. -/
theorem exists_run_of_progress {system : System State Event} (holds goal : State → Prop)
    (measure : State → ℕ)
    (progress : ∀ {state : State}, holds state → ¬ goal state → ∃ history next,
      Run system state history next ∧ holds next ∧ measure next < measure state)
    {start : State} (initial : holds start) :
    ∃ history state, Run system start history state ∧ holds state ∧ goal state := by
  induction bound : measure start using Nat.strong_induction_on generalizing start with
  | _ bounded ih =>
      by_cases reached : goal start
      · exact ⟨[], start, .nil, initial, reached⟩
      · rcases progress initial reached with ⟨earlier, next, first, kept, smaller⟩
        rcases ih (measure next) (by omega) kept rfl with
          ⟨later, state, second, holdsThere, goalThere⟩
        exact ⟨later ++ earlier, state, first.append second, holdsThere, goalThere⟩

end Runs
