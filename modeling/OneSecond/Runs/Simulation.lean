import OneSecond.Runs.Basic

/-!
# Runs of a system and plays of a machine

A machine is a partial function: in a state it accepts an input, and moves, or
it does not.  `Bisimulation` compares a system with such a machine, over states
which are related and were reached.  Then every run of the system is a play of
the machine on the inputs its events stand for, and every play of the machine
is what some run amounts to.
-/

namespace Runs

universe u v w x

variable {State : Type u} {Event : Type v} {Position : Type w} {Input : Type x}

/-- Playing a script, its first input first; `none` when an input is not accepted. -/
def play (next : Position → Input → Option Position) (start : Position) (script : List Input) :
    Option Position :=
  script.foldlM next start

/-- What the events of a history stand for, in the order in which they came. -/
def inputs (input : Event → Input) (history : History State Event) : List Input :=
  (history.map fun occurrence => input occurrence.2).reverse

section Plays

variable {next : Position → Input → Option Position} {start : Position}

@[simp]
theorem play_nil : play next start [] = some start := rfl

theorem play_concat (script : List Input) (last : Input) :
    play next start (script ++ [last]) =
      (play next start script).bind fun position => next position last := by
  simp [play, List.foldlM_append, Option.bind_eq_bind]

theorem inputs_cons (input : Event → Input) (occurrence : State × Event)
    (history : History State Event) :
    inputs input (occurrence :: history) = inputs input history ++ [input occurrence.2] := by
  simp [inputs]

end Plays

/-- Reached states of the system and positions of the machine which are related move together. -/
structure Bisimulation (system : System State Event) (start : State)
    (next : Position → Input → Option Position) (input : Event → Input)
    (related : State → Position → Prop) : Prop where
  forth : ∀ {history : History State Event} {state after : State} {event : Event}
    {position : Position}, Run system start history state → related state position →
    system.Step state event after →
    ∃ moved, next position (input event) = some moved ∧ related after moved
  back : ∀ {history : History State Event} {state : State} {position moved : Position}
    {given : Input}, Run system start history state → related state position →
    next position given = some moved →
    ∃ event after, input event = given ∧ system.Step state event after ∧ related after moved

namespace Bisimulation

variable {system : System State Event} {start state : State} {history : History State Event}
  {next : Position → Input → Option Position} {input : Event → Input}
  {related : State → Position → Prop} {position opening : Position}

/-- A run of the system is a play of the machine. -/
theorem plays (bisimulation : Bisimulation system start next input related)
    (initial : related start opening) (run : Run system start history state) :
    ∃ position, play next opening (inputs input history) = some position ∧
      related state position := by
  induction run with
  | nil => exact ⟨opening, rfl, initial⟩
  | snoc run step ih =>
      rcases ih with ⟨position, played, relatedNow⟩
      rcases bisimulation.forth run relatedNow step with ⟨moved, accepted, relatedNext⟩
      refine ⟨moved, ?_, relatedNext⟩
      rw [inputs_cons, play_concat, played]
      exact accepted

/-- A play of the machine is what some run of the system amounts to. -/
theorem realizes (bisimulation : Bisimulation system start next input related)
    (initial : related start opening) {script : List Input}
    (played : play next opening script = some position) :
    ∃ history state, Run system start history state ∧ inputs input history = script ∧
      related state position := by
  induction script using List.reverseRecOn generalizing position with
  | nil =>
      have same : opening = position := Option.some.inj played
      subst same
      exact ⟨[], start, .nil, rfl, initial⟩
  | append_singleton script last ih =>
      rw [play_concat] at played
      rcases Option.bind_eq_some_iff.mp played with ⟨before, playedBefore, accepted⟩
      rcases ih playedBefore with ⟨history, state, run, same, relatedNow⟩
      rcases bisimulation.back run relatedNow accepted with
        ⟨event, after, stands, step, relatedNext⟩
      refine ⟨(state, event) :: history, after, run.snoc step, ?_, relatedNext⟩
      rw [inputs_cons, same, stands]

end Bisimulation

end Runs
