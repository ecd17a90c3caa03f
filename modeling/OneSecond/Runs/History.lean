import OneSecond.Runs.Basic

/-!
# Reading histories

A history is read from its latest occurrence backwards.  `since reset history`
is the part after the last occurrence of a reset, and `Run.meter` says that a
counter which every step either resets to zero or advances by a number of units
shows the number of units advanced since the last reset.  The counter may exist
in some states only (`live`): a state in which it does not exist is left by a
reset.

`execute` runs an executable handler over a script of events, first event
first; `run_of_execute` turns its result into a run.
-/

namespace Runs

universe u v

variable {State : Type u} {Event : Type v}

/-- The occurrences after the last reset. -/
def since (reset : State × Event → Bool) (history : History State Event) :
    History State Event :=
  history.takeWhile fun occurrence => !reset occurrence

section Since

variable {reset : State × Event → Bool} {occurrence : State × Event}
  {history : History State Event}

@[simp]
theorem since_nil : since reset ([] : History State Event) = [] := rfl

theorem since_cons_of_reset (isReset : reset occurrence = true) :
    since reset (occurrence :: history) = [] := by
  simp [since, isReset]

theorem since_cons_of_not_reset (notReset : reset occurrence = false) :
    since reset (occurrence :: history) = occurrence :: since reset history := by
  simp [since, notReset]

theorem since_cons :
    since reset (occurrence :: history) =
      if reset occurrence then [] else occurrence :: since reset history := by
  cases isReset : reset occurrence with
  | true => simp [since_cons_of_reset isReset]
  | false => simp [since_cons_of_not_reset isReset]

/-- After more resets there is less to read. -/
theorem since_subset {oftener : State × Event → Bool}
    (resets : ∀ occurrence, reset occurrence = true → oftener occurrence = true)
    (history : History State Event) : since oftener history ⊆ since reset history := by
  induction history with
  | nil => exact List.Subset.refl _
  | cons occurrence history ih =>
      cases isOftener : oftener occurrence with
      | true =>
          rw [since_cons_of_reset isOftener]
          exact List.nil_subset _
      | false =>
          have notReset : reset occurrence = false := by
            rw [Bool.eq_false_iff]
            intro isReset
            rw [resets occurrence isReset] at isOftener
            cases isOftener
          rw [since_cons_of_not_reset isOftener, since_cons_of_not_reset notReset]
          exact List.cons_subset_cons occurrence ih

/-- Every number of counted occurrences below the present one was the present one when a counted
occurrence came. -/
theorem exists_counted_since {counted : State × Event → Bool} {number : ℕ}
    (below : number < (since reset history).countP counted) :
    ∃ occurrence older, occurrence :: older <:+ history ∧ counted occurrence = true ∧
      (since reset older).countP counted = number ∧ since reset older ⊆ since reset history := by
  induction history with
  | nil => simp at below
  | cons occurrence history ih =>
      cases isReset : reset occurrence with
      | true => simp [since_cons_of_reset isReset] at below
      | false =>
          rw [since_cons_of_not_reset isReset] at below ⊢
          have grows : since reset history ⊆ occurrence :: since reset history :=
            List.subset_cons_self ..
          by_cases earlier : number < (since reset history).countP counted
          · rcases ih earlier with ⟨found, older, cut, isCounted, reached, part⟩
            exact ⟨found, older, cut.trans (List.suffix_cons ..), isCounted, reached,
              List.Subset.trans part grows⟩
          · cases isCounted : counted occurrence with
            | true =>
                rw [List.countP_cons_of_pos isCounted] at below
                exact ⟨occurrence, history, List.suffix_refl _, isCounted, by omega, grows⟩
            | false =>
                rw [List.countP_cons_of_neg (by simp [isCounted])] at below
                exact absurd below earlier

end Since

namespace Run

variable {system : System State Event} {start state : State} {history : History State Event}

/-- A counter with resets shows what was counted since the last reset. -/
theorem meter (live : State → Prop) (value : State → ℤ) (reset : State × Event → Bool)
    (units : State × Event → ℕ)
    (run : Run system start history state)
    (initial : live start → value start = 0)
    (counts : ∀ {history : History State Event} {state next : State} {event : Event},
      Run system start history state → system.Step state event next → live next →
      if reset (state, event) then value next = 0
      else live state ∧ value next = value state + units (state, event)) :
    live state → value state = (((since reset history).map units).sum : ℕ) := by
  apply run.historyInvariant
    (motive := fun history state =>
      live state → value state = (((since reset history).map units).sum : ℕ))
    (by simpa using initial)
  intro history state next event run shown step alive
  have counted := counts run step alive
  cases isReset : reset (state, event) with
  | true => simpa [since_cons_of_reset isReset, isReset] using counted
  | false =>
      rw [isReset] at counted
      rcases counted with ⟨wasAlive, advanced⟩
      rw [since_cons_of_not_reset isReset, advanced, shown wasAlive]
      simp only [List.map_cons, List.sum_cons]
      omega

/-- A permission which a use takes away, and which only a reset gives back, is used at most
once between two resets; while it stands it has not been used. -/
theorem atMostOnce (permitted : History State Event → State → Prop)
    (reset use : State × Event → Bool)
    (run : Run system start history state)
    (guarded : ∀ {history : History State Event} {state next : State} {event : Event},
      Run system start history state → system.Step state event next →
      reset (state, event) = false →
      (use (state, event) = true → permitted history state) ∧
        (permitted ((state, event) :: history) next →
          permitted history state ∧ use (state, event) = false)) :
    (since reset history).countP use ≤ 1 ∧
      (permitted history state → (since reset history).countP use = 0) := by
  apply run.historyInvariant
    (motive := fun history state => (since reset history).countP use ≤ 1 ∧
      (permitted history state → (since reset history).countP use = 0))
    (by simp)
  intro history state next event run unused step
  rcases unused with ⟨atMost, notYet⟩
  cases isReset : reset (state, event) with
  | true => simp [since_cons_of_reset isReset]
  | false =>
      rcases guarded run step isReset with ⟨needs, keeps⟩
      rw [since_cons_of_not_reset isReset]
      cases isUse : use (state, event) with
      | true =>
          have before := notYet (needs isUse)
          rw [List.countP_cons_of_pos isUse]
          refine ⟨by omega, ?_⟩
          intro permittedNext
          have unusedNow := (keeps permittedNext).2
          simp [isUse] at unusedNow
      | false =>
          rw [List.countP_cons_of_neg (by simp [isUse])]
          refine ⟨atMost, ?_⟩
          intro permittedNext
          exact notYet (keeps permittedNext).1

end Run

/-- Counting occurrences is summing one unit for each. -/
theorem sum_map_ite_eq_countP (counted : State × Event → Bool) (history : History State Event) :
    (history.map fun occurrence => if counted occurrence then 1 else 0).sum =
      history.countP counted := by
  induction history with
  | nil => rfl
  | cons occurrence history ih =>
      cases isCounted : counted occurrence with
      | true => simp [isCounted, ih, Nat.add_comm]
      | false => simp [isCounted, ih]

/-- One unit in for some occurrences, a fixed price out for others. -/
theorem sum_map_sub_ite (earns pays : State × Event → Bool) (price : ℤ)
    (history : History State Event) :
    (history.map fun occurrence =>
        (if earns occurrence then 1 else 0) - if pays occurrence then price else 0).sum =
      (history.countP earns : ℤ) - price * history.countP pays := by
  induction history with
  | nil => simp
  | cons occurrence history ih =>
      rw [List.map_cons, List.sum_cons, ih]
      cases isEarned : earns occurrence <;> cases isPaid : pays occurrence <;>
        simp [isEarned, isPaid, Int.mul_add] <;> omega

/-- Handle a script of events one after the other; `none` when one of them cannot occur. -/
def execute (next : State → Event → Option State) :
    State → List Event → Option (History State Event × State)
  | start, [] => some ([], start)
  | start, event :: script =>
      match next start event with
      | none => none
      | some middle =>
          (execute next middle script).map fun result =>
            (result.1 ++ [(start, event)], result.2)

theorem run_of_execute {system : System State Event} {next : State → Event → Option State}
    (sound : ∀ {state event after}, next state event = some after →
      system.Step state event after)
    {start : State} {script : List Event} {result : History State Event × State}
    (executed : execute next start script = some result) :
    Run system start result.1 result.2 := by
  induction script generalizing start result with
  | nil =>
      simp only [execute, Option.some.injEq] at executed
      subst executed
      exact .nil
  | cons event script ih =>
      simp only [execute] at executed
      split at executed
      · simp at executed
      · next middle handled =>
          rcases Option.map_eq_some_iff.mp executed with ⟨rest, restExecuted, rfl⟩
          exact (Run.nil.snoc (sound handled)).append (ih restExecuted)

/-- A script which can be executed to its end is a run, of which anything may be tested. -/
theorem exists_run_of_execute {system : System State Event}
    {next : State → Event → Option State}
    (sound : ∀ {state event after}, next state event = some after →
      system.Step state event after)
    {start : State} (script : List Event) (test : History State Event → State → Bool)
    (passes : (execute next start script).any (fun result => test result.1 result.2) = true) :
    ∃ history state, Run system start history state ∧ test history state = true := by
  rcases Option.any_eq_true _ _ |>.mp passes with ⟨result, executed, tested⟩
  exact ⟨result.1, result.2, run_of_execute sound executed, tested⟩

/-- The same in a restricted system, where what is not delivered cannot occur. -/
theorem exists_restricted_run {system : System State Event} {delivered : State → Event → Prop}
    [∀ state event, Decidable (delivered state event)] {next : State → Event → Option State}
    (sound : ∀ {state event after}, next state event = some after →
      system.Step state event after)
    {start : State} (script : List Event) (test : History State Event → State → Bool)
    (passes : (execute (fun state event =>
      if delivered state event then next state event else none) start script).any
        (fun result => test result.1 result.2) = true) :
    ∃ history state, Run (system.restrict delivered) start history state ∧
      test history state = true := by
  apply exists_run_of_execute ?_ script test passes
  intro state event after handled
  rw [Option.ite_none_right_eq_some] at handled
  exact ⟨handled.1, sound handled.2⟩

end Runs
