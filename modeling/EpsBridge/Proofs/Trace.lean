import EpsBridge.Program

/-!
# Traces of programs

Running a program by a handler gives a value and a state, and forgets what was
asked on the way.  The trace of a run keeps it: every action with its answer, in
the order of asking.  The history of a run keeps the state after each of them, too.

Runs, traces and histories follow the tree of a program.  What a bind does to them is one
equation each (`run_bind`, `trace_bind`, `history_bind`), so a program written with `do` is
taken apart action by action with these equations and those of `act` and `done`.

Where nothing is known of who answers, there are only the ways that lead through a program
(`Ends`), which are taken apart in the same manner (`ends_bind_iff`).
-/

namespace EpsBridge.Program

variable {ε α β σ : Type} (handler : Handler ε σ)

/-- An action and what it was answered. -/
structure Exchange (ε : Type) where
  action : Action ε
  answer : action.Answer

/-- The exchanges of a program with its handler, first one first. -/
def trace : Program ε α → σ → List (Exchange ε)
  | done _, _ => []
  | act action next, state =>
    ⟨action, (handler action state).1⟩ ::
      trace (next (handler action state).1) (handler action state).2

/-- The exchanges of a program with its handler, each with the state that it left. -/
def history : Program ε α → σ → List (Exchange ε × σ)
  | done _, _ => []
  | act action next, state =>
    (⟨action, (handler action state).1⟩, (handler action state).2) ::
      history (next (handler action state).1) (handler action state).2

/-! ## Runs -/

@[simp] theorem run_done (value : α) (state : σ) :
    (done value : Program ε α).run handler state = (value, state) := rfl

@[simp] theorem run_pure (value : α) (state : σ) :
    (pure value : Program ε α).run handler state = (value, state) := rfl

@[simp] theorem run_act (action : Action ε) (next : action.Answer → Program ε α) (state : σ) :
    (act action next).run handler state =
      (next (handler action state).1).run handler (handler action state).2 := rfl

@[simp] theorem run_bind (program : Program ε α) (next : α → Program ε β) (state : σ) :
    (program >>= next).run handler state =
      (next (program.run handler state).1).run handler (program.run handler state).2 := by
  induction program generalizing state with
  | done value => rfl
  | act action rest ih => exact ih _ _

/-! ## Traces -/

@[simp] theorem trace_done (value : α) (state : σ) :
    (done value : Program ε α).trace handler state = [] := rfl

@[simp] theorem trace_pure (value : α) (state : σ) :
    (pure value : Program ε α).trace handler state = [] := rfl

@[simp] theorem trace_act (action : Action ε) (next : action.Answer → Program ε α) (state : σ) :
    (act action next).trace handler state = ⟨action, (handler action state).1⟩ ::
      (next (handler action state).1).trace handler (handler action state).2 := rfl

@[simp] theorem trace_bind (program : Program ε α) (next : α → Program ε β) (state : σ) :
    (program >>= next).trace handler state =
      program.trace handler state ++
        (next (program.run handler state).1).trace handler (program.run handler state).2 := by
  induction program generalizing state with
  | done value => rfl
  | act action rest ih => exact congrArg (List.cons _) (ih _ _)

/-! ## Histories -/

@[simp] theorem history_done (value : α) (state : σ) :
    (done value : Program ε α).history handler state = [] := rfl

@[simp] theorem history_pure (value : α) (state : σ) :
    (pure value : Program ε α).history handler state = [] := rfl

@[simp] theorem history_act (action : Action ε) (next : action.Answer → Program ε α) (state : σ) :
    (act action next).history handler state =
      (⟨action, (handler action state).1⟩, (handler action state).2) ::
        (next (handler action state).1).history handler (handler action state).2 := rfl

@[simp] theorem history_bind (program : Program ε α) (next : α → Program ε β) (state : σ) :
    (program >>= next).history handler state =
      program.history handler state ++
        (next (program.run handler state).1).history handler (program.run handler state).2 := by
  induction program generalizing state with
  | done value => rfl
  | act action rest ih => exact congrArg (List.cons _) (ih _ _)

/-! ## Ways through a program -/

/-- What may be exchanged by a program from its beginning to its end, whoever answers, and the
value that it then has. -/
inductive Ends : Program ε α → List (Exchange ε) → α → Prop
  | done (value : α) : Ends (done value) [] value
  | act {action : Action ε} {next : action.Answer → Program ε α} {answer : action.Answer}
      {rest : List (Exchange ε)} {value : α} (hrest : Ends (next answer) rest value) :
      Ends (act action next) (⟨action, answer⟩ :: rest) value

variable {exchanges : List (Exchange ε)}

theorem ends_pure_iff {value last : α} :
    (pure value : Program ε α).Ends exchanges last ↔ exchanges = [] ∧ last = value := by
  constructor
  · intro hends
    cases hends with
    | done value => exact ⟨rfl, rfl⟩
  · rintro ⟨rfl, rfl⟩
    exact .done last

theorem ends_bind_iff {program : Program ε α} {next : α → Program ε β} {last : β} :
    (program >>= next).Ends exchanges last ↔
      ∃ first value second, exchanges = first ++ second ∧ program.Ends first value ∧
        (next value).Ends second last := by
  induction program generalizing exchanges with
  | done value =>
      constructor
      · intro hends
        exact ⟨[], value, exchanges, rfl, .done value, hends⟩
      · rintro ⟨first, middle, second, rfl, hfirst, hsecond⟩
        cases hfirst with
        | done => exact hsecond
  | act action rest ih =>
      constructor
      · intro hends
        cases hends with
        | act hrest =>
            obtain ⟨first, value, second, rfl, hfirst, hsecond⟩ := (ih _).mp hrest
            exact ⟨_ :: first, value, second, rfl, .act hfirst, hsecond⟩
      · rintro ⟨first, middle, second, rfl, hfirst, hsecond⟩
        cases hfirst with
        | act hrest => exact .act ((ih _).mpr ⟨_, _, _, rfl, hrest, hsecond⟩)

theorem ends_perform_bind_iff {action : Action ε} {next : action.Answer → Program ε α} {last : α} :
    (perform action >>= next).Ends exchanges last ↔
      ∃ answer rest, exchanges = ⟨action, answer⟩ :: rest ∧ (next answer).Ends rest last := by
  constructor
  · intro hends
    cases hends with
    | act hrest => exact ⟨_, _, rfl, hrest⟩
  · rintro ⟨answer, rest, rfl, hrest⟩
    exact .act hrest

theorem ends_perform_iff {action : Action ε} {answer : action.Answer} :
    (perform action).Ends exchanges answer ↔ exchanges = [⟨action, answer⟩] := by
  constructor
  · intro hends
    cases hends with
    | act hrest =>
        cases hrest with
        | done => rfl
  · rintro rfl
    exact .act (.done answer)

theorem ends_map_iff {f : α → β} {program : Program ε α} {last : β} :
    (f <$> program).Ends exchanges last ↔
      ∃ value, program.Ends exchanges value ∧ last = f value := by
  have hmap : f <$> program = program >>= fun value => pure (f value) := rfl
  rw [hmap, ends_bind_iff]
  constructor
  · rintro ⟨first, value, second, rfl, hfirst, hsecond⟩
    obtain ⟨rfl, rfl⟩ := ends_pure_iff.mp hsecond
    rw [List.append_nil]
    exact ⟨value, hfirst, rfl⟩
  · rintro ⟨value, hvalue, rfl⟩
    exact ⟨exchanges, value, [], (List.append_nil _).symm, hvalue, .done _⟩

end EpsBridge.Program
