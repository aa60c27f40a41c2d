import EpsBridge.Proofs.Trace
import Mathlib.Logic.Relation

/-!
# Executions of several threads

Several threads take the steps of their programs in any order.  A `World` says what
each step may come to: how an action may be answered, what state it may leave, and how
the state may change while no thread steps.  It may leave open what an engine does, and
so stand for every engine at once.

An `Execution` keeps everything that was exchanged.  What one thread has exchanged is
its past, and what a thread does next depends on its past alone.  So a program that
keeps to a rule by itself (`Program.Keeps`, one equation a constructor and one lemma for
bind) keeps to it among any others, whatever they do (`keepsAll_of_reaches`).
-/

namespace EpsBridge

open Program

variable {ε α β σ : Type}

/-- An exchange of a thread, and the state that it left. -/
structure Entry (ε σ : Type) where
  thread : Nat
  exchange : Exchange ε
  state : σ

/-- What one thread has exchanged, out of what all threads have. -/
def pastOf (history : List (Entry ε σ)) (thread : Nat) : List (Exchange ε) :=
  (history.filter fun entry => entry.thread == thread).map Entry.exchange

theorem pastOf_append_singleton (history : List (Entry ε σ)) (entry : Entry ε σ) (thread : Nat) :
    pastOf (history ++ [entry]) thread =
      if entry.thread = thread then pastOf history thread ++ [entry.exchange]
      else pastOf history thread := by
  by_cases hthread : entry.thread = thread
  · simp [pastOf, hthread]
  · simp [pastOf, hthread]

/-- Threads somewhere in their programs, with what they have exchanged, first things
first. -/
structure Execution (ε α σ : Type) where
  programs : List (Program ε α)
  history : List (Entry ε σ)
  state : σ

namespace Execution

/-- Threads that have done nothing yet. -/
def start (programs : List (Program ε α)) (state : σ) : Execution ε α σ := ⟨programs, [], state⟩

/-- What a thread has exchanged. -/
def past (execution : Execution ε α σ) (thread : Nat) : List (Exchange ε) :=
  pastOf execution.history thread

/-- The execution after an exchange of a thread. -/
def record (execution : Execution ε α σ) (thread : Nat) (exchange : Exchange ε)
    (rest : Program ε α) (state : σ) : Execution ε α σ :=
  ⟨execution.programs.set thread rest, execution.history ++ [⟨thread, exchange, state⟩], state⟩

theorem past_record_self (execution : Execution ε α σ) (thread : Nat) (exchange : Exchange ε)
    (rest : Program ε α) (state : σ) :
    (execution.record thread exchange rest state).past thread =
      execution.past thread ++ [exchange] := by
  rw [past, record, pastOf_append_singleton, if_pos rfl, past]

theorem past_record_of_ne (execution : Execution ε α σ) {thread other : Nat}
    (hother : other ≠ thread) (exchange : Exchange ε) (rest : Program ε α) (state : σ) :
    (execution.record thread exchange rest state).past other = execution.past other := by
  rw [past, record, pastOf_append_singleton, if_neg (Ne.symm hother), past]

end Execution

/-- What may happen while threads run. -/
structure World (ε α σ : Type) where
  /-- How an action of a thread may be answered, and the state that it may leave. -/
  answers : Execution ε α σ → Nat → Exchange ε → σ → Prop
  /-- What the state may become while no thread steps. -/
  drifts : Execution ε α σ → σ → Prop

/-- What may happen next. -/
inductive Step (world : World ε α σ) : Execution ε α σ → Execution ε α σ → Prop
  /-- A thread makes an exchange. -/
  | act {execution : Execution ε α σ} {thread : Nat} {action : Action ε}
      {next : action.Answer → Program ε α} {answer : action.Answer} {after : σ}
      (hprogram : execution.programs[thread]? = some (.act action next))
      (hanswer : world.answers execution thread ⟨action, answer⟩ after) :
      Step world execution (execution.record thread ⟨action, answer⟩ (next answer) after)
  /-- The state changes. -/
  | drift {execution : Execution ε α σ} {after : σ} (hdrift : world.drifts execution after) :
      Step world execution { execution with state := after }

/-- What may happen in any number of steps. -/
abbrev Reaches (world : World ε α σ) : Execution ε α σ → Execution ε α σ → Prop :=
  Relation.ReflTransGen (Step world)

/-- What is no thread has exchanged nothing. -/
theorem past_eq_nil_of_reaches {world : World ε α σ} {first execution : Execution ε α σ}
    (hreaches : Reaches world first execution) (hfirst : first.history = []) {thread : Nat}
    (hthread : execution.programs[thread]? = none) : execution.past thread = [] := by
  induction hreaches with
  | refl => rw [Execution.past, hfirst]; rfl
  | tail _ hstep ih =>
      cases hstep with
      | drift hdrift => exact ih hthread
      | @act other action next answer after hprogram hanswer =>
          rw [Execution.record, List.getElem?_set] at hthread
          by_cases hother : other = thread
          · have hlength := (List.getElem?_eq_some_iff.mp hprogram).1
            rw [if_pos hother, if_pos (hother ▸ hlength)] at hthread
            cases hthread
          · rw [if_neg hother] at hthread
            rw [Execution.past_record_of_ne _ (Ne.symm hother)]
            exact ih hthread

/-! ## Programs that keep to a rule -/

namespace Program

/-- A program that performs only actions which a rule permits after what was exchanged
before, and ends as it should, as long as it gets answers that are possible. -/
def Keeps (permits : List (Exchange ε) → Action ε → Prop) (possible : Exchange ε → Prop)
    (ends : List (Exchange ε) → α → Prop) : Program ε α → List (Exchange ε) → Prop
  | done value, past => ends past value
  | act action next, past => permits past action ∧ ∀ answer, possible ⟨action, answer⟩ →
      (next answer).Keeps permits possible ends (past ++ [⟨action, answer⟩])

variable {permits : List (Exchange ε) → Action ε → Prop} {possible : Exchange ε → Prop}
  {past : List (Exchange ε)}

/-- What keeps to a rule piece by piece keeps to it as a whole. -/
theorem Keeps.bind {middle : List (Exchange ε) → α → Prop} {ends : List (Exchange ε) → β → Prop}
    {program : Program ε α} {next : α → Program ε β}
    (hprogram : program.Keeps permits possible middle past)
    (hnext : ∀ later value, middle later value → (next value).Keeps permits possible ends later) :
    (program >>= next).Keeps permits possible ends past := by
  induction program generalizing past with
  | done value => exact hnext past value hprogram
  | act action rest ih =>
      exact ⟨hprogram.1, fun answer hanswer => ih answer (hprogram.2 answer hanswer)⟩

/-- What keeps to a rule keeps to every rule that permits as much and asks no more. -/
theorem Keeps.mono {laxer : List (Exchange ε) → Action ε → Prop}
    {ends later : List (Exchange ε) → α → Prop} {program : Program ε α}
    (hprogram : program.Keeps permits possible ends past)
    (hpermits : ∀ past action, permits past action → laxer past action)
    (hends : ∀ past value, ends past value → later past value) :
    program.Keeps laxer possible later past := by
  induction program generalizing past with
  | done value => exact hends past value hprogram
  | act action rest ih =>
      exact ⟨hpermits past action hprogram.1,
        fun answer hanswer => ih answer (hprogram.2 answer hanswer)⟩

/-- One action, and what follows it. -/
theorem Keeps.perform {ends : List (Exchange ε) → α → Prop} {action : Action ε}
    {next : action.Answer → Program ε α} (hpermits : permits past action)
    (hnext : ∀ answer, possible ⟨action, answer⟩ →
      (next answer).Keeps permits possible ends (past ++ [⟨action, answer⟩])) :
    (Program.perform action >>= next).Keeps permits possible ends past :=
  ⟨hpermits, hnext⟩

/-- What keeps to a rule ends where one of the ways through the program leads. -/
theorem Keeps.and_ends {ends : List (Exchange ε) → α → Prop} {program : Program ε α}
    (hprogram : program.Keeps permits possible ends past) :
    program.Keeps permits possible (fun later value => ends later value ∧
      ∃ exchanges, later = past ++ exchanges ∧ program.Ends exchanges value) past := by
  induction program generalizing past with
  | done value => exact ⟨hprogram, [], (List.append_nil past).symm, .done value⟩
  | act action rest ih =>
      refine ⟨hprogram.1, fun answer hanswer => ?_⟩
      refine (ih answer (hprogram.2 answer hanswer)).mono (fun _ _ hpermits => hpermits) ?_
      rintro later value ⟨hends, exchanges, rfl, hway⟩
      exact ⟨hends, _, by rw [List.append_assoc]; rfl, .act hway⟩

/-- What was asked in a run, the rule permitted, and the run ends as it should. -/
theorem Keeps.trace {ends : List (Exchange ε) → α → Prop} {program : Program ε α}
    (hprogram : program.Keeps permits possible ends past) (handler : Handler ε σ) (state : σ)
    (hpossible : ∀ exchange ∈ program.trace handler state, possible exchange) :
    (∀ before exchange after, program.trace handler state = before ++ exchange :: after →
      permits (past ++ before) exchange.action) ∧
      ends (past ++ program.trace handler state) (program.run handler state).1 := by
  induction program generalizing past state with
  | done value =>
      refine ⟨fun before exchange after htrace => ?_, ?_⟩
      · exact absurd htrace.symm (List.append_ne_nil_of_right_ne_nil _ (List.cons_ne_nil _ _))
      · rw [trace_done, List.append_nil]
        exact hprogram
  | act action rest ih =>
      obtain ⟨hpermits, hrest⟩ := hprogram
      have hanswer := hpossible _ List.mem_cons_self
      have hlater := ih _ (hrest _ hanswer) _ fun exchange hexchange =>
        hpossible exchange (List.mem_cons_of_mem _ hexchange)
      rw [List.append_assoc] at hlater
      refine ⟨fun before exchange after htrace => ?_, hlater.2⟩
      rw [trace_act] at htrace
      cases before with
      | nil =>
          obtain ⟨rfl, -⟩ := List.cons.inj htrace
          rw [List.append_nil]
          exact hpermits
      | cons first before =>
          obtain ⟨rfl, htail⟩ := List.cons.inj htrace
          have hpermitted := hlater.1 before exchange after htail
          rwa [List.append_assoc] at hpermitted

end Program

/-! ## Rules in executions -/

section Rules

variable {world : World ε α σ} {first execution : Execution ε α σ}
  {permits : Nat → List (Exchange ε) → Action ε → Prop} {possible : Nat → Exchange ε → Prop}
  {ends : Nat → List (Exchange ε) → α → Prop}

/-- Threads whose programs keep to their rules, each from its past on. -/
def KeepsAll (permits : Nat → List (Exchange ε) → Action ε → Prop)
    (possible : Nat → Exchange ε → Prop) (ends : Nat → List (Exchange ε) → α → Prop)
    (execution : Execution ε α σ) : Prop :=
  ∀ thread (program : Program ε α), execution.programs[thread]? = some program →
    program.Keeps (permits thread) (possible thread) (ends thread) (execution.past thread)

theorem keepsAll_start {programs : List (Program ε α)} {state : σ}
    (hprograms : ∀ thread (program : Program ε α), programs[thread]? = some program →
      program.Keeps (permits thread) (possible thread) (ends thread) []) :
    KeepsAll permits possible ends (Execution.start programs state) :=
  hprograms

theorem keepsAll_step {later : Execution ε α σ}
    (hpossible : ∀ execution thread exchange after,
      permits thread (execution.past thread) exchange.action →
      world.answers execution thread exchange after → possible thread exchange)
    (hkeeps : KeepsAll permits possible ends execution) (hstep : Step world execution later) :
    KeepsAll permits possible ends later := by
  cases hstep with
  | drift hdrift => exact hkeeps
  | @act thread action next answer after hprogram hanswer =>
      intro other program hother
      by_cases hthread : other = thread
      · subst hthread
        rw [Execution.past_record_self]
        have hset : (execution.programs.set other (next answer))[other]? = some (next answer) :=
          List.getElem?_set_self (List.getElem?_eq_some_iff.mp hprogram).1
        obtain rfl := Option.some.inj (hother.symm.trans hset)
        obtain ⟨hpermits, hrest⟩ := hkeeps _ _ hprogram
        exact hrest answer (hpossible _ _ _ _ hpermits hanswer)
      · rw [Execution.past_record_of_ne _ hthread]
        refine hkeeps other program ?_
        rw [← hother]
        exact (List.getElem?_set_ne (Ne.symm hthread)).symm

/-- Programs that keep to their rules keep to them in every execution. -/
theorem keepsAll_of_reaches
    (hpossible : ∀ execution thread exchange after,
      permits thread (execution.past thread) exchange.action →
      world.answers execution thread exchange after → possible thread exchange)
    (hkeeps : KeepsAll permits possible ends first) (hreaches : Reaches world first execution) :
    KeepsAll permits possible ends execution := by
  induction hreaches with
  | refl => exact hkeeps
  | tail _ hstep ih => exact keepsAll_step hpossible ih hstep

/-- What holds of a thread at first, and is kept by each of its exchanges, holds of its past. -/
theorem past_of_reaches {thread : Nat} {holds : List (Exchange ε) → Prop}
    (hfirst : holds (first.past thread))
    (hstep : ∀ earlier action next answer, Reaches world first earlier →
      earlier.programs[thread]? = some (.act action next) → holds (earlier.past thread) →
      holds (earlier.past thread ++ [⟨action, answer⟩]))
    (hreaches : Reaches world first execution) : holds (execution.past thread) := by
  induction hreaches with
  | refl => exact hfirst
  | tail hearlier hnext ih =>
      cases hnext with
      | drift hdrift => exact ih
      | @act other action next answer after hprogram hanswer =>
          by_cases hthread : thread = other
          · subst hthread
            rw [Execution.past_record_self]
            exact hstep _ _ _ _ hearlier hprogram ih
          · rw [Execution.past_record_of_ne _ hthread]
            exact ih

/-- Whatever was exchanged was the next thing to do for its thread at the time. -/
theorem exists_reaches_of_mem_history {before after : List (Entry ε σ)} {entry : Entry ε σ}
    (hreaches : Reaches world first execution) (hfirst : first.history = [])
    (hhistory : execution.history = before ++ entry :: after) :
    ∃ earlier next, Reaches world first earlier ∧ earlier.history = before ∧
      earlier.programs[entry.thread]? = some (.act entry.exchange.action next) ∧
      world.answers earlier entry.thread entry.exchange entry.state := by
  induction hreaches generalizing after with
  | refl =>
      rw [hfirst] at hhistory
      exact absurd hhistory.symm (List.append_ne_nil_of_right_ne_nil _ (List.cons_ne_nil _ _))
  | @tail earlier later hearlier hstep ih =>
      cases hstep with
      | drift hdrift => exact ih hhistory
      | @act thread action next answer state hprogram hanswer =>
          -- the entry is the last one, or one of those before the last
          rcases List.eq_nil_or_concat after with rfl | ⟨between, last, rfl⟩
          · obtain ⟨rfl, hentry⟩ := List.append_inj' hhistory rfl
            obtain rfl := (List.singleton_inj.mp hentry)
            exact ⟨earlier, next, hearlier, rfl, hprogram, hanswer⟩
          · have hinit : earlier.history ++ [⟨thread, ⟨action, answer⟩, state⟩] =
                (before ++ entry :: between) ++ [last] := by
              simpa [Execution.record] using hhistory
            exact ih (List.append_inj' hinit rfl).1

end Rules

end EpsBridge
