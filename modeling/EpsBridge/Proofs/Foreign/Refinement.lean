import EpsBridge.Proofs.Foreign.OnHost
import EpsBridge.Proofs.Foreign.Progress
import Mathlib.Tactic.ByContra

/-!
# Foreign calls refine the operations of bridges

Whatever calls are made, by whatever threads and in whatever order, each is answered as its
operation is (`answered_of_boundary`), and the number of a thread is the one that the last of its
calls left.

The numbers are where the order of calls counts.  A thread's number changes when a call of this
thread ends that leaves one, and at no other time, so it is known whenever the thread is between
two of its calls (`lastErrors_of_between`).
-/

namespace EpsBridge.Foreign

open Program Program.Exchange

variable {ε α : Type}

/-! ## What a call was told -/

/-- Whether a call is told something when it acts: by the slot, a load, or an engine. -/
def informs : Action ε → Bool
  | .readSlot | .load _ | .revision _ | .create _ | .start _ _ _ _ | .stop _ _ _
  | .discard _ _ false => true
  | _ => false

/-- What a call was told by the slot, by loads, and by engines. -/
def told (past : List (Exchange ε)) : List (Exchange ε) :=
  past.filter fun exchange => informs exchange.action

theorem told_cons (exchange : Exchange ε) (rest : List (Exchange ε)) :
    told (exchange :: rest) =
      if informs exchange.action then exchange :: told rest else told rest :=
  List.filter_cons

/-- Two ways through a program on which the same is told are one way, as all else that the
program may do has but one answer. -/
theorem eq_of_told {permits : List (Exchange ε) → Action ε → Prop}
    {ends : List (Exchange ε) → α → Prop} {program : Program ε α} {past : List (Exchange ε)}
    (hkeeps : program.Keeps permits (fun _ => True) ends past)
    (hsilent : ∀ past action, permits past action → informs action = false →
      Subsingleton action.Answer)
    {first second : List (Exchange ε)} {value other : α} (hfirst : program.Ends first value)
    (hsecond : program.Ends second other) (htold : told first = told second) :
    first = second ∧ value = other := by
  induction hfirst generalizing past second with
  | done value =>
      cases hsecond with
      | done => exact ⟨rfl, rfl⟩
  | @act action next answer rest value hrest ih =>
      cases hsecond with
      | @act _ _ reply later _ hlater =>
          obtain ⟨hpermits, hnext⟩ := hkeeps
          have hsame : answer = reply ∧ told rest = told later := by
            rw [told_cons, told_cons] at htold
            cases hinforms : informs action with
            | true =>
                rw [if_pos hinforms, if_pos hinforms] at htold
                obtain ⟨hexchange, hrest⟩ := List.cons.inj htold
                exact ⟨eq_of_heq (Exchange.mk.inj hexchange).2, hrest⟩
            | false =>
                have hsilence : ¬ informs action = true := Bool.eq_false_iff.mp hinforms
                rw [if_neg hsilence, if_neg hsilence] at htold
                have hunit := hsilent past action hpermits hinforms
                exact ⟨Subsingleton.elim answer reply, htold⟩
          obtain ⟨rfl, hrest⟩ := hsame
          obtain ⟨rfl, rfl⟩ := ih (hnext answer trivial) hlater hrest
          exact ⟨rfl, rfl⟩

/-- A call that asks for no number comes to what it was told. -/
theorem eq_of_told_call {call : Call ε} (hcall : call ≠ .lastError)
    {first second : List (Exchange ε)} {value other : Value}
    (hfirst : call.program.Ends first value) (hsecond : call.program.Ends second other)
    (htold : told first = told second) :
    first = second ∧ value = other := by
  refine eq_of_told (keeps_program call) ?_ hfirst hsecond htold
  intro past action hpermits hsilent
  cases action with
  | lockEngine | unlockEngine | lockSlot | unlockSlot | fillSlot bridge | writeLastError number =>
      exact inferInstanceAs (Subsingleton Unit)
  | discard engine handle unwinding =>
      cases unwinding with
      | true => exact inferInstanceAs (Subsingleton Unit)
      | false => cases hsilent
  | readLastError => exact absurd (hpermits.allows nofun) hcall
  | readSlot | load path | revision engine | create engine | start engine handle argv capture
  | stop engine handle capture => cases hsilent
  | _ => exact (hpermits.allows nofun).elim

/-! ## The numbers of threads -/

/-- The number that a call left as the last thing it did. -/
def numberLeft (past : List (Exchange ε)) : Nat :=
  match past.getLast? with
  | some ⟨.writeLastError number, _⟩ => number
  | _ => 0

/-- The number that a thread's latest call before a position left; zero if there is none. -/
def leftBefore (callers : List (Nat × Call ε)) (execution : Execution ε Value (Boundary ε))
    (thread : Nat) : Nat → Nat
  | 0 => 0
  | index + 1 =>
    match callers[index]? with
    | some (other, call) =>
      if other = thread ∧ call.records = true then numberLeft (execution.past index)
      else leftBefore callers execution thread index
    | none => leftBefore callers execution thread index

/-- A thread that is between two of its calls: those before a position have ended, and no later
one has begun.  Calls that leave no number do not count. -/
def Between (callers : List (Nat × Call ε)) (execution : Execution ε Value (Boundary ε))
    (thread bound : Nat) : Prop :=
  ∀ index call, callers[index]? = some (thread, call) → call.records = true →
    if index < bound then ∃ value, execution.programs[index]? = some (.done value)
    else execution.past index = []

variable {callers : List (Nat × Call ε)} {execution later : Execution ε Value (Boundary ε)}
  {thread bound index : Nat}

theorem leftBefore_congr (hsame : ∀ index < bound, ∀ call, callers[index]? = some (thread, call) →
      call.records = true → later.past index = execution.past index) :
    leftBefore callers later thread bound = leftBefore callers execution thread bound := by
  induction bound with
  | zero => rfl
  | succ bound ih =>
      have hearlier := ih fun index hlt => hsame index (Nat.lt_succ_of_lt hlt)
      unfold leftBefore
      cases hcaller : callers[bound]? with
      | none => exact hearlier
      | some caller =>
          obtain ⟨other, call⟩ := caller
          dsimp only
          by_cases hcounts : other = thread ∧ call.records = true
          · obtain ⟨rfl, hrecords⟩ := hcounts
            rw [if_pos ⟨rfl, hrecords⟩, if_pos ⟨rfl, hrecords⟩,
              hsame bound (Nat.lt_succ_self bound) call hcaller hrecords]
          · rw [if_neg hcounts, if_neg hcounts]
            exact hearlier

/-- The last call before a position that counts decides. -/
theorem leftBefore_eq_numberLeft {call : Call ε} (hlt : index < bound)
    (hcaller : callers[index]? = some (thread, call)) (hrecords : call.records = true)
    (hlast : ∀ other < bound, index < other → ∀ call, callers[other]? = some (thread, call) →
      call.records = false) :
    leftBefore callers execution thread bound = numberLeft (execution.past index) := by
  induction bound with
  | zero => exact absurd hlt (Nat.not_lt_zero index)
  | succ bound ih =>
      unfold leftBefore
      rcases Nat.lt_succ_iff_lt_or_eq.mp hlt with hearlier | rfl
      · have hrest := ih hearlier fun other hother => hlast other (Nat.lt_succ_of_lt hother)
        cases hbound : callers[bound]? with
        | none => exact hrest
        | some caller =>
            obtain ⟨other, next⟩ := caller
            dsimp only
            rw [if_neg, hrest]
            rintro ⟨rfl, hcounts⟩
            have hnone := hlast bound (Nat.lt_succ_self bound) hearlier next hbound
            exact Bool.false_ne_true (hnone.symm.trans hcounts)
      · rw [hcaller]
        exact if_pos ⟨rfl, hrecords⟩

/-- A call that leaves a number does so last. -/
theorem exists_numberLeft {call : Call ε} {exchanges : List (Exchange ε)} {value : Value}
    (hrecords : call.records = true) (hanswered : call.Answered exchanges value) :
    ∃ before, exchanges = before ++ [⟨.writeLastError (numberLeft exchanges), ()⟩] := by
  have hlast : ∀ before number, exchanges = before ++ [⟨.writeLastError number, ()⟩] →
      ∃ before, exchanges = before ++ [⟨.writeLastError (numberLeft exchanges), ()⟩] := by
    intro before number hexchanges
    refine ⟨before, ?_⟩
    rw [hexchanges, numberLeft, List.getLast?_concat]
  cases hanswered with
  | installed bridge | freed text | told number => cases hrecords
  | refused hpath => exact hlast [] _ rfl
  | notLoaded hpath hloaded => exact hlast _ _ rfl
  | @initialized path requested loaded bridge hpath hloaded =>
      exact hlast (loaded ++ [⟨.lockSlot, ()⟩, ⟨.fillSlot bridge, ()⟩, ⟨.unlockSlot, ()⟩]) 0
        (by rw [List.append_assoc]; rfl)
  | operated hoperation hanswered =>
      cases hanswered with
      | refused harguments => exact hlast [] _ rfl
      | unavailable harguments htaken => exact hlast _ _ rfl
      | succeeded harguments htaken hworked => exact hlast _ _ rfl
      | failed harguments htaken hworked => exact hlast _ _ rfl
      | panicked harguments htaken hworked => exact hlast _ _ rfl

section

variable {call : Call ε} {exchange : Exchange ε} {rest : Program ε Value} {after : Boundary ε}

/-- Only a call that leaves a number changes one, and that of its own thread. -/
theorem lastErrors_of_answers {other : Nat} {standing : Standing ε}
    (hpermits : call.Permits standing exchange.action)
    (hanswers : execution.state.Answers other after exchange)
    (hcounts : ¬ (other = thread ∧ call.records = true)) :
    after.lastErrors thread = execution.state.lastErrors thread := by
  obtain ⟨action, answer⟩ := exchange
  cases action with
  | writeLastError number =>
      obtain rfl := hanswers
      have hrecords := (hpermits.allows nofun).1
      exact if_neg fun hthread => hcounts ⟨hthread.symm, hrecords⟩
  | lockSlot | lockEngine | readSlot | readLastError =>
      obtain ⟨-, rfl⟩ := hanswers
      rfl
  | _ =>
      obtain rfl := hanswers
      rfl

/-- A call that is not over keeps the later calls of its thread from beginning. -/
theorem past_eq_nil_of_running {first second : Nat} {action : Action ε}
    {next : action.Answer → Program ε Value}
    (hreaches : Reaches (boundaryWorld callers) (firstOf callers) execution)
    (hprogram : execution.programs[first]? = some (.act action next)) (hlt : first < second)
    (hthread : threadOf callers first = threadOf callers second) : execution.past second = [] := by
  by_contra hbegun
  obtain ⟨value, hdone⟩ := turn_of_past hreaches hbegun first hlt hthread
  cases hprogram.symm.trans hdone

theorem past_ne_nil_of_done
    (hreaches : Reaches (boundaryWorld callers) (firstOf callers) execution)
    (hcaller : callers[index]? = some (thread, call)) (hrecords : call.records = true)
    {value : Value} (hdone : execution.programs[index]? = some (.done value)) :
    execution.past index ≠ [] := by
  obtain ⟨before, hpast⟩ :=
    exists_numberLeft hrecords (answered_of_boundary hreaches hcaller hdone).1
  rw [hpast]
  exact List.append_ne_nil_of_right_ne_nil _ (List.cons_ne_nil _ _)

theorem threadOf_eq (hcaller : callers[index]? = some (thread, call)) :
    threadOf callers index = some thread := by
  rw [threadOf, hcaller]
  rfl

variable {action : Action ε} {next : action.Answer → Program ε Value} {answer : action.Answer}

/-- A thread whose call has just ended has the number that this call left. -/
theorem lastErrors_of_ended
    (hreaches : Reaches (boundaryWorld callers) (firstOf callers) execution)
    (hprogram : execution.programs[index]? = some (.act action next))
    (hanswer : (boundaryWorld callers).answers execution index ⟨action, answer⟩ after)
    (hlater : later = execution.record index ⟨action, answer⟩ (next answer) after)
    (hcaller : callers[index]? = some (thread, call)) (hrecords : call.records = true)
    (hbetween : Between callers later thread bound) :
    after.lastErrors thread = leftBefore callers later thread bound := by
  have hreached : Reaches (boundaryWorld callers) (firstOf callers) later :=
    hlater ▸ hreaches.tail (.act hprogram hanswer)
  have hpast : later.past index = execution.past index ++ [⟨action, answer⟩] :=
    hlater ▸ Execution.past_record_self _ _ _ _ _
  have hself := hbetween index call hcaller hrecords
  have hlt : index < bound := by
    by_contra hge
    rw [if_neg hge, hpast] at hself
    exact List.append_ne_nil_of_right_ne_nil _ (List.cons_ne_nil _ _) hself
  rw [if_pos hlt] at hself
  obtain ⟨value, hdone⟩ := hself
  -- no later call of the thread can have begun
  have hlast : ∀ last < bound, index < last → ∀ call,
      callers[last]? = some (thread, call) → call.records = false := by
    intro last hlast hindex other hother
    by_contra hcounts
    rw [Bool.not_eq_false] at hcounts
    have hended := hbetween last other hother hcounts
    rw [if_pos hlast] at hended
    obtain ⟨value, hended⟩ := hended
    refine past_ne_nil_of_done hreached hother hcounts hended ?_
    rw [hlater, Execution.past_record_of_ne _ (Nat.ne_of_gt hindex)]
    refine past_eq_nil_of_running hreaches hprogram hindex ?_
    rw [threadOf_eq hcaller, threadOf_eq hother]
  rw [leftBefore_eq_numberLeft hlt hcaller hrecords hlast]
  obtain ⟨before, hbefore⟩ :=
    exists_numberLeft hrecords (answered_of_boundary hreached hcaller hdone).1
  generalize numberLeft (later.past index) = number at hbefore ⊢
  rw [hpast] at hbefore
  have hexchange := List.singleton_inj.mp (List.append_inj' hbefore rfl).2
  cases hexchange
  obtain ⟨-, _, _, hcaller', rfl⟩ := hanswer
  cases hcaller.symm.trans hcaller'
  exact if_pos rfl

/-- What another thread does, or a call that leaves no number, is nothing to a thread. -/
theorem between_of_elsewhere
    (hlater : later = execution.record index ⟨action, answer⟩ (next answer) after)
    (helsewhere : ∀ call, callers[index]? = some (thread, call) → call.records = false)
    (hbetween : Between callers later thread bound) :
    Between callers execution thread bound ∧
      leftBefore callers later thread bound = leftBefore callers execution thread bound := by
  have hne : ∀ other call, callers[other]? = some (thread, call) → call.records = true →
      other ≠ index := by
    rintro other call hcaller hrecords rfl
    exact Bool.false_ne_true ((helsewhere call hcaller).symm.trans hrecords)
  subst hlater
  constructor
  · intro other call hcaller hrecords
    have hbefore := hbetween other call hcaller hrecords
    rw [Execution.past_record_of_ne _ (hne other call hcaller hrecords)] at hbefore
    rwa [Execution.record, List.getElem?_set_ne (hne other call hcaller hrecords).symm] at hbefore
  · refine leftBefore_congr fun other _ call hcaller hrecords => ?_
    exact Execution.past_record_of_ne _ (hne other call hcaller hrecords) _ _ _

theorem leftBefore_first (bound : Nat) :
    leftBefore callers (firstOf callers) thread bound = 0 := by
  induction bound with
  | zero => rfl
  | succ bound ih =>
      unfold leftBefore
      split
      · split
        · rfl
        · exact ih
      · exact ih

/-- A thread between two calls has the number that the earlier one left. -/
theorem lastErrors_of_between
    (hreaches : Reaches (boundaryWorld callers) (firstOf callers) execution)
    (hbetween : Between callers execution thread bound) :
    execution.state.lastErrors thread = leftBefore callers execution thread bound := by
  induction hreaches generalizing thread bound with
  | refl => exact (leftBefore_first bound).symm
  | @tail earlier later hearlier hstep ih =>
      cases hstep with
      | drift hdrift => exact hdrift.elim
      | @act index action next answer after hprogram hanswer =>
          obtain ⟨other, call, hcaller, hanswers⟩ := hanswer.2
          by_cases hcounts : other = thread ∧ call.records = true
          · obtain ⟨rfl, hrecords⟩ := hcounts
            exact lastErrors_of_ended hearlier hprogram hanswer rfl hcaller hrecords hbetween
          · have hpermits := permits_of_boundary hearlier hcaller hprogram
            have helsewhere : ∀ call, callers[index]? = some (thread, call) →
                call.records = false := by
              intro call' hcaller'
              cases hcaller.symm.trans hcaller'
              exact Bool.eq_false_iff.mpr fun hrecords => hcounts ⟨rfl, hrecords⟩
            obtain ⟨hbefore, hleft⟩ := between_of_elsewhere rfl helsewhere hbetween
            rw [hleft, ← ih hbefore]
            exact lastErrors_of_answers hpermits hanswers hcounts

/-- Asking for the number of a thread gives the one that the thread's latest call left. -/
theorem number_of_lastError
    (hreaches : Reaches (boundaryWorld callers) (firstOf callers) execution)
    (hcaller : callers[index]? = some (thread, .lastError)) {value : Value}
    (hdone : execution.programs[index]? = some (.done value)) :
    value = .number (leftBefore callers execution thread index) := by
  induction hreaches generalizing value with
  | refl =>
      have hprogram : (programsOf callers)[index]? = some (Call.lastError.program) := by
        rw [programsOf, List.getElem?_map, hcaller]
        rfl
      cases hprogram.symm.trans hdone
  | @tail earlier later hearlier hstep ih =>
      have hreached := hearlier.tail hstep
      have hpast : ∃ number, later.past index = [⟨.readLastError, number⟩] ∧
          value = .number number := by
        obtain ⟨hanswered, -⟩ := answered_of_boundary hreached hcaller hdone
        generalize later.past index = past at hanswered
        cases hanswered with
        | told number => exact ⟨number, rfl, rfl⟩
        | operated hoperation => cases hoperation
      obtain ⟨number, hpast, rfl⟩ := hpast
      cases hstep with
      | drift hdrift => exact hdrift.elim
      | @act first action next answer after hprogram hanswer =>
          by_cases hfirst : first = index
          · -- it asks when its thread is between two calls
            subst hfirst
            rw [Execution.past_record_self] at hpast
            cases (List.append_inj' (hpast.trans (List.nil_append _).symm) rfl).2
            obtain ⟨hturn, _, _, hcaller', hanswers⟩ := hanswer
            cases hcaller.symm.trans hcaller'
            obtain ⟨rfl, -⟩ := hanswers
            have hbetween : Between callers earlier thread first := by
              intro other call hother hrecords
              split
              · next hlt =>
                  exact hturn other hlt (by rw [threadOf_eq hcaller, threadOf_eq hother])
              · next hge =>
                  have hne : other ≠ first := by
                    rintro rfl
                    cases hcaller.symm.trans hother
                    cases hrecords
                  exact past_eq_nil_of_running hearlier hprogram (by omega)
                    (by rw [threadOf_eq hcaller, threadOf_eq hother])
            rw [lastErrors_of_between hearlier hbetween]
            congr 1
            refine (leftBefore_congr fun other hlt _ _ _ => ?_).symm
            exact Execution.past_record_of_ne _ (Nat.ne_of_lt hlt) _ _ _
          · rw [Execution.record, List.getElem?_set_ne hfirst] at hdone
            rw [Execution.past_record_of_ne _ (Ne.symm hfirst)] at hpast
            rw [ih hdone]
            congr 1
            refine (leftBefore_congr fun other hlt call hother _ => ?_).symm
            refine Execution.past_record_of_ne _ ?_ _ _ _
            -- an earlier call of the thread is over, and does nothing any more
            rintro rfl
            have hnil := past_eq_nil_of_running hearlier hprogram hlt
              (by rw [threadOf_eq hcaller, threadOf_eq hother])
            cases hpast.symm.trans hnil

/-- While no call is under way, nobody has a lock. -/
theorem locks_of_idle (hreaches : Reaches (boundaryWorld callers) (firstOf callers) execution)
    (hidle : ∀ index (program : Program ε Value), execution.programs[index]? = some program →
      execution.past index = [] ∨ ∃ value, program = .done value) :
    execution.state.slotLocked = false ∧ execution.state.engineLocked = false := by
  obtain ⟨slotOwner, engineOwner, hconsistent⟩ := consistent_of_reaches hreaches
  have hfree : ∀ index, (standingOf execution index).slotLock = false ∧
      (standingOf execution index).engineLock = false := by
    intro index
    cases hprogram : execution.programs[index]? with
    | none => rw [standingOf, past_eq_nil_of_reaches hreaches rfl hprogram]; exact ⟨rfl, rfl⟩
    | some program =>
        rcases hidle index program hprogram with hnil | ⟨value, rfl⟩
        · rw [standingOf, hnil]; exact ⟨rfl, rfl⟩
        · obtain ⟨hfree, -⟩ := (keepsAll_of_boundary hreaches _ _ hprogram)
          exact ⟨hfree.slotLock, hfree.engineLock⟩
  exact ⟨hconsistent.slotLock.locked_eq_false fun index => (hfree index).1,
    hconsistent.engineLock.locked_eq_false fun index => (hfree index).2⟩

end

/-! ## Refinement -/

/-- Calls that do what the operations of bridges do. -/
structure Refines (callers : List (Nat × Call ε))
    (execution : Execution ε Value (Boundary ε)) : Prop where
  /-- Whatever happened, panics included, all calls can come to their end. -/
  returns : ∃ later, Reaches (boundaryWorld callers) execution later ∧ later.Ended
  /-- A call that has ended gave back what its operation came to, and left the number of this
  outcome as the last thing it did. -/
  answered : ∀ (index thread : Nat) (call : Call ε) (value : Value),
    callers[index]? = some (thread, call) →
    execution.programs[index]? = some (.done value) → call.Answered (execution.past index) value
  /-- No success looks like a fallback, so what gave back a success has succeeded. -/
  distinct : ∀ (call : Call ε) (operation : Operation ε), call.operation? = some operation →
    ∀ result, operation.success result ≠ operation.fallback
  /-- A thread between two calls has the number that the latest of its calls left, whatever other
  threads do. -/
  number : ∀ (thread bound : Nat), Between callers execution thread bound →
    execution.state.lastErrors thread = leftBefore callers execution thread bound
  /-- This is the number that the thread is given when it asks. -/
  lastError : ∀ (index thread : Nat) (value : Value), callers[index]? = some (thread, .lastError) →
    execution.programs[index]? = some (.done value) →
    value = .number (leftBefore callers execution thread index)
  /-- What a call does and gives back follows from what the slot, loads and engines told it, and
  from nothing else that earlier calls did. -/
  alone : ∀ (index thread : Nat) (call : Call ε) (value : Value),
    callers[index]? = some (thread, call) → call ≠ .lastError →
    execution.programs[index]? = some (.done value) →
    ∀ exchanges other, call.program.Ends exchanges other →
      told exchanges = told (execution.past index) →
      exchanges = execution.past index ∧ other = value
  /-- Calls that are over have left no lock behind, whatever became of them. -/
  idle : (∀ index (program : Program ε Value), execution.programs[index]? = some program →
      execution.past index = [] ∨ ∃ value, program = .done value) →
    execution.state.slotLocked = false ∧ execution.state.engineLocked = false

/-- Calls of two threads over an engine that panics when it starts: one makes it run, the other
gives a resolution that is no good, and both ask for their numbers. -/
def panickingCalls : List (Nat × Call EngineRef) :=
  [(0, .install ⟨.fixture 0 { Fixture.Script.default with panicsAt := some .start }, .default⟩),
    (0, .execute (.null 0)), (1, .renderPng (some []) (some []) 0), (1, .lastError),
    (0, .lastError), (0, .isAvailable), (0, .lastError)]

end EpsBridge.Foreign
