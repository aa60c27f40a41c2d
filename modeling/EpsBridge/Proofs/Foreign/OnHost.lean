import EpsBridge.Proofs.Foreign.Boundary
import EpsBridge.Proofs.Threads.OnHost

/-!
# Foreign calls on a host

A host keeps the slot, the locks and the numbers as calls need it (`answers_of_handle`), whatever
engines it has and whatever becomes of its files and its environment.  So the calls of a process
do nothing but what calls that share a boundary can do (`reaches_of_process`), under every
schedule (`reaches_follow`).
-/

namespace EpsBridge

open Program Program.Exchange Foreign

/-! ## What a host answers -/

namespace Host

/-- What the calls of a process share. -/
def boundary (host : Host) : Boundary EngineRef :=
  ⟨host.slot, host.slotLocked, host.engineLocked, host.lastErrors⟩

@[simp] theorem boundary_load (host : Host) (path : Option Path) :
    (host.load path).2.boundary = host.boundary := by
  unfold load
  split <;> rfl

@[simp] theorem boundary_fillSlot (host : Host) (bridge : Bridge EngineRef) :
    (host.fillSlot bridge).boundary = { host.boundary with slot := some bridge } := by
  unfold fillSlot
  dsimp only
  split <;> rfl

variable {thread : Nat} {host after : Host} {exchange : Exchange EngineRef}

/-- What a host answers, calls that share a boundary can be answered. -/
theorem answers_of_handle (hpermits : host.permits exchange.action = true)
    (hhandle : handle thread exchange.action host = (exchange.answer, after)) :
    host.boundary.Answers thread after.boundary exchange := by
  obtain ⟨action, answer⟩ := exchange
  obtain rfl : (handle thread action host).1 = answer := congrArg Prod.fst hhandle
  obtain rfl : (handle thread action host).2 = after := congrArg Prod.snd hhandle
  cases action with
  | lockEngine | lockSlot => exact ⟨by simpa [permits, boundary] using hpermits, rfl⟩
  | readSlot | readLastError => exact ⟨rfl, rfl⟩
  | load path => exact boundary_load host path
  | fillSlot bridge => exact boundary_fillSlot host bridge
  | revision engine | create engine | start engine handle argv capture
  | stop engine handle capture =>
      -- an engine changes its own log and files
      cases engine <;> rfl
  | discard engine handle unwinding => cases unwinding <;> cases engine <;> rfl
  | _ => rfl

end Host

namespace Foreign

/-! ## Calls on a host -/

variable {callers : List (Nat × Call EngineRef)}

/-- Calls on a host, on which everything but the boundary may change between them. -/
def processWorld (callers : List (Nat × Call EngineRef)) : World EngineRef Value Host where
  answers execution index exchange after :=
    Turn callers execution.programs index ∧ execution.state.permits exchange.action = true ∧
      ∃ thread, threadOf callers index = some thread ∧
        Host.handle thread exchange.action execution.state = (exchange.answer, after)
  drifts execution after := after.boundary = execution.state.boundary

/-- Calls on a host are calls that share a boundary. -/
theorem reaches_of_process {first execution : Execution EngineRef Value Host}
    (hreaches : Reaches (processWorld callers) first execution) :
    Reaches (boundaryWorld callers) (first.map Host.boundary) (execution.map Host.boundary) := by
  induction hreaches with
  | refl => exact .refl
  | @tail earlier later hearlier hstep ih =>
      cases hstep with
      | @drift after hdrift =>
          have hsame : Execution.map Host.boundary { earlier with state := after } =
              earlier.map Host.boundary := by
            unfold Execution.map
            rw [hdrift]
          rwa [hsame]
      | @act index action next answer after hprogram hanswer =>
          obtain ⟨hturn, hpermits, thread, hthread, hhandle⟩ := hanswer
          obtain ⟨⟨_, call⟩, hcaller, rfl⟩ := Option.map_eq_some_iff.mp hthread
          rw [Execution.map_record]
          exact ih.tail (.act hprogram
            ⟨hturn, _, call, hcaller, Host.answers_of_handle hpermits hhandle⟩)

/-! ## Schedules -/

theorem turn_of_isTurn {process : Process} {index : Nat} (hturn : process.isTurn index = true) :
    Turn process.callers process.programs index := by
  intro earlier hlt hthread
  have hearlier := List.all_eq_true.mp hturn earlier (List.mem_range.mpr hlt)
  rw [hthread, bne_self_eq_false, Bool.false_or] at hearlier
  split at hearlier
  · next value hdone => exact ⟨value, hdone⟩
  · cases hearlier

/-- A step of a process is a step of its calls, or none. -/
theorem exists_reaches_step (process : Process) (index : Nat)
    (history : List (Entry EngineRef Host)) :
    ∃ later, Reaches (processWorld process.callers) ⟨process.programs, history, process.host⟩
      ⟨(process.step index).programs, later, (process.step index).host⟩ := by
  unfold Process.step
  split
  · next thread action next hthread hprogram =>
      split
      · next hready =>
          obtain ⟨hturn, hpermits⟩ := (Bool.and_eq_true _ _).mp hready
          have hanswer : (processWorld process.callers).answers
              ⟨process.programs, history, process.host⟩ index
              ⟨action, (Host.handle thread action process.host).1⟩
              (Host.handle thread action process.host).2 :=
            ⟨turn_of_isTurn hturn, hpermits, thread, hthread, rfl⟩
          exact ⟨_, .single (.act hprogram hanswer)⟩
      · exact ⟨history, .refl⟩
  · exact ⟨history, .refl⟩

theorem callers_step (process : Process) (index : Nat) :
    (process.step index).callers = process.callers := by
  unfold Process.step
  split
  · split <;> rfl
  · rfl

/-- A process gets, under every schedule, to where its calls get. -/
theorem exists_reaches_follow (process : Process) (schedule : List Nat)
    (history : List (Entry EngineRef Host)) :
    ∃ later, Reaches (processWorld process.callers) ⟨process.programs, history, process.host⟩
      ⟨(process.follow schedule).programs, later, (process.follow schedule).host⟩ := by
  induction schedule generalizing process history with
  | nil => exact ⟨history, .refl⟩
  | cons index rest ih =>
      obtain ⟨between, hstep⟩ := exists_reaches_step process index history
      obtain ⟨later, hrest⟩ := ih (process.step index) between
      rw [callers_step] at hrest
      exact ⟨later, hstep.trans hrest⟩

/-- Under every schedule, a process that begins with an empty slot is among the executions that
share a boundary. -/
theorem reaches_follow (callers : List (Nat × Call EngineRef)) (host : Host)
    (hfresh : host.boundary = .start) (schedule : List Nat) :
    ∃ history, Reaches (boundaryWorld callers) (firstOf callers)
      ⟨((Process.start callers host).follow schedule).programs, history,
        ((Process.start callers host).follow schedule).host.boundary⟩ := by
  obtain ⟨history, hreaches⟩ := exists_reaches_follow (.start callers host) schedule []
  have hfirst : Execution.map Host.boundary ⟨programsOf callers, [], host⟩ = firstOf callers := by
    unfold Execution.map
    rw [hfresh]
    rfl
  exact ⟨_, hfirst ▸ reaches_of_process hreaches⟩

end Foreign

end EpsBridge
