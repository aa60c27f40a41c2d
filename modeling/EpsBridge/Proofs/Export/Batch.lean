import EpsBridge.Export.Batch
import EpsBridge.Proofs.Export.Plan
import EpsBridge.Proofs.Export.Staging
import Mathlib.Data.List.Chain

/-!
# Batches

A batch makes the exports of its plan one after another (`Series`).  Each turn begins with
the files that the turns before it have left, whatever became of them: a failed one has
left everything as it was, and none keeps the engine lock.

A turn changes no place but that of its own output, if it succeeds.  The outputs of a plan
lie apart, so what a turn has delivered is still there at the end (`kept_of_series`).
-/

namespace EpsBridge.Export

open Program Workspace

variable {ε σ : Type}

/-! ## Turns -/

/-- One export of a batch, with the states that it found and left. -/
structure Turn (σ : Type) where
  input : Path
  output : Path
  before : σ
  result : Except Error Finished
  after : σ

namespace Turn

/-- What is reported about a turn. -/
def item (turn : Turn σ) : Item := .ofResult turn.input turn.output turn.result

/-- What is told at the end of a turn. -/
def event (position total : Nat) (turn : Turn σ) : Event :=
  match turn.result with
  | .ok _ => .fileComplete position total turn.output
  | .error error => .fileError position total turn.input error.message

theorem event_item (turn : Turn σ) (position total : Nat) :
    turn.item.event position total = turn.event position total := by
  obtain ⟨input, output, before, result, after⟩ := turn
  cases result <;> rfl

end Turn

/-- The turns of a batch from a position on, each of which begins where the one before it
has ended, but for what was told in between. -/
inductive Series (bridge : Bridge ε) (handler : Handler ε σ) (format : Format)
    (options : Options) (total : Nat) : Nat → List (Path × Path) → σ → List (Turn σ) → σ → Prop
  | nil (position : Nat) (state : σ) :
      Series bridge handler format options total position [] state [] state
  | cons {position : Nat} {turn : Turn σ} {rest : List (Path × Path)} {state final : σ}
      {turns : List (Turn σ)}
      (hbegin : (handler (.notify (.fileStart position total turn.input)) state).2 = turn.before)
      (hrun : (exportFile bridge turn.input turn.output format options).run handler turn.before =
        (turn.result, turn.after))
      (hrest : Series bridge handler format options total (position + 1) rest
        (handler (.notify (turn.event position total)) turn.after).2 turns final) :
      Series bridge handler format options total position ((turn.input, turn.output) :: rest)
        state (turn :: turns) final

/-! ## Events and the engine lock -/

/-- What was told in a course of events. -/
def eventsOf (trace : List (Exchange ε)) : List Event :=
  trace.filterMap fun exchange =>
    match exchange.action with
    | .notify event => some event
    | _ => none

theorem eventsOf_append (first second : List (Exchange ε)) :
    eventsOf (first ++ second) = eventsOf first ++ eventsOf second :=
  List.filterMap_append

/-- What is told about turns, from a position on. -/
def eventsFrom (position total : Nat) (turns : List (Turn σ)) : List Event :=
  (turns.zipIdx position).flatMap fun (turn, position) =>
    [.fileStart position total turn.input, turn.event position total]

theorem holdsLock_append (first second : List (Exchange ε)) (hfirst : holdsLock first = false) :
    holdsLock (first ++ second) = holdsLock second := by
  rw [holdsLock, List.foldl_append, ← holdsLock, hfirst]
  rfl

namespace LocksInTurn

theorem nil : LocksInTurn ([] : List (Exchange ε)) where
  asked _ _ htrace :=
    absurd htrace.symm (List.append_ne_nil_of_right_ne_nil _ (List.cons_ne_nil _ _))
  released := rfl

theorem append {first second : List (Exchange ε)} (hfirst : LocksInTurn first)
    (hsecond : LocksInTurn second) : LocksInTurn (first ++ second) where
  asked before after htrace := by
    -- the lock is asked for in the second course, or in the first, or where the two meet
    rcases List.append_eq_append_iff.mp htrace with ⟨middle, hbefore, hrest⟩ | ⟨middle, hone, hrest⟩
    · rw [hbefore, holdsLock_append first middle hfirst.released]
      exact hsecond.asked middle after hrest
    · cases middle with
      | nil =>
          rw [List.append_nil] at hone
          rw [← hone]
          exact hfirst.released
      | cons exchange middle =>
          obtain ⟨rfl, -⟩ := List.cons.inj hrest
          exact hfirst.asked before middle hone
  released := by
    rw [holdsLock_append first second hfirst.released]
    exact hsecond.released

theorem singleton {exchange : Exchange ε} (hunlocked : holdsLock [exchange] = false) :
    LocksInTurn [exchange] where
  asked before after htrace := by
    cases before with
    | nil => rfl
    | cons first before =>
        obtain ⟨-, hrest⟩ := List.cons.inj htrace
        exact absurd hrest.symm (List.append_ne_nil_of_right_ne_nil _ (List.cons_ne_nil _ _))
  released := hunlocked

end LocksInTurn

theorem eventsOf_exportFile (handler : Handler ε σ) (bridge : Bridge ε) (input output : Path)
    (format : Format) (options : Options) (state : σ) :
    eventsOf ((exportFile bridge input output format options).trace handler state) = [] := by
  obtain ⟨hpermitted, -⟩ :=
    (stages_exportFile bridge input output format options).trace handler state fun _ _ => trivial
  refine List.filterMap_eq_nil_iff.mpr fun exchange hexchange => ?_
  obtain ⟨before, after, htrace⟩ := List.append_of_mem hexchange
  have hpermits := hpermitted before exchange after htrace
  -- nothing that belongs to an export tells anything
  split
  · next event hnotify =>
      rw [hnotify] at hpermits
      exact (Stage.belongsToExport hpermits).elim
  · rfl

/-! ## What a batch does -/

section Turns

variable {bridge : Bridge ε} {handler : Handler ε σ} {format : Format} {options : Options}
  {position total : Nat} {turn : Turn σ} {state : σ}

theorem run_exportItem
    (hbegin : (handler (.notify (.fileStart position total turn.input)) state).2 = turn.before)
    (hrun : (exportFile bridge turn.input turn.output format options).run handler turn.before =
      (turn.result, turn.after)) :
    (exportItem bridge format options position total turn.input turn.output).run handler state =
      (turn.item, (handler (.notify (turn.event position total)) turn.after).2) := by
  simp only [exportItem, perform, run_bind, run_act, run_done, run_pure]
  rw [hbegin, hrun, ← Turn.event_item]
  rfl

theorem trace_exportItem
    (hbegin : (handler (.notify (.fileStart position total turn.input)) state).2 = turn.before)
    (hrun : (exportFile bridge turn.input turn.output format options).run handler turn.before =
      (turn.result, turn.after)) :
    (exportItem bridge format options position total turn.input turn.output).trace handler state =
      [⟨.notify (.fileStart position total turn.input), ()⟩] ++
        (exportFile bridge turn.input turn.output format options).trace handler turn.before ++
        [⟨.notify (turn.event position total), ()⟩] := by
  simp only [exportItem, perform, trace_bind, trace_act, trace_done, trace_pure, run_act,
    run_done]
  rw [hbegin, hrun, ← Turn.event_item, List.append_assoc]
  rfl

theorem eventsOf_exportItem
    (hbegin : (handler (.notify (.fileStart position total turn.input)) state).2 = turn.before)
    (hrun : (exportFile bridge turn.input turn.output format options).run handler turn.before =
      (turn.result, turn.after)) :
    eventsOf ((exportItem bridge format options position total turn.input turn.output).trace
      handler state) = [.fileStart position total turn.input, turn.event position total] := by
  rw [trace_exportItem hbegin hrun, eventsOf_append, eventsOf_append, eventsOf_exportFile]
  rfl

theorem locksInTurn_exportItem
    (hbegin : (handler (.notify (.fileStart position total turn.input)) state).2 = turn.before)
    (hrun : (exportFile bridge turn.input turn.output format options).run handler turn.before =
      (turn.result, turn.after)) :
    LocksInTurn ((exportItem bridge format options position total turn.input turn.output).trace
      handler state) := by
  rw [trace_exportItem hbegin hrun]
  have hexport := locksInTurn_exportFile handler bridge turn.input turn.output format options
    turn.before
  exact ((LocksInTurn.singleton rfl).append hexport).append (.singleton rfl)

end Turns

/-- A batch makes the turns of its jobs, and tells about them. -/
theorem exists_series (bridge : Bridge ε) (handler : Handler ε σ) (format : Format)
    (options : Options) (total position : Nat) (jobs : List (Path × Path)) (state : σ) :
    ∃ turns final, Series bridge handler format options total position jobs state turns final ∧
      (exportItems bridge format options total position jobs).run handler state =
        (turns.map Turn.item, final) ∧
      eventsOf ((exportItems bridge format options total position jobs).trace handler state) =
        eventsFrom position total turns ∧
      LocksInTurn
        ((exportItems bridge format options total position jobs).trace handler state) := by
  induction jobs generalizing position state with
  | nil => exact ⟨[], state, .nil position state, rfl, rfl, .nil⟩
  | cons job rest ih =>
      obtain ⟨input, output⟩ := job
      let before := (handler (.notify (.fileStart position total input)) state).2
      let ran := (exportFile bridge input output format options).run handler before
      let turn : Turn σ := ⟨input, output, before, ran.1, ran.2⟩
      have hbegin : (handler (.notify (.fileStart position total turn.input)) state).2 =
          turn.before := rfl
      have hran : (exportFile bridge turn.input turn.output format options).run handler
          turn.before = (turn.result, turn.after) := rfl
      have hitem := run_exportItem hbegin hran
      obtain ⟨turns, final, hseries, hrest, hevents, hlocks⟩ := ih (position + 1)
        (handler (.notify (turn.event position total)) turn.after).2
      refine ⟨turn :: turns, final, .cons hbegin hran hseries, ?_, ?_, ?_⟩
      · change (exportItem bridge format options position total turn.input turn.output >>= _).run
          handler state = _
        rw [run_bind, hitem, run_bind, hrest]
        rfl
      · change eventsOf ((exportItem bridge format options position total turn.input
          turn.output >>= _).trace handler state) = _
        rw [trace_bind, eventsOf_append, hitem, eventsOf_exportItem hbegin hran, trace_bind,
          eventsOf_append, hevents]
        simp [eventsFrom, eventsOf, List.zipIdx_cons]
      · change LocksInTurn ((exportItem bridge format options position total turn.input
          turn.output >>= _).trace handler state)
        rw [trace_bind, hitem, trace_bind]
        exact (locksInTurn_exportItem hbegin hran).append (hlocks.append .nil)

/-! ## What is left of a turn -/

section Files

variable {handler : Handler ε σ} {files : σ → Workspace} {bridge : Bridge ε}
  {output? : σ → Handle → Option Path} {format : Format} {options : Options}
  {total position : Nat} {jobs : List (Path × Path)} {turns : List (Turn σ)} {state final : σ}

/-- An export that fails changes nothing.  One that succeeds delivers, and changes nothing
but its destination. -/
theorem exportFile_changes (hfiles : AnswersFiles handler files)
    (hconfined : Confined handler files bridge.engine output?) {input output : Path}
    {result : Except Error Finished} {after : σ}
    (hrun : (exportFile bridge input output format options).run handler state =
      (result, after)) :
    (∃ error, result = .error error ∧ ChangesOnly none (files state) (files after)) ∨
      ∃ finished, result = .ok finished ∧
        ChangesOnly (some output) (files state) (files after) ∧
        Delivered bridge handler files input output format options state after
          finished.bytes := by
  rw [exportFile, run_bind] at hrun
  rcases hwork : (exportWork bridge input output format options).run handler state with
    ⟨outcome, ended⟩
  rw [hwork] at hrun
  cases hrun
  rcases exportWork_changes hfiles hconfined input output format options hwork with
    ⟨hfailed, hkept⟩ | ⟨finished, rfl, hchange, hdelivered⟩
  · cases outcome with
    | ok finished => cases hfailed
    | error error | panic message => exact .inl ⟨_, rfl, hkept⟩
  · exact .inr ⟨finished, rfl, hchange, hdelivered⟩

/-- A handler that changes no files when something is told. -/
def TellsOnly (handler : Handler ε σ) (files : σ → Workspace) : Prop :=
  ∀ event state, ChangesOnly none (files state) (files (handler (.notify event) state).2)

theorem changesOnly_turn (hfiles : AnswersFiles handler files)
    (hconfined : Confined handler files bridge.engine output?) {turn : Turn σ}
    (hrun : (exportFile bridge turn.input turn.output format options).run handler turn.before =
      (turn.result, turn.after)) :
    ChangesOnly (some turn.output) (files turn.before) (files turn.after) := by
  rcases exportFile_changes hfiles hconfined hrun with
    ⟨error, -, hchange⟩ | ⟨finished, -, hchange, -⟩
  · exact hchange.of_none _
  · exact hchange

theorem planned_of_series
    (hseries : Series bridge handler format options total position jobs state turns final) :
    turns.map (fun turn => (turn.input, turn.output)) = jobs := by
  induction hseries with
  | nil => rfl
  | cons _ _ _ ih => exact congrArg (List.cons _) ih

theorem run_of_series
    (hseries : Series bridge handler format options total position jobs state turns final) :
    ∀ turn ∈ turns, (exportFile bridge turn.input turn.output format options).run handler
      turn.before = (turn.result, turn.after) := by
  induction hseries with
  | nil => exact nofun
  | cons _ hrun _ ih =>
      intro turn hturn
      rcases List.mem_cons.mp hturn with rfl | hrest
      · exact hrun
      · exact ih turn hrest

theorem begins_of_series (htells : TellsOnly handler files)
    (hseries : Series bridge handler format options total position jobs state turns final) :
    ∀ turn ∈ turns.head?, ChangesOnly none (files state) (files turn.before) := by
  cases hseries with
  | nil => exact nofun
  | cons hbegin _ _ =>
      rintro turn ⟨⟩
      rw [← hbegin]
      exact htells _ _

/-- Every turn begins with the files that the one before it has left. -/
theorem isChain_of_series (htells : TellsOnly handler files)
    (hseries : Series bridge handler format options total position jobs state turns final) :
    turns.IsChain fun turn next => ChangesOnly none (files turn.after) (files next.before) := by
  induction hseries with
  | nil => exact .nil
  | cons _ _ hrest ih =>
      refine List.isChain_cons.mpr ⟨fun next hnext => ?_, ih⟩
      exact (htells _ _).trans (begins_of_series htells hrest next hnext)

theorem target?_of_turn (hfiles : AnswersFiles handler files) (htells : TellsOnly handler files)
    (hconfined : Confined handler files bridge.engine output?) {turn : Turn σ}
    (hbegin : (handler (.notify (.fileStart position total turn.input)) state).2 = turn.before)
    (hrun : (exportFile bridge turn.input turn.output format options).run handler turn.before =
      (turn.result, turn.after)) (path : Path) :
    (files (handler (.notify (turn.event position total)) turn.after).2).target? path =
      (files state).target? path := by
  have hbefore := htells (.fileStart position total turn.input) state
  have hturn := changesOnly_turn hfiles hconfined hrun
  have hafter := htells (turn.event position total) turn.after
  rw [hbegin] at hbefore
  calc (files (handler (.notify (turn.event position total)) turn.after).2).target? path
      = (files turn.after).target? path := hafter.target?_eq path
    _ = (files turn.before).target? path := hturn.target?_eq path
    _ = (files state).target? path := hbefore.target?_eq path

theorem target?_of_series (hfiles : AnswersFiles handler files) (htells : TellsOnly handler files)
    (hconfined : Confined handler files bridge.engine output?)
    (hseries : Series bridge handler format options total position jobs state turns final)
    (path : Path) : (files final).target? path = (files state).target? path := by
  induction hseries with
  | nil => rfl
  | cons hbegin hrun _ ih =>
      exact ih.trans (target?_of_turn hfiles htells hconfined hbegin hrun path)

/-- A place that is no output of a series stays as it is. -/
theorem node?_of_series (hfiles : AnswersFiles handler files) (htells : TellsOnly handler files)
    (hconfined : Confined handler files bridge.engine output?)
    (hseries : Series bridge handler format options total position jobs state turns final)
    {place : Location} (hother : ∀ job ∈ jobs, (files state).target? job.2 ≠ some place) :
    (files final).node? place = (files state).node? place := by
  induction hseries with
  | nil => rfl
  | @cons position turn rest state final turns hbegin hrun hrest ih =>
      have hbefore := htells (.fileStart position total turn.input) state
      have hturn := changesOnly_turn hfiles hconfined hrun
      have hafter := htells (turn.event position total) turn.after
      rw [hbegin] at hbefore
      -- the turn writes along its output, and that leads elsewhere
      have hown : (files turn.before).target? turn.output ≠ some place := by
        rw [hbefore.target?_eq]
        exact hother _ List.mem_cons_self
      have hsame : (files turn.after).node? place = (files turn.before).node? place := by
        rcases hturn.nodes place with hsame | ⟨hplace, -⟩
        · exact hsame
        · exact absurd hplace hown
      have hlater : ∀ job ∈ rest, (files (handler (.notify (turn.event position total))
          turn.after).2).target? job.2 ≠ some place := by
        intro job hjob
        rw [target?_of_turn hfiles htells hconfined hbegin hrun]
        exact hother job (List.mem_cons_of_mem _ hjob)
      calc (files final).node? place
          = (files (handler (.notify (turn.event position total)) turn.after).2).node? place :=
            ih hlater
        _ = (files turn.after).node? place := hafter.node?_eq place
        _ = (files turn.before).node? place := hsame
        _ = (files state).node? place := hbefore.node?_eq place

/-- Two paths along which nothing is ever written to one place. -/
def Apart (first second : Path) : Prop :=
  ∀ (store : FileStore) here place, store.target? here first = some place →
    store.target? here second ≠ some place

/-- What a turn has delivered is still there at the end. -/
theorem kept_of_series (hfiles : AnswersFiles handler files) (htells : TellsOnly handler files)
    (hconfined : Confined handler files bridge.engine output?)
    (hapart : jobs.Pairwise fun job other => Apart job.2 other.2)
    (hseries : Series bridge handler format options total position jobs state turns final) :
    ∀ turn ∈ turns, ∀ place, (files turn.after).target? turn.output = some place →
      (files final).target? turn.output = some place ∧
        (files final).node? place = (files turn.after).node? place := by
  induction hseries with
  | nil => exact nofun
  | @cons position turn rest state final turns hbegin hrun hrest ih =>
      obtain ⟨hfirst, hlater⟩ := List.pairwise_cons.mp hapart
      intro other hother place hplace
      rcases List.mem_cons.mp hother with rfl | hmem
      · -- the turns after this one have other outputs
        have hafter := htells (other.event position total) other.after
        rw [target?_of_series hfiles htells hconfined hrest, hafter.target?_eq]
        refine ⟨hplace, ?_⟩
        rw [node?_of_series hfiles htells hconfined hrest, hafter.node?_eq]
        intro job hjob
        rw [hafter.target?_eq]
        exact hfirst job hjob _ _ place hplace
      · exact ih hlater other hmem place hplace

end Files

/-! ## The whole batch -/

theorem pairwise_apart_plan (inputs : List Path) (directory : Path) (format : Format) :
    (plan inputs directory format).Pairwise fun job other => Apart job.2 other.2 := by
  rw [List.pairwise_iff_getElem]
  intro first second hfirst hsecond hless store here place hplace
  exact target?_ne_of_plan (List.getElem?_eq_getElem hfirst) (List.getElem?_eq_getElem hsecond)
    (Nat.ne_of_lt hless) hplace

theorem map_fst_plan (inputs : List Path) (directory : Path) (format : Format) :
    (plan inputs directory format).map Prod.fst = inputs := by
  rw [plan, planFrom_eq_zip, List.map_fst_zip]
  rw [List.length_map, length_namesFrom]

/-- What a batch comes to that has its directory, in terms of its turns. -/
structure Carried (bridge : Bridge ε) (handler : Handler ε σ) (files : σ → Workspace)
    (inputs : List Path) (directory : Path) (format : Format) (options : Options)
    (prepared : σ) (turns : List (Turn σ)) (report : Report) (trace : List (Exchange ε))
    (final : σ) : Prop where
  /-- There is one turn for each input, in their order, with its planned output. -/
  planned : turns.map (fun turn => (turn.input, turn.output)) = plan inputs directory format
  ordered : turns.map Turn.input = inputs
  /-- A turn is an export, in what the turns before it have left of the files. -/
  exported : ∀ turn ∈ turns, (exportFile bridge turn.input turn.output format options).run handler
    turn.before = (turn.result, turn.after)
  begins : ∀ turn ∈ turns.head?, ChangesOnly none (files prepared) (files turn.before)
  follows : turns.IsChain fun turn next => ChangesOnly none (files turn.after) (files next.before)
  /-- The report has an item for each turn. -/
  items : report.items = turns.map Turn.item
  count : report.succeeded + report.failed = inputs.length
  succeeded : report.succeeded = turns.countP fun turn => turn.result.isOk
  /-- An item has the one or the other. -/
  outcomes : ∀ item ∈ report.items,
    item.finished.isSome = true ↔ item.error = none ∧ item.kind = none
  events : eventsOf trace = .batchStart inputs.length ::
    eventsFrom 1 inputs.length turns ++ [.batchComplete inputs.length report.succeeded]
  /-- The engine lock is never asked for by a batch that still holds it. -/
  locks : LocksInTurn trace
  /-- What a turn has delivered is there at the end. -/
  delivered : ∀ turn ∈ turns, ∀ finished, turn.result = .ok finished →
    Delivered bridge handler files turn.input turn.output format options turn.before turn.after
        finished.bytes ∧
      ∀ place, (files turn.after).target? turn.output = some place →
        (files final).target? turn.output = some place ∧
          (files final).node? place = (files turn.after).node? place

theorem finished_isSome_iff (turn : Turn σ) :
    turn.item.finished.isSome = true ↔ turn.item.error = none ∧ turn.item.kind = none := by
  obtain ⟨input, output, before, result, after⟩ := turn
  cases result with
  | ok finished => exact iff_of_true rfl ⟨rfl, rfl⟩
  | error error => exact iff_of_false Bool.false_ne_true nofun

theorem isSuccess_item (turn : Turn σ) : turn.item.isSuccess = turn.result.isOk := by
  obtain ⟨input, output, before, result, after⟩ := turn
  cases result <;> rfl

theorem length_plan (inputs : List Path) (directory : Path) (format : Format) :
    (plan inputs directory format).length = inputs.length := by
  have hinputs := congrArg List.length (map_fst_plan inputs directory format)
  rwa [List.length_map] at hinputs

section Run

variable {handler : Handler ε σ} {bridge : Bridge ε} {inputs : List Path} {directory : Path}
  {format : Format} {options : Options} {state prepared started last : σ} {items : List Item}

theorem run_exportBatch
    (hdirectory : handler (.makeDirectories directory) (handler .readClock state).2 =
      (.ok (), prepared))
    (hstarted : (handler (.notify (.batchStart inputs.length)) prepared).2 = started)
    (hitems : (exportItems bridge format options inputs.length 1
      (plan inputs directory format)).run handler started = (items, last)) :
    ∃ milliseconds, (exportBatch bridge inputs directory format options).run handler state =
      (.ok (.ofItems items milliseconds),
        (handler .readClock (handler (.notify (.batchComplete inputs.length
          (Report.ofItems items 0).succeeded)) last).2).2) := by
  simp only [exportBatch, perform, run_bind, run_act, run_done]
  rw [hdirectory]
  simp only [run_bind, run_act, run_done, run_pure]
  rw [length_plan, hstarted, hitems]
  exact ⟨_, rfl⟩

theorem trace_exportBatch
    (hdirectory : handler (.makeDirectories directory) (handler .readClock state).2 =
      (.ok (), prepared))
    (hstarted : (handler (.notify (.batchStart inputs.length)) prepared).2 = started)
    (hitems : (exportItems bridge format options inputs.length 1
      (plan inputs directory format)).run handler started = (items, last)) :
    ∃ early late, (exportBatch bridge inputs directory format options).trace handler state =
      [⟨.readClock, early⟩, ⟨.makeDirectories directory, .ok ()⟩,
        ⟨.notify (.batchStart inputs.length), ()⟩] ++
      (exportItems bridge format options inputs.length 1 (plan inputs directory format)).trace
        handler started ++
      [⟨.notify (.batchComplete inputs.length (Report.ofItems items 0).succeeded), ()⟩,
        ⟨.readClock, late⟩] := by
  simp only [exportBatch, perform, trace_bind, trace_act, trace_done, run_act, run_done]
  rw [hdirectory]
  simp only [trace_bind, trace_act, trace_done, trace_pure, run_act, run_done]
  rw [length_plan, hstarted, hitems]
  refine ⟨(handler .readClock state).1, (handler .readClock (handler (.notify (.batchComplete
    inputs.length (Report.ofItems items 0).succeeded)) last).2).1, ?_⟩
  rw [List.append_assoc]
  rfl

end Run

/-- **A batch is the exports of its plan, one after another.**  Whatever the engine does,
as long as it writes only where it is told to, and whatever becomes of single files: every
input has its turn and its item, and what a turn has delivered stays. -/
theorem carried_exportBatch {handler : Handler ε σ} {files : σ → Workspace} {bridge : Bridge ε}
    {output? : σ → Handle → Option Path} (hfiles : AnswersFiles handler files)
    (htells : TellsOnly handler files)
    (hconfined : Confined handler files bridge.engine output?) (inputs : List Path)
    (directory : Path) (format : Format) (options : Options) (state prepared : σ)
    (hdirectory : handler (.makeDirectories directory) (handler .readClock state).2 =
      (.ok (), prepared)) :
    ∃ turns report final,
      (exportBatch bridge inputs directory format options).run handler state =
        (.ok report, final) ∧
      Carried bridge handler files inputs directory format options prepared turns report
        ((exportBatch bridge inputs directory format options).trace handler state) final := by
  obtain ⟨turns, last, hseries, hitems, hevents, hlocks⟩ := exists_series bridge handler format
    options inputs.length 1 (plan inputs directory format)
    (handler (.notify (.batchStart inputs.length)) prepared).2
  obtain ⟨milliseconds, hrun⟩ := run_exportBatch hdirectory rfl hitems
  obtain ⟨early, late, htrace⟩ := trace_exportBatch hdirectory rfl hitems
  have hplanned := planned_of_series hseries
  have hordered : turns.map Turn.input = inputs := by
    rw [← map_fst_plan inputs directory format, ← hplanned, List.map_map]
    rfl
  have hlength : turns.length = inputs.length := by
    rw [← hordered, List.length_map]
  have hclosed : ∀ state, ChangesOnly none (files state) (files (handler .readClock
      (handler (.notify (.batchComplete inputs.length
        (Report.ofItems (turns.map Turn.item) 0).succeeded)) state).2).2) :=
    fun state => (htells _ state).trans (hfiles.readClock _)
  refine ⟨turns, _, _, hrun, ?_⟩
  constructor
  case planned => exact hplanned
  case ordered => exact hordered
  case exported => exact run_of_series hseries
  case begins =>
    intro turn hturn
    exact (htells _ _).trans (begins_of_series htells hseries turn hturn)
  case follows => exact isChain_of_series htells hseries
  case items => rfl
  case count =>
    have hle := List.length_filter_le Item.isSuccess (turns.map Turn.item)
    rw [List.length_map, hlength] at hle
    simp only [Report.ofItems, List.length_map, hlength]
    omega
  case succeeded =>
    simp only [Report.ofItems, ← List.countP_eq_length_filter, List.countP_map]
    exact List.countP_congr fun turn _ => by rw [Function.comp, isSuccess_item]
  case outcomes =>
    intro item hitem
    obtain ⟨turn, -, rfl⟩ := List.mem_map.mp hitem
    exact finished_isSome_iff turn
  case events =>
    rw [htrace, eventsOf_append, eventsOf_append, hevents]
    rfl
  case locks =>
    rw [htrace]
    have hfirst : LocksInTurn ([⟨.readClock, early⟩, ⟨.makeDirectories directory, .ok ()⟩,
        ⟨.notify (.batchStart inputs.length), ()⟩] : List (Exchange ε)) :=
      (LocksInTurn.singleton rfl).append ((LocksInTurn.singleton rfl).append (.singleton rfl))
    exact (hfirst.append hlocks).append ((LocksInTurn.singleton rfl).append (.singleton rfl))
  case delivered =>
    -- the clock and the last event leave alone what the turns have left
    intro turn hturn finished hfinished
    rcases exportFile_changes hfiles hconfined (run_of_series hseries turn hturn) with
      ⟨error, herror, -⟩ | ⟨_, hsame, -, hdelivered⟩
    · cases hfinished.symm.trans herror
    · cases hfinished.symm.trans hsame
      refine ⟨hdelivered, fun place hplace => ?_⟩
      obtain ⟨htarget, hnode⟩ := kept_of_series hfiles htells hconfined
        (pairwise_apart_plan inputs directory format) hseries turn hturn place hplace
      exact ⟨((hclosed last).target?_eq _).trans htarget, ((hclosed last).node?_eq _).trans hnode⟩

/-- A workspace with two files to export that differ in case alone. -/
def twoInputs : Workspace :=
  oneInput.place (.ofString "A.eps") (.file ⟨#[0x25, 0x21]⟩ 0)

/-- Of three inputs, the second is missing, and the third would take the name of the first
if case did not matter.  The first and the third are delivered. -/
theorem carried_exportBatch_twoInputs :
    ∃ prepared turns report final,
      Host.handle Host.firstThread (.makeDirectories (.ofString "out"))
        (.start twoInputs [] .default) = (.ok (), prepared) ∧
      (exportBatch threeBytes [.ofString "a.eps", .ofString "b.eps", .ofString "A.eps"]
        (.ofString "out") .pdf .default).run (Host.handle Host.firstThread)
        (.start twoInputs [] .default) = (.ok report, final) ∧
      report.items.map (fun item => (item.output, item.finished.map Finished.bytes)) =
        [(.ofString "out/a.pdf", some 3), (.ofString "out/b.pdf", none),
          (.ofString "out/A-2.pdf", some 3)] ∧
      Carried threeBytes (Host.handle Host.firstThread) Host.workspace
        [.ofString "a.eps", .ofString "b.eps", .ofString "A.eps"] (.ofString "out") .pdf .default
        prepared turns report
        ((exportBatch threeBytes [.ofString "a.eps", .ofString "b.eps", .ofString "A.eps"]
          (.ofString "out") .pdf .default).trace (Host.handle Host.firstThread)
          (.start twoInputs [] .default)) final := by
  have htells : TellsOnly (Host.handle Host.firstThread) Host.workspace :=
    fun _ _ => .refl none _
  have hconfined : Confined (Host.handle Host.firstThread) Host.workspace threeBytes.engine
      (fun _ _ => none) := confined_fixture rfl _ _
  have hdirectory : (Host.handle Host.firstThread (.makeDirectories (.ofString "out"))
      (.start twoInputs [] .default)).1 = .ok () := by decide +kernel
  have hitems : (((exportBatch threeBytes
      [.ofString "a.eps", .ofString "b.eps", .ofString "A.eps"] (.ofString "out") .pdf
      .default).run (Host.handle Host.firstThread) (.start twoInputs [] .default)).1.toOption.map
      fun report => report.items.map fun item =>
        (item.output, item.finished.map Finished.bytes)) =
      some [(.ofString "out/a.pdf", some 3), (.ofString "out/b.pdf", none),
        (.ofString "out/A-2.pdf", some 3)] := by
    decide +kernel
  obtain ⟨turns, report, final, hrun, hcarried⟩ := carried_exportBatch
    (answersFiles_handle Host.firstThread) htells hconfined
    [.ofString "a.eps", .ofString "b.eps", .ofString "A.eps"] (.ofString "out") .pdf .default
    (.start twoInputs [] .default) _ (Prod.ext hdirectory rfl)
  rw [hrun] at hitems
  exact ⟨_, turns, report, final, Prod.ext hdirectory rfl, hrun, Option.some.inj hitems, hcarried⟩

end EpsBridge.Export
