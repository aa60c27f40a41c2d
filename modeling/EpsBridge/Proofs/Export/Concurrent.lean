import EpsBridge.Proofs.Export.OnHost

/-!
# Exports do not mix

What the invariant says of any number of exports at once is put together here: at every
moment a destination holds what it held at first or what some run has left as a whole,
and when all exports have ended, the last delivery of each destination is all that has
changed (`whole_of_reaches`).
-/

namespace EpsBridge.Export

open Program Workspace

variable {ε : Type}

section Reached

variable {jobs : List (Job ε)} {first : Workspace}
  {execution : Execution ε (Except Error Finished) Workspace}

/-- What was moved is what a run had left, and went to the destination of the thread's job. -/
theorem move_of_reaches {before after : List (Entry ε Workspace)} {entry : Entry ε Workspace}
    {source target : Path}
    (hreaches : Reaches (exportWorld jobs) (.start (jobs.map Job.program) first) execution)
    (hhistory : execution.history = before ++ entry :: after)
    (hmove : entry.exchange = ⟨.moveFile source target, .ok ()⟩) :
    stageAt before entry.thread = .staged source .ended ∧
      ∃ job destination, jobs[entry.thread]? = some job ∧ target = job.output ∧
        first.target? target = some destination := by
  obtain ⟨thread, exchange, state⟩ := entry
  obtain rfl : exchange = _ := hmove
  obtain ⟨earlier, next, hearlier, rfl, hprogram, hanswer⟩ :=
    exists_reaches_of_mem_history hreaches rfl hhistory
  have horderly := orderly_of_reaches hearlier
  obtain ⟨job, hjob, hpermits⟩ := (keepsAll_jobs hearlier _ _ hprogram).1
  change (stageAt earlier.history thread).permits job.bridge.engine job.output _ _ at hpermits
  cases hstage : stageAt earlier.history thread with
  | unstaged | settled delivered => rw [hstage] at hpermits; exact hpermits.elim
  | staged temporary run =>
      rw [hstage] at hpermits
      cases run with
      | due | running => exact hpermits.elim
      | ended =>
          -- only here is a move permitted, of the thread's own file to its own destination
          obtain ⟨rfl, rfl⟩ := hpermits
          obtain ⟨place, hplace, -⟩ := horderly.staged thread source .ended hstage
          obtain ⟨-, destination, -, hdestination, -⟩ :=
            moved_of_moveFile hanswer place ((horderly.target?_eq source).trans hplace)
          rw [horderly.target?_eq] at hdestination
          exact ⟨rfl, job, destination, hjob, rfl, hdestination⟩

/-- The export of a thread that has moved its file succeeds. -/
theorem settled_of_move {before after : List (Entry ε Workspace)} {entry : Entry ε Workspace}
    {source target : Path}
    (hreaches : Reaches (exportWorld jobs) (.start (jobs.map Job.program) first) execution)
    (hhistory : execution.history = before ++ entry :: after)
    (hmove : entry.exchange = ⟨.moveFile source target, .ok ()⟩) :
    stageAt execution.history entry.thread = .settled true := by
  obtain ⟨hstage, -⟩ := move_of_reaches hreaches hhistory hmove
  have hpast : pastOf execution.history entry.thread =
      pastOf before entry.thread ++ [entry.exchange] ++ pastOf after entry.thread := by
    simp [hhistory, pastOf]
  -- the move settles it, and whatever comes after leaves it settled
  rw [stageAt, hpast]
  refine stageOf_append_of_settled ?_ _
  rw [stageOf_append_singleton, ← stageAt, hstage, hmove]
  rfl

theorem isOk_of_move {before after : List (Entry ε Workspace)} {entry : Entry ε Workspace}
    {source target : Path} {result : Except Error Finished}
    (hreaches : Reaches (exportWorld jobs) (.start (jobs.map Job.program) first) execution)
    (hhistory : execution.history = before ++ entry :: after)
    (hmove : entry.exchange = ⟨.moveFile source target, .ok ()⟩)
    (hresult : execution.programs[entry.thread]? = some (.done result)) :
    result.isOk = true := by
  have hsettled := settled_of_move hreaches hhistory hmove
  rcases keepsAll_jobs hreaches _ _ hresult with hended | ⟨-, hended⟩
  · injection hsettled.symm.trans hended with hok
    exact hok.symm
  · cases hsettled.symm.trans hended

end Reached

/-- Exports of which each comes to its destination as a whole or not at all. -/
structure Whole (jobs : List (Job ε)) (first : Workspace)
    (execution : Execution ε (Except Error Finished) Workspace) : Prop where
  /-- A destination holds what it held at first, or what a run has left. -/
  destinations : ∀ job ∈ jobs, ∀ place, first.target? job.output = some place →
    Account jobs first execution.history place (execution.state.node? place)
  /-- Nothing is delivered but by exports that succeed. -/
  successful : ∀ place, ∀ entry ∈ execution.history, MovesTo first place entry →
    ∀ result, execution.programs[entry.thread]? = some (.done result) → result.isOk = true
  /-- Where an export has succeeded, there is what was delivered last. -/
  delivered : ∀ (thread : Nat) (job : Job ε) (finished : Finished), jobs[thread]? = some job →
    execution.programs[thread]? = some (.done (.ok finished)) →
    ∃ place node, first.target? job.output = some place ∧
      LastDelivery jobs first place execution.history node ∧
      execution.state.node? place = some node
  /-- When all have ended, nothing else has changed. -/
  unchanged : (∀ program ∈ execution.programs, ∃ result, program = .done result) →
    ∀ place, (∀ (thread : Nat) (job : Job ε) (finished : Finished), jobs[thread]? = some job →
      execution.programs[thread]? = some (.done (.ok finished)) →
      first.target? job.output ≠ some place) →
    execution.state.node? place = first.node? place
  /-- When all have ended, no temporary file is left. -/
  removed : (∀ program ∈ execution.programs, ∃ result, program = .done result) →
    ∀ entry ∈ execution.history, ∀ directory beginning ending temporary,
      entry.exchange = ⟨.createTemporary directory beginning ending, .ok temporary⟩ →
      ∃ place, first.target? temporary = some place ∧ execution.state.node? place = none

section Reached

variable {jobs : List (Job ε)} {first : Workspace}
  {execution : Execution ε (Except Error Finished) Workspace}

theorem account_destination
    (hreaches : Reaches (exportWorld jobs) (.start (jobs.map Job.program) first) execution)
    {job : Job ε} (hjob : job ∈ jobs) {place : Location}
    (hplace : first.target? job.output = some place) :
    Account jobs first execution.history place (execution.state.node? place) := by
  have horderly := orderly_of_reaches hreaches
  -- no temporary file lies at a destination
  refine horderly.accounts place fun thread hstaged => ?_
  exact (horderly.spare_of_place? hstaged).2 job hjob hplace

theorem delivered_of_reaches
    (hreaches : Reaches (exportWorld jobs) (.start (jobs.map Job.program) first) execution)
    {thread : Nat} {job : Job ε} {finished : Finished} (hjob : jobs[thread]? = some job)
    (hresult : execution.programs[thread]? = some (.done (.ok finished))) :
    ∃ place node, first.target? job.output = some place ∧
      LastDelivery jobs first place execution.history node ∧
      execution.state.node? place = some node := by
  have hsettled : stageAt execution.history thread = .settled true := by
    rcases keepsAll_jobs hreaches _ _ hresult with hended | ⟨hfailed, -⟩
    · exact hended
    · cases hfailed
  obtain ⟨source, target, hmove⟩ := exists_move_of_settled hsettled
  obtain ⟨entry, hfound, hexchange⟩ := List.mem_map.mp hmove
  obtain ⟨hentry, hthread⟩ := List.mem_filter.mp hfound
  obtain ⟨before, after, hhistory⟩ := List.append_of_mem hentry
  obtain ⟨-, other, place, hother, rfl, hplace⟩ := move_of_reaches hreaches hhistory hexchange
  have hthread : entry.thread = thread := by simpa using hthread
  subst hthread
  obtain rfl := Option.some.inj (hother.symm.trans hjob)
  have haccount := account_destination hreaches (List.mem_of_getElem? hjob) hplace
  generalize hnode : execution.state.node? place = node? at haccount
  cases haccount with
  | untouched hnever => exact absurd ⟨source, _, hexchange, hplace⟩ (hnever entry hentry)
  | delivered hlast => exact ⟨place, _, hplace, hlast, hnode⟩

/-- When all have ended, those that have done anything have a result. -/
theorem exists_result_of_past
    (hreaches : Reaches (exportWorld jobs) (.start (jobs.map Job.program) first) execution)
    (hended : ∀ program ∈ execution.programs, ∃ result, program = .done result) {thread : Nat}
    (hpast : pastOf execution.history thread ≠ []) :
    ∃ result, execution.programs[thread]? = some (.done result) := by
  cases hprogram : execution.programs[thread]? with
  | none => exact absurd (past_eq_nil_of_reaches hreaches rfl hprogram) hpast
  | some program =>
      obtain ⟨result, rfl⟩ := hended program (List.mem_of_getElem? hprogram)
      exact ⟨result, rfl⟩

theorem place?_of_ended
    (hreaches : Reaches (exportWorld jobs) (.start (jobs.map Job.program) first) execution)
    (hended : ∀ program ∈ execution.programs, ∃ result, program = .done result) (thread : Nat) :
    (stageAt execution.history thread).place? first = none := by
  by_cases hpast : pastOf execution.history thread = []
  · -- it has not begun
    rw [stageAt, hpast]
    rfl
  · obtain ⟨result, hresult⟩ := exists_result_of_past hreaches hended hpast
    rcases keepsAll_jobs hreaches _ _ hresult with hsettled | ⟨-, hunstaged⟩
    · change stageAt _ thread = _ at hsettled
      rw [hsettled]
      rfl
    · change stageAt _ thread = _ at hunstaged
      rw [hunstaged]
      rfl

theorem unchanged_of_reaches
    (hreaches : Reaches (exportWorld jobs) (.start (jobs.map Job.program) first) execution)
    (hended : ∀ program ∈ execution.programs, ∃ result, program = .done result)
    {place : Location}
    (hfailed : ∀ (thread : Nat) (job : Job ε) (finished : Finished), jobs[thread]? = some job →
      execution.programs[thread]? = some (.done (.ok finished)) →
      first.target? job.output ≠ some place) :
    execution.state.node? place = first.node? place := by
  have haccount := (orderly_of_reaches hreaches).accounts place fun thread => by
    rw [place?_of_ended hreaches hended thread]
    exact nofun
  generalize hnode : execution.state.node? place = node? at haccount
  cases haccount with
  | untouched hnever => rfl
  | delivered hlast =>
      -- who has delivered something has succeeded
      obtain ⟨before, entry, after, hhistory, hdelivery, -⟩ := hlast
      cases hdelivery with
      | intro hjob hdestination _ hmove _ _ _ _ _ =>
          have hpast : pastOf execution.history entry.thread ≠ [] := by
            intro hnone
            have hsettled := settled_of_move hreaches hhistory hmove
            rw [stageAt, hnone] at hsettled
            cases hsettled
          obtain ⟨result, hresult⟩ := exists_result_of_past hreaches hended hpast
          have hok := isOk_of_move hreaches hhistory hmove hresult
          cases result with
          | error error => cases hok
          | ok finished => exact absurd hdestination (hfailed _ _ finished hjob hresult)

/-- A temporary file was created where nothing was at first, and no job exports to. -/
theorem spare_of_create {entry : Entry ε Workspace} {directory : TemporaryPlace}
    {beginning ending : String} {temporary : Path}
    (hreaches : Reaches (exportWorld jobs) (.start (jobs.map Job.program) first) execution)
    (hentry : entry ∈ execution.history)
    (hcreate : entry.exchange =
      ⟨.createTemporary directory beginning ending, .ok temporary⟩) :
    ∃ place, first.target? temporary = some place ∧ Spare jobs first place := by
  obtain ⟨before, after, hhistory⟩ := List.append_of_mem hentry
  obtain ⟨thread, exchange, state⟩ := entry
  obtain rfl : exchange = _ := hcreate
  obtain ⟨earlier, next, hearlier, -, -, hanswer⟩ :=
    exists_reaches_of_mem_history hreaches rfl hhistory
  obtain ⟨place, hstaged, hdestinations, hunused⟩ := hanswer
  have horderly := orderly_of_reaches hearlier
  refine ⟨place, ?_, ?_, fun job hjob => ?_⟩
  · rw [← horderly.target?_eq]
    exact hstaged.target
  · have haccount := horderly.accounts place fun other => by
      rw [← horderly.place?_eq]
      exact hunused other
    rw [hstaged.fresh] at haccount
    exact haccount.first_eq_none
  · rw [← horderly.target?_eq]
    exact hdestinations job hjob

/-- **Exports do not mix.**  However many threads export files, to whatever destinations,
whatever their engines answer and write to the files they are told to, and however their
steps interleave: a destination never holds but what it held at first or all of what a run
has left, the last one that was delivered; and when all have ended, nothing else is left. -/
theorem whole_of_reaches (jobs : List (Job ε)) (first : Workspace)
    (execution : Execution ε (Except Error Finished) Workspace)
    (hreaches : Reaches (exportWorld jobs) (.start (jobs.map Job.program) first) execution) :
    Whole jobs first execution where
  destinations job hjob place hplace := account_destination hreaches hjob hplace
  successful := by
    rintro place entry hentry ⟨source, target, hmove, -⟩ result hresult
    obtain ⟨before, after, hhistory⟩ := List.append_of_mem hentry
    exact isOk_of_move hreaches hhistory hmove hresult
  delivered thread job finished hjob hresult := delivered_of_reaches hreaches hjob hresult
  unchanged hended place hfailed := unchanged_of_reaches hreaches hended hfailed
  removed hended entry hentry directory beginning ending temporary hcreate := by
    obtain ⟨place, hplace, hfresh, hspare⟩ := spare_of_create hreaches hentry hcreate
    refine ⟨place, hplace, ?_⟩
    rw [← hfresh]
    refine unchanged_of_reaches hreaches hended fun thread job finished hjob _ => ?_
    exact hspare job (List.mem_of_getElem? hjob)

end Reached

/-- Two exports to one destination, of three bytes and of two. -/
def sameDestination : List (Job EngineRef) :=
  [⟨threeBytes, .ofString "a.eps", .ofString "out.pdf", .pdf, .default⟩,
    ⟨⟨.fixture 1 { Fixture.Script.default with outputFile := some ⟨#[4, 5]⟩ }, .default⟩,
      .ofString "b.eps", .ofString "out.pdf", .pdf, .default⟩]

/-- A workspace with two files to export, and something at the destination. -/
def twoEps : Workspace :=
  (oneInput.place (.ofString "b.eps") (.file ⟨#[0x25, 0x21]⟩ 0)).place (.ofString "out.pdf")
    (.file ⟨#[0]⟩ 0)

theorem scripted_sameDestination : Scripted sameDestination where
  engine job hjob := by
    simp only [sameDestination, List.mem_cons, List.not_mem_nil, or_false] at hjob
    rcases hjob with rfl | rfl
    · exact ⟨0, _, rfl, rfl⟩
    · exact ⟨1, _, rfl, rfl⟩
  names job hjob name hname hbeginning := by
    simp only [sameDestination, List.mem_cons, List.not_mem_nil, or_false] at hjob
    have hout : (FileStore.segments (.ofString "out.pdf")).getLast? =
        some (Utf8.encode "out.pdf") := by decide +kernel
    have hother : ¬ Utf8.encode temporaryBeginning <+: Utf8.encode "out.pdf" := by decide +kernel
    rcases hjob with rfl | rfl
    · exact hother (Option.some.inj (hname.symm.trans hout) ▸ hbeginning)
    · exact hother (Option.some.inj (hname.symm.trans hout) ▸ hbeginning)

/-- Both have a temporary file before either moves its own, and the first moves last. -/
def afterBoth : Threads (Except Error Finished) :=
  (Threads.mk (sameDestination.map Job.program) (.start twoEps [] .default)).follow
    [0, 0, 0, 1, 1, 1, 0, 0, 0, 0, 0, 0, 1, 1, 1, 1, 1, 1, 1, 0, 1, 0, 0, 1]

/-- Both exports succeed, and in the end the destination holds three bytes. -/
theorem whole_of_reaches_sameDestination :
    ∃ history, Reaches (exportWorld sameDestination)
        (.start (sameDestination.map Job.program) twoEps)
        ⟨afterBoth.programs, history, afterBoth.host.workspace⟩ ∧
      afterBoth.hasEnded = true ∧
      afterBoth.values.map (fun result => result.toOption.map Finished.bytes) =
        [some 3, some 2] ∧
      afterBoth.host.workspace.store.readFile afterBoth.host.workspace.here
        (.ofString "out.pdf") = .ok ⟨#[1, 2, 3]⟩ ∧
      Whole sameDestination twoEps
        ⟨afterBoth.programs, history, afterBoth.host.workspace⟩ := by
  obtain ⟨history, hreaches⟩ := reaches_follow_jobs scripted_sameDestination
    (.start twoEps [] .default)
    [0, 0, 0, 1, 1, 1, 0, 0, 0, 0, 0, 0, 1, 1, 1, 1, 1, 1, 1, 0, 1, 0, 0, 1]
  exact ⟨history, hreaches, by decide +kernel, by decide +kernel, by decide +kernel,
    whole_of_reaches _ _ _ hreaches⟩

end EpsBridge.Export
