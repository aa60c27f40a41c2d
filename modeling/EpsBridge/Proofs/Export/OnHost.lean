import EpsBridge.Proofs.Export.Orderly
import EpsBridge.Proofs.Export.Plan
import EpsBridge.Proofs.FileStore.Temporary
import EpsBridge.Proofs.Threads.OnHost

/-!
# Exports on a host

Threads on a host export files as the world of exports lets them (`reaches_follow_jobs`),
for engines that remove nothing, and where no destination is named like a temporary file.

The host gives a temporary file a name that nothing in the workspace has.  So this name is
nobody's as long as everybody's file is there (`Present`), and on a host nothing goes away
but what is moved or removed by its own thread.
-/

namespace EpsBridge.Export

open Program Workspace

variable {ε : Type}

/-- Jobs for scripted engines that remove nothing, with destinations that are not named like
temporary files. -/
structure Scripted (jobs : List (Job EngineRef)) : Prop where
  engine : ∀ job ∈ jobs, ∃ index script, job.bridge.engine = .fixture index script ∧
    script.removesOutputs = false
  names : ∀ job ∈ jobs, ∀ name, (FileStore.segments job.output).getLast? = some name →
    ¬ Utf8.encode temporaryBeginning <+: name

/-- Temporary files are there as long as their threads have them. -/
def Present (execution : Execution ε (Except Error Finished) Workspace) : Prop :=
  ∀ thread place, (stageAt execution.history thread).place? execution.state = some place →
    execution.state.node? place ≠ none

/-! ## What goes away -/

/-- Whether an exchange takes away what lies at the end of a path. -/
def TakesAway (path : Path) : Exchange ε → Prop
  | ⟨.moveFile source _, answer⟩ => answer = .ok () ∧ source = path
  | ⟨.removeFile removed, _⟩ => removed = path
  | _ => False

/-- Whoever takes something away has it as its temporary file, and has it no more. -/
theorem stage_of_takesAway {stage : Stage} {engine : ε} {output path : Path}
    {told : Option Path} {exchange : Exchange ε}
    (hpermits : stage.permits engine output told exchange.action)
    (htakes : TakesAway path exchange) :
    ∃ run delivered, stage = .staged path run ∧ stage.after exchange = .settled delivered := by
  obtain ⟨action, answer⟩ := exchange
  cases stage with
  | unstaged | settled delivered =>
      cases action with
      | moveFile source target | removeFile removed => exact hpermits.elim
      | _ => exact htakes.elim
  | staged temporary run =>
      cases action with
      | moveFile source target =>
          obtain ⟨rfl, rfl⟩ := htakes
          cases run with
          | due | running => exact hpermits.elim
          | ended =>
              obtain ⟨rfl, -⟩ := hpermits
              exact ⟨.ended, true, rfl, rfl⟩
      | removeFile removed =>
          obtain rfl : removed = path := htakes
          cases run with
          | running => exact hpermits.elim
          | due | ended =>
              obtain rfl : removed = temporary := hpermits
              exact ⟨_, false, rfl, rfl⟩
      | _ => exact htakes.elim

/-- A temporary file that a thread has now, it had before, or has just been given. -/
theorem Stage.staged_of_after {stage : Stage} {exchange : Exchange ε} {temporary : Path}
    {run : Run} (hafter : stage.after exchange = .staged temporary run) :
    (∃ before, stage = .staged temporary before) ∨
      ∃ place beginning ending,
        exchange = ⟨.createTemporary place beginning ending, .ok temporary⟩ := by
  unfold Stage.after at hafter
  split at hafter
  · next place beginning ending answer =>
      cases answer with
      | error error => cases hafter
      | ok path =>
          cases hafter
          exact .inr ⟨place, beginning, ending, rfl⟩
  · cases hafter
    exact .inl ⟨_, rfl⟩
  · cases hafter
    exact .inl ⟨_, rfl⟩
  · split at hafter
    · cases hafter
    · cases hafter
      exact .inl ⟨_, rfl⟩
  · cases hafter
  · exact .inl ⟨run, hafter⟩

section OnHost

variable {jobs : List (Job EngineRef)} {host : Host} {thread : Nat} {place : Location}
  {action : Action EngineRef} {engine : EngineRef}

theorem handle_createTemporary {directory : Path} {beginning ending : String}
    {answer : Except FileError Path} {now : Workspace}
    (hcreate : host.workspace.createTemporary directory beginning ending = (answer, now)) :
    Host.handle thread (.createTemporary (.directory directory) beginning ending) host =
      (answer, { host with workspace := now }) := by
  change host.withWorkspace (host.workspace.createTemporary directory beginning ending) = _
  rw [hcreate]
  rfl

theorem handle_moveFile {source target : Path} {answer : Except FileError Unit} {now : Workspace}
    (hmove : host.workspace.moveFile source target = (answer, now)) :
    Host.handle thread (.moveFile source target) host =
      (answer, { host with workspace := now }) := by
  change host.withWorkspace (host.workspace.moveFile source target) = _
  rw [hmove]
  rfl

/-- On a host, nothing goes away but what is taken away. -/
theorem node?_ne_none_of_handle {index : Nat} {script : Fixture.Script}
    (hkeeps : script.removesOutputs = false)
    (hbelongs : BelongsToExport (.fixture index script) action)
    (hnode : host.workspace.node? place ≠ none)
    (hkept : ∀ path, TakesAway path ⟨action, (Host.handle thread action host).1⟩ →
      ∃ other, host.workspace.target? path = some other ∧
        IsPlain (host.workspace.node? other) ∧ other ≠ place) :
    (Host.handle thread action host).2.workspace.node? place ≠ none := by
  have hfiles := answersFiles_handle thread
  have hconfined := confined_fixture hkeeps thread index
  have hstill : ∀ {after : Workspace}, ChangesOnly none host.workspace after →
      after.node? place ≠ none := by
    intro after hchange
    rw [hchange.node?_eq]
    exact hnode
  cases action with
  | lockEngine => exact hstill (hfiles.lockEngine host)
  | unlockEngine => exact hstill (hfiles.unlockEngine host)
  | readClock => exact hstill (hfiles.readClock host)
  | pathExists path => exact hstill (hfiles.pathExists path host)
  | fileSize path => exact hstill (hfiles.fileSize path host)
  | create engine =>
      obtain rfl : engine = _ := hbelongs
      exact hstill (hconfined.create host)
  | stop engine handle capture =>
      obtain rfl : engine = _ := hbelongs
      exact hstill (hconfined.stop handle capture host)
  | discard engine handle unwinding =>
      obtain rfl : engine = _ := hbelongs
      exact hstill (hconfined.discard handle unwinding host)
  | start engine handle argv capture =>
      obtain rfl : engine = _ := hbelongs
      change (Fixture.start script argv capture
        ⟨host.logAt index, host.workspace⟩).2.workspace.node? place ≠ none
      rcases workspace_start hkeeps argv capture ⟨host.logAt index, host.workspace⟩ with
        hsame | ⟨path, content, -, hwritten⟩
      · rw [hsame]
        exact hnode
      · rw [hwritten]
        exact node?_writeFile_ne_none path content hnode
  | createTemporary directory beginning ending =>
      cases directory with
      | system => exact hbelongs.elim
      | directory path =>
          rcases hcreate : host.workspace.createTemporary path beginning ending with
            ⟨error | temporary, now⟩
          · rw [handle_createTemporary hcreate, eq_of_createTemporary_eq_error hcreate]
            exact hnode
          · -- it is created where nothing is, so elsewhere
            obtain ⟨fresh, hstaged⟩ := staged_createTemporary hcreate
            have hother : place ≠ fresh := by
              rintro rfl
              exact hnode hstaged.fresh
            rw [handle_createTemporary hcreate, hstaged.elsewhere hother]
            exact hnode
  | moveFile source target =>
      rcases hmove : host.workspace.moveFile source target with ⟨error | _, after⟩
      · rw [handle_moveFile hmove, eq_of_moveFile_eq_error hmove]
        exact hnode
      · rw [handle_moveFile hmove] at hkept ⊢
        obtain ⟨other, htarget, -, hother⟩ := hkept source ⟨rfl, rfl⟩
        obtain ⟨node, destination, -, -, -, hmoved⟩ := moved_of_moveFile hmove other htarget
        change after.node? place ≠ none
        by_cases hplace : place = destination
        · -- something else comes here
          rw [hplace, hmoved.node]
          exact Option.some_ne_none node
        · rw [hmoved.elsewhere place hplace, if_neg hother.symm]
          exact hnode
  | removeFile removed =>
      obtain ⟨other, htarget, hplain, hother⟩ := hkept removed rfl
      rw [(hfiles.removed removed other host htarget hplain).node?_eq, if_neg hother.symm]
      exact hnode
  | _ => exact hbelongs.elim

/-! ## What a host answers -/

/-- A host answers an export as the world of exports does. -/
theorem answers_of_handle {execution : Execution EngineRef (Except Error Finished) Host}
    (hscripted : Scripted jobs)
    (hjobs : jobsPermit jobs thread ((execution.map Host.workspace).past thread) action)
    (hpresent : Present (execution.map Host.workspace)) :
    (exportWorld jobs).answers (execution.map Host.workspace) thread
      ⟨action, (Host.handle thread action execution.state).1⟩
      (Host.handle thread action execution.state).2.workspace := by
  obtain ⟨job, hjob, hpermits⟩ := hjobs
  have hbelongs := Stage.belongsToExport hpermits
  obtain ⟨index, script, hengine, hkeeps⟩ := hscripted.engine job (List.mem_of_getElem? hjob)
  have hfiles := answersFiles_handle thread
  have hconfined := confined_fixture hkeeps thread index
  rw [hengine] at hbelongs
  cases action with
  | lockEngine => exact hfiles.lockEngine execution.state
  | unlockEngine => exact hfiles.unlockEngine execution.state
  | readClock => exact hfiles.readClock execution.state
  | pathExists path => exact ⟨rfl, rfl⟩
  | fileSize path =>
      change (exportWorld jobs).answers _ thread ⟨.fileSize path,
        execution.state.workspace.store.sizeOf execution.state.workspace.here path⟩
        execution.state.workspace
      cases hsize : execution.state.workspace.store.sizeOf execution.state.workspace.here path with
      | error error => rfl
      | ok size => exact ⟨hsize, rfl⟩
  | create engine =>
      obtain rfl : engine = _ := hbelongs
      exact hconfined.create execution.state
  | start engine handle argv capture =>
      obtain rfl : engine = _ := hbelongs
      exact hconfined.start handle argv capture execution.state
  | stop engine handle capture =>
      obtain rfl : engine = _ := hbelongs
      exact (hconfined.stop handle capture execution.state).of_none _
  | discard engine handle unwinding =>
      obtain rfl : engine = _ := hbelongs
      have hchange := hconfined.discard handle unwinding execution.state
      cases unwinding <;> exact hchange.of_none _
  | createTemporary directory beginning ending =>
      cases directory with
      | system => exact hbelongs.elim
      | directory path =>
          obtain ⟨rfl, format, rfl⟩ := hbelongs
          rcases hcreate : execution.state.workspace.createTemporary path temporaryBeginning
            ("." ++ format.extension) with ⟨error | temporary, now⟩
          · rw [handle_createTemporary hcreate]
            exact eq_of_createTemporary_eq_error hcreate
          · rw [handle_createTemporary hcreate]
            obtain ⟨place, name, hstaged, -, hname, hbeginning⟩ :=
              exists_place_of_createTemporary (by decide) (slash_not_mem_nameEnd format none)
                hcreate
            refine ⟨place, hstaged, fun other hother hplace => ?_, fun other hplace => ?_⟩
            · -- a destination has another name
              rw [FileStore.head?_of_target? hplace] at hname
              exact hscripted.names other hother name hname hbeginning
            · -- everybody else's file is there already
              exact hpresent other place hplace hstaged.fresh
  | moveFile source target =>
      rcases hmove : execution.state.workspace.moveFile source target with ⟨error | _, after⟩
      · rw [handle_moveFile hmove]
        exact eq_of_moveFile_eq_error hmove
      · rw [handle_moveFile hmove]
        exact hmove
  | removeFile path => rfl
  | _ => exact hbelongs.elim

theorem exists_node_of_created {directory : TemporaryPlace} {beginning ending : String}
    {temporary : Path} (hbelongs : BelongsToExport engine action)
    (hcreated : (⟨action, (Host.handle thread action host).1⟩ : Exchange EngineRef) =
      ⟨.createTemporary directory beginning ending, .ok temporary⟩) :
    ∃ place, (Host.handle thread action host).2.workspace.target? temporary = some place ∧
      (Host.handle thread action host).2.workspace.node? place ≠ none := by
  obtain ⟨rfl, hanswer⟩ := Exchange.mk.inj hcreated
  replace hanswer := eq_of_heq hanswer
  cases directory with
  | system => exact hbelongs.elim
  | directory path =>
      obtain ⟨rfl, format, rfl⟩ := hbelongs
      rcases hcreate : host.workspace.createTemporary path temporaryBeginning
        ("." ++ format.extension) with ⟨answer, now⟩
      rw [handle_createTemporary hcreate] at hanswer ⊢
      obtain rfl : answer = .ok temporary := hanswer
      obtain ⟨place, -, hstaged, hthere, -⟩ :=
        exists_place_of_createTemporary (by decide) (slash_not_mem_nameEnd format none) hcreate
      exact ⟨place, hstaged.target_now, hthere⟩

/-! ## Executions -/

/-- Everybody's temporary file is there after an exchange with a host. -/
theorem present_record {first : Workspace}
    {execution : Execution EngineRef (Except Error Finished) Host}
    (hscripted : Scripted jobs)
    (hjobs : jobsPermit jobs thread ((execution.map Host.workspace).past thread) action)
    (horderly : Orderly jobs first (execution.map Host.workspace).history
      (execution.map Host.workspace).state)
    (hpresent : Present (execution.map Host.workspace))
    (rest : Program EngineRef (Except Error Finished)) :
    Present ((execution.map Host.workspace).record thread
      ⟨action, (Host.handle thread action execution.state).1⟩ rest
      (Host.handle thread action execution.state).2.workspace) := by
  have hafter := horderly.act hjobs (answers_of_handle hscripted hjobs hpresent)
  obtain ⟨job, hjob, hpermits⟩ := hjobs
  change (stageAt (execution.map Host.workspace).history thread).permits job.bridge.engine
    job.output _ action at hpermits
  have hbelongs := Stage.belongsToExport hpermits
  obtain ⟨index, script, hengine, hkeeps⟩ := hscripted.engine job (List.mem_of_getElem? hjob)
  rw [hengine] at hbelongs
  intro other place hplace
  rw [Execution.record] at hplace ⊢
  rw [hafter.place?_eq] at hplace
  -- a file that was there before stays there unless its own thread takes it away
  have hstays : ∀ temporary run,
      stageAt (execution.map Host.workspace).history other = .staged temporary run →
      first.target? temporary = some place →
      (∀ path, TakesAway path ⟨action, (Host.handle thread action execution.state).1⟩ →
        other ≠ thread) →
      (Host.handle thread action execution.state).2.workspace.node? place ≠ none := by
    intro temporary run hstage htarget hothers
    refine node?_ne_none_of_handle hkeeps hbelongs (hpresent other place ?_) ?_
    · rw [horderly.place?_eq, hstage]
      exact htarget
    · intro path htakes
      obtain ⟨taken, -, htaken, -⟩ := stage_of_takesAway hpermits htakes
      obtain ⟨lies, hlies, -, hplain⟩ := horderly.staged thread path taken htaken
      refine ⟨lies, (horderly.target?_eq path).trans hlies, hplain, ?_⟩
      rintro rfl
      exact hothers path htakes (horderly.apart other thread lies
        (Orderly.place?_of_staged hstage htarget) (Orderly.place?_of_staged htaken hlies))
  obtain ⟨temporary, run, hstage, htarget⟩ := Orderly.exists_staged_of_place? hplace
  by_cases hthread : thread = other
  · subst hthread
    rw [stageAt_append_self] at hstage
    rcases Stage.staged_of_after hstage with ⟨before, hbefore⟩ | ⟨_, _, _, hcreated⟩
    · refine hstays temporary before hbefore htarget fun path htakes => ?_
      obtain ⟨-, delivered, -, hsettled⟩ := stage_of_takesAway hpermits htakes
      cases hsettled.symm.trans hstage
    · obtain ⟨lies, hlies, hthere⟩ := exists_node_of_created hbelongs hcreated
      rw [hafter.target?_eq] at hlies
      obtain rfl := Option.some.inj (hlies.symm.trans htarget)
      exact hthere
  · rw [stageAt_append_of_ne hthread] at hstage
    exact hstays temporary run hstage htarget fun _ _ => Ne.symm hthread

/-- What threads on a host come to is an execution of their exports, and everybody's
temporary file is there. -/
theorem reaches_jobs {execution : Execution EngineRef (Except Error Finished) Host}
    (hscripted : Scripted jobs)
    (hreaches : Reaches (hostWorld _) (.start (jobs.map Job.program) host) execution) :
    Reaches (exportWorld jobs) (.start (jobs.map Job.program) host.workspace)
        (execution.map Host.workspace) ∧
      Present (execution.map Host.workspace) := by
  induction hreaches with
  | refl => exact ⟨.refl, fun thread place hplace => nomatch hplace⟩
  | @tail earlier later hearlier hstep ih =>
      obtain ⟨hexports, hpresent⟩ := ih
      cases hstep with
      | drift hdrift => exact hdrift.elim
      | @act thread action next answer after hprogram hanswer =>
          obtain rfl : (Host.handle thread action earlier.state).1 = answer :=
            congrArg Prod.fst hanswer.2
          obtain rfl : (Host.handle thread action earlier.state).2 = after :=
            congrArg Prod.snd hanswer.2
          have hjobs := (keepsAll_jobs hexports thread _ hprogram).1
          rw [Execution.map_record]
          refine ⟨hexports.tail ?_, ?_⟩
          · exact .act hprogram (answers_of_handle hscripted hjobs hpresent)
          · exact present_record hscripted hjobs (orderly_of_reaches hexports) hpresent _

/-- Threads that export files on a host get, under every schedule, to where an execution of
their exports gets. -/
theorem reaches_follow_jobs (hscripted : Scripted jobs) (host : Host) (schedule : List Nat) :
    ∃ history, Reaches (exportWorld jobs) (.start (jobs.map Job.program) host.workspace)
      ⟨((Threads.mk (jobs.map Job.program) host).follow schedule).programs, history,
        ((Threads.mk (jobs.map Job.program) host).follow schedule).host.workspace⟩ := by
  obtain ⟨history, hreaches⟩ := reaches_follow ⟨jobs.map Job.program, host⟩ schedule
  exact ⟨_, (reaches_jobs hscripted hreaches).1⟩

end OnHost

end EpsBridge.Export
