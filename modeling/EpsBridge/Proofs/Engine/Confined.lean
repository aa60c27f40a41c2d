import EpsBridge.Host
import EpsBridge.Proofs.Engine.Course
import EpsBridge.Proofs.FileStore.Change

/-!
# Engines that write where they are told to

An engine is told by an argument where to write, when an instance is started.  It is
`Confined` if no call of it changes anything but the file there: not the making of
an instance, which is told nothing yet, and not the stopping and discarding, for
which the engine has to remember what it was told.

Then a whole run changes nothing but that file (`changesOnly_invoke`), whatever
course it takes.
-/

namespace EpsBridge

open Program Workspace

variable {ε σ : Type}

/-- A handler that answers the calls on files as a file system does, and changes none in any
other action of the bridge.  A temporary file comes to be where nothing lay, under whatever
name, and goes when it is removed.  Any other call may also fail for reasons that the files do
not show; it has changed nothing then. -/
structure AnswersFiles (handler : Handler ε σ) (files : σ → Workspace) : Prop where
  lockEngine : ∀ state, ChangesOnly none (files state) (files (handler .lockEngine state).2)
  unlockEngine : ∀ state, ChangesOnly none (files state) (files (handler .unlockEngine state).2)
  readClock : ∀ state, ChangesOnly none (files state) (files (handler .readClock state).2)
  pathExists : ∀ path state,
    ChangesOnly none (files state) (files (handler (.pathExists path) state).2)
  readFile : ∀ path state, ChangesOnly none (files state) (files (handler (.readFile path) state).2)
  fileSize : ∀ path state, ChangesOnly none (files state) (files (handler (.fileSize path) state).2)
  size : ∀ path state size, (handler (.fileSize path) state).1 = .ok size →
    (files state).store.sizeOf (files state).here path = .ok size
  created : ∀ directory beginning ending state temporary after,
    handler (.createTemporary directory beginning ending) state = (.ok temporary, after) →
      ∃ place, Staged (files state) (files after) temporary place
  notCreated : ∀ directory beginning ending state error after,
    handler (.createTemporary directory beginning ending) state = (.error error, after) →
      ChangesOnly none (files state) (files after)
  moved : ∀ source target state after, handler (.moveFile source target) state = (.ok (), after) →
    MovedAlong source target (files state) (files after)
  notMoved : ∀ source target state error after,
    handler (.moveFile source target) state = (.error error, after) →
      ChangesOnly none (files state) (files after)
  removed : ∀ path place state, (files state).target? path = some place →
    IsPlain ((files state).node? place) →
      Removed (files state) (files (handler (.removeFile path) state).2) place

/-- A host answers from its workspace. -/
theorem answersFiles_handle (thread : Nat) :
    AnswersFiles (Host.handle thread) Host.workspace where
  lockEngine _ := .refl none _
  unlockEngine _ := .refl none _
  readClock _ := .refl none _
  pathExists _ _ := .refl none _
  readFile _ _ := .refl none _
  fileSize _ _ := .refl none _
  size _ _ _ hsize := hsize
  created _ _ _ _ _ _ hcreate :=
    staged_createTemporary (congrArg (Prod.map id Host.workspace) hcreate)
  notCreated _ _ _ state _ _ hcreate := by
    have hkept := eq_of_createTemporary_eq_error (congrArg (Prod.map id Host.workspace) hcreate)
    rw [hkept]
    exact .refl none _
  moved _ _ _ _ hmove := moved_of_moveFile (congrArg (Prod.map id Host.workspace) hmove)
  notMoved _ _ state _ _ hmove := by
    have hkept := eq_of_moveFile_eq_error (congrArg (Prod.map id Host.workspace) hmove)
    rw [hkept]
    exact .refl none _
  removed _ _ _ htarget hplain := removed_removeFile htarget hplain

/-- An engine whose calls change nothing but the files that its instances are told
to write.  In a state, `output?` is the path of the file that an instance may still
write to. -/
structure Confined (handler : Handler ε σ) (files : σ → Workspace) (engine : ε)
    (output? : σ → Handle → Option Path) : Prop where
  create : ∀ state,
    ChangesOnly none (files state) (files (handler (.create engine) state).2)
  start : ∀ handle argv capture state,
    ChangesOnly (firstOutput? argv) (files state)
      (files (handler (.start engine handle argv capture) state).2)
  output_start : ∀ handle argv capture state,
    output? (handler (.start engine handle argv capture) state).2 handle = none ∨
      output? (handler (.start engine handle argv capture) state).2 handle = firstOutput? argv
  stop : ∀ handle capture state,
    ChangesOnly (output? state handle) (files state)
      (files (handler (.stop engine handle capture) state).2)
  output_stop : ∀ handle capture state,
    output? (handler (.stop engine handle capture) state).2 handle = none ∨
      output? (handler (.stop engine handle capture) state).2 handle = output? state handle
  discard : ∀ handle unwinding state,
    ChangesOnly (output? state handle) (files state)
      (files (handler (.discard engine handle unwinding) state).2)

namespace Confined

variable {handler : Handler ε σ} {files : σ → Workspace} {engine : ε}
  {output? : σ → Handle → Option Path} {argv : List String}
  {state created started stopped now : σ}
  {handle : Handle} {capture : Capture}

/-- A run that has changed nothing but the file at the end of a path, with an
instance that may write there at most. -/
def Within (files : σ → Workspace) (output? : σ → Handle → Option Path) (path? : Option Path)
    (state now : σ) (handle : Handle) : Prop :=
  ChangesOnly path? (files state) (files now) ∧
    (output? now handle = none ∨ output? now handle = path?)

/-- What an instance may change at most, it changes at most. -/
theorem changesOnly_of_within {path? : Option Path} {after : Workspace}
    (hwithin : Within files output? path? state now handle)
    (hchange : ChangesOnly (output? now handle) (files now) after) :
    ChangesOnly path? (files state) after := by
  obtain ⟨hbefore, houtput | houtput⟩ := hwithin
  · rw [houtput] at hchange
    exact hbefore.trans (hchange.of_none path?)
  · rw [houtput] at hchange
    exact hbefore.trans hchange

theorem within_start (hconfined : Confined handler files engine output?)
    {answer : Outcome Int32 Handle} {result : Outcome Error Int32 × Capture}
    (hcreate : handler (.create engine) state = (answer, created))
    (hstart : handler (.start engine handle argv capture) created = (result, started)) :
    Within files output? (firstOutput? argv) state started handle := by
  have hcreated := hconfined.create state
  have hstarted := hconfined.start handle argv capture created
  have houtput := hconfined.output_start handle argv capture created
  rw [hcreate] at hcreated
  rw [hstart] at hstarted houtput
  exact ⟨(hcreated.of_none _).trans hstarted, houtput⟩

theorem within_stop (hconfined : Confined handler files engine output?) {path? : Option Path}
    {result : Outcome Empty Int32 × Capture}
    (hwithin : Within files output? path? state now handle)
    (hstop : handler (.stop engine handle capture) now = (result, stopped)) :
    Within files output? path? state stopped handle := by
  have hchange := hconfined.stop handle capture now
  have houtput := hconfined.output_stop handle capture now
  rw [hstop] at hchange houtput
  refine ⟨changesOnly_of_within hwithin hchange, ?_⟩
  rcases houtput with hnone | hkept
  · exact .inl hnone
  · rw [hkept]
    exact hwithin.2

theorem changesOnly_discard (hconfined : Confined handler files engine output?)
    {path? : Option Path} (hwithin : Within files output? path? state now handle)
    (unwinding : Bool) :
    ChangesOnly path? (files state) (files (handler (.discard engine handle unwinding) now).2) :=
  changesOnly_of_within hwithin (hconfined.discard handle unwinding now)

/-- A run changes nothing but the file that its arguments name. -/
theorem changesOnly_course (hconfined : Confined handler files engine output?)
    {calls : List (Exchange ε)} {outcome : Outcome Error Capture} {ended : σ}
    (hcourse : Course handler engine argv state calls outcome ended) :
    ChangesOnly (firstOutput? argv) (files state) (files ended) := by
  cases hcourse with
  | notCreated hcreate | createPanicked hcreate =>
      have hcreated := hconfined.create state
      rw [hcreate] at hcreated
      exact hcreated.of_none _
  | notConfigured hcreate hstart hdiscard =>
      have hdiscarded :=
        hconfined.changesOnly_discard (hconfined.within_start hcreate hstart) false
      rwa [hdiscard] at hdiscarded
  | startPanicked hcreate hstart =>
      exact hconfined.changesOnly_discard (hconfined.within_start hcreate hstart) true
  | stopPanicked hcreate hstart hstop =>
      exact (hconfined.within_stop (hconfined.within_start hcreate hstart) hstop).1
  | ended hcreate hstart hstop hdiscard =>
      have hdiscarded := hconfined.changesOnly_discard
        (hconfined.within_stop (hconfined.within_start hcreate hstart) hstop) false
      rwa [hdiscard] at hdiscarded

/-- A run changes nothing but the file that its arguments name, also where they are
refused. -/
theorem changesOnly_invoke (hfiles : AnswersFiles handler files)
    (hconfined : Confined handler files engine output?) (arguments : Arguments) (state : σ) :
    ChangesOnly (firstOutput? (programName :: arguments.toList)) (files state)
      (files ((invoke engine arguments).run handler state).2) := by
  cases hargv : arguments.argv with
  | error error =>
      rw [(invoke_of_argv_eq_error handler engine hargv state).2]
      exact .refl _ _
  | ok argv =>
      obtain ⟨calls, ended, -, hcourse, hended⟩ := course_invoke handler engine hargv state
      have hrun := hconfined.changesOnly_course hcourse
      rw [eq_of_argv_eq_ok hargv] at hrun
      rw [hended]
      exact (((hfiles.lockEngine state).of_none _).trans hrun).trans
        ((hfiles.unlockEngine ended).of_none _)

end Confined

/-! ## Scripted engines -/

theorem workspace_create (script : Fixture.Script) (state : Fixture.State) :
    (Fixture.create script state).2.workspace = state.workspace := by
  unfold Fixture.create
  by_cases hpanics : script.panicsAt = some .create
  · rw [if_pos hpanics]
  · rw [if_neg hpanics]
    cases script.creationError <;> rfl

/-- A scripted engine that removes nothing leaves the files as they are when it starts, or
writes its output. -/
theorem workspace_start {script : Fixture.Script} (hkeeps : script.removesOutputs = false)
    (argv : List String) (capture : Capture) (state : Fixture.State) :
    (Fixture.start script argv capture state).2.workspace = state.workspace ∨
      ∃ path content, firstOutput? argv = some path ∧
        (Fixture.start script argv capture state).2.workspace =
          (state.workspace.writeFile path content).2 := by
  have hwrite : (Fixture.writeOutput script argv state.workspace).2 = state.workspace ∨
      ∃ path content, firstOutput? argv = some path ∧
        (Fixture.writeOutput script argv state.workspace).2 =
          (state.workspace.writeFile path content).2 := by
    unfold Fixture.writeOutput
    cases script.outputFile with
    | none => exact .inl rfl
    | some content =>
        cases firstOutput? argv with
        | none => exact .inl rfl
        | some path => exact .inr ⟨path, content, rfl, rfl⟩
  unfold Fixture.start
  cases script.setupError with
  | some code => exact .inl rfl
  | none =>
      rcases hwritten : Fixture.writeOutput script argv state.workspace with
        ⟨error | _, workspace⟩
      · rw [hwritten] at hwrite
        simpa only [hwritten] using hwrite
      · rw [hwritten] at hwrite
        simpa only [hwritten, hkeeps, Bool.false_eq_true, if_false] using hwrite

/-- A scripted engine that removes nothing writes at most its output. -/
theorem changesOnly_start {script : Fixture.Script} (hkeeps : script.removesOutputs = false)
    (argv : List String) (capture : Capture) (state : Fixture.State) :
    ChangesOnly (firstOutput? argv) state.workspace
      (Fixture.start script argv capture state).2.workspace := by
  rcases workspace_start hkeeps argv capture state with hsame | ⟨path, content, hpath, hwritten⟩
  · rw [hsame]
    exact .refl _ _
  · rw [hwritten, hpath]
    exact changesOnly_writeFile state.workspace path content

/-- A scripted engine that removes nothing is confined.  All its writing is done
while it starts. -/
theorem confined_fixture {script : Fixture.Script} (hkeeps : script.removesOutputs = false)
    (thread index : Nat) :
    Confined (Host.handle thread) Host.workspace (.fixture index script) fun _ _ => none where
  create state := by
    have hcreate : (Host.handle thread (.create (.fixture index script)) state).2.workspace =
        state.workspace := workspace_create script ⟨state.logAt index, state.workspace⟩
    rw [hcreate]
    exact .refl none _
  start _ argv capture state :=
    changesOnly_start hkeeps argv capture ⟨state.logAt index, state.workspace⟩
  output_start _ _ _ _ := .inl rfl
  stop _ _ _ := .refl none _
  output_stop _ _ _ := .inl rfl
  discard _ unwinding _ := by cases unwinding <;> exact .refl none _

end EpsBridge
