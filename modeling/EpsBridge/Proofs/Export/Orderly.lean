import EpsBridge.Proofs.Export.Staging

/-!
# Exports at the same time

Any number of threads export files in one workspace, to the same destinations or to
others.  Nothing keeps their steps apart here, not even the engine lock, and an engine
may write to its file at any time while it is called (`exportWorld`).  The names of
temporary files are assumed to be nobody else's.

The invariant (`Orderly`) says who answers for a place.  A temporary file is its thread's
alone.  Once the run is over it holds what the run has left, and no step of anyone else
changes that.  Every other place is accounted for by the moves there have been
(`Account`): it holds what the last one brought, or what was there at first.
-/

namespace EpsBridge.Export

open Program Workspace

variable {ε : Type}

/-! ## Jobs -/

/-- An export that a thread is to make. -/
structure Job (ε : Type) where
  bridge : Bridge ε
  input : Path
  output : Path
  format : Format
  options : Options

/-- The export. -/
def Job.program (job : Job ε) : Program ε (Except Error Finished) :=
  exportFile job.bridge job.input job.output job.format job.options

/-- What a thread with one of these jobs may do next. -/
def jobsPermit (jobs : List (Job ε)) (thread : Nat) (past : List (Exchange ε))
    (action : Action ε) : Prop :=
  ∃ job, jobs[thread]? = some job ∧ exportPermits job.bridge.engine job.output past action

/-! ## The world of the jobs -/

/-- The stage that a thread is in. -/
def stageAt {σ : Type} (history : List (Entry ε σ)) (thread : Nat) : Stage :=
  stageOf (pastOf history thread)

theorem stageAt_append_self {σ : Type} (history : List (Entry ε σ)) (entry : Entry ε σ) :
    stageAt (history ++ [entry]) entry.thread =
      (stageAt history entry.thread).after entry.exchange := by
  rw [stageAt, pastOf_append_singleton, if_pos rfl]
  exact stageOf_append_singleton _ _

theorem stageAt_append_of_ne {σ : Type} {history : List (Entry ε σ)} {entry : Entry ε σ}
    {thread : Nat} (hthread : entry.thread ≠ thread) :
    stageAt (history ++ [entry]) thread = stageAt history thread := by
  rw [stageAt, pastOf_append_singleton, if_neg hthread, stageAt]

/-- Where the temporary file lies, while there is one. -/
def Stage.place? (workspace : Workspace) : Stage → Option Location
  | staged temporary _ => workspace.target? temporary
  | _ => none

/-- Where an action lets an engine write: to the file that it is told to write, or was. -/
def written? (past : List (Exchange ε)) : Action ε → Option Path
  | .start _ _ argv _ => firstOutput? argv
  | .stop _ _ _ | .discard _ _ _ => toldOf past
  | _ => none

/-- A place that no job exports to, and where no thread has a temporary file. -/
def Unused (jobs : List (Job ε)) (execution : Execution ε (Except Error Finished) Workspace)
    (place : Location) : Prop :=
  (∀ job ∈ jobs, execution.state.target? job.output ≠ some place) ∧
    ∀ thread, (stageAt execution.history thread).place? execution.state ≠ some place

/-- A workspace in which threads export files.  Their engines answer anything, and write
at most where they are told to, at once or little by little.  Calls on files
may also fail for reasons that the workspace does not show. -/
def exportWorld (jobs : List (Job ε)) : World ε (Except Error Finished) Workspace where
  answers execution thread exchange after :=
    match exchange with
    | ⟨.pathExists path, answer⟩ =>
      answer = execution.state.exists? path ∧ after = execution.state
    | ⟨.fileSize path, .ok size⟩ =>
      execution.state.store.sizeOf execution.state.here path = .ok size ∧ after = execution.state
    | ⟨.fileSize _, .error _⟩ => after = execution.state
    | ⟨.createTemporary _ _ _, .ok temporary⟩ =>
      ∃ place, Staged execution.state after temporary place ∧ Unused jobs execution place
    | ⟨.createTemporary _ _ _, .error _⟩ => after = execution.state
    | ⟨.moveFile source target, .ok _⟩ =>
      execution.state.moveFile source target = (.ok (), after)
    | ⟨.moveFile _ _, .error _⟩ => after = execution.state
    | ⟨.removeFile path, _⟩ => after = (execution.state.removeFile path).2
    | ⟨action, _⟩ => ChangesOnly (written? (execution.past thread) action) execution.state after
  drifts execution after :=
    ChangesOnly none execution.state after ∨
      ∃ thread action next, execution.programs[thread]? = some (.act action next) ∧
        ChangesOnly (written? (execution.past thread) action) execution.state after

/-! ## Accounts -/

/-- Whether an entry is a move to a place. -/
def MovesTo (first : Workspace) (place : Location) (entry : Entry ε Workspace) : Prop :=
  ∃ source target, entry.exchange = ⟨.moveFile source target, .ok ()⟩ ∧
    first.target? target = some place

/-- A thread moves its temporary file to the destination of its job, and the file is what
its run had left there when it was over. -/
inductive Delivery (jobs : List (Job ε)) (first : Workspace) (place : Location)
    (before : List (Entry ε Workspace)) (entry : Entry ε Workspace) : FileNode → Prop
  | intro {job : Job ε} {temporary : Path} {run : Entry ε Workspace} {source : Location}
      {content : ByteArray} {modified : Int}
      (hjob : jobs[entry.thread]? = some job)
      (hdestination : first.target? job.output = some place)
      (hstage : stageAt before entry.thread = .staged temporary .ended)
      (hmove : entry.exchange = ⟨.moveFile temporary job.output, .ok ()⟩)
      (hrun : run ∈ before)
      (hthread : run.thread = entry.thread)
      (hover : run.exchange.action = .unlockEngine)
      (hsource : run.state.target? temporary = some source)
      (hleft : run.state.node? source = some (.file content modified)) :
      Delivery jobs first place before entry (.file content modified)

/-- What the last move to a place has brought there. -/
def LastDelivery (jobs : List (Job ε)) (first : Workspace) (place : Location)
    (history : List (Entry ε Workspace)) (node : FileNode) : Prop :=
  ∃ before entry after, history = before ++ entry :: after ∧
    Delivery jobs first place before entry node ∧
    ∀ later ∈ after, ¬ MovesTo first place later

/-- A place holds what it held at first, or what was last delivered there. -/
inductive Account (jobs : List (Job ε)) (first : Workspace) (history : List (Entry ε Workspace))
    (place : Location) : Option FileNode → Prop
  | untouched (hnever : ∀ entry ∈ history, ¬ MovesTo first place entry) :
      Account jobs first history place (first.node? place)
  | delivered {node : FileNode} (hlast : LastDelivery jobs first place history node) :
      Account jobs first history place (some node)

section Accounts

variable {jobs : List (Job ε)} {first : Workspace} {history : List (Entry ε Workspace)}
  {entry : Entry ε Workspace} {place : Location}

theorem Account.append {node? : Option FileNode}
    (haccount : Account jobs first history place node?) (hother : ¬ MovesTo first place entry) :
    Account jobs first (history ++ [entry]) place node? := by
  cases haccount with
  | untouched hnever =>
      refine .untouched fun later hlater => ?_
      rcases List.mem_append.mp hlater with hbefore | hentry
      · exact hnever later hbefore
      · rwa [List.mem_singleton.mp hentry]
  | delivered hlast =>
      obtain ⟨before, mover, after, rfl, hdelivery, hlast⟩ := hlast
      refine .delivered ⟨before, mover, after ++ [entry], ?_, hdelivery, fun later hlater => ?_⟩
      · rw [List.append_assoc, List.cons_append]
      · rcases List.mem_append.mp hlater with hbefore | hentry
        · exact hlast later hbefore
        · rwa [List.mem_singleton.mp hentry]

theorem Account.first_eq_none (haccount : Account jobs first history place none) :
    first.node? place = none := by
  generalize hnode : (none : Option FileNode) = node? at haccount
  cases haccount with
  | untouched hnever => rfl
  | delivered hlast => cases hnode

end Accounts

/-! ## The invariant -/

/-- A place where nothing was at first, and that no job exports to. -/
def Spare (jobs : List (Job ε)) (first : Workspace) (place : Location) : Prop :=
  first.node? place = none ∧ ∀ job ∈ jobs, first.target? job.output ≠ some place

/-- Threads of which each writes to its own temporary file, and moves what it has left
there. -/
structure Orderly (jobs : List (Job ε)) (first : Workspace) (history : List (Entry ε Workspace))
    (now : Workspace) : Prop where
  here : now.here = first.here
  directories : FileStore.SameDirectories now.store first.store
  /-- A temporary file lies where nothing else belongs. -/
  staged : ∀ thread temporary run, stageAt history thread = .staged temporary run →
    ∃ place, first.target? temporary = some place ∧ Spare jobs first place ∧
      IsPlain (now.node? place)
  /-- No two threads have their temporary files in one place. -/
  apart : ∀ thread other place, (stageAt history thread).place? first = some place →
    (stageAt history other).place? first = some place → thread = other
  /-- What a run has left stays as it is. -/
  rendered : ∀ thread temporary place, stageAt history thread = .staged temporary .ended →
    first.target? temporary = some place →
    ∃ run ∈ history, run.thread = thread ∧ run.exchange.action = .unlockEngine ∧
      run.state.target? temporary = some place ∧ run.state.node? place = now.node? place
  /-- Files are moved to the destinations of jobs only. -/
  moves : ∀ entry ∈ history, ∀ place, MovesTo first place entry →
    ∃ job ∈ jobs, first.target? job.output = some place
  /-- Everything but temporary files is accounted for. -/
  accounts : ∀ place, (∀ thread, (stageAt history thread).place? first ≠ some place) →
    Account jobs first history place (now.node? place)

namespace Orderly

variable {jobs : List (Job ε)} {first now after : Workspace}
  {history : List (Entry ε Workspace)} {entry : Entry ε Workspace} {temporary : Path} {run : Run}

theorem start (jobs : List (Job ε)) (first : Workspace) : Orderly jobs first [] first where
  here := rfl
  directories _ := Iff.rfl
  staged _ _ _ hstage := nomatch hstage
  apart _ _ _ hplace := nomatch hplace
  rendered _ _ _ hstage := nomatch hstage
  moves _ hentry := nomatch hentry
  accounts _ _ := .untouched fun _ hentry => nomatch hentry

theorem target?_eq (horderly : Orderly jobs first history now) (path : Path) :
    now.target? path = first.target? path := by
  rw [target?, target?, horderly.here, FileStore.target?_of_sameDirectories horderly.directories]

theorem place?_eq (horderly : Orderly jobs first history now) (stage : Stage) :
    stage.place? now = stage.place? first := by
  cases stage with
  | staged temporary run => exact horderly.target?_eq temporary
  | unstaged | settled delivered => rfl

theorem place?_of_staged {thread : Nat} {place : Location}
    (hstage : stageAt history thread = .staged temporary run)
    (hplace : first.target? temporary = some place) :
    (stageAt history thread).place? first = some place := by
  rw [hstage]
  exact hplace

theorem exists_staged_of_place? {thread : Nat} {place : Location}
    (hplace : (stageAt history thread).place? first = some place) :
    ∃ temporary run, stageAt history thread = .staged temporary run ∧
      first.target? temporary = some place := by
  cases hstage : stageAt history thread with
  | unstaged | settled delivered => rw [hstage] at hplace; cases hplace
  | staged temporary run =>
      rw [hstage] at hplace
      exact ⟨temporary, run, rfl, hplace⟩

theorem spare_of_place? (horderly : Orderly jobs first history now) {thread : Nat}
    {place : Location} (hplace : (stageAt history thread).place? first = some place) :
    Spare jobs first place := by
  obtain ⟨temporary, run, hstage, htarget⟩ := exists_staged_of_place? hplace
  obtain ⟨other, hother, hspare, -⟩ := horderly.staged thread temporary run hstage
  obtain rfl := Option.some.inj (hother.symm.trans htarget)
  exact hspare

theorem moves_append (horderly : Orderly jobs first history now)
    (hmoves : ∀ place, MovesTo first place entry →
      ∃ job ∈ jobs, first.target? job.output = some place) :
    ∀ later ∈ history ++ [entry], ∀ place, MovesTo first place later →
      ∃ job ∈ jobs, first.target? job.output = some place := by
  intro later hlater place hmove
  rcases List.mem_append.mp hlater with hbefore | hentry
  · exact horderly.moves later hbefore place hmove
  · obtain rfl := List.mem_singleton.mp hentry
    exact hmoves place hmove

/-- A change in the temporary file of a thread whose run is not over. -/
theorem change (horderly : Orderly jobs first history now) (path? : Option Path)
    (hpath : ∀ path, path? = some path → ∃ thread, stageAt history thread = .staged path .running)
    (hchange : ChangesOnly path? now after) : Orderly jobs first history after where
  here := hchange.here.trans horderly.here
  directories place := (hchange.sameDirectories place).symm.trans (horderly.directories place)
  staged thread temporary run hstage := by
    obtain ⟨place, hplace, hspare, hplain⟩ := horderly.staged thread temporary run hstage
    refine ⟨place, hplace, hspare, ?_⟩
    rcases hchange.nodes place with hsame | ⟨-, -, hplain⟩
    · rwa [hsame]
    · exact hplain
  apart := horderly.apart
  rendered thread temporary place hstage hplace := by
    obtain ⟨run, hrun, hthread, hover, hsource, hleft⟩ :=
      horderly.rendered thread temporary place hstage hplace
    refine ⟨run, hrun, hthread, hover, hsource, hleft.trans ?_⟩
    rcases hchange.nodes place with hsame | ⟨hwritten, -⟩
    · exact hsame.symm
    · -- the thread that may write here is another one, and it has another place
      obtain ⟨path, rfl, htarget⟩ := Option.bind_eq_some_iff.mp hwritten
      obtain ⟨other, hother⟩ := hpath path rfl
      rw [horderly.target?_eq] at htarget
      obtain rfl := horderly.apart thread other place (place?_of_staged hstage hplace)
        (place?_of_staged hother htarget)
      cases hstage.symm.trans hother
  moves := horderly.moves
  accounts place hfree := by
    rcases hchange.nodes place with hsame | ⟨hwritten, -⟩
    · rw [hsame]
      exact horderly.accounts place hfree
    · obtain ⟨path, rfl, htarget⟩ := Option.bind_eq_some_iff.mp hwritten
      obtain ⟨other, hother⟩ := hpath path rfl
      rw [horderly.target?_eq] at htarget
      exact absurd (place?_of_staged hother htarget) (hfree other)

/-- One exchange of a thread.  What it does with its own temporary file, and what becomes of
everything that is nobody's, is said case by case; it leaves the files of the others alone. -/
theorem step (horderly : Orderly jobs first history now) (hhere : after.here = now.here)
    (hdirectories : FileStore.SameDirectories now.store after.store)
    (hothers : ∀ thread place, entry.thread ≠ thread →
      (stageAt history thread).place? first = some place → after.node? place = now.node? place)
    (hstaged : ∀ temporary run,
      stageAt (history ++ [entry]) entry.thread = .staged temporary run →
      ∃ place, first.target? temporary = some place ∧ Spare jobs first place ∧
        IsPlain (after.node? place))
    (hapart : ∀ place, (stageAt (history ++ [entry]) entry.thread).place? first = some place →
      ∀ other, entry.thread ≠ other → (stageAt history other).place? first ≠ some place)
    (hrendered : ∀ temporary place,
      stageAt (history ++ [entry]) entry.thread = .staged temporary .ended →
      first.target? temporary = some place →
      ∃ run ∈ history ++ [entry], run.thread = entry.thread ∧
        run.exchange.action = .unlockEngine ∧ run.state.target? temporary = some place ∧
        run.state.node? place = after.node? place)
    (hmoves : ∀ place, MovesTo first place entry →
      ∃ job ∈ jobs, first.target? job.output = some place)
    (haccounts : ∀ place,
      (∀ thread, (stageAt (history ++ [entry]) thread).place? first ≠ some place) →
      Account jobs first (history ++ [entry]) place (after.node? place)) :
    Orderly jobs first (history ++ [entry]) after := by
  constructor
  case here => exact hhere.trans horderly.here
  case directories =>
    intro place
    exact (hdirectories place).symm.trans (horderly.directories place)
  case staged =>
    intro thread temporary run hnow
    by_cases hthread : entry.thread = thread
    · subst hthread
      exact hstaged temporary run hnow
    · rw [stageAt_append_of_ne hthread] at hnow
      obtain ⟨place, hplace, hspare, hplain⟩ := horderly.staged thread temporary run hnow
      refine ⟨place, hplace, hspare, ?_⟩
      rwa [hothers thread place hthread (place?_of_staged hnow hplace)]
  case apart =>
    intro thread other place hone hanother
    by_cases hthread : entry.thread = thread
    · by_cases hother : entry.thread = other
      · exact hthread.symm.trans hother
      · subst hthread
        rw [stageAt_append_of_ne hother] at hanother
        exact absurd hanother (hapart place hone other hother)
    · rw [stageAt_append_of_ne hthread] at hone
      by_cases hother : entry.thread = other
      · subst hother
        exact absurd hone (hapart place hanother thread hthread)
      · rw [stageAt_append_of_ne hother] at hanother
        exact horderly.apart thread other place hone hanother
  case rendered =>
    intro thread temporary place hnow hplace
    by_cases hthread : entry.thread = thread
    · subst hthread
      exact hrendered temporary place hnow hplace
    · rw [stageAt_append_of_ne hthread] at hnow
      obtain ⟨run, hrun, hran, hover, hsource, hleft⟩ :=
        horderly.rendered thread temporary place hnow hplace
      rw [← hothers thread place hthread (place?_of_staged hnow hplace)] at hleft
      exact ⟨run, List.mem_append_left _ hrun, hran, hover, hsource, hleft⟩
  case moves => exact horderly.moves_append hmoves
  case accounts => exact haccounts

/-- What neither creates a temporary file nor gives it up.  A run that is over with it has
left what is there now. -/
theorem append (horderly : Orderly jobs first history now)
    (hmoves : ∀ place, ¬ MovesTo first place entry)
    (hstage : stageAt (history ++ [entry]) entry.thread = stageAt history entry.thread ∨
      ∃ temporary before after, stageAt history entry.thread = .staged temporary before ∧
        stageAt (history ++ [entry]) entry.thread = .staged temporary after ∧
        (after = .ended → entry.exchange.action = .unlockEngine ∧ entry.state = now)) :
    Orderly jobs first (history ++ [entry]) now := by
  have hplace : (stageAt (history ++ [entry]) entry.thread).place? first =
      (stageAt history entry.thread).place? first := by
    rcases hstage with hsame | ⟨_, before, after, hbefore, hafter, -⟩
    · rw [hsame]
    · rw [hbefore, hafter]
      rfl
  apply horderly.step rfl (fun _ => Iff.rfl) (fun _ _ _ _ => rfl)
  case hstaged =>
    intro temporary run hnow
    rcases hstage with hsame | ⟨_, before, after, hbefore, hafter, -⟩
    · exact horderly.staged _ temporary run (hsame.symm.trans hnow)
    · cases hafter.symm.trans hnow
      exact horderly.staged _ temporary before hbefore
  case hapart =>
    intro place hown other hother hanother
    rw [hplace] at hown
    exact hother (horderly.apart _ _ place hown hanother)
  case hrendered =>
    intro temporary place hnow htarget
    rcases hstage with hsame | ⟨_, before, after, hbefore, hafter, hended⟩
    · obtain ⟨run, hrun, hrest⟩ :=
        horderly.rendered _ temporary place (hsame.symm.trans hnow) htarget
      exact ⟨run, List.mem_append_left _ hrun, hrest⟩
    · -- the run ends with this very exchange
      cases hafter.symm.trans hnow
      obtain ⟨hover, hstate⟩ := hended rfl
      refine ⟨entry, List.mem_append_right _ (List.mem_singleton_self entry), rfl, hover, ?_⟩
      rw [hstate, horderly.target?_eq]
      exact ⟨htarget, rfl⟩
  case hmoves => exact fun place hmove => absurd hmove (hmoves place)
  case haccounts =>
    intro place hfree
    refine (horderly.accounts place fun thread => ?_).append (hmoves place)
    by_cases hthread : entry.thread = thread
    · rw [← hthread, ← hplace]
      exact hfree entry.thread
    · rw [← stageAt_append_of_ne hthread]
      exact hfree thread

/-- A thread gets a temporary file where nobody has anything. -/
theorem create {place : Location} (horderly : Orderly jobs first history now)
    (hstage : stageAt history entry.thread = .unstaged)
    (hcreated : stageAt (history ++ [entry]) entry.thread = .staged temporary .due)
    (hmoves : ∀ place, ¬ MovesTo first place entry) (hfile : Staged now after temporary place)
    (hdestinations : ∀ job ∈ jobs, first.target? job.output ≠ some place)
    (hunused : ∀ thread, (stageAt history thread).place? first ≠ some place) :
    Orderly jobs first (history ++ [entry]) after := by
  have htarget : first.target? temporary = some place := by
    rw [← horderly.target?_eq]
    exact hfile.target
  have hown : (stageAt (history ++ [entry]) entry.thread).place? first = some place := by
    rw [hcreated]
    exact htarget
  apply horderly.step hfile.change.here hfile.change.sameDirectories
  case hothers =>
    intro thread other _ hother
    apply hfile.elsewhere
    rintro rfl
    exact hunused thread hother
  case hstaged =>
    intro other run hnow
    cases hcreated.symm.trans hnow
    refine ⟨place, htarget, ⟨?_, hdestinations⟩, hfile.plain⟩
    -- nobody has brought anything here, so nothing was here at first
    have haccount := horderly.accounts place hunused
    rw [hfile.fresh] at haccount
    exact haccount.first_eq_none
  case hapart =>
    intro other hother thread _
    obtain rfl := Option.some.inj (hown.symm.trans hother)
    exact hunused thread
  case hrendered =>
    intro other lies hnow
    cases hcreated.symm.trans hnow
  case hmoves => exact fun other hmove => absurd hmove (hmoves other)
  case haccounts =>
    intro other hfree
    have hother : other ≠ place := by
      rintro rfl
      exact hfree entry.thread hown
    rw [hfile.elsewhere hother]
    refine (horderly.accounts other fun thread => ?_).append (hmoves other)
    by_cases hthread : entry.thread = thread
    · rw [← hthread, hstage]
      exact nofun
    · rw [← stageAt_append_of_ne hthread]
      exact hfree thread

/-- A thread gives its temporary file up, and nothing is left in its place.  What it brings
elsewhere, it accounts for. -/
theorem settle {place : Location} {delivered : Bool} (horderly : Orderly jobs first history now)
    (hstage : stageAt history entry.thread = .staged temporary run)
    (hsettled : stageAt (history ++ [entry]) entry.thread = .settled delivered)
    (htarget : first.target? temporary = some place) (hspare : Spare jobs first place)
    (hhere : after.here = now.here)
    (hdirectories : FileStore.SameDirectories now.store after.store)
    (hgone : after.node? place = none)
    (hkept : ∀ other, other ≠ place → ¬ MovesTo first other entry →
      after.node? other = now.node? other)
    (hmoves : ∀ other, MovesTo first other entry →
      (∃ job ∈ jobs, first.target? job.output = some other) ∧
        Account jobs first (history ++ [entry]) other (after.node? other)) :
    Orderly jobs first (history ++ [entry]) after := by
  have hown : (stageAt history entry.thread).place? first = some place :=
    place?_of_staged hstage htarget
  have hunstaged : ∀ temporary run,
      stageAt (history ++ [entry]) entry.thread ≠ .staged temporary run := by
    intro temporary run hnow
    cases hsettled.symm.trans hnow
  apply horderly.step hhere hdirectories
  case hothers =>
    intro thread other hthread hother
    apply hkept other
    · rintro rfl
      exact hthread (horderly.apart _ _ _ hown hother)
    · -- files are moved to destinations, and nobody has a temporary file at one
      intro hmove
      obtain ⟨⟨job, hjob, hdestination⟩, -⟩ := hmoves other hmove
      exact (horderly.spare_of_place? hother).2 job hjob hdestination
  case hstaged => exact fun temporary run hnow => absurd hnow (hunstaged temporary run)
  case hapart =>
    intro other hother
    rw [hsettled] at hother
    cases hother
  case hrendered => exact fun temporary _ hnow => absurd hnow (hunstaged temporary .ended)
  case hmoves => exact fun other hmove => (hmoves other hmove).1
  case haccounts =>
    intro other hfree
    by_cases hmove : MovesTo first other entry
    · exact (hmoves other hmove).2
    · by_cases hother : other = place
      · -- nothing was here at first, and nothing was ever moved here
        subst hother
        rw [hgone, ← hspare.1]
        refine .untouched fun later hlater hmoved => ?_
        obtain ⟨job, hjob, hdestination⟩ := horderly.moves_append
          (fun other hmove => (hmoves other hmove).1) later hlater other hmoved
        exact hspare.2 job hjob hdestination
      · rw [hkept other hother hmove]
        refine (horderly.accounts other fun thread => ?_).append hmove
        by_cases hthread : entry.thread = thread
        · rw [← hthread, hown]
          exact fun hsame => hother (Option.some.inj hsame).symm
        · rw [← stageAt_append_of_ne hthread]
          exact hfree thread

/-- A thread moves what its run has left to its destination. -/
theorem move {job : Job ε} (horderly : Orderly jobs first history now)
    (hjob : jobs[entry.thread]? = some job)
    (hstage : stageAt history entry.thread = .staged temporary .ended)
    (hexchange : entry.exchange = ⟨.moveFile temporary job.output, .ok ()⟩)
    (hmove : now.moveFile temporary job.output = (.ok (), after)) :
    Orderly jobs first (history ++ [entry]) after := by
  obtain ⟨place, htarget, hspare, hplain⟩ := horderly.staged _ _ _ hstage
  obtain ⟨node, destination, hnode, hdestination, hfree, hmoved⟩ :=
    moved_of_moveFile hmove place ((horderly.target?_eq temporary).trans htarget)
  rw [horderly.target?_eq] at hdestination
  have hjobs : job ∈ jobs := List.mem_of_getElem? hjob
  have hplace : place ≠ destination := by
    rintro rfl
    exact hspare.2 job hjobs hdestination
  have honly : ∀ other, MovesTo first other entry → other = destination := by
    rintro other ⟨source, target, hsame, hother⟩
    cases hexchange.symm.trans hsame
    exact Option.some.inj (hother.symm.trans hdestination)
  have hsettled : stageAt (history ++ [entry]) entry.thread = .settled true := by
    rw [stageAt_append_self, hstage, hexchange]
    rfl
  refine horderly.settle hstage hsettled htarget hspare hmoved.here ?_ ?_ ?_ ?_
  · rw [hnode] at hplain
    exact hmoved.sameDirectories hnode hplain hfree
  · rw [hmoved.elsewhere place hplace, if_pos rfl]
  · -- nothing but the two ends of the move has changed
    intro other hother hunmoved
    have hmissed : other ≠ destination := by
      rintro rfl
      exact hunmoved ⟨_, _, hexchange, hdestination⟩
    rw [hmoved.elsewhere other hmissed, if_neg hother]
  · intro other hmoves
    obtain rfl := honly other hmoves
    refine ⟨⟨job, hjobs, hdestination⟩, ?_⟩
    rw [hmoved.node]
    -- what is moved is what the run has left, for nobody else has written there since
    obtain ⟨run, hrun, hran, hover, hsource, hleft⟩ :=
      horderly.rendered _ temporary place hstage htarget
    rw [hnode] at hleft hplain
    cases node with
    | directory => exact hplain.elim
    | library symbols modified => exact hplain.elim
    | file content modified =>
        refine .delivered ⟨history, entry, [], rfl, ?_, nofun⟩
        exact .intro hjob hdestination hstage hexchange hrun hran hover hsource hleft

theorem remove {answer : Unit} (horderly : Orderly jobs first history now)
    (hstage : stageAt history entry.thread = .staged temporary run)
    (hexchange : entry.exchange = ⟨.removeFile temporary, answer⟩) :
    Orderly jobs first (history ++ [entry]) (now.removeFile temporary).2 := by
  obtain ⟨place, htarget, hspare, hplain⟩ := horderly.staged _ _ _ hstage
  have hnow : now.target? temporary = some place := (horderly.target?_eq temporary).trans htarget
  have hchange := changesOnly_removeFile hnow hplain
  have hnode := node?_removeFile hnow hplain
  have hmoves : ∀ other, ¬ MovesTo first other entry := by
    rintro other ⟨source, target, hsame, -⟩
    cases hexchange.symm.trans hsame
  have hsettled : stageAt (history ++ [entry]) entry.thread = .settled false := by
    rw [stageAt_append_self, hstage, hexchange]
    rfl
  refine horderly.settle hstage hsettled htarget hspare hchange.here hchange.sameDirectories ?_ ?_
    ?_
  · rw [hnode, if_pos rfl]
  · intro other hother _
    rw [hnode, if_neg hother]
  · exact fun other hmove => absurd hmove (hmoves other)

/-- What leaves its thread in the stage it is in. -/
theorem quiet (horderly : Orderly jobs first history now) (path? : Option Path)
    (hpath : ∀ path, path? = some path → ∃ thread, stageAt history thread = .staged path .running)
    (hchange : ChangesOnly path? now after)
    (hstage : (stageAt history entry.thread).after entry.exchange = stageAt history entry.thread)
    (hmoves : ∀ place, ¬ MovesTo first place entry) :
    Orderly jobs first (history ++ [entry]) after := by
  refine (horderly.change path? hpath hchange).append hmoves (.inl ?_)
  rw [stageAt_append_self, hstage]

section Act

variable {execution : Execution ε (Except Error Finished) Workspace} {thread : Nat}
  {action : Action ε} {answer : action.Answer} {engine : ε} {output : Path}
  {told : Option Path}

theorem act_unstaged (horderly : Orderly jobs first execution.history execution.state)
    (hstage : stageAt execution.history thread = .unstaged)
    (hpermits : Stage.unstaged.permits engine output told action)
    (hanswer : (exportWorld jobs).answers execution thread ⟨action, answer⟩ after) :
    Orderly jobs first (execution.history ++ [⟨thread, ⟨action, answer⟩, after⟩]) after := by
  cases action with
  | pathExists path =>
      obtain ⟨-, rfl⟩ := hanswer
      exact horderly.quiet none nofun (.refl none _) (by rw [hstage]; rfl) nofun
  | readClock =>
      exact horderly.quiet none nofun hanswer (by rw [hstage]; rfl) nofun
  | createTemporary directory beginning ending =>
      cases answer with
      | error error =>
          obtain rfl := hanswer
          refine horderly.quiet none nofun (.refl none _) ?_ nofun
          rw [hstage]
          rfl
      | ok temporary =>
          obtain ⟨place, hstaged, hdestinations, hunused⟩ := hanswer
          refine horderly.create hstage ?_ nofun hstaged ?_ ?_
          · rw [stageAt_append_self, hstage]
            rfl
          · intro job hjob
            rw [← horderly.target?_eq]
            exact hdestinations job hjob
          · intro other
            rw [← horderly.place?_eq]
            exact hunused other
  | _ => exact hpermits.elim

/-- Before its run, a thread takes the lock, or gives up. -/
theorem act_due (horderly : Orderly jobs first execution.history execution.state)
    (hstage : stageAt execution.history thread = .staged temporary .due)
    (hpermits : (Stage.staged temporary .due).permits engine output told action)
    (hanswer : (exportWorld jobs).answers execution thread ⟨action, answer⟩ after) :
    Orderly jobs first (execution.history ++ [⟨thread, ⟨action, answer⟩, after⟩]) after := by
  cases action with
  | readClock => exact horderly.quiet none nofun hanswer (by rw [hstage]; rfl) nofun
  | lockEngine =>
      refine (horderly.change none nofun hanswer).append nofun (.inr ?_)
      refine ⟨temporary, .due, .running, hstage, ?_, nofun⟩
      rw [stageAt_append_self, hstage]
      rfl
  | removeFile path =>
      obtain rfl : path = temporary := hpermits
      obtain rfl := hanswer
      exact horderly.remove hstage rfl
  | _ => exact hpermits.elim

/-- In its run, a thread lets its engine write to its temporary file. -/
theorem act_running (horderly : Orderly jobs first execution.history execution.state)
    (hstage : stageAt execution.history thread = .staged temporary .running)
    (hpermits : (Stage.staged temporary .running).permits engine output
      (toldOf (execution.past thread)) action)
    (hanswer : (exportWorld jobs).answers execution thread ⟨action, answer⟩ after) :
    Orderly jobs first (execution.history ++ [⟨thread, ⟨action, answer⟩, after⟩]) after := by
  have hwrites : ∀ {path? : Option Path}, path? = some temporary → ∀ path, path? = some path →
      ∃ thread, stageAt execution.history thread = .staged path .running := by
    rintro _ rfl path hpath
    exact ⟨thread, Option.some.inj hpath ▸ hstage⟩
  cases action with
  | create engine | readClock =>
      exact horderly.quiet none nofun hanswer (by rw [hstage]; rfl) nofun
  | start engine handle argv capture | stop engine handle capture
  | discard engine handle unwinding =>
      exact horderly.quiet _ (hwrites hpermits.2) hanswer (by rw [hstage]; rfl) nofun
  | unlockEngine =>
      refine (horderly.change none nofun hanswer).append nofun (.inr ?_)
      refine ⟨temporary, .running, .ended, hstage, ?_, fun _ => ⟨rfl, rfl⟩⟩
      rw [stageAt_append_self, hstage]
      rfl
  | _ => exact hpermits.elim

/-- When its run is over, a thread moves its temporary file or removes it. -/
theorem act_rendered {job : Job ε} (hjob : jobs[thread]? = some job)
    (horderly : Orderly jobs first execution.history execution.state)
    (hstage : stageAt execution.history thread = .staged temporary .ended)
    (hpermits : (Stage.staged temporary .ended).permits job.bridge.engine job.output told action)
    (hanswer : (exportWorld jobs).answers execution thread ⟨action, answer⟩ after) :
    Orderly jobs first (execution.history ++ [⟨thread, ⟨action, answer⟩, after⟩]) after := by
  cases action with
  | readClock =>
      exact horderly.quiet none nofun hanswer (by rw [hstage]; rfl) nofun
  | fileSize path =>
      have hafter : after = execution.state := by
        cases answer with
        | error error => exact hanswer
        | ok size => exact hanswer.2
      obtain rfl := hafter
      exact horderly.quiet none nofun (.refl none _) (by rw [hstage]; rfl) nofun
  | moveFile source target =>
      obtain ⟨rfl, rfl⟩ := hpermits
      cases answer with
      | ok _ => exact horderly.move hjob hstage rfl hanswer
      | error error =>
          obtain rfl := hanswer
          refine horderly.quiet none nofun (.refl none _) ?_ ?_
          · rw [hstage]
            rfl
          · rintro place ⟨source, target, hsame, -⟩
            cases hsame
  | removeFile path =>
      obtain rfl : path = temporary := hpermits
      obtain rfl := hanswer
      exact horderly.remove hstage rfl
  | _ => exact hpermits.elim

end Act

/-- Whatever an export does next leaves all of them in order. -/
theorem act {execution : Execution ε (Except Error Finished) Workspace} {thread : Nat}
    {exchange : Exchange ε} (horderly : Orderly jobs first execution.history execution.state)
    (hpermits : jobsPermit jobs thread (execution.past thread) exchange.action)
    (hanswer : (exportWorld jobs).answers execution thread exchange after) :
    Orderly jobs first (execution.history ++ [⟨thread, exchange, after⟩]) after := by
  obtain ⟨job, hjob, hpermits⟩ := hpermits
  obtain ⟨action, answer⟩ := exchange
  change (stageAt execution.history thread).permits job.bridge.engine job.output _ action
    at hpermits
  cases hstage : stageAt execution.history thread with
  | unstaged =>
      rw [hstage] at hpermits
      exact horderly.act_unstaged hstage hpermits hanswer
  | staged temporary run =>
      rw [hstage] at hpermits
      cases run with
      | due => exact horderly.act_due hstage hpermits hanswer
      | running => exact horderly.act_running hstage hpermits hanswer
      | ended => exact horderly.act_rendered hjob hstage hpermits hanswer
  | settled delivered =>
      rw [hstage] at hpermits
      cases action with
      | readClock =>
          exact horderly.quiet none nofun hanswer (by rw [hstage]; rfl) nofun
      | _ => exact hpermits.elim

end Orderly

/-- An action that lets an engine write is one of a thread whose run is not over. -/
theorem stageOf_of_written {job : Job ε} {past : List (Exchange ε)} {action : Action ε}
    {path : Path} (hpermits : exportPermits job.bridge.engine job.output past action)
    (hwritten : written? past action = some path) : stageOf past = .staged path .running := by
  unfold exportPermits at hpermits
  cases hstage : stageOf past with
  | unstaged | settled delivered =>
      rw [hstage] at hpermits
      cases action with
      | start engine handle argv capture | stop engine handle capture
      | discard engine handle unwinding => exact hpermits.elim
      | _ => cases hwritten
  | staged temporary run =>
      rw [hstage] at hpermits
      cases run with
      | due | ended =>
          cases action with
          | start engine handle argv capture | stop engine handle capture
          | discard engine handle unwinding => exact hpermits.elim
          | _ => cases hwritten
      | running =>
          cases action with
          | start engine handle argv capture | stop engine handle capture
          | discard engine handle unwinding =>
              obtain rfl := Option.some.inj (hwritten.symm.trans hpermits.2)
              rfl
          | _ => cases hwritten

/-! ## Executions -/

section Reached

variable {jobs : List (Job ε)}

/-- Every thread keeps to the stages of its own export. -/
theorem keepsAll_jobs {σ : Type} {world : World ε (Except Error Finished) σ} {state : σ}
    {execution : Execution ε (Except Error Finished) σ}
    (hreaches : Reaches world (.start (jobs.map Job.program) state) execution) :
    KeepsAll (jobsPermit jobs) (fun _ _ => True) (fun _ past result => Ended past result.isOk)
      execution := by
  refine keepsAll_of_reaches (fun _ _ _ _ _ _ => trivial) (keepsAll_start ?_) hreaches
  intro thread program hprogram
  rw [List.getElem?_map, Option.map_eq_some_iff] at hprogram
  obtain ⟨job, hjob, rfl⟩ := hprogram
  exact (stages_exportFile job.bridge job.input job.output job.format job.options).mono
    (fun past action hpermits => ⟨job, hjob, hpermits⟩) fun past result hended => hended

/-- Exports are in order in every execution. -/
theorem orderly_of_reaches {first : Workspace}
    {execution : Execution ε (Except Error Finished) Workspace}
    (hreaches : Reaches (exportWorld jobs) (.start (jobs.map Job.program) first) execution) :
    Orderly jobs first execution.history execution.state := by
  -- on the steps: every one is an exchange that a stage permits, or something an engine writes
  induction hreaches with
  | refl => exact .start jobs first
  | tail hearlier hstep ih =>
      cases hstep with
      | act hprogram hanswer => exact ih.act (keepsAll_jobs hearlier _ _ hprogram).1 hanswer
      | drift hdrift =>
          rcases hdrift with hquiet | ⟨thread, action, next, hprogram, hchange⟩
          · exact ih.change none nofun hquiet
          · obtain ⟨job, -, hpermits⟩ := (keepsAll_jobs hearlier _ _ hprogram).1
            exact ih.change _ (fun path hwritten =>
              ⟨thread, stageOf_of_written hpermits hwritten⟩) hchange

end Reached

end EpsBridge.Export
