import EpsBridge.Proofs.Engine.Exclusive
import EpsBridge.Proofs.Export.AllOrNothing
import Mathlib.Data.List.Induction

/-!
# The stages of an export

What an export may do with files depends on its temporary file alone.  Before there is
one, it looks and creates it.  While there is one, it lets an engine write there, until
the run is over, and then either moves it to its destination or removes it.  Afterwards
it touches no file.

The stage that an export is in is read off what it has exchanged (`stageOf`), so nothing
that happens besides can change it.  `stages_exportFile` says that an export does in every
stage what belongs there, whatever it is answered, and that the stage in which it ends
tells whether it succeeded.
-/

namespace EpsBridge.Export

open Program

variable {ε : Type}

/-- Where an export is with the run of its engine. -/
inductive Run where
  /-- It has not begun. -/
  | due
  /-- It is under way, under the engine lock. -/
  | running
  | ended
deriving DecidableEq

/-- Where an export is with its temporary file. -/
inductive Stage where
  /-- There is none yet. -/
  | unstaged
  /-- There is one. -/
  | staged (temporary : Path) (run : Run)
  /-- There is none any more: it was put in its place, or removed. -/
  | settled (delivered : Bool)

namespace Stage

/-- The stage after an exchange. -/
def after : Stage → Exchange ε → Stage
  | unstaged, ⟨.createTemporary _ _ _, answer⟩ =>
    match answer with
    | .ok temporary => staged temporary .due
    | .error _ => unstaged
  | staged temporary _, ⟨.lockEngine, _⟩ => staged temporary .running
  | staged temporary _, ⟨.unlockEngine, _⟩ => staged temporary .ended
  | staged temporary run, ⟨.moveFile _ _, answer⟩ =>
    match answer with
    | .ok () => settled true
    | .error _ => staged temporary run
  | staged _ _, ⟨.removeFile _, _⟩ => settled false
  | stage, _ => stage

/-- What an export by an engine does in a stage, where the engine was told to write to
`told`. -/
def permits (engine : ε) (output : Path) (told : Option Path) : Stage → Action ε → Prop
  | unstaged, .pathExists _ => True
  | unstaged, .createTemporary (.directory _) beginning ending =>
    beginning = temporaryBeginning ∧ ∃ format : Format, ending = "." ++ format.extension
  | staged _ .due, .lockEngine => True
  | staged _ .running, .create other => other = engine
  | staged temporary .running, .start other _ argv _ =>
    other = engine ∧ firstOutput? argv = some temporary
  | staged temporary .running, .stop other _ _ | staged temporary .running, .discard other _ _ =>
    other = engine ∧ told = some temporary
  | staged _ .running, .unlockEngine => True
  | staged _ .ended, .fileSize _ => True
  | staged temporary .ended, .moveFile source target => source = temporary ∧ target = output
  | staged temporary .due, .removeFile path | staged temporary .ended, .removeFile path =>
    path = temporary
  | _, .readClock => True
  | _, _ => False

end Stage

/-- What belongs to an export by an engine at all: it deals with files and with this
engine. -/
def BelongsToExport (engine : ε) : Action ε → Prop
  | .create other | .start other _ _ _ | .stop other _ _ | .discard other _ _ => other = engine
  | .createTemporary (.directory _) beginning ending =>
    beginning = temporaryBeginning ∧ ∃ format : Format, ending = "." ++ format.extension
  | .lockEngine | .unlockEngine | .readClock => True
  | .pathExists _ | .fileSize _ | .moveFile _ _ | .removeFile _ => True
  | _ => False

theorem Stage.belongsToExport {stage : Stage} {engine : ε} {output : Path} {told : Option Path}
    {action : Action ε} (hpermits : stage.permits engine output told action) :
    BelongsToExport engine action := by
  cases stage with
  | unstaged =>
      cases action with
      | createTemporary place beginning ending =>
          cases place with
          | directory path => exact hpermits
          | system => exact hpermits.elim
      | pathExists path | readClock => trivial
      | _ => exact hpermits.elim
  | staged temporary run =>
      cases run with
      | due =>
          cases action with
          | lockEngine | readClock | removeFile path => trivial
          | _ => exact hpermits.elim
      | running =>
          cases action with
          | unlockEngine | readClock => trivial
          | create other => exact hpermits
          | start other handle argv capture | stop other handle capture
          | discard other handle unwinding => exact hpermits.1
          | _ => exact hpermits.elim
      | ended =>
          cases action with
          | fileSize path | moveFile source target | readClock | removeFile path => trivial
          | _ => exact hpermits.elim
  | settled delivered =>
      cases action with
      | readClock => trivial
      | _ => exact hpermits.elim

/-- The stage of an export with a past. -/
def stageOf (past : List (Exchange ε)) : Stage := past.foldl Stage.after .unstaged

theorem stageOf_append_singleton (past : List (Exchange ε)) (exchange : Exchange ε) :
    stageOf (past ++ [exchange]) = (stageOf past).after exchange := by
  rw [stageOf, List.foldl_append]
  rfl

theorem stageOf_append_of_settled {past : List (Exchange ε)} {delivered : Bool}
    (hpast : stageOf past = .settled delivered) (later : List (Exchange ε)) :
    stageOf (past ++ later) = .settled delivered := by
  induction later using List.reverseRecOn with
  | nil => rwa [List.append_nil]
  | append_singleton later exchange ih =>
      rw [← List.append_assoc, stageOf_append_singleton, ih]
      rfl

/-- Only a move puts a file in its place. -/
theorem Stage.move_of_after_eq_settled {stage : Stage} {exchange : Exchange ε}
    (hafter : stage.after exchange = .settled true) :
    stage = .settled true ∨ ∃ source target, exchange = ⟨.moveFile source target, .ok ()⟩ := by
  unfold Stage.after at hafter
  split at hafter
  · split at hafter <;> cases hafter
  · cases hafter
  · cases hafter
  · next source target answer =>
      cases answer with
      | error error => cases hafter
      | ok _ => exact .inr ⟨source, target, rfl⟩
  · cases hafter
  · exact .inl hafter

theorem exists_move_of_settled {past : List (Exchange ε)} (hpast : stageOf past = .settled true) :
    ∃ source target, (⟨.moveFile source target, .ok ()⟩ : Exchange ε) ∈ past := by
  induction past using List.reverseRecOn with
  | nil => cases hpast
  | append_singleton past exchange ih =>
      rw [stageOf_append_singleton] at hpast
      rcases Stage.move_of_after_eq_settled hpast with hbefore | ⟨source, target, rfl⟩
      · obtain ⟨source, target, hmove⟩ := ih hbefore
        exact ⟨source, target, List.mem_append_left _ hmove⟩
      · exact ⟨source, target, List.mem_append_right _ (List.mem_singleton_self _)⟩

/-- Where the engine was told to write when it was last started. -/
def toldOf (past : List (Exchange ε)) : Option Path :=
  past.foldl (fun told exchange =>
    match exchange.action with
    | .start _ _ argv _ => firstOutput? argv
    | _ => told) none

theorem toldOf_append_singleton (past : List (Exchange ε)) (exchange : Exchange ε) :
    toldOf (past ++ [exchange]) =
      match exchange.action with
      | .start _ _ argv _ => firstOutput? argv
      | _ => toldOf past := by
  rw [toldOf, List.foldl_append]
  rfl

/-- What an export with a past may do next. -/
def exportPermits (engine : ε) (output : Path) (past : List (Exchange ε)) (action : Action ε) :
    Prop :=
  (stageOf past).permits engine output (toldOf past) action

theorem exportPermits_of_stage {engine : ε} {output : Path} {past : List (Exchange ε)}
    {action : Action ε} {stage : Stage} (hstage : stageOf past = stage)
    (hpermits : stage.permits engine output (toldOf past) action) :
    exportPermits engine output past action := by
  rw [exportPermits, hstage]
  exact hpermits

/-- A program that keeps to the stages of an export by an engine to a path. -/
abbrev Stages {α : Type} (engine : ε) (output : Path) (ends : List (Exchange ε) → α → Prop)
    (program : Program ε α) (past : List (Exchange ε)) : Prop :=
  program.Keeps (exportPermits engine output) (fun _ => True) ends past

/-! ## Rendering -/

section Rendering

variable {output temporary : Path} {past : List (Exchange ε)}

/-- A rendering to a temporary file leaves it there, and succeeds only by a run that is
over. -/
def Rendered {α : Type} (temporary : Path) (past : List (Exchange ε)) (outcome : Outcome Error α) :
    Prop :=
  stageOf past = .staged temporary .ended ∨
    (outcome.isOk = false ∧ stageOf past = .staged temporary .due)

theorem stages_createAndRun (engine : ε) {argv : List String}
    (hargv : firstOutput? argv = some temporary)
    (hpast : stageOf past = .staged temporary .running) :
    Stages engine output (fun later (_ : Outcome Error Capture) =>
      stageOf later = .staged temporary .running) (createAndRun engine argv) past := by
  -- no call of the engine ends the stage, and it is told where to write once
  have hquiet : ∀ (past : List (Exchange ε)) (exchange : Exchange ε),
      stageOf past = .staged temporary .running →
      (Stage.staged temporary .running).after exchange = .staged temporary .running →
      stageOf (past ++ [exchange]) = .staged temporary .running := by
    intro past exchange hpast hafter
    rw [stageOf_append_singleton, hpast, hafter]
  have htold : ∀ (past : List (Exchange ε)) handle capture answer,
      toldOf (past ++ [⟨.start engine handle argv capture, answer⟩]) = some temporary := by
    intro past handle capture answer
    rw [toldOf_append_singleton]
    exact hargv
  refine .perform (exportPermits_of_stage hpast rfl) fun created _ => ?_
  have hcreated := hquiet past ⟨.create engine, created⟩ hpast rfl
  cases created with
  | error code | panic message => exact hcreated
  | ok handle =>
      refine .perform (exportPermits_of_stage hcreated ⟨rfl, hargv⟩) fun started _ => ?_
      have hstarted := hquiet _ ⟨.start engine handle argv .empty, started⟩ hcreated rfl
      have htold := htold (past ++ [⟨.create engine, .ok handle⟩]) handle .empty started
      obtain ⟨status | error | message, early⟩ := started
      · refine .perform (exportPermits_of_stage hstarted ⟨rfl, htold⟩) fun stopped _ => ?_
        have hstopped := hquiet _ ⟨.stop engine handle early, stopped⟩ hstarted rfl
        obtain ⟨exit | nothing | message, late⟩ := stopped
        · refine .perform (exportPermits_of_stage hstopped ⟨rfl, ?_⟩) fun discarded _ =>
            hquiet _ ⟨.discard engine handle false, discarded⟩ hstopped rfl
          rw [toldOf_append_singleton]
          exact htold
        · exact nothing.elim
        · exact hstopped
      · exact .perform (exportPermits_of_stage hstarted ⟨rfl, htold⟩) fun discarded _ =>
          hquiet _ ⟨.discard engine handle false, discarded⟩ hstarted rfl
      · exact .perform (exportPermits_of_stage hstarted ⟨rfl, htold⟩) fun _ _ =>
          hquiet _ ⟨.discard engine handle true, ()⟩ hstarted rfl

theorem stages_invoke (engine : ε) {arguments : Arguments}
    (harguments : firstOutput? (programName :: arguments.toList) = some temporary)
    (hpast : stageOf past = .staged temporary .due) :
    Stages engine output (Rendered temporary) (invoke engine arguments) past := by
  unfold invoke
  cases hargv : arguments.argv with
  | error error => exact .inr ⟨rfl, hpast⟩
  | ok argv =>
      refine .perform (exportPermits_of_stage hpast trivial) fun _ _ => ?_
      have hlocked : stageOf (past ++ [⟨.lockEngine, ()⟩]) = .staged temporary .running := by
        rw [stageOf_append_singleton, hpast]
        rfl
      rw [← eq_of_argv_eq_ok hargv] at harguments
      refine (stages_createAndRun engine harguments hlocked).bind fun later outcome hlater => ?_
      refine .perform (exportPermits_of_stage hlater trivial) fun _ _ => .inl ?_
      rw [stageOf_append_singleton, hlater]
      rfl

theorem stages_convert (bridge : Bridge ε) (request : Request)
    (hrenders : Request.Renders request.operation)
    (hpast : stageOf past = .staged (.ofString request.output) .due) :
    Stages bridge.engine output (Rendered (.ofString request.output)) (bridge.convert request)
      past := by
  have harguments := Request.firstOutput?_arguments hrenders programName (by decide)
  refine (stages_invoke bridge.engine harguments hpast).bind fun later outcome hrendered => ?_
  rcases hrendered with hover | ⟨hfailed, hdue⟩
  · exact .inl hover
  · exact .inr ⟨(isOk_map (fun _ => ()) outcome).trans hfailed, hdue⟩

theorem stages_render (bridge : Bridge ε) (input name : String) (format : Format)
    (options : Options) (hpast : stageOf past = .staged (.ofString name) .due) :
    Stages bridge.engine output (Rendered (.ofString name))
      (render bridge input name format options) past := by
  unfold render
  cases format with
  | png =>
      dsimp only [Bridge.renderPng]
      split
      · exact .inr ⟨rfl, hpast⟩
      · exact stages_convert bridge ⟨input, name, .toPng _⟩ trivial hpast
  | jpeg =>
      dsimp only [Bridge.renderJpeg]
      split
      · exact .inr ⟨rfl, hpast⟩
      · exact stages_convert bridge ⟨input, name, .toJpeg _ _⟩ trivial hpast
  | pdf => exact stages_convert bridge ⟨input, name, .toPdf⟩ trivial hpast

theorem stages_renderTo (bridge : Bridge ε) (input : Path) (format : Format) (options : Options)
    (hpast : stageOf past = .staged temporary .due) :
    Stages bridge.engine output (Rendered temporary)
      (renderTo bridge input temporary format options) past := by
  unfold renderTo
  split
  · next text name _ hname =>
      rw [← ofString_of_argumentText hname] at hpast ⊢
      exact stages_render bridge text name format options hpast
  · exact .inr ⟨rfl, hpast⟩
  · exact .inr ⟨rfl, hpast⟩

end Rendering

/-! ## The whole export -/

section Export

variable {output temporary : Path} {past : List (Exchange ε)}

/-- A temporary file that an export still has where it ends, or has no more. -/
def Placed {α : Type} (temporary : Path) (past : List (Exchange ε)) (outcome : Outcome Error α) :
    Prop :=
  (outcome.isOk = true ∧ stageOf past = .settled true) ∨
    (outcome.isOk = false ∧ ∃ run, run ≠ .running ∧ stageOf past = .staged temporary run)

theorem stages_putInPlace (bridge : Bridge ε) (hpast : stageOf past = .staged temporary .ended) :
    Stages bridge.engine output (Placed temporary) (putInPlace temporary output) past := by
  refine .perform (exportPermits_of_stage hpast trivial) fun size _ => ?_
  have hsized : stageOf (past ++ [⟨.fileSize temporary, size⟩]) = .staged temporary .ended := by
    rw [stageOf_append_singleton, hpast]
    rfl
  cases size with
  | error error => exact .inr ⟨rfl, .ended, nofun, hsized⟩
  | ok size =>
      refine .perform (exportPermits_of_stage hsized ⟨rfl, rfl⟩) fun moved _ => ?_
      have hmoved := stageOf_append_singleton (past ++ [⟨.fileSize temporary, .ok size⟩])
        ⟨.moveFile temporary output, moved⟩
      rw [hsized] at hmoved
      cases moved with
      | error error => exact .inr ⟨rfl, .ended, nofun, hmoved⟩
      | ok _ => exact .inl ⟨rfl, hmoved⟩

theorem stages_renderInPlace (bridge : Bridge ε) (input : Path) (format : Format)
    (options : Options) (hpast : stageOf past = .staged temporary .due) :
    Stages bridge.engine output (Placed temporary)
      (renderInPlace bridge input temporary output format options) past := by
  refine (stages_renderTo bridge input format options hpast).bind ?_
  intro later outcome hrendered
  cases outcome with
  | ok _ =>
      rcases hrendered with hover | ⟨hfailed, -⟩
      · exact stages_putInPlace bridge hover
      · cases hfailed
  | error error | panic message =>
      rcases hrendered with hover | ⟨-, hdue⟩
      · exact .inr ⟨rfl, .ended, nofun, hover⟩
      · exact .inr ⟨rfl, .due, nofun, hdue⟩

theorem stages_removeUnlessOk {α : Type} (bridge : Bridge ε) {outcome : Outcome Error α}
    (hpast : Placed temporary past outcome) :
    Stages bridge.engine output (fun later (outcome : Outcome Error α) =>
        stageOf later = .settled outcome.isOk)
      (removeUnlessOk temporary outcome) past := by
  unfold removeUnlessOk
  rcases hpast with ⟨hok, hsettled⟩ | ⟨hfailed, run, hrun, hstaged⟩
  · rw [if_pos hok]
    exact hsettled.trans (congrArg Stage.settled hok.symm)
  · rw [if_neg (by rw [hfailed]; exact Bool.false_ne_true)]
    refine .perform ?_ fun _ _ => ?_
    · cases run with
      | running => exact absurd rfl hrun
      | due | ended => exact exportPermits_of_stage hstaged rfl
    · change stageOf _ = _
      rw [stageOf_append_singleton, hstaged, hfailed]
      rfl

/-- What an export is refused for, it is refused for before it has a temporary file. -/
theorem stages_refusal? (bridge : Bridge ε) (input : Path) (options : Options)
    (hpast : stageOf past = .unstaged) :
    Stages bridge.engine output (fun later (_ : Option Error) => stageOf later = .unstaged)
      (refusal? input output options) past := by
  have hlooked : ∀ path (answer : Bool), stageOf (past ++ [⟨.pathExists path, answer⟩]) =
      .unstaged := by
    intro path answer
    rw [stageOf_append_singleton, hpast]
    rfl
  refine .perform (exportPermits_of_stage hpast trivial) fun found _ => ?_
  have hinput := hlooked input found
  cases found with
  | false => exact hinput
  | true =>
      simp only [Bool.not_true, Bool.false_eq_true, if_false]
      split
      · exact hinput
      · refine .perform (exportPermits_of_stage hinput trivial) fun taken _ => ?_
        have houtput : stageOf (past ++ [⟨.pathExists input, true⟩] ++
            [⟨.pathExists output, taken⟩]) = .unstaged := by
          rw [stageOf_append_singleton, hinput]
          rfl
        cases taken <;> exact houtput

/-- The stage in which an export ends, where `delivered` says whether it has succeeded. -/
def Ended (past : List (Exchange ε)) (delivered : Bool) : Prop :=
  stageOf past = .settled delivered ∨ (delivered = false ∧ stageOf past = .unstaged)

/-- What an export does once it has a temporary file. -/
theorem stages_exportStaged (bridge : Bridge ε) (input : Path) (format : Format)
    (options : Options) (started : Nat) (hpast : stageOf past = .staged temporary .due) :
    Stages bridge.engine output (fun later (outcome : Outcome Error Finished) =>
        Ended later outcome.isOk)
      (do
        let outcome ← renderInPlace bridge input temporary output format options
        let outcome ← removeUnlessOk temporary outcome
        let ended ← perform .readClock
        return outcome.map fun bytes => ⟨input, output, format, bytes, ended - started⟩) past := by
  refine (stages_renderInPlace bridge input format options hpast).bind ?_
  intro rendered outcome hrendered
  refine (stages_removeUnlessOk bridge hrendered).bind fun removed outcome hremoved => ?_
  refine .perform (exportPermits_of_stage hremoved trivial) fun ended _ => .inl ?_
  rw [stageOf_append_singleton, hremoved, isOk_map]
  rfl

theorem stages_exportWork (bridge : Bridge ε) (input output : Path) (format : Format)
    (options : Options) :
    Stages bridge.engine output (fun later outcome => Ended later outcome.isOk)
      (exportWork bridge input output format options) [] := by
  refine .perform trivial fun started _ => ?_
  have hstarted : stageOf [(⟨.readClock, started⟩ : Exchange ε)] = .unstaged := rfl
  refine (stages_refusal? bridge input options hstarted).bind fun later refusal hlater => ?_
  cases refusal with
  | some error => exact .inr ⟨rfl, hlater⟩
  | none =>
      refine .perform (exportPermits_of_stage hlater ⟨rfl, format, rfl⟩) fun created _ => ?_
      have hcreated := stageOf_append_singleton later
        ⟨.createTemporary (.directory (directoryOf output)) temporaryBeginning
          ("." ++ format.extension), created⟩
      rw [hlater] at hcreated
      cases created with
      | error error => exact .inr ⟨rfl, hcreated⟩
      | ok temporary =>
          exact stages_exportStaged bridge input format options started hcreated

/-- Whatever an export is answered, it does in every stage what belongs there, and it has
succeeded if it ends with its file put into place, and only then. -/
theorem stages_exportFile (bridge : Bridge ε) (input output : Path) (format : Format)
    (options : Options) :
    Stages bridge.engine output (fun later result => Ended later result.isOk)
      (exportFile bridge input output format options) [] := by
  refine (stages_exportWork bridge input output format options).bind fun later outcome hended => ?_
  cases outcome with
  | ok finished => exact hended
  | error error | panic message => exact hended

end Export

/-! ## The engine lock -/

/-- Whether an export in a stage holds the engine lock. -/
def Stage.holdsLock : Stage → Bool
  | staged _ .running => true
  | _ => false

/-- An action of an export takes the lock or gives it back if the stage says so. -/
theorem Stage.holdsLock_after {stage : Stage} {exchange : Exchange ε} {engine : ε}
    {output : Path} {told : Option Path}
    (hpermits : stage.permits engine output told exchange.action) :
    (stage.after exchange).holdsLock =
      match exchange.action with
      | .lockEngine => true
      | .unlockEngine => false
      | _ => stage.holdsLock := by
  obtain ⟨action, answer⟩ := exchange
  cases stage with
  | unstaged =>
      cases action with
      | createTemporary place beginning ending => cases answer <;> rfl
      | pathExists path | readClock => rfl
      | _ => exact hpermits.elim
  | staged temporary run =>
      cases run with
      | due =>
          cases action with
          | lockEngine | readClock | removeFile path => rfl
          | _ => exact hpermits.elim
      | running =>
          cases action with
          | unlockEngine | readClock | create engine | start engine handle argv capture
          | stop engine handle capture | discard engine handle unwinding => rfl
          | _ => exact hpermits.elim
      | ended =>
          cases action with
          | moveFile source target => cases answer <;> rfl
          | fileSize path | readClock | removeFile path => rfl
          | _ => exact hpermits.elim
  | settled delivered =>
      cases action with
      | readClock => rfl
      | _ => exact hpermits.elim

/-- A course of events in which the engine lock is asked for only while nobody there holds
it, and given back at last. -/
structure LocksInTurn (trace : List (Exchange ε)) : Prop where
  asked : ∀ before after, trace = before ++ ⟨.lockEngine, ()⟩ :: after → holdsLock before = false
  released : holdsLock trace = false

/-- An export asks for the engine lock only while it does not hold it, and gives it back,
however its engine behaves. -/
theorem locksInTurn_exportFile {σ : Type} (handler : Handler ε σ) (bridge : Bridge ε)
    (input output : Path) (format : Format) (options : Options) (state : σ) :
    LocksInTurn ((exportFile bridge input output format options).trace handler state) := by
  obtain ⟨hpermitted, hended⟩ :=
    (stages_exportFile bridge input output format options).trace handler state fun _ _ => trivial
  generalize (exportFile bridge input output format options).trace handler state = trace
    at hpermitted hended
  simp only [List.nil_append] at hpermitted hended
  -- by induction on what was exchanged so far, the stage says who holds the lock
  have hholds : ∀ before after, trace = before ++ after →
      holdsLock before = (stageOf before).holdsLock := by
    intro before
    induction before using List.reverseRecOn with
    | nil => exact fun _ _ => rfl
    | append_singleton before exchange ih =>
        intro after htrace
        rw [List.append_assoc, List.singleton_append] at htrace
        have hheld := holdsLock_append_singleton before exchange
        have hstage := Stage.holdsLock_after (hpermitted before exchange after htrace)
        rw [ih _ htrace] at hheld
        rw [← stageOf_append_singleton] at hstage
        exact hheld.trans hstage.symm
  constructor
  · intro before after htrace
    have hpermits := hpermitted before _ after htrace
    rw [hholds before _ htrace]
    unfold exportPermits at hpermits
    cases hstage : stageOf before with
    | unstaged | settled delivered => rfl
    | staged temporary run =>
        cases run with
        | running => rw [hstage] at hpermits; exact hpermits.elim
        | due | ended => rfl
  · rw [hholds trace [] (List.append_nil trace).symm]
    rcases hended with hsettled | ⟨-, hunstaged⟩
    · rw [hsettled]
      rfl
    · rw [hunstaged]
      rfl

end EpsBridge.Export
