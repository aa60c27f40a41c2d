import EpsBridge.Proofs.Export.Concurrent
import EpsBridge.Proofs.FileStore.Contents

/-!
# Exports that are not to overwrite

With overwriting off, an export looks at its destination once, before it creates its
temporary file, and never again.  Whatever happens besides, it moves its file only after it
was told that nothing is there (`foundFree_of_reaches`), and an export that runs by itself
leaves what is there (`run_exportFile_of_exists`).

The look and the move are two steps, though.  What comes to the destination between them is
replaced: of two such exports to one destination, both may succeed (`replaced_cautious`).
-/

namespace EpsBridge.Export

open Program Workspace

variable {ε σ : Type}

/-! ## What an export has found out -/

/-- Somebody with such a past was told that nothing lies at the end of a path. -/
def FoundFree (path : Path) (past : List (Exchange ε)) : Prop :=
  (⟨.pathExists path, false⟩ : Exchange ε) ∈ past

theorem FoundFree.append {path : Path} {past : List (Exchange ε)} (hfree : FoundFree path past)
    (exchange : Exchange ε) : FoundFree path (past ++ [exchange]) :=
  List.mem_append_left _ hfree

/-- What an export with overwriting off may do next: it moves its file only to a destination
that it has found free. -/
def cautiousPermits (output : Path) (past : List (Exchange ε)) : Action ε → Prop
  | .moveFile _ target => target = output ∧ FoundFree output past
  | _ => True

theorem cautiousPermits_of_exportPermits {engine : ε} {output : Path} {past : List (Exchange ε)}
    {action : Action ε} (hpermits : exportPermits engine output past action)
    (hfree : stageOf past = .unstaged ∨ FoundFree output past) :
    cautiousPermits output past action := by
  cases action with
  | moveFile source target =>
      unfold exportPermits at hpermits
      rcases hfree with hunstaged | hfree
      · rw [hunstaged] at hpermits
        exact hpermits.elim
      · refine ⟨?_, hfree⟩
        match stageOf past, hpermits with
        | .staged temporary .ended, hmove => exact hmove.2
  | _ => trivial

theorem Stages.cautious {α : Type} {engine : ε} {output : Path} {past : List (Exchange ε)}
    {ends : List (Exchange ε) → α → Prop} {program : Program ε α}
    (hstages : Stages engine output ends program past) (hfree : FoundFree output past) :
    program.Keeps (cautiousPermits output) (fun _ => True) (fun _ _ => True) past := by
  -- on the program: what has been found out only grows with the past
  induction program generalizing past with
  | done value => trivial
  | act action next ih =>
      refine ⟨cautiousPermits_of_exportPermits hstages.1 (.inr hfree), fun answer _ => ?_⟩
      exact ih answer (hstages.2 answer trivial) (hfree.append _)

/-- An export that is not refused has found its destination free. -/
theorem cautious_refusal? (input : Path) {output : Path} {options : Options}
    (hkeep : options.overwrite = false) {past : List (Exchange ε)}
    (hpast : stageOf past = .unstaged) :
    (refusal? input output options).Keeps (cautiousPermits output) (fun _ => True)
      (fun later refusal => refusal = none → FoundFree output later ∧ stageOf later = .unstaged)
      past := by
  refine .perform trivial fun found _ => ?_
  cases found with
  | false => exact nofun
  | true =>
      simp only [Bool.not_true, Bool.false_eq_true, if_false, hkeep]
      refine .perform trivial fun taken _ => ?_
      cases taken with
      | true => exact nofun
      | false =>
          refine fun _ => ⟨List.mem_append_right _ (List.mem_singleton_self _), ?_⟩
          rw [stageOf_append_singleton, stageOf_append_singleton, hpast]
          rfl

theorem cautious_exportFile (bridge : Bridge ε) (input output : Path) (format : Format)
    {options : Options} (hkeep : options.overwrite = false) :
    (exportFile bridge input output format options).Keeps (cautiousPermits output)
      (fun _ => True) (fun _ _ => True) [] := by
  have hwork : (exportWork bridge input output format options).Keeps (cautiousPermits output)
      (fun _ => True) (fun _ _ => True) [] := by
    refine .perform trivial fun started _ => ?_
    have hstarted : stageOf [(⟨.readClock, started⟩ : Exchange ε)] = .unstaged := rfl
    refine (cautious_refusal? input hkeep hstarted).bind fun later refusal hlater => ?_
    cases refusal with
    | some error => trivial
    | none =>
        obtain ⟨hfree, hunstaged⟩ := hlater rfl
        refine .perform trivial fun created _ => ?_
        have hcreated := stageOf_append_singleton later
          ⟨.createTemporary (.directory (directoryOf output)) temporaryBeginning
            ("." ++ format.extension), created⟩
        rw [hunstaged] at hcreated
        cases created with
        | error error => trivial
        | ok temporary =>
            exact (stages_exportStaged bridge input format options started hcreated).cautious
              (hfree.append _)
  exact hwork.bind fun _ _ _ => trivial

/-- **The look comes before the move.**  Whatever happens in the world besides, an export
with overwriting off moves its file only after it was told that nothing lies at its
destination. -/
theorem foundFree_of_reaches {world : World ε (Except Error Finished) σ} {jobs : List (Job ε)}
    {first : σ} {execution : Execution ε (Except Error Finished) σ}
    (hreaches : Reaches world (.start (jobs.map Job.program) first) execution)
    {before after : List (Entry ε σ)} {entry : Entry ε σ} {source target : Path}
    (hhistory : execution.history = before ++ entry :: after)
    (hmove : entry.exchange.action = .moveFile source target) {job : Job ε}
    (hjob : jobs[entry.thread]? = some job) (hkeep : job.options.overwrite = false) :
    target = job.output ∧ FoundFree target (pastOf before entry.thread) := by
  have hcautious : KeepsAll (fun thread past action => ∀ job, jobs[thread]? = some job →
      job.options.overwrite = false → cautiousPermits job.output past action)
      (fun _ _ => True) (fun _ _ _ => True) (.start (jobs.map Job.program) first) := by
    refine keepsAll_start fun thread program hprogram => ?_
    rw [List.getElem?_map, Option.map_eq_some_iff] at hprogram
    obtain ⟨job, hjob, rfl⟩ := hprogram
    by_cases hkeep : job.options.overwrite = false
    · refine (cautious_exportFile job.bridge job.input job.output job.format hkeep).mono ?_
        fun _ _ hended => hended
      intro past action hpermits other hother _
      obtain rfl := Option.some.inj (hjob.symm.trans hother)
      exact hpermits
    · -- nothing is asked of an export that may overwrite
      refine (stages_exportFile job.bridge job.input job.output job.format job.options).mono ?_
        fun _ _ _ => trivial
      intro past action _ other hother hoff
      obtain rfl := Option.some.inj (hjob.symm.trans hother)
      exact absurd hoff hkeep
  obtain ⟨earlier, next, hearlier, rfl, hprogram, -⟩ :=
    exists_reaches_of_mem_history hreaches rfl hhistory
  have hkeeps := keepsAll_of_reaches (fun _ _ _ _ _ _ => trivial) hcautious hearlier
  have hpermits := (hkeeps _ _ hprogram).1 job hjob hkeep
  rw [hmove] at hpermits
  obtain ⟨rfl, hfree⟩ := hpermits
  exact ⟨rfl, hfree⟩

/-- An export that runs by itself, and is told what is there, leaves what it finds at its
destination and says so. -/
theorem run_exportFile_of_exists {handler : Handler ε σ} {files : σ → Workspace}
    (hfiles : AnswersFiles handler files)
    (htells : ∀ path state, (handler (.pathExists path) state).1 = (files state).exists? path)
    (bridge : Bridge ε) {input output : Path} (format : Format)
    {options : Options} (hkeep : options.overwrite = false) {state : σ}
    (hexists : (files state).exists? output = true) :
    ∃ final, (exportFile bridge input output format options).run handler state =
        (.error (if (files state).exists? input then .outputWriteFailed output destinationExists
          else .fileNotFound input), final) ∧
      ChangesOnly none (files state) (files final) := by
  have hstarted := hfiles.readClock state
  have hinput := htells input (handler .readClock state).2
  have houtput := htells output (handler (.pathExists input) (handler .readClock state).2).2
  have hboth := hstarted.trans (hfiles.pathExists input _)
  rw [hstarted.exists?_eq] at hinput
  rw [hboth.exists?_eq, hexists] at houtput
  rw [exportFile, exportWork, run_bind]
  simp only [refusal?, perform, run_bind, run_act, run_done, hinput, hkeep]
  cases (files state).exists? input with
  | false => exact ⟨_, rfl, hboth⟩
  | true =>
      simp only [Bool.not_true, Bool.false_eq_true, if_false, run_bind, run_act, houtput]
      exact ⟨_, rfl, hboth.trans (hfiles.pathExists output _)⟩

/-! ## Two exports to one destination -/

/-- Two exports to one destination, both of which are not to overwrite. -/
def cautious : List (Job EngineRef) :=
  sameDestination.map fun job => { job with options := { job.options with overwrite := false } }

/-- A workspace with two files to export, and nothing at the destination. -/
def twoFree : Workspace := oneInput.place (.ofString "b.eps") (.file ⟨#[0x25, 0x21]⟩ 0)

/-- The first has found the destination free when the second makes its export. -/
def betweenLookAndMove : Threads (Except Error Finished) :=
  (Threads.mk (cautious.map Job.program) (.start twoFree [] .default)).follow
    ([0, 0, 0] ++ List.replicate 16 1)

/-- What the second export has put at the destination, the first one replaces.  Both
succeed. -/
theorem replaced_cautious :
    betweenLookAndMove.values.map (fun result => result.toOption.map Finished.bytes) = [some 2] ∧
      (betweenLookAndMove.host.workspace.read (.ofString "out.pdf")).toOption =
        some ⟨#[4, 5]⟩ ∧
      ((betweenLookAndMove.follow (List.replicate 16 0)).values.map fun result =>
        result.toOption.map Finished.bytes) = [some 3, some 2] ∧
      ((betweenLookAndMove.follow (List.replicate 16 0)).host.workspace.read
        (.ofString "out.pdf")).toOption = some ⟨#[1, 2, 3]⟩ := by
  decide +kernel

end EpsBridge.Export
