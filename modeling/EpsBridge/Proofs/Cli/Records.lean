import EpsBridge.Proofs.Cli.InputKept
import EpsBridge.Proofs.Export.Report

/-!
# Records in place of words

A command line that asks for records does what the same command line does without: it comes
to the same `Course`, from which alone the two are told (`run_of_comes`).  What can differ is
whether the record can be written, and that is found out when all has been done: a path that
is not UTF-8 cannot.  So asking for records changes nothing but the report exactly if what
was completed names no such path (`reportOnly_iff`).
-/

namespace EpsBridge.Cli

open Program Workspace

variable {ε σ : Type} {handler : Handler ε σ} {files : σ → Workspace} {library : Option Path}
  {command : Command} {preferences : Preferences} {state after : σ}

/-! ## What a command comes to -/

/-- What exports that were asked for came to. -/
inductive Course where
  /-- Nothing was completed. -/
  | failed (failure : Failure)
  | exported (finished : Export.Finished)
  | batched (report : Export.Report)

/-- Commands that export files. -/
def Command.Exports : Command → Prop
  | .convert _ _ _ _ | .batch _ _ _ _ => True
  | _ => False

/-- The bridge of a command line over an engine. -/
def bridgeOver (library : Option Path) (engine : ε) : Bridge ε :=
  ⟨engine, { Config.default with libraryPath := library }⟩

/-- What a command that exports files comes to, and the state that it leaves. -/
inductive Comes (handler : Handler ε σ) (library : Option Path) (state : σ) :
    Command → Course → σ → Prop
  /-- There is no engine. -/
  | unbound {command : Command} {error : LibraryError} {loaded : σ} (hexports : command.Exports)
      (hload : handler (.load library) state = (.error error, loaded)) :
      Comes handler library state command
        (.failed (.ofError "Ghostscript is not available" (.ofLibrary error))) loaded
  /-- The output of a conversion is its input. -/
  | refused {format : Format} {input : Path} {output? : Option Path} {options : Export.Options}
      {engine : ε} {loaded : σ} (hload : handler (.load library) state = (.ok engine, loaded))
      (hspelled : (output?.getD (defaultOutput input format)).leadsLike input = true) :
      Comes handler library state (.convert format input output? options)
        (.failed (.stated ("Output would overwrite the input: " ++
          (output?.getD (defaultOutput input format)).display) [])) loaded
  | exportFailed {format : Format} {input : Path} {output? : Option Path}
      {options : Export.Options} {engine : ε} {loaded after : σ} {error : Error}
      (hload : handler (.load library) state = (.ok engine, loaded))
      (hspelled : (output?.getD (defaultOutput input format)).leadsLike input = false)
      (hexport : (Export.exportFile (bridgeOver library engine) input
        (output?.getD (defaultOutput input format)) format options).run handler loaded =
          (.error error, after)) :
      Comes handler library state (.convert format input output? options)
        (.failed (.ofError (format.display ++ " export of " ++ input.display ++ " failed") error))
        after
  | exported {format : Format} {input : Path} {output? : Option Path} {options : Export.Options}
      {engine : ε} {loaded after : σ} {finished : Export.Finished}
      (hload : handler (.load library) state = (.ok engine, loaded))
      (hspelled : (output?.getD (defaultOutput input format)).leadsLike input = false)
      (hexport : (Export.exportFile (bridgeOver library engine) input
        (output?.getD (defaultOutput input format)) format options).run handler loaded =
          (.ok finished, after)) :
      Comes handler library state (.convert format input output? options) (.exported finished) after
  /-- The directory of a batch cannot be created. -/
  | batchFailed {inputs : List Path} {directory : Path} {format : Format}
      {options : Export.Options} {engine : ε} {loaded after : σ} {error : Error}
      (hload : handler (.load library) state = (.ok engine, loaded))
      (hbatch : (Export.exportBatch (bridgeOver library engine) inputs directory format
        options).run handler loaded = (.error error, after)) :
      Comes handler library state (.batch inputs directory format options)
        (.failed (.ofError "Batch export failed" error)) after
  | batched {inputs : List Path} {directory : Path} {format : Format} {options : Export.Options}
      {engine : ε} {loaded after : σ} {report : Export.Report}
      (hload : handler (.load library) state = (.ok engine, loaded))
      (hbatch : (Export.exportBatch (bridgeOver library engine) inputs directory format
        options).run handler loaded = (.ok report, after)) :
      Comes handler library state (.batch inputs directory format options) (.batched report) after

/-- Every command that exports files comes to something. -/
theorem exists_comes (handler : Handler ε σ) (library : Option Path) (state : σ)
    (hexports : command.Exports) :
    ∃ course after, Comes handler library state command course after := by
  rcases hload : handler (.load library) state with ⟨error | engine, loaded⟩
  · exact ⟨_, _, .unbound hexports hload⟩
  cases command with
  | convert format input output? options =>
      rcases hspelled : (output?.getD (defaultOutput input format)).leadsLike input with _ | _
      · rcases hexport : (Export.exportFile (bridgeOver library engine) input
          (output?.getD (defaultOutput input format)) format options).run handler loaded with
          ⟨error | finished, after⟩
        · exact ⟨_, _, .exportFailed hload hspelled hexport⟩
        · exact ⟨_, _, .exported hload hspelled hexport⟩
      · exact ⟨_, _, .refused hload hspelled⟩
  | batch inputs directory format options =>
      rcases hbatch : (Export.exportBatch (bridgeOver library engine) inputs directory format
        options).run handler loaded with ⟨error | report, after⟩
      · exact ⟨_, _, .batchFailed hload hbatch⟩
      · exact ⟨_, _, .batched hload hbatch⟩
  | version | execute _ | measure _ | inspect _ => exact hexports.elim

namespace Course

/-- How a command ends that came to something. -/
def finished (preferences : Preferences) : Course → Finished
  | failed failure => .failed failure
  | exported finished =>
    if preferences.json then .recorded finished.toJson?
    else .told (if preferences.quiet then "" else exportText finished)
  | batched report => batchFinished preferences report

/-- The paths that are named by what was completed. -/
def paths : Course → List Path
  | failed _ => []
  | exported finished => finished.paths
  | batched report => report.paths

/-- What is to be printed of what was completed, and the record of it if it can be
written. -/
def record? : Course → Option (Option Json)
  | failed _ => none
  | exported finished => some finished.toJson?
  | batched report => some report.toJson?

end Course

/-- A run binds an engine, and runs its command if there is one. -/
theorem run_of_exports {environment : Environment} {arguments : List (List UInt8)}
    (hread : CommandLine.read environment arguments = .ok ⟨preferences, command⟩)
    (hexports : command.Exports) :
    (run environment arguments : Program ε Ended).run handler state =
      match handler (.load preferences.library) state with
      | (.error error, loaded) =>
        ((Finished.failed (.ofError "Ghostscript is not available" (.ofLibrary error))).ended,
          loaded)
      | (.ok engine, loaded) =>
        let ran := (runOn preferences (bridgeOver preferences.library engine) command).run handler
          loaded
        (ran.1.ended, ran.2) := by
  cases command with
  | convert _ _ _ _ | batch _ _ _ _ =>
      simp only [run, hread, runCommand, Bridge.load, perform, run_bind, run_act, run_done,
        run_pure]
      rcases handler (.load preferences.library) state with ⟨error | engine, loaded⟩ <;> rfl
  | version | execute _ | measure _ | inspect _ => exact hexports.elim

/-- A run is told from what it came to. -/
theorem run_of_comes {environment : Environment} {arguments : List (List UInt8)}
    (hread : CommandLine.read environment arguments = .ok ⟨preferences, command⟩)
    {course : Course} (hcomes : Comes handler preferences.library state command course after) :
    (run environment arguments : Program ε Ended).run handler state =
      ((course.finished preferences).ended, after) := by
  cases hcomes with
  | unbound hexports hload =>
      rw [run_of_exports hread hexports, hload]
      rfl
  | refused hload hspelled =>
      rw [run_of_exports hread trivial, hload]
      simp only [runOn, runConvert, if_pos hspelled, run_pure]
      rfl
  | exportFailed hload hspelled hexport =>
      rw [run_of_exports hread trivial, hload]
      simp only [runOn, runConvert, hspelled, Bool.false_eq_true, if_false, run_bind, hexport,
        run_pure]
      rfl
  | exported hload hspelled hexport =>
      rw [run_of_exports hread trivial, hload]
      simp only [runOn, runConvert, hspelled, Bool.false_eq_true, if_false, run_bind, hexport]
      rw [Course.finished]
      split <;> rfl
  | batchFailed hload hbatch =>
      rw [run_of_exports hread trivial, hload]
      simp only [runOn, runBatch, run_bind, hbatch, run_pure]
      rfl
  | batched hload hbatch =>
      rw [run_of_exports hread trivial, hload]
      simp only [runOn, runBatch, run_bind, hbatch, run_pure]
      rfl

/-! ## How a run ends -/

theorem Failure.status_ne_zero (failure : Failure) : failure.status ≠ 0 := by
  cases failure <;> exact nofun

theorem Finished.status_le_one {finished : Finished}
    (hstated : ∀ message, finished.failure ≠ some (.panicked message)) :
    finished.ended.status ≤ 1 := by
  unfold ended
  split
  · exact Nat.zero_le 1
  · next failure hfailure =>
      cases failure with
      | stated summary causes => exact Nat.le_refl 1
      | panicked message => exact absurd hfailure (hstated message)

theorem Finished.stated_recorded (record? : Option Json) (message : String) :
    (recorded record?).failure ≠ some (.panicked message) := by
  cases record? <;> nofun

theorem Finished.stated_batchFinished (preferences : Preferences) (report : Export.Report)
    (message : String) :
    (batchFinished preferences report).failure ≠ some (.panicked message) := by
  have hshown : (if preferences.json then Finished.recorded report.toJson?
      else if preferences.quiet then .told ""
      else if preferences.showsProgress then .told (progressText report)
      else .told (batchText report)).failure ≠ some (.panicked message) := by
    split
    · exact stated_recorded _ message
    · split
      · nofun
      · split <;> nofun
  unfold batchFinished
  dsimp only
  generalize Finished.failure _ = failure at hshown ⊢
  cases failure with
  | some failure => exact hshown
  | none => split <;> nofun

/-- A batch whose record can be written, or is not asked for, fails with its files only. -/
theorem status_batchFinished {report : Export.Report}
    (hwritten : preferences.json = true → report.toJson?.isSome = true) :
    (batchFinished preferences report).ended.status = 0 ↔ report.failed = 0 := by
  have hshown : (if preferences.json then Finished.recorded report.toJson?
      else if preferences.quiet then .told ""
      else if preferences.showsProgress then .told (progressText report)
      else .told (batchText report)).failure = none := by
    split
    · next hjson =>
        obtain ⟨record, hrecord⟩ := Option.isSome_iff_exists.mp (hwritten hjson)
        rw [hrecord]
        rfl
    · split
      · rfl
      · split <;> rfl
  unfold batchFinished Finished.ended
  dsimp only
  rw [hshown]
  by_cases hfailed : report.failed = 0
  · rw [if_pos hfailed]
    exact iff_of_true rfl hfailed
  · rw [if_neg hfailed]
    exact iff_of_false Nat.one_ne_zero hfailed

namespace Course

/-- Nothing failed. -/
def Faultless : Course → Prop
  | failed _ => False
  | exported _ => True
  | batched report => report.failed = 0

/-- Whether or not records are asked for, the status says whether something failed, as long as
the record can be written. -/
theorem status_eq_zero_iff (course : Course) {preferences : Preferences}
    (hwritten : preferences.json = true → ∀ path ∈ course.paths, path.Writable) :
    (course.finished preferences).ended.status = 0 ↔ course.Faultless := by
  cases course with
  | failed failure => exact iff_of_false failure.status_ne_zero id
  | exported finished =>
      rw [Course.finished]
      split
      · next hjson =>
          obtain ⟨record, hrecord⟩ :=
            Option.isSome_iff_exists.mp (finished.isSome_toJson?_iff.mpr (hwritten hjson))
          rw [hrecord]
          exact iff_of_true rfl trivial
      · exact iff_of_true rfl trivial
  | batched report =>
      exact status_batchFinished fun hjson => report.isSome_toJson?_iff.mpr (hwritten hjson)

/-- Whether or not records are asked for, the statuses are the same if both say that something
failed, or neither does. -/
theorem status_eq (course : Course) {preferences other : Preferences}
    (hsame : (course.finished preferences).ended.status = 0 ↔
      (course.finished other).ended.status = 0) :
    (course.finished preferences).ended.status = (course.finished other).ended.status := by
  cases course with
  | failed failure => rfl
  | exported finished =>
      have hle : ∀ preferences, ((exported finished).finished preferences).ended.status ≤ 1 := by
        intro preferences
        refine Finished.status_le_one fun message => ?_
        rw [Course.finished]
        split
        · exact Finished.stated_recorded _ message
        · nofun
      have hle₁ := hle preferences
      have hle₂ := hle other
      omega
  | batched report =>
      have hle : ∀ preferences, ((batched report).finished preferences).ended.status ≤ 1 :=
        fun preferences => Finished.status_le_one (Finished.stated_batchFinished preferences report)
      have hle₁ := hle preferences
      have hle₂ := hle other
      omega

/-- The record of what was completed is printed, if it can be written. -/
theorem output_finished {course : Course} (hjson : preferences.json = true) {record : Json}
    (hrecord : course.record? = some (some record)) :
    (course.finished preferences).ended.output = recordText record := by
  cases course with
  | failed failure => cases hrecord
  | exported finished =>
      rw [Course.finished, if_pos hjson, Option.some.inj hrecord]
      rfl
  | batched report =>
      rw [Course.finished, batchFinished, if_pos hjson, Option.some.inj hrecord]
      unfold Finished.ended
      split <;> rfl

/-- What was completed has a record unless it names a path that cannot be written. -/
theorem forall_record_iff (course : Course) :
    (∀ record?, course.record? = some record? → record?.isSome = true) ↔
      ∀ path ∈ course.paths, path.Writable := by
  cases course with
  | failed failure => exact iff_of_true nofun nofun
  | exported finished =>
      rw [paths, ← finished.isSome_toJson?_iff]
      exact ⟨fun hrecord => hrecord _ rfl, fun hsome _ hrecord => Option.some.inj hrecord ▸ hsome⟩
  | batched report =>
      rw [paths, ← report.isSome_toJson?_iff]
      exact ⟨fun hrecord => hrecord _ rfl, fun hsome _ hrecord => Option.some.inj hrecord ▸ hsome⟩

/-- Every export that a command asks for succeeded. -/
def Succeeded : Command → Course → Prop
  | .convert _ _ _ _, .exported _ => True
  | .batch inputs _ _ _, .batched report =>
    List.Forall₂ (fun input item => item.input = input ∧ item.finished.isSome = true) inputs
      report.items
  | _, _ => False

end Course

/-- The items of a report are those of the inputs, in their order. -/
theorem exists_turns {bridge : Bridge ε} {inputs : List Path} {directory : Path} {format : Format}
    {options : Export.Options} {report : Export.Report}
    (hbatch : (Export.exportBatch bridge inputs directory format options).run handler state =
      (.ok report, after)) :
    ∃ (turns : List (Export.Turn σ)) (milliseconds : Nat), turns.map Export.Turn.input = inputs ∧
      report = .ofItems (turns.map Export.Turn.item) milliseconds := by
  rcases hdirectory : handler (.makeDirectories directory) (handler .readClock state).2 with
    ⟨error | _, prepared⟩
  · simp only [Export.exportBatch, perform, run_bind, run_act, run_done, hdirectory] at hbatch
    cases hbatch
  · obtain ⟨turns, last, hseries, hitems, -, -⟩ := Export.exists_series bridge handler format
      options inputs.length 1 (Export.plan inputs directory format)
      (handler (.notify (.batchStart inputs.length)) prepared).2
    obtain ⟨milliseconds, hrun⟩ := Export.run_exportBatch hdirectory rfl hitems
    cases hbatch.symm.trans hrun
    refine ⟨turns, milliseconds, ?_, rfl⟩
    rw [← Export.map_fst_plan inputs directory format, ← Export.planned_of_series hseries,
      List.map_map]
    rfl

theorem failed_ofItems_eq_zero_iff (items : List Export.Item) (milliseconds : Nat) :
    (Export.Report.ofItems items milliseconds).failed = 0 ↔
      ∀ item ∈ items, item.isSuccess = true := by
  have hle := List.length_filter_le Export.Item.isSuccess items
  rw [← List.length_filter_eq_length_iff]
  change items.length - (items.filter Export.Item.isSuccess).length = 0 ↔ _
  omega

theorem Comes.faultless_iff {course : Course}
    (hcomes : Comes handler library state command course after) :
    course.Faultless ↔ course.Succeeded command := by
  cases hcomes with
  | unbound => cases command <;> exact Iff.rfl
  | refused | exportFailed | exported | batchFailed => exact Iff.rfl
  | batched hload hbatch =>
      obtain ⟨turns, milliseconds, rfl, rfl⟩ := exists_turns hbatch
      rw [Course.Faultless, failed_ofItems_eq_zero_iff, Course.Succeeded, Export.Report.ofItems,
        List.forall₂_map_left_iff, List.forall₂_map_right_iff, List.forall₂_same,
        List.forall_mem_map]
      refine forall₂_congr fun turn _ => ?_
      obtain ⟨input, output, before, result, after⟩ := turn
      cases result with
      | ok finished => exact iff_of_true rfl ⟨rfl, rfl⟩
      | error error => exact iff_of_false Bool.false_ne_true fun h => Bool.false_ne_true h.2

/-- A conversion that comes to nothing changes nothing. -/
theorem Comes.changesOnly (hfiles : AnswersFiles handler files)
    {output? : σ → Handle → Option Path} (hbinds : BindsConfined handler files output?)
    {format : Format} {input : Path} {given? : Option Path} {options : Export.Options}
    {course : Course}
    (hcomes : Comes handler library state (.convert format input given? options) course after)
    (hfails : ¬ course.Faultless) : ChangesOnly none (files state) (files after) := by
  have hloaded := hbinds.load library state
  have hengine := hbinds.confined library state
  cases hcomes with
  | unbound hexports hload =>
      rw [hload] at hloaded
      exact hloaded
  | refused hload hspelled =>
      rw [hload] at hloaded
      exact hloaded
  | exportFailed hload hspelled hexport =>
      rw [hload] at hloaded hengine
      rcases Export.exportFile_changes hfiles (hengine _ rfl) hexport with
        ⟨_, -, hchange⟩ | ⟨_, hok, -, -⟩
      · exact hloaded.trans hchange
      · cases hok
  | exported => exact (hfails trivial).elim

/-- A conversion names no paths but its own. -/
theorem Comes.paths_subset {format : Format} {input : Path} {output? : Option Path}
    {options : Export.Options} {course : Course}
    (hcomes : Comes handler library state (.convert format input output? options) course after) :
    course.paths ⊆ [input, output?.getD (defaultOutput input format)] := by
  cases hcomes with
  | unbound | refused | exportFailed => exact List.nil_subset _
  | exported hload hspelled hexport =>
      rw [Course.paths, Export.paths_of_run_exportFile hexport]
      exact List.Subset.refl _

/-! ## With records and without -/

/-- Two runs, without records and with them, of what came to the same: they differ in nothing
but the report. -/
structure ReportOnly (files : σ → Workspace) (command : Command) (state : σ) (course : Course)
    (plain recorded : Ended × σ) : Prop where
  status : recorded.1.status = plain.1.status
  left : files recorded.2 = files plain.2
  succeeded : ∀ run ∈ [plain, recorded], run.1.status = 0 ↔ course.Succeeded command
  /-- Nothing has changed where a conversion failed, its destination included. -/
  kept : ∀ run ∈ [plain, recorded], run.1.status ≠ 0 → ∀ format input output? options,
    command = .convert format input output? options →
      ChangesOnly none (files state) (files run.2)
  /-- What was completed is printed. -/
  printed : ∀ record?, course.record? = some record? →
    ∃ record, record? = some record ∧ recorded.1.output = recordText record

/-- **Records in place of words.**  Whatever the files are, and whatever an engine does that
writes only where it is told to: to ask for records changes nothing but the report, exactly if
what was completed names no path that cannot be written. -/
theorem reportOnly_iff (hfiles : AnswersFiles handler files) {output? : σ → Handle → Option Path}
    (hbinds : BindsConfined handler files output?) {environment : Environment}
    {plain recorded : List (List UInt8)}
    (hplain : CommandLine.read environment plain = .ok ⟨preferences, command⟩)
    (hrecorded : CommandLine.read environment recorded =
      .ok ⟨{ preferences with json := true }, command⟩)
    (hwords : preferences.json = false) (hexports : command.Exports) (state : σ) :
    ∃ course after, Comes handler preferences.library state command course after ∧
      (ReportOnly files command state course
          ((run environment plain : Program ε Ended).run handler state)
          ((run environment recorded : Program ε Ended).run handler state) ↔
        ∀ path ∈ course.paths, path.Writable) := by
  obtain ⟨course, after, hcomes⟩ := exists_comes handler preferences.library state hexports
  refine ⟨course, after, hcomes, ?_⟩
  rw [run_of_comes hplain hcomes, run_of_comes hrecorded hcomes]
  have hplainStatus : (course.finished preferences).ended.status = 0 ↔ course.Faultless :=
    course.status_eq_zero_iff fun hjson => Bool.noConfusion (hwords.symm.trans hjson)
  constructor
  · intro honly
    refine course.forall_record_iff.mp fun record? hrecord => ?_
    obtain ⟨record, rfl, -⟩ := honly.printed record? hrecord
    rfl
  · intro hwritable
    have hrecordStatus : (course.finished { preferences with json := true }).ended.status = 0 ↔
        course.Faultless := course.status_eq_zero_iff fun _ => hwritable
    have hfails : ∀ run ∈ [((course.finished preferences).ended, after),
        ((course.finished { preferences with json := true }).ended, after)],
        run.2 = after ∧ (run.1.status = 0 ↔ course.Faultless) := by
      simp only [List.forall_mem_cons, true_and]
      exact ⟨hplainStatus, hrecordStatus, List.forall_mem_nil _⟩
    constructor
    case status => exact course.status_eq (hrecordStatus.trans hplainStatus.symm)
    case left => rfl
    case succeeded =>
      intro run hrun
      exact (hfails run hrun).2.trans hcomes.faultless_iff
    case kept =>
      rintro run hrun hstatus format input given? options rfl
      obtain ⟨hafter, hfaultless⟩ := hfails run hrun
      rw [hafter]
      exact hcomes.changesOnly hfiles hbinds (mt hfaultless.mpr hstatus)
    case printed =>
      intro record? hrecord
      obtain ⟨record, rfl⟩ := Option.isSome_iff_exists.mp
        (course.forall_record_iff.mpr hwritable record? hrecord)
      exact ⟨record, rfl, Course.output_finished rfl hrecord⟩

/-- The arguments of a conversion to an output, with records asked for. -/
def recordedTo (output : List UInt8) : List (List UInt8) :=
  Utf8.encode "--json" :: ["--lib", "./lib/gs.so", "png", "x.pdf", "-o"].map Utf8.encode ++ [output]

/-- The preferences of a conversion in words. -/
def inWords : Preferences := ⟨some (.ofString "./lib/gs.so"), false, false, false, false⟩

/-- A conversion of the file to an output. -/
def conversionOf (output : List UInt8) : Command :=
  .convert .png (.ofString "x.pdf") (some ⟨output⟩) ⟨some 150, none, true⟩

/-- A conversion to a path that is UTF-8 is reported. -/
theorem reportOnly_iff_spelled :
    let output := Utf8.encode "y.png"
    AnswersFiles (Host.handle Host.firstThread) Host.workspace ∧
      BindsConfined (Host.handle Host.firstThread) Host.workspace (fun _ _ => none) ∧
      CommandLine.read [] (recordedTo output).tail = .ok ⟨inWords, conversionOf output⟩ ∧
      CommandLine.read [] (recordedTo output) =
        .ok ⟨{ inWords with json := true }, conversionOf output⟩ ∧
      ∃ course, ReportOnly Host.workspace (conversionOf output) workshop course
        (workshop.run (run [] (recordedTo output).tail)) (workshop.run (run [] (recordedTo output))) := by
  intro output
  have hfiles := answersFiles_handle Host.firstThread
  have hbinds := bindsConfined_handle Host.firstThread
  have hplain : CommandLine.read [] (recordedTo output).tail = .ok ⟨inWords, conversionOf output⟩ :=
    toOption_eq_some_iff.mp (by decide +kernel)
  have hrecorded : CommandLine.read [] (recordedTo output) =
      .ok ⟨{ inWords with json := true }, conversionOf output⟩ :=
    toOption_eq_some_iff.mp (by decide +kernel)
  obtain ⟨course, after, hcomes, honly⟩ :=
    reportOnly_iff hfiles hbinds hplain hrecorded rfl trivial workshop
  refine ⟨hfiles, hbinds, hplain, hrecorded, course, honly.mpr fun path hpath => ?_⟩
  have hmem := hcomes.paths_subset hpath
  rw [List.mem_cons, List.mem_singleton] at hmem
  rcases hmem with rfl | rfl
  · decide +kernel
  · decide +kernel

/-- A name that is not UTF-8. -/
def undecodable : List UInt8 := 0xFF :: Utf8.encode ".png"

/-- A conversion to a path that is not UTF-8 succeeds, and fails when records are asked for,
after the same has been delivered. -/
theorem not_reportOnly_undecodable :
    AnswersFiles (Host.handle Host.firstThread) Host.workspace ∧
      BindsConfined (Host.handle Host.firstThread) Host.workspace (fun _ _ => none) ∧
      CommandLine.read [] (recordedTo undecodable).tail =
        .ok ⟨inWords, conversionOf undecodable⟩ ∧
      CommandLine.read [] (recordedTo undecodable) =
        .ok ⟨{ inWords with json := true }, conversionOf undecodable⟩ ∧
      (workshop.run (run [] (recordedTo undecodable))).2.workspace.read ⟨undecodable⟩ =
        .ok ⟨#[0x44]⟩ ∧
      ∀ course, ¬ ReportOnly Host.workspace (conversionOf undecodable) workshop course
        (workshop.run (run [] (recordedTo undecodable).tail))
        (workshop.run (run [] (recordedTo undecodable))) := by
  refine ⟨answersFiles_handle _, bindsConfined_handle _, toOption_eq_some_iff.mp (by decide +kernel),
    toOption_eq_some_iff.mp (by decide +kernel), toOption_eq_some_iff.mp (by decide +kernel), ?_⟩
  intro course honly
  have hplain : (workshop.run (run [] (recordedTo undecodable).tail)).1.status = 0 := by
    decide +kernel
  have hrecorded : (workshop.run (run [] (recordedTo undecodable))).1.status = 1 := by
    decide +kernel
  exact absurd (hrecorded.symm.trans (honly.status.trans hplain)) Nat.one_ne_zero

end EpsBridge.Cli
