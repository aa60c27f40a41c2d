import EpsBridge.Proofs.Export.Batch
import EpsBridge.Proofs.FileStore.Contents

/-!
# The inputs of a batch

A plan keeps the outputs of a batch apart from one another, but not from its inputs: an
input that lies in the output directory may bear the name of an output.  What is asked for
is `InputsKept`, and it comes down to one thing, that no output leads to the file of an
input (`inputsKept_exportBatch_iff`).

A turn that fails, or that writes to another file, leaves what a path reads
(`keeps_of_turn`).  By induction on the turns, so does a series of such turns up to each of
them and to its end (`keeps_of_series`).
-/

namespace EpsBridge.Export

open Program Workspace

variable {ε σ : Type} {handler : Handler ε σ} {files : σ → Workspace} {bridge : Bridge ε}
  {output? : σ → Handle → Option Path} {format : Format} {options : Options}
  {total position : Nat} {jobs : List (Path × Path)} {turn : Turn σ} {turns : List (Turn σ)}
  {state prepared final : σ} {path written : Path}

/-! ## Turns -/

theorem keeps_of_turn (hfiles : AnswersFiles handler files)
    (hconfined : Confined handler files bridge.engine output?)
    (hrun : (exportFile bridge turn.input turn.output format options).run handler turn.before =
      (turn.result, turn.after))
    (hother : turn.result.isOk = true → ¬ SameFile (files turn.before) path turn.output) :
    Keeps path (files turn.before) (files turn.after) := by
  rcases exportFile_changes hfiles hconfined hrun with
    ⟨error, -, hchange⟩ | ⟨finished, hresult, hchange, -⟩
  · exact keeps_of_changesOnly_none hchange path
  · refine keeps_of_changesOnly hchange ?_
    rintro written ⟨⟩
    exact hother (by rw [hresult]; rfl)

/-- Neither the turn itself nor what is told around it makes two paths lead to one file. -/
theorem sameFile_iff_of_turn (hfiles : AnswersFiles handler files)
    (htells : TellsOnly handler files)
    (hconfined : Confined handler files bridge.engine output?)
    (hbegin : (handler (.notify (.fileStart position total turn.input)) state).2 = turn.before)
    (hrun : (exportFile bridge turn.input turn.output format options).run handler turn.before =
      (turn.result, turn.after)) (path written : Path) :
    (SameFile (files turn.before) path written ↔ SameFile (files state) path written) ∧
      (SameFile (files (handler (.notify (turn.event position total)) turn.after).2) path
        written ↔ SameFile (files state) path written) := by
  have hbefore := htells (.fileStart position total turn.input) state
  have hturn := changesOnly_turn hfiles hconfined hrun
  have hafter := htells (turn.event position total) turn.after
  rw [hbegin] at hbefore
  have hbegun : SameFile (files turn.before) path written ↔ SameFile (files state) path written :=
    sameFile_iff_of_changesOnly hbefore
  refine ⟨hbegun, ?_⟩
  rw [sameFile_iff_of_changesOnly hafter, sameFile_iff_of_changesOnly hturn, hbegun]

theorem sameFile_iff_of_series (hfiles : AnswersFiles handler files)
    (htells : TellsOnly handler files)
    (hconfined : Confined handler files bridge.engine output?)
    (hseries : Series bridge handler format options total position jobs state turns final) :
    SameFile (files final) path written ↔ SameFile (files state) path written := by
  induction hseries with
  | nil => rfl
  | cons hbegin hrun _ ih =>
      rw [ih]
      exact (sameFile_iff_of_turn hfiles htells hconfined hbegin hrun path written).2

/-- What is not written to by a turn that succeeds is kept, up to every turn and to the
end. -/
theorem keeps_of_series (hfiles : AnswersFiles handler files) (htells : TellsOnly handler files)
    (hconfined : Confined handler files bridge.engine output?)
    (hseries : Series bridge handler format options total position jobs state turns final)
    (hother : ∀ turn ∈ turns, turn.result.isOk = true →
      ¬ SameFile (files state) path turn.output) :
    Keeps path (files state) (files final) ∧
      ∀ turn ∈ turns, Keeps path (files state) (files turn.before) := by
  induction hseries with
  | nil => exact ⟨fun _ hread => hread, nofun⟩
  | @cons position turn rest state final turns hbegin hrun _ ih =>
      have hsame := sameFile_iff_of_turn hfiles htells hconfined hbegin hrun path
      have hbefore := htells (.fileStart position total turn.input) state
      have hafter := htells (turn.event position total) turn.after
      rw [hbegin] at hbefore
      have hbegun := keeps_of_changesOnly_none hbefore path
      have hdone : Keeps path (files turn.before) (files turn.after) := by
        refine keeps_of_turn hfiles hconfined hrun fun hok => ?_
        rw [(hsame turn.output).1]
        exact hother turn List.mem_cons_self hok
      have hnext := (hbegun.trans hdone).trans (keeps_of_changesOnly_none hafter path)
      obtain ⟨hend, hlater⟩ := ih (by
        intro other hmem hok
        rw [(hsame other.output).2]
        exact hother other (List.mem_cons_of_mem _ hmem) hok)
      refine ⟨hnext.trans hend, fun other hmem => ?_⟩
      rcases List.mem_cons.mp hmem with rfl | hrest
      · exact hbegun
      · exact hnext.trans (hlater other hrest)

/-! ## The whole batch -/

/-- What ought to be true of the inputs of a batch: they are kept, no output is the file of
one, and each is what its own turn begins with. -/
structure InputsKept (files : σ → Workspace) (inputs : List Path) (state prepared : σ)
    (turns : List (Turn σ)) (final : σ) : Prop where
  kept : ∀ input ∈ inputs, Keeps input (files state) (files final)
  apart : ∀ turn ∈ turns, ∀ input ∈ inputs, ¬ SameFile (files prepared) input turn.output
  rendered : ∀ turn ∈ turns, Keeps turn.input (files state) (files turn.before)

/-- The turns of a batch, from the state that they begin in to the one that they leave: they
are the exports of its plan, two paths to one file stay such, and what is written to by none
of them that succeeds is kept. -/
structure Turned (bridge : Bridge ε) (handler : Handler ε σ) (files : σ → Workspace)
    (inputs : List Path) (directory : Path) (format : Format) (options : Options)
    (prepared : σ) (turns : List (Turn σ)) (final : σ) : Prop where
  planned : turns.map (fun turn => (turn.input, turn.output)) = plan inputs directory format
  exported : ∀ turn ∈ turns, (exportFile bridge turn.input turn.output format options).run handler
    turn.before = (turn.result, turn.after)
  sameFile_iff : ∀ path written,
    SameFile (files final) path written ↔ SameFile (files prepared) path written
  keeps : ∀ path, (∀ turn ∈ turns, turn.result.isOk = true →
      ¬ SameFile (files prepared) path turn.output) →
    Keeps path (files prepared) (files final) ∧
      ∀ turn ∈ turns, Keeps path (files prepared) (files turn.before)

theorem exists_turned (hfiles : AnswersFiles handler files) (htells : TellsOnly handler files)
    (hconfined : Confined handler files bridge.engine output?) (inputs : List Path)
    (directory : Path)
    (hdirectory : handler (.makeDirectories directory) (handler .readClock state).2 =
      (.ok (), prepared)) :
    ∃ turns report final,
      (exportBatch bridge inputs directory format options).run handler state =
        (.ok report, final) ∧
      report.items = turns.map Turn.item ∧
      Turned bridge handler files inputs directory format options prepared turns final := by
  obtain ⟨turns, last, hseries, hitems, -, -⟩ := exists_series bridge handler format options
    inputs.length 1 (plan inputs directory format)
    (handler (.notify (.batchStart inputs.length)) prepared).2
  obtain ⟨milliseconds, hrun⟩ := run_exportBatch hdirectory rfl hitems
  have hopened := htells (.batchStart inputs.length) prepared
  have hclosed := (htells (.batchComplete inputs.length
    (Report.ofItems (turns.map Turn.item) 0).succeeded) last).trans (hfiles.readClock _)
  refine ⟨turns, _, _, hrun, rfl, planned_of_series hseries, run_of_series hseries,
    fun path written => ?_, fun path hother => ?_⟩
  · rw [sameFile_iff_of_changesOnly hclosed,
      sameFile_iff_of_series hfiles htells hconfined hseries, sameFile_iff_of_changesOnly hopened]
  · have hbegun := keeps_of_changesOnly_none hopened path
    have hturns : ∀ turn ∈ turns, turn.result.isOk = true → ¬ SameFile
        (files (handler (.notify (.batchStart inputs.length)) prepared).2) path turn.output := by
      intro turn hturn hok
      rw [sameFile_iff_of_changesOnly hopened]
      exact hother turn hturn hok
    obtain ⟨hend, hlater⟩ := keeps_of_series hfiles htells hconfined hseries hturns
    exact ⟨(hbegun.trans hend).trans (keeps_of_changesOnly_none hclosed path),
      fun turn hturn => hbegun.trans (hlater turn hturn)⟩

namespace Turned

variable {inputs : List Path} {directory : Path}

theorem input_mem
    (hturned : Turned bridge handler files inputs directory format options prepared turns final)
    (hturn : turn ∈ turns) : turn.input ∈ inputs := by
  rw [← map_fst_plan inputs directory format, ← hturned.planned, List.map_map]
  exact List.mem_map_of_mem hturn

theorem keeps_iff
    (hturned : Turned bridge handler files inputs directory format options prepared turns final) :
    Keeps path (files prepared) (files final) ↔
      ∀ turn ∈ turns, turn.result.isOk = true → SameFile (files prepared) path turn.output →
        ∀ held, (files prepared).read path = .ok held →
          (files final).read turn.output = .ok held := by
  constructor
  · intro hkept turn _ _ hfile held hheld
    have hsame := (hturned.sameFile_iff path turn.output).mpr hfile
    exact hsame.keeps_iff.mp hkept held hheld
  · intro hdelivered
    -- any turn that wrote to the file tells what it holds at the end
    by_cases hhit : ∃ turn ∈ turns, turn.result.isOk = true ∧
        SameFile (files prepared) path turn.output
    · obtain ⟨turn, hturn, hok, hfile⟩ := hhit
      have hsame := (hturned.sameFile_iff path turn.output).mpr hfile
      exact hsame.keeps_iff.mpr (hdelivered turn hturn hok hfile)
    · exact (hturned.keeps path fun turn hturn hok hfile => hhit ⟨turn, hturn, hok, hfile⟩).1

/-- Where no planned output leads to the file of an input, all that is asked for is true. -/
theorem inputsKept_iff
    (hturned : Turned bridge handler files inputs directory format options prepared turns final)
    (hadded : ∀ path, Keeps path (files state) (files prepared)) :
    InputsKept files inputs state prepared turns final ↔
      ∀ job ∈ plan inputs directory format, ∀ input ∈ inputs,
        ¬ SameFile (files prepared) input job.2 := by
  rw [← hturned.planned, List.forall_mem_map]
  constructor
  · exact InputsKept.apart
  · intro hapart
    have hkeeps : ∀ input ∈ inputs, Keeps input (files prepared) (files final) ∧
        ∀ turn ∈ turns, Keeps input (files prepared) (files turn.before) :=
      fun input hinput => hturned.keeps input fun turn hturn _ => hapart turn hturn input hinput
    refine ⟨fun input hinput => ?_, hapart, fun turn hturn => ?_⟩
    · exact (hadded input).trans (hkeeps input hinput).1
    · exact (hadded turn.input).trans ((hkeeps _ (hturned.input_mem hturn)).2 turn hturn)

end Turned

/-- **A batch keeps its inputs, unless a planned output is one of them.**  Whatever the files
are, and whatever an engine does that writes only where it is told to, all that is asked for
is true exactly if no planned output leads to the file of an input.  An input whose file is
an output as well still reads the same if that turn fails, or delivers what was there. -/
theorem inputsKept_exportBatch_iff (hfiles : AnswersFiles handler files)
    (htells : TellsOnly handler files)
    (hmakes : ∀ directory state,
      AddsOnly (files state) (files (handler (.makeDirectories directory) state).2))
    (hconfined : Confined handler files bridge.engine output?) (inputs : List Path)
    (directory : Path) (format : Format) (options : Options) (state : σ) :
    match handler (.makeDirectories directory) (handler .readClock state).2 with
    | (.error error, prepared) =>
      (exportBatch bridge inputs directory format options).run handler state =
          (.error (.outputWriteFailed directory error), prepared) ∧
        ∀ input ∈ inputs, Keeps input (files state) (files prepared)
    | (.ok (), prepared) =>
      ∃ turns report final,
        (exportBatch bridge inputs directory format options).run handler state =
          (.ok report, final) ∧
        report.items = turns.map Turn.item ∧
        Turned bridge handler files inputs directory format options prepared turns final ∧
        (InputsKept files inputs state prepared turns final ↔
          ∀ job ∈ plan inputs directory format, ∀ input ∈ inputs,
            ¬ SameFile (files prepared) input job.2) ∧
        ∀ input ∈ inputs, Keeps input (files prepared) (files final) ↔
          ∀ turn ∈ turns, turn.result.isOk = true → SameFile (files prepared) input turn.output →
            ∀ held, (files prepared).read input = .ok held →
              (files final).read turn.output = .ok held := by
  have hstarted := hfiles.readClock state
  have hmade := hmakes directory (handler .readClock state).2
  have hadded : ∀ path, Keeps path (files state)
      (files (handler (.makeDirectories directory) (handler .readClock state).2).2) :=
    fun path => (keeps_of_changesOnly_none hstarted path).trans (hmade.keeps path)
  rcases hdirectory : handler (.makeDirectories directory) (handler .readClock state).2 with
    ⟨error | ⟨⟩, prepared⟩
  · -- directories that were made before the error stay, and hide nothing
    rw [hdirectory] at hadded
    refine ⟨?_, fun input _ => hadded input⟩
    simp only [exportBatch, perform, run_bind, run_act, run_done]
    rw [hdirectory]
    rfl
  · rw [hdirectory] at hadded
    obtain ⟨turns, report, final, hrun, hitems, hturned⟩ :=
      exists_turned hfiles htells hconfined inputs directory hdirectory
    exact ⟨turns, report, final, hrun, hitems, hturned, hturned.inputsKept_iff hadded,
      fun _ _ => hturned.keeps_iff⟩

/-- The inputs are kept where the outputs come into a directory of their own. -/
theorem inputsKept_exportBatch_iff_twoInputs :
    TellsOnly (Host.handle Host.firstThread) Host.workspace ∧
      Confined (Host.handle Host.firstThread) Host.workspace threeBytes.engine
        (fun _ _ => none) ∧
      ∃ prepared turns report final,
        Host.handle Host.firstThread (.makeDirectories (.ofString "out"))
          (.start twoInputs [] .default) = (.ok (), prepared) ∧
        (exportBatch threeBytes [.ofString "a.eps", .ofString "A.eps"] (.ofString "out") .pdf
          .default).run (Host.handle Host.firstThread) (.start twoInputs [] .default) =
            (.ok report, final) ∧
        report.items = turns.map Turn.item ∧
        InputsKept Host.workspace [.ofString "a.eps", .ofString "A.eps"]
          (.start twoInputs [] .default) prepared turns final := by
  have hfiles := answersFiles_handle Host.firstThread
  have htells : TellsOnly (Host.handle Host.firstThread) Host.workspace :=
    fun _ _ => .refl none _
  have hconfined : Confined (Host.handle Host.firstThread) Host.workspace threeBytes.engine
      (fun _ _ => none) := confined_fixture rfl _ _
  have hdirectory : (Host.handle Host.firstThread (.makeDirectories (.ofString "out"))
      (.start twoInputs [] .default)).1 = .ok () := by decide +kernel
  have hapart : ∀ job ∈ plan [.ofString "a.eps", .ofString "A.eps"] (.ofString "out") .pdf,
      ∀ input ∈ [Path.ofString "a.eps", .ofString "A.eps"],
        ¬ SameFile (Host.handle Host.firstThread (.makeDirectories (.ofString "out"))
          (.start twoInputs [] .default)).2.workspace input job.2 := by decide +kernel
  have hall := inputsKept_exportBatch_iff hfiles htells
    (fun directory host => addsOnly_makeDirectories host.workspace directory) hconfined
    [.ofString "a.eps", .ofString "A.eps"] (.ofString "out") .pdf .default
    (.start twoInputs [] .default)
  have hclock : (Host.handle Host.firstThread .readClock (.start twoInputs [] .default)).2 =
      .start twoInputs [] .default := rfl
  rw [hclock] at hall
  rcases hprepared : Host.handle Host.firstThread (.makeDirectories (.ofString "out"))
    (.start twoInputs [] .default) with ⟨made, prepared⟩
  rw [hprepared] at hall hdirectory hapart
  obtain rfl : made = .ok () := hdirectory
  obtain ⟨turns, report, final, hrun, hitems, -, hkept, -⟩ := hall
  exact ⟨htells, hconfined, prepared, turns, report, final, rfl, hrun, hitems, hkept.mpr hapart⟩

/-- A workspace with a file in a directory of its own. -/
def oneInside : Workspace :=
  (Workspace.empty (.ofString "/w") (.ofString "/tmp") 0).place (.ofString "o/a.png")
    (.file ⟨#[0x25, 0x21]⟩ 0)

/-- An input is not kept that lies in the output directory under the name of its output. -/
theorem not_keeps_oneInside :
    AnswersFiles (Host.handle Host.firstThread) Host.workspace ∧
      TellsOnly (Host.handle Host.firstThread) Host.workspace ∧
      (∀ directory host, AddsOnly (Host.workspace host)
        (Host.handle Host.firstThread (.makeDirectories directory) host).2.workspace) ∧
      Confined (Host.handle Host.firstThread) Host.workspace threeBytes.engine
        (fun _ _ => none) ∧
      ¬ Keeps (.ofString "o/a.png") oneInside
        ((exportBatch threeBytes [.ofString "o/a.png"] (.ofString "o") .png .default).run
          (Host.handle Host.firstThread) (.start oneInside [] .default)).2.workspace := by
  have hbefore : oneInside.read (.ofString "o/a.png") = .ok ⟨#[0x25, 0x21]⟩ :=
    toOption_eq_some_iff.mp (by decide +kernel)
  have hafter : ((exportBatch threeBytes [.ofString "o/a.png"] (.ofString "o") .png .default).run
      (Host.handle Host.firstThread) (.start oneInside [] .default)).2.workspace.read
        (.ofString "o/a.png") = .ok ⟨#[1, 2, 3]⟩ :=
    toOption_eq_some_iff.mp (by decide +kernel)
  refine ⟨answersFiles_handle _, fun _ _ => .refl none _,
    fun directory host => addsOnly_makeDirectories host.workspace directory,
    confined_fixture rfl _ _, fun hkeeps => ?_⟩
  have hsame := Except.ok.inj ((hkeeps _ hbefore).symm.trans hafter)
  exact absurd hsame (by decide)

end EpsBridge.Export
