import EpsBridge.Cli.Run
import EpsBridge.Proofs.Engine.Scripted
import EpsBridge.Proofs.Export.Batch
import EpsBridge.Proofs.FileStore.Contents

/-!
# The input of a conversion

A conversion is refused where its output has the same steps as its input.  Two paths may
lead to one file all the same, so what is refused is too little: `Overwrites` is what
remains.  In every other run the input reads what it has read before.

A run is followed once, to what it leaves behind (`run_convert`): nothing happens to the
files before the export, and nothing after it.
-/

namespace EpsBridge.Cli

open Program Workspace

variable {ε σ : Type} {handler : Handler ε σ} {files : σ → Workspace}

/-- A conversion that puts something else into the file that it was made from. -/
inductive Overwrites (handler : Handler ε σ) (files : σ → Workspace) (library : Option Path)
    (format : Format) (input output : Path) (options : Export.Options) (state : σ) : Prop
  | intro {engine : ε} {loaded after : σ} {finished : Export.Finished} {held : ByteArray}
      (hspelled : output.leadsLike input = false)
      (hsame : SameFile (files state) input output)
      (hload : handler (.load library) state = (.ok engine, loaded))
      (hexport : (Export.exportFile ⟨engine, { Config.default with libraryPath := library }⟩ input
        output format options).run handler loaded = (.ok finished, after))
      (hheld : (files state).read input = .ok held)
      (hdelivered : (files after).read output ≠ .ok held) :
      Overwrites handler files library format input output options state

/-- A conversion is refused before anything has happened to files, or it is an export. -/
theorem run_convert (environment : Environment) (arguments : List (List UInt8))
    {preferences : Preferences} {format : Format} {input : Path} {output? : Option Path}
    {options : Export.Options}
    (hread : CommandLine.read environment arguments =
      .ok ⟨preferences, .convert format input output? options⟩) (state : σ) :
    ((run environment arguments : Program ε Ended).run handler state).2 =
      match handler (.load preferences.library) state with
      | (.error _, loaded) => loaded
      | (.ok engine, loaded) =>
        if (output?.getD (defaultOutput input format)).leadsLike input then loaded
        else ((Export.exportFile ⟨engine, { Config.default with
          libraryPath := preferences.library }⟩ input
          (output?.getD (defaultOutput input format)) format options).run handler loaded).2 := by
  simp only [run, hread, runCommand, Bridge.load, perform, run_bind, run_act, run_done, run_pure]
  rcases handler (.load preferences.library) state with ⟨_ | engine, loaded⟩
  · rfl
  · simp only [runOn, runConvert, run_pure]
    split
    · rfl
    · rw [run_bind]
      split
      · rfl
      · split <;> rfl

/-- **A conversion keeps its input, unless it overwrites it.**  Whatever the files are, and
whatever an engine does that writes only where it is told to, the input reads what it has
read before, unless its file was replaced along a path that is spelled in another way. -/
theorem keeps_run_iff (hfiles : AnswersFiles handler files)
    {output? : σ → Handle → Option Path} (hbinds : BindsConfined handler files output?)
    (environment : Environment) (arguments : List (List UInt8)) {preferences : Preferences}
    {format : Format} {input : Path} {output : Option Path} {options : Export.Options}
    (hread : CommandLine.read environment arguments =
      .ok ⟨preferences, .convert format input output options⟩) (state : σ) :
    Keeps input (files state)
        (files ((run environment arguments : Program ε Ended).run handler state).2) ↔
      ¬ Overwrites handler files preferences.library format input
        (output.getD (defaultOutput input format)) options state := by
  have hloaded := hbinds.load preferences.library state
  have hengine := hbinds.confined preferences.library state
  rw [run_convert environment arguments hread]
  rcases hload : handler (.load preferences.library) state with ⟨error | engine, loaded⟩
  · -- there is no engine to export with
    rw [hload] at hloaded
    refine iff_of_true (keeps_of_changesOnly_none hloaded input) ?_
    rintro ⟨-, -, hbound, -, -, -⟩
    cases hload.symm.trans hbound
  rw [hload] at hloaded hengine
  dsimp only
  split
  · next hspelled =>
      -- the output has the steps of the input, and is refused
      refine iff_of_true (keeps_of_changesOnly_none hloaded input) ?_
      rintro ⟨hother, -, -, -, -, -⟩
      cases hspelled.symm.trans hother
  next hspelled =>
  rcases hexport : (Export.exportFile ⟨engine, { Config.default with
      libraryPath := preferences.library }⟩ input (output.getD (defaultOutput input format))
      format options).run handler loaded with ⟨result, after⟩
  dsimp only
  rcases Export.exportFile_changes hfiles (hengine engine rfl) hexport with
    ⟨error, rfl, hchange⟩ | ⟨finished, rfl, hchange, -⟩
  · -- an export that fails delivers nothing
    refine iff_of_true (keeps_of_changesOnly_none (hloaded.trans hchange) input) ?_
    rintro ⟨-, -, hbound, hexported, -, -⟩
    cases hload.symm.trans hbound
    cases hexport.symm.trans hexported
  rw [keeps_iff_of_changesOnly ((hloaded.of_none _).trans hchange)]
  constructor
  · rintro hdelivers ⟨-, hsame, hbound, hexported, hheld, hdelivered⟩
    cases hload.symm.trans hbound
    cases hexport.symm.trans hexported
    exact hdelivered (hdelivers hsame _ hheld)
  · intro hkept hsame held hheld
    by_contra hdelivered
    exact hkept ⟨Bool.eq_false_iff.mpr hspelled, hsame, hload, hexport, hheld, hdelivered⟩

/-- A host with a file and with an engine library, which writes one byte where it is told
to. -/
def workshop : Host :=
  let files := (Workspace.empty (.ofString "/w") (.ofString "/tmp") 0).place
    (.ofString "lib/gs.so") (.library LibrarySearch.symbols 0)
  .start (files.place (.ofString "x.pdf") (.file ⟨#[0x25, 0x21]⟩ 0)) []
    { ScriptedLibrary.Script.default with outputFile := some ⟨#[0x44]⟩ }

/-- The arguments of a conversion of the file to an output. -/
def conversionTo (output : String) : List (List UInt8) :=
  ["--lib", "./lib/gs.so", "pdf", "x.pdf", "-o", output].map Utf8.encode

/-- What the arguments ask for. -/
def conversionLine (output : String) : CommandLine :=
  ⟨⟨some (.ofString "./lib/gs.so"), false, false, false, false⟩,
    .convert .pdf (.ofString "x.pdf") (some (.ofString output)) ⟨none, none, true⟩⟩

/-- The input is kept by a conversion to another file. -/
theorem keeps_run_iff_elsewhere :
    AnswersFiles (Host.handle Host.firstThread) Host.workspace ∧
      BindsConfined (Host.handle Host.firstThread) Host.workspace (fun _ _ => none) ∧
      CommandLine.read [] (conversionTo "y.pdf") = .ok (conversionLine "y.pdf") ∧
      Keeps (.ofString "x.pdf") workshop.workspace
        (workshop.run (run [] (conversionTo "y.pdf"))).2.workspace ∧
      ¬ Overwrites (Host.handle Host.firstThread) Host.workspace (some (.ofString "./lib/gs.so"))
        .pdf (.ofString "x.pdf") (.ofString "y.pdf") ⟨none, none, true⟩ workshop := by
  have hfiles := answersFiles_handle Host.firstThread
  have hbinds := bindsConfined_handle Host.firstThread
  have hread : CommandLine.read [] (conversionTo "y.pdf") = .ok (conversionLine "y.pdf") :=
    toOption_eq_some_iff.mp (by decide +kernel)
  have hbefore : workshop.workspace.read (.ofString "x.pdf") = .ok ⟨#[0x25, 0x21]⟩ :=
    toOption_eq_some_iff.mp (by decide +kernel)
  have hafter : (workshop.run (run [] (conversionTo "y.pdf"))).2.workspace.read
      (.ofString "x.pdf") = .ok ⟨#[0x25, 0x21]⟩ :=
    toOption_eq_some_iff.mp (by decide +kernel)
  have hkeeps : Keeps (.ofString "x.pdf") workshop.workspace
      (workshop.run (run [] (conversionTo "y.pdf"))).2.workspace := by
    intro content hcontent
    exact hafter.trans (hbefore.symm.trans hcontent)
  exact ⟨hfiles, hbinds, hread, hkeeps,
    (keeps_run_iff hfiles hbinds [] (conversionTo "y.pdf") hread workshop).mp hkeeps⟩

/-- The input is not kept by a conversion to itself, spelled with a dot in front. -/
theorem not_keeps_dotted :
    AnswersFiles (Host.handle Host.firstThread) Host.workspace ∧
      BindsConfined (Host.handle Host.firstThread) Host.workspace (fun _ _ => none) ∧
      CommandLine.read [] (conversionTo "./x.pdf") = .ok (conversionLine "./x.pdf") ∧
      ¬ Keeps (.ofString "x.pdf") workshop.workspace
        (workshop.run (run [] (conversionTo "./x.pdf"))).2.workspace := by
  have hread : CommandLine.read [] (conversionTo "./x.pdf") = .ok (conversionLine "./x.pdf") :=
    toOption_eq_some_iff.mp (by decide +kernel)
  have hbefore : workshop.workspace.read (.ofString "x.pdf") = .ok ⟨#[0x25, 0x21]⟩ :=
    toOption_eq_some_iff.mp (by decide +kernel)
  have hafter : (workshop.run (run [] (conversionTo "./x.pdf"))).2.workspace.read
      (.ofString "x.pdf") = .ok ⟨#[0x44]⟩ :=
    toOption_eq_some_iff.mp (by decide +kernel)
  refine ⟨answersFiles_handle _, bindsConfined_handle _, hread, fun hkeeps => ?_⟩
  have hsame := Except.ok.inj ((hkeeps _ hbefore).symm.trans hafter)
  exact absurd hsame (by decide)

end EpsBridge.Cli
