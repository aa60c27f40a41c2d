import EpsBridge.Export.Preview
import EpsBridge.Png
import EpsBridge.Proofs.Config
import EpsBridge.Proofs.Export.AllOrNothing
import EpsBridge.Proofs.Request.Options

/-!
# Previews leave nothing behind

A preview that gets as far as having a temporary file keeps its workspace `Staged` until it
removes the file, whatever the rendering and the decoding come to.  One that does not get there
has changed nothing.  So all files are afterwards what they were (`changesOnly_previewWork`).

The engine is started once at most, by a rendering to PNG, so there is one resolution among the
options that it is given, and it is what was clamped (`startsOf_previewWork`).
-/

namespace EpsBridge

open Program Program.Exchange Workspace

variable {ε σ : Type} {handler : Handler ε σ} {files : σ → Workspace}

/-! ## What engines are started with -/

/-- The arguments of an action that starts an engine. -/
def startedWith? : Action ε → Option (List String)
  | .start _ _ argv _ => some argv
  | _ => none

/-- The arguments that engines were started with. -/
def startsOf (exchanges : List (Exchange ε)) : List (List String) :=
  exchanges.filterMap fun exchange => startedWith? exchange.action

theorem startsOf_append (first second : List (Exchange ε)) :
    startsOf (first ++ second) = startsOf first ++ startsOf second :=
  List.filterMap_append

theorem startsOf_of_course {engine : ε} {argv : List String} {state ended : σ}
    {calls : List (Exchange ε)} {outcome : Outcome Error Capture}
    (hcourse : Course handler engine argv state calls outcome ended) :
    startsOf calls = [] ∨ startsOf calls = [argv] := by
  cases hcourse with
  | notCreated | createPanicked => exact .inl rfl
  | notConfigured | startPanicked | stopPanicked | ended => exact .inr rfl

/-- A run starts its engine once at most, with its own arguments. -/
theorem startsOf_invoke (engine : ε) (arguments : Arguments) (state : σ) :
    startsOf ((invoke engine arguments).trace handler state) = [] ∨
      startsOf ((invoke engine arguments).trace handler state) =
        [programName :: arguments.toList] := by
  cases hargv : arguments.argv with
  | error error =>
      rw [(invoke_of_argv_eq_error handler engine hargv state).1]
      exact .inl rfl
  | ok argv =>
      obtain ⟨calls, ended, htrace, hcourse, -⟩ := course_invoke handler engine hargv state
      have hlock : startsOf (underLock calls) = startsOf calls := by
        rw [underLock, startsOf_append]
        exact List.append_nil _
      rw [htrace, hlock, ← eq_of_argv_eq_ok hargv]
      exact startsOf_of_course hcourse

namespace Export

variable {ι : Type} (decode : ByteArray → Outcome String ι) {bridge : Bridge ε}
  {output? : σ → Handle → Option Path}

/-- Arguments for an input with one resolution among their options, which lies within the bounds
of previews. -/
inductive StartsWithin (config : Config) (input : Path) : List String → Prop
  | intro {options : List String} {text : String} {dpi : UInt32}
      (hinput : Path.ofString text = input)
      (hoptions : options.filter (beginsWith "-r") = ["-r" ++ Decimal.ofNat dpi.toNat])
      (hleast : config.previewMinDpi ≤ dpi) (hlargest : dpi ≤ config.previewMaxDpi) :
      StartsWithin config input ("gs" :: (options ++ [text]))

theorem startsWithin_toPng {config : Config} {input : Path} {text : String}
    (htext : argumentText input 0 = .ok text) (output : String) (resolution : Resolution)
    (hleast : config.previewMinDpi ≤ resolution.dpi)
    (hlargest : resolution.dpi ≤ config.previewMaxDpi) :
    StartsWithin config input
      (programName :: (⟨text, output, .toPng resolution⟩ : Request).arguments.toList) := by
  have hmanaged : Request.IsManaged (.toPng resolution) := trivial
  rw [Request.arguments_of_isManaged hmanaged]
  refine .intro (ofString_of_argumentText htext) ?_ hleast hlargest
  have hnone : (Request.managed .png16m).filter (beginsWith "-r") = [] := by decide
  have hflag := (Request.beginsWith_flag resolution).2.2.1
  have houtput := (Request.beginsWith_outputFlag output).2.2.1
  change _ = [resolution.flag]
  simp [Request.options, hnone, hflag, houtput]

/-- A rendering within the bounds of previews starts its engine within them. -/
theorem startsOf_renderTo_png (input temporary : Path) {dpi : UInt32}
    (hleast : bridge.config.previewMinDpi ≤ dpi) (hlargest : dpi ≤ bridge.config.previewMaxDpi)
    (state : σ) :
    ∀ argv ∈ startsOf ((renderTo bridge input temporary .png ⟨some dpi, none, true⟩).trace
        handler state), StartsWithin bridge.config input argv := by
  intro argv hargv
  unfold renderTo at hargv
  split at hargv
  · next text name htext _ =>
      unfold render Bridge.renderPng Resolution.of? at hargv
      by_cases hpositive : 0 < dpi
      · have hrequest := startsWithin_toPng htext name ⟨dpi, hpositive⟩ hleast hlargest
        simp only [Option.getD_some, dif_pos hpositive, Bridge.convert, Bridge.run, trace_bind,
          trace_pure, List.append_nil] at hargv
        rcases startsOf_invoke bridge.engine
          (⟨text, name, .toPng ⟨dpi, hpositive⟩⟩ : Request).arguments state with hnone | hone
        · rw [hnone] at hargv
          cases hargv
        · rw [hone] at hargv
          obtain rfl := List.mem_singleton.mp hargv
          exact hrequest
      · simp only [Option.getD_some, dif_neg hpositive] at hargv
        cases hargv
  · cases hargv
  · cases hargv

theorem startsOf_decodeFile (path : Path) (state : σ) :
    startsOf ((decodeFile decode path : Program ε _).trace handler state) = [] := by
  simp only [decodeFile, perform, trace_bind, trace_act, trace_done, run_act, run_done]
  cases (handler (.readFile path) state).1 with
  | error error => rfl
  | ok content =>
      dsimp only
      split <;> rfl

/-- Decoding starts no engine. -/
theorem startsOf_renderAndDecode (input temporary : Path) (dpi : UInt32) (state : σ) :
    startsOf ((renderAndDecode decode bridge input temporary dpi).trace handler state) =
      startsOf ((renderTo bridge input temporary .png ⟨some dpi, none, true⟩).trace handler
        state) := by
  rw [renderAndDecode, trace_bind, startsOf_append]
  rcases (renderTo bridge input temporary .png ⟨some dpi, none, true⟩).run handler state with
    ⟨_ | error | message, rendered⟩
  · dsimp only
    rw [startsOf_decodeFile, List.append_nil]
  · exact List.append_nil _
  · exact List.append_nil _

/-- The work of a preview starts its engine within the bounds. -/
theorem startsOf_previewWork (directory input : Path) (scale : UInt32) (state : σ) :
    ∀ argv ∈ startsOf ((previewWork decode directory bridge input scale).trace handler state),
      StartsWithin bridge.config input argv := by
  intro argv hargv
  unfold previewWork at hargv
  cases hdpi : bridge.config.previewDpi scale with
  | error error => rw [hdpi] at hargv; cases hargv
  | panic message => rw [hdpi] at hargv; cases hargv
  | ok dpi =>
      rw [hdpi] at hargv
      obtain ⟨hleast, hlargest⟩ := Config.bounds_of_clamp hdpi
      simp only [perform, trace_bind, trace_act, trace_done, run_act, run_done] at hargv
      rcases hcreated : handler (.createTemporary .system previewBeginning ".png") state with
        ⟨error | temporary, created⟩
      · rw [hcreated] at hargv
        cases hargv
      · rw [hcreated] at hargv
        simp only [trace_bind, trace_act, trace_done, trace_pure, startsOf_append] at hargv
        have hrendering : argv ∈ startsOf
            ((renderAndDecode decode bridge input temporary dpi).trace handler created) := by
          simpa [startsOf, startedWith?] using hargv
        rw [startsOf_renderAndDecode] at hrendering
        exact startsOf_renderTo_png input temporary hleast hlargest created argv hrendering

/-! ## Files of a preview -/

theorem changesOnly_decodeFile (hfiles : AnswersFiles handler files) (path : Path) (state : σ) :
    ChangesOnly none (files state)
      (files ((decodeFile decode path : Program ε _).run handler state).2) := by
  have hread := hfiles.readFile path state
  simp only [decodeFile, perform, run_bind, run_act, run_done]
  cases (handler (.readFile path) state).1 with
  | error error => exact hread
  | ok content =>
      dsimp only
      split <;> exact hread

/-- Rendering and decoding write to the temporary file at most. -/
theorem changesOnly_renderAndDecode (hfiles : AnswersFiles handler files)
    (hconfined : Confined handler files bridge.engine output?) (input temporary : Path)
    (dpi : UInt32) (state : σ) :
    ChangesOnly (some temporary) (files state)
      (files ((renderAndDecode decode bridge input temporary dpi).run handler state).2) := by
  have hrendered := changesOnly_renderTo hfiles hconfined input temporary .png
    ⟨some dpi, none, true⟩ state
  rw [renderAndDecode, run_bind]
  rcases hrun : (renderTo bridge input temporary .png ⟨some dpi, none, true⟩).run handler state with
    ⟨_ | error | message, rendered⟩
  · rw [hrun] at hrendered
    exact hrendered.trans ((changesOnly_decodeFile decode hfiles temporary rendered).of_none _)
  · rw [hrun] at hrendered
    exact hrendered
  · rw [hrun] at hrendered
    exact hrendered

/-- The work of a preview changes nothing in the end. -/
theorem changesOnly_previewWork (hfiles : AnswersFiles handler files)
    (hconfined : Confined handler files bridge.engine output?) (directory input : Path)
    (scale : UInt32) (state : σ) :
    ChangesOnly none (files state)
      (files ((previewWork decode directory bridge input scale).run handler state).2) := by
  unfold previewWork
  cases bridge.config.previewDpi scale with
  | error error => exact .refl none _
  | panic message => exact .refl none _
  | ok dpi =>
      simp only [perform, run_bind, run_act, run_done]
      rcases hcreated : handler (.createTemporary .system previewBeginning ".png") state with
        ⟨error | temporary, created⟩
      · exact hfiles.notCreated _ _ _ state error created hcreated
      · -- from here on there is a temporary file, and it is removed on every way
        obtain ⟨place, hcreation⟩ := hfiles.created _ _ _ state temporary created hcreated
        have hwork := changesOnly_renderAndDecode decode hfiles hconfined input temporary dpi
          created
        have hstaged := hcreation.trans hwork
        simp only [run_bind, run_act, run_done, run_pure]
        exact hstaged.changesOnly_of_removed
          (hfiles.removed temporary place _ hstaged.target_now hstaged.plain)

/-- **Previews.**  Whatever becomes of a preview, and whatever decodes its image, all files are
afterwards what they were, and the working directory is where it was.  If an engine was started,
it was with one resolution among its options, which lies within the bounds of the
configuration. -/
theorem renderPreview_leavesNothing (directory : Path)
    (hfiles : AnswersFiles handler files)
    (hconfined : Confined handler files bridge.engine output?) (input : Path) (scale : UInt32)
    (state : σ) :
    let preview := renderPreview decode directory bridge input scale
    (∀ place, (files (preview.run handler state).2).node? place = (files state).node? place) ∧
      (files (preview.run handler state).2).here = (files state).here ∧
      ∀ argv ∈ startsOf (preview.trace handler state), StartsWithin bridge.config input argv := by
  intro preview
  have hkept := changesOnly_previewWork decode hfiles hconfined directory input scale state
  have hstarts : ∀ argv ∈ startsOf ((previewWork decode directory bridge input scale).trace
      handler state), _ := startsOf_previewWork decode directory input scale state
  simp only [preview]
  rw [renderPreview, run_bind, trace_bind, startsOf_append, run_pure, trace_pure]
  rw [← List.append_nil (startsOf _)] at hstarts
  exact ⟨hkept.node?_eq, hkept.here, hstarts⟩

/-- A bridge over an engine that writes three bytes to its output and then panics. -/
def panicking : Bridge EngineRef :=
  ⟨.fixture 0 { Fixture.Script.default with
    outputFile := some ⟨#[1, 2, 3]⟩, panicsAt := some .start }, .default⟩

/-- An engine that panics with an input that looks like a resolution: at a scale of two, the only
resolution among its options is 144, and the three bytes are gone. -/
theorem renderPreview_leavesNothing_panicking :
    let handler := Host.handle Host.firstThread
    let host := Host.start oneInput [] .default
    let preview :=
      renderPreview Png.decode (.ofString "/tmp") panicking (.ofString "-r300") 0x40000000
    AnswersFiles handler Host.workspace ∧
      Confined handler Host.workspace panicking.engine (fun _ _ => none) ∧
      (∀ place, (preview.run handler host).2.workspace.node? place =
        oneInput.node? place) ∧
      startsOf (preview.trace handler host) = [["gs", "-dNOPAUSE", "-dBATCH", "-dSAFER",
        "-sDEVICE=png16m", "-r144", "-o/tmp/gsbridge-preview-000000.png", "-r300"]] ∧
      ∀ argv ∈ startsOf (preview.trace handler host),
        StartsWithin .default (.ofString "-r300") argv := by
  intro handler host preview
  have hfiles : AnswersFiles handler Host.workspace := answersFiles_handle Host.firstThread
  have hconfined : Confined handler Host.workspace panicking.engine (fun _ _ => none) :=
    confined_fixture rfl _ _
  obtain ⟨hkept, -, hstarts⟩ :=
    renderPreview_leavesNothing Png.decode (.ofString "/tmp") hfiles hconfined
      (.ofString "-r300") 0x40000000 host
  exact ⟨hfiles, hconfined, hkept, by decide +kernel, hstarts⟩

end Export

end EpsBridge
