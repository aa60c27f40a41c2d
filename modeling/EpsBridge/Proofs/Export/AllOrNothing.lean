import EpsBridge.Export.File
import EpsBridge.Proofs.Engine.Confined
import EpsBridge.Proofs.Request
import EpsBridge.Proofs.Text.Utf8

/-!
# Exports are all or nothing

An export renders to a temporary file beside its destination.  While it does, its
workspace is `Staged`: it differs from the one that the export found at most in that
file, which was not there before.  Every way out leads from there: the file is
removed, and everything is as before, or it is moved into place, and the destination
is all that has changed.

The engine is anything that is `Confined` to the output it is told to write, however
its calls end.
-/

namespace EpsBridge.Export

open Program Workspace

variable {ε σ : Type} {handler : Handler ε σ} {files : σ → Workspace} {bridge : Bridge ε}
  {output? : σ → Handle → Option Path}

/-! ## Rendering -/

/-- A rendering writes to its output at most. -/
theorem changesOnly_convert (hfiles : AnswersFiles handler files)
    (hconfined : Confined handler files bridge.engine output?) (request : Request)
    (hrenders : Request.Renders request.operation) (state : σ) :
    ChangesOnly (some (.ofString request.output)) (files state)
      (files ((bridge.convert request).run handler state).2) := by
  have hrun := hconfined.changesOnly_invoke hfiles request.arguments state
  rw [Request.firstOutput?_arguments hrenders programName (by decide)] at hrun
  simpa [Bridge.convert, Bridge.run] using hrun

theorem changesOnly_render (hfiles : AnswersFiles handler files)
    (hconfined : Confined handler files bridge.engine output?) (input output : String)
    (format : Format) (options : Options) (state : σ) :
    ChangesOnly (some (.ofString output)) (files state)
      (files ((render bridge input output format options).run handler state).2) := by
  unfold render
  cases format with
  | png =>
      dsimp only [Bridge.renderPng]
      split
      · exact .refl _ _
      · exact changesOnly_convert hfiles hconfined ⟨input, output, .toPng _⟩ trivial state
  | jpeg =>
      dsimp only [Bridge.renderJpeg]
      split
      · exact .refl _ _
      · exact changesOnly_convert hfiles hconfined ⟨input, output, .toJpeg _ _⟩ trivial state
  | pdf => exact changesOnly_convert hfiles hconfined ⟨input, output, .toPdf⟩ trivial state

/-- A path that can be passed on to an engine is what the engine is passed. -/
theorem ofString_of_argumentText {path : Path} {index : Nat} {text : String}
    (htext : argumentText path index = .ok text) : Path.ofString text = path := by
  unfold argumentText at htext
  split at htext
  · next found hfound =>
      obtain rfl := Except.ok.inj htext
      rw [Path.ofString, Utf8.encode_of_decodeExactly? hfound]
  · cases htext

/-- A rendering to a temporary file writes to this file at most, also where one of the
paths cannot be passed on. -/
theorem changesOnly_renderTo (hfiles : AnswersFiles handler files)
    (hconfined : Confined handler files bridge.engine output?) (input temporary : Path)
    (format : Format) (options : Options) (state : σ) :
    ChangesOnly (some temporary) (files state)
      (files ((renderTo bridge input temporary format options).run handler state).2) := by
  unfold renderTo
  split
  · next text name _ hname =>
      rw [← ofString_of_argumentText hname]
      exact changesOnly_render hfiles hconfined text name format options state
  · exact .refl _ _
  · exact .refl _ _

/-! ## Putting into place -/

/-- The staged file is put into place as it is, or stays staged. -/
theorem putInPlace_of_staged (hfiles : AnswersFiles handler files) {before : Workspace}
    {temporary output : Path} {place : Location} {state after : σ} {outcome : Outcome Error Nat}
    (hstaged : Staged before (files state) temporary place)
    (hrun : (putInPlace temporary output).run handler state = (outcome, after)) :
    (∃ error, outcome = .error error ∧ Staged before (files after) temporary place) ∨
      ∃ content modified destination, outcome = .ok content.size ∧
        (files state).node? place = some (.file content modified) ∧
        ChangesOnly (some output) before (files after) ∧
        Replaced before (files after) output destination (.file content modified) := by
  simp only [putInPlace, perform, run_bind, run_act, run_done] at hrun
  have hsame := hfiles.fileSize temporary state
  have hanswer := hfiles.size temporary state
  rcases hsize : handler (.fileSize temporary) state with ⟨error | size, sized⟩
  · rw [hsize] at hrun hsame
    cases hrun
    exact .inl ⟨_, rfl, hstaged.trans (hsame.of_none _)⟩
  · rw [hsize] at hrun hanswer hsame
    simp only [run_bind, run_act, run_done] at hrun
    obtain ⟨content, modified, hnode, rfl⟩ := hstaged.sizeOf_eq_ok (hanswer size rfl)
    have hsized := hstaged.trans (hsame.of_none _)
    rcases hmoved : handler (.moveFile temporary output) sized with ⟨error | _, moved⟩
    · rw [hmoved] at hrun
      cases hrun
      have hkept := hfiles.notMoved temporary output sized error moved hmoved
      exact .inl ⟨_, rfl, hsized.trans (hkept.of_none _)⟩
    · rw [hmoved] at hrun
      cases hrun
      have hnow : (files sized).node? place = some (.file content modified) :=
        (hsame.node?_eq place).trans hnode
      have hmoves := hfiles.moved temporary output sized moved hmoved
      obtain ⟨hchange, destination, hreplaced⟩ := hsized.replaced_of_movedAlong hmoves hnow
      exact .inr ⟨content, modified, destination, rfl, hnode, hchange, hreplaced⟩

theorem renderInPlace_of_staged (hfiles : AnswersFiles handler files)
    (hconfined : Confined handler files bridge.engine output?) {before : Workspace}
    {input temporary output : Path} {format : Format} {options : Options} {place : Location}
    {state after : σ} {outcome : Outcome Error Nat}
    (hstaged : Staged before (files state) temporary place)
    (hrun : (renderInPlace bridge input temporary output format options).run handler state =
      (outcome, after)) :
    (outcome.isOk = false ∧ Staged before (files after) temporary place) ∨
      ∃ rendered content modified destination, outcome = .ok content.size ∧
        (renderTo bridge input temporary format options).run handler state =
          (.ok (), rendered) ∧
        (files rendered).target? temporary = some place ∧
        (files rendered).node? place = some (.file content modified) ∧
        ChangesOnly (some output) before (files after) ∧
        Replaced before (files after) output destination (.file content modified) := by
  have hchange :=
    changesOnly_renderTo hfiles hconfined input temporary format options state
  simp only [renderInPlace, run_bind] at hrun
  rcases hrendered : (renderTo bridge input temporary format options).run handler state with
    ⟨⟨⟩ | error | message, rendered⟩
  · rw [hrendered] at hrun hchange
    have hstill := hstaged.trans hchange
    rcases putInPlace_of_staged hfiles hstill hrun with
      ⟨error, rfl, hkept⟩ | ⟨content, modified, destination, rfl, hcontent, hplaced⟩
    · exact .inl ⟨rfl, hkept⟩
    · exact .inr ⟨rendered, content, modified, destination, rfl, rfl, hstill.target_now,
        hcontent, hplaced⟩
  · rw [hrendered] at hrun hchange
    cases hrun
    exact .inl ⟨rfl, hstaged.trans hchange⟩
  · rw [hrendered] at hrun hchange
    cases hrun
    exact .inl ⟨rfl, hstaged.trans hchange⟩

/-! ## The whole export -/

/-- What an export that succeeds comes to.  It was not refused, and created a temporary
file where there was nothing.  The rendering left some content in it, and the content
has come to the destination, with nothing else changed. -/
inductive Delivered (bridge : Bridge ε) (handler : Handler ε σ) (files : σ → Workspace)
    (input output : Path) (format : Format) (options : Options) (state final : σ) : Nat → Prop
  | intro {temporary : Path} {place destination : Location} {checked prepared rendered : σ}
      {content : ByteArray} {modified : Int}
      (hchecked : (refusal? input output options : Program ε _).run handler
        (handler .readClock state).2 = (none, checked))
      (hprepared : handler (.createTemporary (.directory (directoryOf output))
        temporaryBeginning ("." ++ format.extension)) checked = (.ok temporary, prepared))
      (hstaged : Staged (files state) (files prepared) temporary place)
      (hrendered : (renderTo bridge input temporary format options).run handler prepared =
        (.ok (), rendered))
      (htemporary : (files rendered).target? temporary = some place)
      (hcontent : (files rendered).node? place = some (.file content modified))
      (hreplaced : Replaced (files state) (files final) output destination
        (.file content modified)) :
      Delivered bridge handler files input output format options state final content.size

theorem changesOnly_refusal? (hfiles : AnswersFiles handler files) (input output : Path)
    (options : Options) (state : σ) :
    ChangesOnly none (files state)
      (files ((refusal? input output options : Program ε _).run handler state).2) := by
  have hinput := hfiles.pathExists input state
  have houtput := hfiles.pathExists output (handler (.pathExists input) state).2
  simp only [refusal?, perform, run_bind, run_act, run_done]
  rcases Bool.eq_false_or_eq_true (handler (.pathExists input) state).1 with hfound | hfound
  · rcases Bool.eq_false_or_eq_true options.overwrite with hreplace | hreplace
    · simpa [hfound, hreplace] using hinput
    · have hboth := hinput.trans houtput
      rcases Bool.eq_false_or_eq_true
        (handler (.pathExists output) (handler (.pathExists input) state).2).1 with htaken | htaken
      · simpa [hfound, hreplace, htaken] using hboth
      · simpa [hfound, hreplace, htaken] using hboth
  · simpa [hfound] using hinput

theorem isOk_map {α β : Type} (f : α → β) (outcome : Outcome Error α) :
    (outcome.map f).isOk = outcome.isOk := by
  cases outcome <;> rfl

theorem run_removeUnlessOk_fst {α : Type} (temporary : Path) (outcome : Outcome Error α)
    (state : σ) : ((removeUnlessOk temporary outcome).run handler state).1 = outcome := by
  cases outcome <;> rfl

/-- Whatever an export did to a temporary file, nothing of it is left once the file is
removed. -/
theorem changesOnly_removeUnlessOk (hfiles : AnswersFiles handler files) {α : Type}
    {before : Workspace} {temporary : Path} {place : Location} {state : σ}
    {outcome : Outcome Error α} (hfailed : outcome.isOk = false)
    (hstaged : Staged before (files state) temporary place) :
    ChangesOnly none before (files ((removeUnlessOk temporary outcome).run handler state).2) := by
  rw [removeUnlessOk, if_neg (by rw [hfailed]; exact Bool.false_ne_true)]
  simp only [perform, run_bind, run_act, run_done, run_pure]
  exact hstaged.changesOnly_of_removed
    (hfiles.removed temporary place state hstaged.target_now hstaged.plain)

/-- An export that fails changes nothing.  One that succeeds delivers, and changes nothing
but its destination. -/
theorem exportWork_changes (hfiles : AnswersFiles handler files)
    (hconfined : Confined handler files bridge.engine output?) (input output : Path)
    (format : Format) (options : Options) {state final : σ} {outcome : Outcome Error Finished}
    (hrun : (exportWork bridge input output format options).run handler state =
      (outcome, final)) :
    (outcome.isOk = false ∧ ChangesOnly none (files state) (files final)) ∨
      ∃ finished, outcome = .ok finished ∧
        ChangesOnly (some output) (files state) (files final) ∧
        Delivered bridge handler files input output format options state final
          finished.bytes := by
  have hstarted := hfiles.readClock state
  have hrefusal := changesOnly_refusal? hfiles input output options (handler .readClock state).2
  simp only [exportWork, perform, run_bind, run_act, run_done] at hrun
  rcases hrefused : (refusal? input output options).run handler (handler .readClock state).2 with
    ⟨_ | error, checked⟩
  · rw [hrefused] at hrun hrefusal
    have hchecked := hstarted.trans hrefusal
    simp only [run_bind, run_act, run_done] at hrun
    rcases hcreated : handler (.createTemporary (.directory (directoryOf output))
        temporaryBeginning ("." ++ format.extension)) checked with ⟨error | temporary, created⟩
    · have hkept := hfiles.notCreated _ _ _ checked error created hcreated
      rw [hcreated] at hrun
      cases hrun
      exact .inl ⟨rfl, hchecked.trans hkept⟩
    · -- from here on there is a temporary file, and every way out takes care of it
      obtain ⟨place, hplace⟩ := hfiles.created _ _ _ checked temporary created hcreated
      rw [hcreated] at hrun
      have hstaged := hplace.of_changesOnly hchecked
      simp only [run_bind, run_act, run_done, run_pure] at hrun
      rcases hplaced : (renderInPlace bridge input temporary output format options).run handler
          created with ⟨rendering, placed⟩
      rw [hplaced] at hrun
      rcases renderInPlace_of_staged hfiles hconfined hstaged hplaced with
        ⟨hfailed, hkept⟩ |
        ⟨rendered, content, modified, destination, rfl, hrendered, htemporary, hcontent,
          hchange, hreplaced⟩
      · obtain ⟨rfl, rfl⟩ := Prod.mk.inj hrun
        refine .inl ⟨?_, ?_⟩
        · rw [run_removeUnlessOk_fst, isOk_map, hfailed]
        · exact (changesOnly_removeUnlessOk hfiles hfailed hkept).trans (hfiles.readClock _)
      · cases hrun
        have hended := hfiles.readClock placed
        exact .inr ⟨_, rfl, hchange.trans (hended.of_none _), .intro hrefused hcreated hstaged
          hrendered htemporary hcontent (hreplaced.trans hended)⟩
  · rw [hrefused] at hrun hrefusal
    cases hrun
    exact .inl ⟨rfl, hstarted.trans hrefusal⟩

theorem exportWork_allOrNothing (hfiles : AnswersFiles handler files)
    (hconfined : Confined handler files bridge.engine output?) (input output : Path)
    (format : Format) (options : Options) {state final : σ} {outcome : Outcome Error Finished}
    (hrun : (exportWork bridge input output format options).run handler state =
      (outcome, final)) :
    (outcome.isOk = false ∧
        ∀ place, (files final).node? place = (files state).node? place) ∨
      ∃ finished, outcome = .ok finished ∧
        Delivered bridge handler files input output format options state final
          finished.bytes := by
  rcases exportWork_changes hfiles hconfined input output format options hrun with
    ⟨hfailed, hkept⟩ | ⟨finished, hok, -, hdelivered⟩
  · exact .inl ⟨hfailed, hkept.node?_eq⟩
  · exact .inr ⟨finished, hok, hdelivered⟩

/-- **All or nothing.**  An export that fails leaves everything as it was.  One that
succeeds leaves, at its destination, what the engine had written to the temporary
file, and nothing else is changed. -/
theorem exportFile_allOrNothing (hfiles : AnswersFiles handler files)
    (hconfined : Confined handler files bridge.engine output?) (input output : Path)
    (format : Format) (options : Options) (state : σ) :
    match (exportFile bridge input output format options).run handler state with
    | (.error _, final) => ∀ place, (files final).node? place = (files state).node? place
    | (.ok finished, final) =>
      Delivered bridge handler files input output format options state final
        finished.bytes := by
  rw [exportFile, run_bind]
  rcases hrun : (exportWork bridge input output format options).run handler state with
    ⟨outcome, final⟩
  rcases exportWork_allOrNothing hfiles hconfined input output format options hrun with
    ⟨hfailed, hkept⟩ | ⟨finished, rfl, hdelivered⟩
  · cases outcome with
    | ok finished => cases hfailed
    | error error => exact hkept
    | panic message => exact hkept
  · exact hdelivered

/-- A bridge over an engine that writes three bytes to its output. -/
def threeBytes : Bridge EngineRef :=
  ⟨.fixture 0 { Fixture.Script.default with outputFile := some ⟨#[1, 2, 3]⟩ }, .default⟩

/-- A workspace with one file to export. -/
def oneInput : Workspace :=
  (Workspace.empty (.ofString "/w") (.ofString "/tmp") 0).place (.ofString "a.eps")
    (.file ⟨#[0x25, 0x21]⟩ 0)

/-- The three bytes are delivered. -/
theorem exportFile_allOrNothing_threeBytes :
    AnswersFiles (Host.handle Host.firstThread) Host.workspace ∧
      Confined (Host.handle Host.firstThread) Host.workspace threeBytes.engine
        (fun _ _ => none) ∧
      ∃ finished final,
        (exportFile threeBytes (.ofString "a.eps") (.ofString "a.pdf") .pdf .default).run
          (Host.handle Host.firstThread) (.start oneInput [] .default) = (.ok finished, final) ∧
        finished.bytes = 3 ∧
        Delivered threeBytes (Host.handle Host.firstThread) Host.workspace (.ofString "a.eps")
          (.ofString "a.pdf") .pdf .default (.start oneInput [] .default) final
          finished.bytes := by
  have hfiles := answersFiles_handle Host.firstThread
  have hconfined : Confined (Host.handle Host.firstThread) Host.workspace threeBytes.engine
      (fun _ _ => none) := confined_fixture rfl _ _
  have hall := exportFile_allOrNothing hfiles hconfined (.ofString "a.eps") (.ofString "a.pdf")
    .pdf .default (.start oneInput [] .default)
  have hbytes : (((exportFile threeBytes (.ofString "a.eps") (.ofString "a.pdf") .pdf
      .default).run (Host.handle Host.firstThread)
      (.start oneInput [] .default)).1.toOption.map (·.bytes)) = some 3 := by
    decide +kernel
  refine ⟨hfiles, hconfined, ?_⟩
  rcases hrun : (exportFile threeBytes (.ofString "a.eps") (.ofString "a.pdf") .pdf
      .default).run (Host.handle Host.firstThread) (.start oneInput [] .default) with
    ⟨error | finished, final⟩
  · rw [hrun] at hbytes
    cases hbytes
  · rw [hrun] at hall hbytes
    exact ⟨finished, final, rfl, Option.some.inj hbytes, hall⟩

end EpsBridge.Export
