import EpsBridge.Host
import EpsBridge.Proofs.Engine.Scenario

/-!
# Scripted engines in place of libraries

A library has codes of which only some are failures, and handlers that are attached for two
phases.  A scripted engine knows one error of making an instance and one of configuring it,
and writes all of its output at once.  `Script.mirror` is the scripted engine that stands in
for the library with a given script.

Both play a scenario, the one of the library with its output in two phases, and the two
scenarios are alike.  So a run cannot tell which of them it has (`invoke_eq_of_mirror`).
-/

namespace EpsBridge

namespace ScriptedLibrary

/-! ## What handlers are given -/

/-- What one call of a handler puts on a channel. -/
def Write.piece (write : Write) : List (Channel × ByteArray) :=
  match write.stream, write.taken with
  | .output, some bytes => [(.output, bytes)]
  | .diagnostics, some bytes => [(.diagnostics, bytes)]
  | _, _ => []

/-- What all calls of a handler put on its channel. -/
def Write.pieces (write : Write) : List (Channel × ByteArray) :=
  (List.replicate write.times write.piece).flatten

theorem Write.deliver_eq (write : Write) (capture : Capture) :
    write.deliver capture = Fixture.writeAll capture write.piece := by
  unfold deliver piece
  generalize write.stream = stream
  generalize write.taken = taken
  cases stream <;> cases taken <;> rfl

theorem Write.foldl_deliver (write : Write) (times : Nat) (capture : Capture) :
    (List.range times).foldl (fun capture _ => write.deliver capture) capture =
      Fixture.writeAll capture (List.replicate times write.piece).flatten := by
  induction times with
  | zero => rfl
  | succ times ih =>
      rw [List.range_succ, List.foldl_append, ih, List.foldl_cons, List.foldl_nil, deliver_eq,
        ← Capture.writeAll_append, List.replicate_succ', List.flatten_append,
        List.flatten_singleton]

/-! ## The calls of a library -/

/-- The arguments that a call passes. -/
def Call.argv? : Call → Option (List String)
  | .run _ argv => some argv
  | _ => none

/-- The arguments that a library was passed, last first. -/
def Machine.passed (machine : Machine) : List (List String) :=
  machine.calls.filterMap Call.argv?

/-- A library stays with its script, and is passed some arguments. -/
abbrev Machine.Passes (script : Script) (before after : Machine) (argvs : List (List String)) :
    Prop :=
  EpsBridge.Passes (fun machine => machine.script = script) passed before after argvs

/-- No call on handlers fails. -/
def Script.AttachesHandlers (script : Script) : Prop :=
  ∀ code ∈ script.handlerCodes, 0 ≤ code

section

variable {script : Script} {machine : Machine} (hscript : machine.script = script)

include hscript

theorem Machine.passes_record (call : Call) :
    Passes script machine (machine.record call) call.argv?.toList where
  holds := hscript
  passed := by cases call <;> rfl

theorem setHandlers_spec (hattaches : script.AttachesHandlers) (handle : Handle) (attach : Bool) :
    ∃ code after, setHandlers handle attach machine = (code, after) ∧ ¬ code < 0 ∧
      after.attached = attach ∧ machine.Passes script after [] := by
  have hcode : 0 ≤ (machine.script.handlerCodes[machine.handlerCalls]?).getD 0 := by
    cases hcall : machine.script.handlerCodes[machine.handlerCalls]? with
    | none => decide
    | some code => exact hattaches code (hscript ▸ List.mem_of_getElem? hcall)
  refine ⟨_, _, rfl, Int32.not_lt.mpr hcode, if_neg (Int32.not_lt.mpr hcode), hscript, ?_⟩
  cases attach <;> rfl

theorem callHandlers_spec (hattached : machine.attached = true) (writes : List Write)
    (capture : Capture) :
    ∃ after, callHandlers writes capture machine =
        (Fixture.writeAll capture (writes.flatMap Write.pieces), after) ∧
      machine.Passes script after [] := by
  induction writes generalizing capture machine with
  | nil => exact ⟨machine, rfl, hscript, rfl⟩
  | cons write writes ih =>
      have hhandler : callHandler capture machine write =
          (Fixture.writeAll capture write.pieces,
            machine.record (.callback write.stream write.result)) := by
        rw [callHandler, if_pos hattached, write.foldl_deliver]
        rfl
      have hrecord := machine.passes_record hscript (.callback write.stream write.result)
      obtain ⟨after, hafter, hpasses⟩ :=
        ih hrecord.holds hattached (Fixture.writeAll capture write.pieces)
      refine ⟨after, ?_, hrecord.trans hpasses⟩
      -- the fold goes on from the first handler's capture, on a machine still attached
      change callHandlers writes (callHandler capture machine write).1
        (callHandler capture machine write).2 = _
      rw [hhandler, hafter, List.flatMap_cons, Capture.writeAll_append]

theorem run_spec (hattached : machine.attached = true) (workspace : Workspace)
    (handle : Handle) (argv : List String) (capture : Capture) :
    ∃ after, run handle argv capture ⟨machine, workspace⟩ =
        ((script.runCode, Fixture.writeAll capture (script.runWrites.flatMap Write.pieces)),
          after) ∧
      machine.Passes script after.machine [argv] := by
  subst hscript
  have hrecord := machine.passes_record rfl (.run handle argv)
  obtain ⟨after, hafter, hpasses⟩ :=
    callHandlers_spec hrecord.holds hattached machine.script.runWrites capture
  refine ⟨⟨after, writeOutput machine.script argv workspace⟩, ?_, hrecord.trans hpasses⟩
  rw [run, hafter]

theorem exit_spec (hattached : machine.attached = true) (handle : Handle) (capture : Capture) :
    ∃ after, exit handle capture machine =
        ((script.exitCode, Fixture.writeAll capture (script.exitWrites.flatMap Write.pieces)),
          after) ∧
      machine.Passes script after [] := by
  have hrecord := machine.passes_record hscript (.exit handle)
  obtain ⟨after, hafter, hpasses⟩ :=
    callHandlers_spec hrecord.holds hattached script.exitWrites capture
  refine ⟨after, ?_, hrecord.trans hpasses⟩
  unfold exit
  dsimp only
  rw [hscript, hafter]
  dsimp only
  rw [hpasses.holds]

/-! ## The calls of the engine behind a library -/

/-- The error with which no instance is made.  That it is missing is one as well. -/
def Script.creationError? (script : Script) : Option Int32 :=
  if script.creationCode < 0 then some script.creationCode
  else if script.missingInstance then some (-1)
  else none

/-- The error with which an instance is not configured. -/
def Script.setupError? (script : Script) : Option Int32 :=
  if script.encodingCode < 0 then some script.encodingCode else none

theorem passes_newInstance : machine.Passes script (newInstance machine).2 [] where
  holds := hscript
  passed := rfl

/-- The library gives an instance exactly where there is no error of making one. -/
theorem newInstance_given :
    (newInstance machine).1.2 =
      script.creationError?.elim (some (machine.instances + 1)) fun _ => none := by
  subst hscript
  unfold newInstance Script.creationError?
  by_cases hcode : machine.script.creationCode < 0
  · simp [hcode]
  · by_cases hmissing : machine.script.missingInstance = true <;> simp [hcode, hmissing]

theorem create_eq (workspace : Workspace) :
    library.create ⟨machine, workspace⟩ =
      (script.creationError?.elim (.ok (machine.instances + 1)) .error,
        ⟨(newInstance machine).2, workspace⟩) := by
  subst hscript
  unfold Library.create Script.creationError?
  dsimp only [library, newInstance]
  by_cases hcode : machine.script.creationCode < 0
  · rw [if_pos hcode, if_pos hcode]
    rfl
  · rw [if_neg hcode, if_neg hcode]
    by_cases hmissing : machine.script.missingInstance = true
    · rw [if_pos (by simp [hmissing]), if_pos hmissing]
      rfl
    · rw [if_neg (by simp [hmissing, hcode]), if_neg hmissing]
      rfl

theorem start_of_setupError {code : Int32} (hcode : script.setupError? = some code)
    (workspace : Workspace) (handle : Handle) (argv : List String) (capture : Capture) :
    ∃ after, library.start handle argv capture ⟨machine, workspace⟩ =
        ((.error (.instanceSetup Fixture.setupCall code), capture), after) ∧
      machine.Passes script after.machine [] := by
  subst hscript
  unfold Script.setupError? at hcode
  split at hcode
  · next hfailure =>
      obtain rfl := Option.some.inj hcode
      refine ⟨⟨machine.record (.setArgumentEncoding handle Library.utf8Encoding), workspace⟩, ?_,
        machine.passes_record rfl _⟩
      unfold Library.start
      dsimp only [library]
      rw [if_pos hfailure]
      rfl
  · cases hcode

theorem start_of_configured (hattaches : script.AttachesHandlers)
    (hnone : script.setupError? = none) (workspace : Workspace) (handle : Handle)
    (argv : List String) (capture : Capture) :
    ∃ after, library.start handle argv capture ⟨machine, workspace⟩ =
        ((.ok script.runCode,
          Fixture.writeAll capture (script.runWrites.flatMap Write.pieces)), after) ∧
      machine.Passes script after.machine [argv] := by
  have hencoding : ¬ machine.script.encodingCode < 0 := by
    unfold Script.setupError? at hnone
    rw [hscript]
    intro hfailure
    rw [if_pos hfailure] at hnone
    cases hnone
  have hdeclared :=
    machine.passes_record hscript (.setArgumentEncoding handle Library.utf8Encoding)
  -- attaching and detaching have a code each, and only the first is looked at
  obtain ⟨code, attached, hattach, hcode, hattached, hready⟩ :=
    setHandlers_spec hdeclared.holds hattaches handle true
  obtain ⟨ran, hrun, hran⟩ := run_spec hready.holds hattached workspace handle argv capture
  obtain ⟨_, detached, hdetach, -, -, hdetached⟩ :=
    setHandlers_spec hran.holds hattaches handle false
  refine ⟨⟨detached, ran.workspace⟩, ?_,
    ((hdeclared.trans hready).trans hran).trans hdetached⟩
  unfold Library.start
  dsimp only [library]
  rw [if_neg hencoding, hattach]
  dsimp only
  rw [if_neg hcode, hrun]
  dsimp only
  rw [hdetach]

theorem stop_spec (hattaches : script.AttachesHandlers) (workspace : Workspace)
    (handle : Handle) (capture : Capture) :
    ∃ after, library.stop handle capture ⟨machine, workspace⟩ =
        ((.ok script.exitCode,
          Fixture.writeAll capture (script.exitWrites.flatMap Write.pieces)), after) ∧
      machine.Passes script after.machine [] := by
  obtain ⟨code, attached, hattach, hcode, hattached, hready⟩ :=
    setHandlers_spec hscript hattaches handle true
  obtain ⟨ended, hexit, hended⟩ := exit_spec hready.holds hattached handle capture
  obtain ⟨_, detached, hdetach, -, -, hdetached⟩ :=
    setHandlers_spec hended.holds hattaches handle false
  refine ⟨⟨detached, workspace⟩, ?_, (hready.trans hended).trans hdetached⟩
  unfold Library.stop
  dsimp only [library]
  rw [hattach]
  dsimp only
  rw [if_neg hcode, hexit]
  dsimp only
  rw [hdetach]

end

/-- The scenario of a library. -/
def Script.scenario (script : Script) : Scenario where
  creationError := script.creationError?
  setupError := script.setupError?
  startStatus := script.runCode
  stopStatus := script.exitCode
  startWrites := script.runWrites.flatMap Write.pieces
  stopWrites := script.exitWrites.flatMap Write.pieces

end ScriptedLibrary

/-- A host whose library has come to another state. -/
def Host.withLibrary (host : Host) (part : ScriptedLibrary.State) : Host :=
  { host with machine := part.machine, workspace := part.workspace }

open ScriptedLibrary in
theorem plays_library {script : ScriptedLibrary.Script} (hattaches : script.AttachesHandlers)
    (thread : Nat) (path : Path) :
    Plays (Host.handle thread) (.library path) (fun host => host.machine.script = script)
      (fun host => host.machine.passed) script.scenario where
  create host hscript := by
    have hpasses := passes_newInstance hscript
    refine ⟨host.machine.instances + 1,
      host.withLibrary ⟨(newInstance host.machine).2, host.workspace⟩, ?_, hpasses.holds,
      hpasses.passed⟩
    simp only [Host.handle, Host.engineOf, Host.libraryEngine, Engine.onPart, Library.engine,
      create_eq hscript]
    rfl
  startFails host handle argv capture code hscript hcode := by
    obtain ⟨after, hstart, hpasses⟩ :=
      start_of_setupError hscript hcode host.workspace handle argv capture
    refine ⟨host.withLibrary after, ?_, hpasses.holds, hpasses.passed⟩
    simp only [Host.handle, Host.engineOf, Host.libraryEngine, Engine.onPart, Library.engine,
      hstart]
    rfl
  start host handle argv capture hscript hnone := by
    obtain ⟨after, hstart, hpasses⟩ :=
      start_of_configured hscript hattaches hnone host.workspace handle argv capture
    refine ⟨host.withLibrary after, ?_, hpasses.holds, hpasses.passed⟩
    simp only [Host.handle, Host.engineOf, Host.libraryEngine, Engine.onPart, Library.engine,
      hstart]
    rfl
  stop host handle capture hscript := by
    obtain ⟨after, hstop, hpasses⟩ := stop_spec hscript hattaches host.workspace handle capture
    refine ⟨host.withLibrary after, ?_, hpasses.holds, hpasses.passed⟩
    simp only [Host.handle, Host.engineOf, Host.libraryEngine, Engine.onPart, Library.engine,
      hstop]
    rfl
  discard host handle hscript := by
    have hpasses := host.machine.passes_record hscript (.deleteInstance handle)
    exact ⟨_, rfl, hpasses.holds, hpasses.passed⟩
  lock _ hscript := ⟨hscript, rfl⟩
  unlock _ hscript := ⟨hscript, rfl⟩

/-! ## The calls of a scripted engine -/

/-- The scenario of a scripted engine. -/
def Fixture.Script.scenario (script : Fixture.Script) : Scenario where
  creationError := script.creationError
  setupError := script.setupError
  startStatus := script.startStatus
  stopStatus := script.stopStatus
  startWrites := (.output, script.output.toUTF8) :: (.diagnostics, script.diagnostics.toUTF8) ::
    script.startWrites
  stopWrites := script.stopWrites

/-- A host whose scripted engine has come to another state. -/
def Host.withFixture (host : Host) (index : Nat) (part : Fixture.State) : Host :=
  { host with logs := host.logs.set index part.log, workspace := part.workspace }

theorem passes_withFixture {host : Host} {index : Nat} (hindex : index < host.logs.length)
    {part : Fixture.State} {argvs : List (List String)}
    (hargvs : part.log.argvs = argvs ++ (host.logAt index).argvs) :
    Passes (fun host => index < host.logs.length) (fun host => (host.logAt index).argvs) host
      (host.withFixture index part) argvs where
  holds := by simpa [Host.withFixture] using hindex
  passed := by simpa [Host.withFixture, Host.logAt, hindex] using hargvs

theorem plays_fixture {script : Fixture.Script} (hpanics : script.panicsAt = none)
    (hfile : script.outputFile = none) (hremoves : script.removesOutputs = false)
    (thread index : Nat) :
    Plays (Host.handle thread) (.fixture index script) (fun host => index < host.logs.length)
      (fun host => (host.logAt index).argvs) script.scenario where
  create host hindex := by
    refine ⟨(host.logAt index).created + 1, host.withFixture index ⟨{ host.logAt index with
      created := (host.logAt index).created + 1 }, host.workspace⟩, ?_,
      passes_withFixture hindex rfl⟩
    simp only [Host.handle, Host.engineOf, Host.fixtureEngine, Engine.onPart, Fixture.engine,
      Fixture.create, hpanics, Fixture.Script.scenario]
    cases script.creationError <;> rfl
  startFails host handle argv capture code hindex hcode := by
    refine ⟨host.withFixture index ⟨{ host.logAt index with
      started := (host.logAt index).started + 1 }, host.workspace⟩, ?_,
      passes_withFixture hindex rfl⟩
    have hcode : script.setupError = some code := hcode
    simp only [Host.handle, Host.engineOf, Host.fixtureEngine, Engine.onPart, Fixture.engine,
      Fixture.start, hcode]
    rfl
  start host handle argv capture hindex hnone := by
    refine ⟨host.withFixture index ⟨{ host.logAt index with
      started := (host.logAt index).started + 1, argvs := argv :: (host.logAt index).argvs },
      host.workspace⟩, ?_, passes_withFixture hindex rfl⟩
    have hnone : script.setupError = none := hnone
    simp only [Host.handle, Host.engineOf, Host.fixtureEngine, Engine.onPart, Fixture.engine,
      Fixture.start, Fixture.writeOutput, hnone, hfile, hpanics, hremoves]
    rfl
  stop host handle capture hindex := by
    refine ⟨host.withFixture index ⟨{ host.logAt index with
      stopped := (host.logAt index).stopped + 1 }, host.workspace⟩, ?_,
      passes_withFixture hindex rfl⟩
    simp only [Host.handle, Host.engineOf, Host.fixtureEngine, Engine.onPart, Fixture.engine,
      Fixture.stop, hpanics]
    rfl
  discard _ _ hindex := ⟨_, rfl, passes_withFixture hindex rfl⟩
  lock _ hindex := ⟨hindex, rfl⟩
  unlock _ hindex := ⟨hindex, rfl⟩

/-! ## The mirror -/

/-- The scripted engine that stands in for a library which writes the texts. -/
def ScriptedLibrary.Script.mirror (script : ScriptedLibrary.Script)
    (output diagnostics : String) : Fixture.Script :=
  { Fixture.Script.default with
    creationError := script.creationError?
    setupError := script.setupError?
    startStatus := script.runCode
    stopStatus := script.exitCode
    output, diagnostics }

/-- What a library writes to a channel, in both phases. -/
def ScriptedLibrary.Script.written (script : ScriptedLibrary.Script) (channel : Channel) :
    List UInt8 :=
  writtenTo channel ((script.runWrites ++ script.exitWrites).flatMap Write.pieces)

theorem writtenTo_mirror (script : ScriptedLibrary.Script) (output diagnostics : String) :
    let scenario := (script.mirror output diagnostics).scenario
    let writes := scenario.startWrites ++ scenario.stopWrites
    writtenTo .output writes = Utf8.encode output ∧
      writtenTo .diagnostics writes = Utf8.encode diagnostics := by
  constructor <;>
    simp [ScriptedLibrary.Script.mirror, Fixture.Script.scenario, Fixture.Script.default,
      writtenTo, Utf8.encode]

theorem alike_mirror {script : ScriptedLibrary.Script} {output diagnostics : String}
    (houtput : Utf8.encode output = script.written .output)
    (hdiagnostics : Utf8.encode diagnostics = script.written .diagnostics) :
    script.scenario.Alike (script.mirror output diagnostics).scenario where
  creationError := rfl
  setupError := rfl
  startStatus := rfl
  stopStatus := rfl
  written channel := by
    obtain ⟨hmirrorOutput, hmirrorDiagnostics⟩ := writtenTo_mirror script output diagnostics
    have hphases : script.scenario.startWrites ++ script.scenario.stopWrites =
        (script.runWrites ++ script.exitWrites).flatMap ScriptedLibrary.Write.pieces :=
      List.flatMap_append.symm
    rw [hphases]
    cases channel with
    | output => exact houtput.symm.trans hmirrorOutput.symm
    | diagnostics => exact hdiagnostics.symm.trans hmirrorDiagnostics.symm

/-- **A library and its mirror.**  Where no call on handlers fails and what a library writes
is UTF-8, a run of the library and one of the scripted engine that stands in for it come to
the same, and the same arguments reach them. -/
theorem invoke_eq_of_mirror (host : Host) (thread : Nat) (path : Path)
    (hattaches : ∀ code ∈ host.machine.script.handlerCodes, 0 ≤ code) (output diagnostics : String)
    (houtput : Utf8.encode output = host.machine.script.written .output)
    (hdiagnostics : Utf8.encode diagnostics = host.machine.script.written .diagnostics)
    (arguments : Arguments) :
    let double := host.addFixture (host.machine.script.mirror output diagnostics)
    let ran := (invoke (.library path) arguments).run (Host.handle thread) host
    let ranDouble := (invoke double.1 arguments).run (Host.handle thread) double.2
    ran.1 = ranDouble.1 ∧
      ran.2.machine.passed =
        (ranDouble.2.logAt host.logs.length).argvs ++ host.machine.passed := by
  intro double ran ranDouble
  have hlog : (double.2.logAt host.logs.length).argvs = [] := by
    simp [double, Host.addFixture, Host.logAt, Fixture.Log.empty]
  cases hargv : arguments.argv with
  | error error =>
      have hran : ran = (.error error, host) := (invoke_of_argv_eq_error _ _ hargv host).2
      have hranDouble : ranDouble = (.error error, double.2) :=
        (invoke_of_argv_eq_error _ _ hargv double.2).2
      rw [hran, hranDouble, hlog]
      exact ⟨rfl, rfl⟩
  | ok argv =>
      have halike := alike_mirror houtput hdiagnostics
      have hindex : host.logs.length < double.2.logs.length := by
        simp [double, Host.addFixture]
      have hdouble : Plays (Host.handle thread) double.1 _ _
          (host.machine.script.mirror output diagnostics).scenario :=
        plays_fixture rfl rfl rfl thread host.logs.length
      obtain ⟨houtcome, hran⟩ := (plays_library hattaches thread path).invoke hargv rfl
      obtain ⟨houtcomeDouble, hranDouble⟩ := hdouble.invoke hargv hindex
      have hreached := hranDouble.passed
      rw [hlog, List.append_nil, ← halike.reached_eq] at hreached
      constructor
      · exact houtcome.trans (halike.outcome_eq.trans houtcomeDouble.symm)
      · exact hran.passed.trans (congrArg (· ++ _) hreached.symm)

/-- A library that writes a character in two phases, and fails as it exits. -/
def ScriptedLibrary.Script.failing : ScriptedLibrary.Script :=
  { Script.default with
    handlerCodes := [1, 0, 2]
    encodingCode := 3
    runCode := -101
    exitCode := -100
    runWrites := [⟨.diagnostics, some ⟨#[0xC3]⟩, 1, 1⟩]
    exitWrites := [⟨.input, some ⟨#[0x3F]⟩, 1, 1⟩, ⟨.diagnostics, some ⟨#[0xA9]⟩, 1, 1⟩] }

theorem invoke_eq_of_mirror_failing :
    let host := Host.start default [] .failing
    let path := Path.ofString "libgs.so"
    let double := host.addFixture (host.machine.script.mirror "" "é")
    let ran := (invoke (.library path) ⟨["a"]⟩).run (Host.handle Host.firstThread) host
    let ranDouble := (invoke double.1 ⟨["a"]⟩).run (Host.handle Host.firstThread) double.2
    (∀ code ∈ host.machine.script.handlerCodes, 0 ≤ code) ∧
      (ran.1 = ranDouble.1 ∧
        ran.2.machine.passed =
          (ranDouble.2.logAt host.logs.length).argvs ++ host.machine.passed) ∧
      ran.1 = .error (.execution (-100) "é") ∧ ran.2.machine.passed = [["gs", "a"]] := by
  intro host path double ran ranDouble
  have hattaches : ∀ code ∈ host.machine.script.handlerCodes, 0 ≤ code := by
    simp only [host, Host.start, ScriptedLibrary.Machine.start, ScriptedLibrary.Script.failing,
      List.mem_cons, List.not_mem_nil, or_false, forall_eq_or_imp, forall_eq]
    decide
  exact ⟨hattaches, invoke_eq_of_mirror host Host.firstThread path hattaches "" "é"
    (by decide +kernel) (by decide +kernel) ⟨["a"]⟩, rfl, rfl⟩

end EpsBridge
