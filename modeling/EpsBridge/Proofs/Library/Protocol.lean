import EpsBridge.Proofs.Library.Mirror
import Mathlib.Data.List.Basic

/-!
# The protocol of a library

What a library is asked for in a run follows from the codes it gives, and from nothing else:
`Session` lists the ways that a run can go, and `session_createAndRun` says that there are no
others.  What the library calls in turn, the handlers, stands between the requests.

Two things are read off a session.  The requests come in the order that the interface asks for,
all on the instance that was made (`calls_invoke`).  And handlers outlive the call that attached
them exactly where the library refuses to detach them (`letsGo_invoke_iff`).
-/

namespace EpsBridge

open Program

namespace ScriptedLibrary

/-! ## Calls of a library -/

/-- The code of a call on the handlers of an instance, by its position among them. -/
def Script.handlerCode (script : Script) (position : Nat) : Int32 :=
  (script.handlerCodes[position]?).getD 0

/-- What is recorded when a library calls a handler. -/
def Write.heard (attached : Bool) (write : Write) : Call :=
  if attached then .callback write.stream write.result else .noCallback write.stream

/-- A library that follows a script and whose current instance has had a number of calls on
handlers, of which it has some or none. -/
structure Machine.Stands (machine : Machine) (script : Script) (handlerCalls : Nat)
    (attached : Bool) : Prop where
  script : machine.script = script
  handlerCalls : machine.handlerCalls = handlerCalls
  attached : machine.attached = attached

/-- On the way from one state to another, a library saw some calls. -/
def Machine.Sees (before after : Machine) (calls : List Call) : Prop :=
  after.calls = calls.reverse ++ before.calls

theorem Machine.Sees.trans {before between after : Machine} {calls more : List Call}
    (hbefore : before.Sees between calls) (hafter : between.Sees after more) :
    before.Sees after (calls ++ more) := by
  rw [Machine.Sees, hafter, hbefore, List.reverse_append, List.append_assoc]

section

variable {script : Script} {position : Nat} {held : Bool} {machine : Machine}

theorem stands_newInstance (hscript : machine.script = script) :
    (newInstance machine).2.Stands script 0 false ∧
      machine.Sees (newInstance machine).2 [.newInstance (newInstance machine).1.2] :=
  ⟨⟨hscript, rfl, rfl⟩, rfl⟩

variable (hstands : machine.Stands script position held)

include hstands

theorem stands_record (call : Call) :
    (machine.record call).Stands script position held ∧ machine.Sees (machine.record call) [call] :=
  ⟨⟨hstands.script, hstands.handlerCalls, hstands.attached⟩, rfl⟩

theorem stands_setHandlers (handle : Handle) (attach : Bool) :
    ∃ after, setHandlers handle attach machine = (script.handlerCode position, after) ∧
      after.Stands script (position + 1)
        (if script.handlerCode position < 0 then held else attach) ∧
      machine.Sees after [if attach then .attachHandlers handle else .detachHandlers handle] := by
  obtain ⟨rfl, rfl, rfl⟩ := hstands
  exact ⟨_, rfl, ⟨rfl, rfl, rfl⟩, rfl⟩

theorem stands_callHandlers (writes : List Write) (capture : Capture) :
    ∃ late after, callHandlers writes capture machine = (late, after) ∧
      after.Stands script position held ∧ machine.Sees after (writes.map (Write.heard held)) := by
  induction writes generalizing capture machine with
  | nil => exact ⟨capture, machine, rfl, hstands, rfl⟩
  | cons write writes ih =>
      have hfirst : (callHandler capture machine write).2 = machine.record (write.heard held) := by
        rw [← hstands.attached]
        unfold callHandler Write.heard
        split <;> rfl
      obtain ⟨hrecord, hsees⟩ := stands_record hstands (write.heard held)
      rw [← hfirst] at hrecord hsees
      obtain ⟨late, after, hafter, hlater, hmore⟩ := ih hrecord _
      exact ⟨late, after, hafter, hlater, hsees.trans hmore⟩

theorem stands_run (workspace : Workspace) (handle : Handle) (argv : List String)
    (capture : Capture) :
    ∃ late after, run handle argv capture ⟨machine, workspace⟩ =
        ((script.runCode, late), after) ∧
      after.machine.Stands script position held ∧
      machine.Sees after.machine
        (.run handle argv :: script.runWrites.map (Write.heard held)) := by
  obtain ⟨hrecord, hsees⟩ := stands_record hstands (.run handle argv)
  obtain ⟨late, after, hafter, hlater, hmore⟩ :=
    stands_callHandlers hrecord script.runWrites capture
  refine ⟨late, ⟨after, writeOutput script argv workspace⟩, ?_, hlater, hsees.trans hmore⟩
  unfold run
  dsimp only
  rw [hstands.script, hafter]

theorem stands_exit (handle : Handle) (capture : Capture) :
    ∃ late after, exit handle capture machine = ((script.exitCode, late), after) ∧
      after.Stands script position held ∧
      machine.Sees after (.exit handle :: script.exitWrites.map (Write.heard held)) := by
  obtain ⟨hrecord, hsees⟩ := stands_record hstands (.exit handle)
  obtain ⟨late, after, hafter, hlater, hmore⟩ :=
    stands_callHandlers hrecord script.exitWrites capture
  refine ⟨late, after, ?_, hlater, hsees.trans hmore⟩
  unfold exit
  dsimp only
  rw [hstands.script, hafter]
  dsimp only
  rw [hlater.script]

end

/-! ## Making, starting and stopping an instance -/

theorem stands_create {script : Script} {machine : Machine} (hscript : machine.script = script)
    (workspace : Workspace) :
    ∃ handle after, library.create ⟨machine, workspace⟩ =
        (script.creationError?.elim (.ok handle) .error, after) ∧
      after.machine.Stands script 0 false ∧
      machine.Sees after.machine
        [.newInstance (script.creationError?.elim (some handle) fun _ => none)] := by
  refine ⟨_, _, create_eq hscript workspace, ?_⟩
  rw [← newInstance_given hscript]
  exact stands_newInstance hscript

/-- The answer of an instance that is started, what the library sees meanwhile, the number of
calls on handlers among it, and whether the instance keeps its handlers. -/
inductive Script.Starts (script : Script) (handle : Handle) (argv : List String) :
    Outcome Error Int32 → List Call → Nat → Bool → Prop
  | notDeclared (hencoding : script.encodingCode < 0) :
      Starts script handle argv
        (.error (.instanceSetup "gsapi_set_arg_encoding" script.encodingCode))
        [.setArgumentEncoding handle 1] 0 false
  | notAttached (hencoding : ¬ script.encodingCode < 0) (hattach : script.handlerCode 0 < 0) :
      Starts script handle argv
        (.error (.instanceSetup "gsapi_set_stdio_with_handle" (script.handlerCode 0)))
        [.setArgumentEncoding handle 1, .attachHandlers handle] 1 false
  | ran (hencoding : ¬ script.encodingCode < 0) (hattach : ¬ script.handlerCode 0 < 0) :
      Starts script handle argv (.ok script.runCode)
        ([.setArgumentEncoding handle 1, .attachHandlers handle] ++
          .run handle argv :: script.runWrites.map (Write.heard true) ++ [.detachHandlers handle])
        2 (decide (script.handlerCode 1 < 0))

theorem starts_start {script : Script} {machine : Machine}
    (hstands : machine.Stands script 0 false) (workspace : Workspace) (handle : Handle)
    (argv : List String) (capture : Capture) :
    ∃ outcome late after calls position held,
      library.start handle argv capture ⟨machine, workspace⟩ = ((outcome, late), after) ∧
        script.Starts handle argv outcome calls position held ∧
        after.machine.Stands script position held ∧ machine.Sees after.machine calls := by
  obtain ⟨hdeclared, hsees⟩ := stands_record hstands (.setArgumentEncoding handle 1)
  obtain ⟨attached, hattach, hattached, hmore⟩ := stands_setHandlers hdeclared handle true
  unfold Library.start
  dsimp only [library, Library.utf8Encoding]
  rw [hstands.script]
  by_cases hencoding : script.encodingCode < 0
  · rw [if_pos hencoding]
    exact ⟨_, _, _, _, _, _, rfl, .notDeclared hencoding, hdeclared, hsees⟩
  · rw [if_neg hencoding, hattach]
    dsimp only
    by_cases hrefused : script.handlerCode 0 < 0
    · rw [if_pos hrefused] at hattached ⊢
      exact ⟨_, _, _, _, _, _, rfl, .notAttached hencoding hrefused, hattached,
        hsees.trans hmore⟩
    · rw [if_neg hrefused] at hattached ⊢
      obtain ⟨late, ran, hrun, hran, hheard⟩ :=
        stands_run hattached workspace handle argv capture
      obtain ⟨detached, hdetach, hdetached, hlast⟩ := stands_setHandlers hran handle false
      rw [hrun]
      dsimp only
      rw [hdetach]
      refine ⟨_, _, _, _, _, _, rfl, .ran hencoding hrefused, ?_,
        ((hsees.trans hmore).trans hheard).trans hlast⟩
      simpa using hdetached

/-- What a library sees while an instance is stopped. -/
def Script.stopCalls (script : Script) (handle : Handle) (held : Bool) : List Call :=
  .attachHandlers handle ::
    if script.handlerCode 2 < 0 then .exit handle :: script.exitWrites.map (Write.heard held)
    else .exit handle :: script.exitWrites.map (Write.heard true) ++ [.detachHandlers handle]

theorem stands_stop {script : Script} {machine : Machine} {held : Bool}
    (hstands : machine.Stands script 2 held) (workspace : Workspace) (handle : Handle)
    (capture : Capture) :
    ∃ late after position,
      library.stop handle capture ⟨machine, workspace⟩ = ((.ok script.exitCode, late), after) ∧
        after.machine.Stands script position
          (if script.handlerCode 2 < 0 then held else decide (script.handlerCode 3 < 0)) ∧
        machine.Sees after.machine (script.stopCalls handle held) := by
  obtain ⟨attached, hattach, hattached, hsees⟩ := stands_setHandlers hstands handle true
  unfold Library.stop Script.stopCalls
  dsimp only [library]
  rw [hattach]
  dsimp only
  by_cases hrefused : script.handlerCode 2 < 0
  · rw [if_pos hrefused] at hattached
    obtain ⟨late, ended, hexit, hended, hheard⟩ := stands_exit hattached handle capture
    rw [hexit, if_pos hrefused, if_pos hrefused, if_pos hrefused]
    exact ⟨_, _, _, rfl, hended, hsees.trans hheard⟩
  · rw [if_neg hrefused] at hattached
    obtain ⟨late, ended, hexit, hended, hheard⟩ := stands_exit hattached handle capture
    obtain ⟨detached, hdetach, hdetached, hlast⟩ := stands_setHandlers hended handle false
    rw [hexit, if_neg hrefused, if_neg hrefused, if_neg hrefused]
    dsimp only
    rw [hdetach]
    refine ⟨_, _, 4, rfl, ?_, (hsees.trans hheard).trans hlast⟩
    simpa using hdetached

/-! ## Sessions -/

/-- What a library sees of a run, in which it may give an instance. -/
inductive Script.Session (script : Script) (handle : Handle) (argv : List String) :
    List Call → Prop
  | notCreated (hgiven : script.creationError? ≠ none) :
      Session script handle argv [.newInstance none]
  | notStarted {error : Error} {calls : List Call} {position : Nat} {held : Bool}
      (hgiven : script.creationError? = none)
      (hstarts : script.Starts handle argv (.error error) calls position held) :
      Session script handle argv
        (.newInstance (some handle) :: calls ++ [.deleteInstance handle])
  | ended {status : Int32} {calls : List Call} {position : Nat} {held : Bool}
      (hgiven : script.creationError? = none)
      (hstarts : script.Starts handle argv (.ok status) calls position held) :
      Session script handle argv
        (.newInstance (some handle) :: calls ++ script.stopCalls handle held ++
          [.deleteInstance handle])

end ScriptedLibrary

open ScriptedLibrary

/-- Whether an exchange lends a capture to an engine. -/
def Program.Exchange.lends {ε : Type} : Exchange ε → Bool
  | ⟨.start _ _ _ _, _⟩ | ⟨.stop _ _ _, _⟩ => true
  | _ => false

/-- Whenever a call has returned that lent a capture to the engine, the library has no handlers
left. -/
def LetsGo (history : List (Exchange EngineRef × Host)) : Prop :=
  ∀ entry ∈ history, entry.1.lends = true → entry.2.machine.attached = false

/-- A library that detaches handlers whenever it attached them in a run. -/
def ScriptedLibrary.Script.Releases (script : ScriptedLibrary.Script) : Prop :=
  script.creationError? = none → 0 ≤ script.encodingCode → 0 ≤ script.handlerCode 0 →
    0 ≤ script.handlerCode 1 ∧ (0 ≤ script.handlerCode 2 → 0 ≤ script.handlerCode 3)

namespace ScriptedLibrary.Script.Starts

variable {script : ScriptedLibrary.Script} {handle : Handle} {argv : List String}
  {calls : List Call} {position : Nat} {held : Bool}

/-- An instance that is given up has no handlers that it could keep. -/
theorem releases_of_error {error : Error}
    (hstarts : script.Starts handle argv (.error error) calls position held) :
    held = false ∧ script.Releases := by
  cases hstarts with
  | notDeclared hencoding =>
      exact ⟨rfl, fun _ hdeclared => absurd hencoding (Int32.not_lt.mpr hdeclared)⟩
  | notAttached hencoding hattach =>
      exact ⟨rfl, fun _ _ hattached => absurd hattach (Int32.not_lt.mpr hattached)⟩

theorem position_of_ok {status : Int32}
    (hstarts : script.Starts handle argv (.ok status) calls position held) : position = 2 := by
  cases hstarts with
  | ran hencoding hattach => rfl

/-- Where an instance ran, two refusals to detach count. -/
theorem releases_iff_of_ok {status : Int32} (hgiven : script.creationError? = none)
    (hstarts : script.Starts handle argv (.ok status) calls position held) :
    held = false ∧
        (if script.handlerCode 2 < 0 then held else decide (script.handlerCode 3 < 0)) = false ↔
      script.Releases := by
  cases hstarts with
  | ran hencoding hattach =>
      have hready : script.Releases ↔ ¬ script.handlerCode 1 < 0 ∧
          (¬ script.handlerCode 2 < 0 → ¬ script.handlerCode 3 < 0) := by
        simp only [Script.Releases, hgiven, ← Int32.not_lt, hencoding, hattach, not_false_eq_true,
          true_imp_iff]
      rw [hready]
      by_cases hdetach : script.handlerCode 1 < 0
      · simp [hdetach]
      · by_cases hattachAgain : script.handlerCode 2 < 0
        · simp [hdetach, hattachAgain]
        · simp [hdetach, hattachAgain]

end ScriptedLibrary.Script.Starts

section

variable (host : Host) (thread : Nat) (path : Path) {after : ScriptedLibrary.State}

theorem handle_create_library {answer : Outcome Int32 Handle}
    (hcreate : library.create ⟨host.machine, host.workspace⟩ = (answer, after)) :
    Host.handle thread (.create (.library path)) host = (answer, host.withLibrary after) := by
  simp only [Host.handle, Host.engineOf, Host.libraryEngine, Engine.onPart, Library.engine, hcreate]
  rfl

theorem handle_start_library {handle : Handle} {argv : List String} {capture : Capture}
    {answer : Outcome Error Int32 × Capture}
    (hstart : library.start handle argv capture ⟨host.machine, host.workspace⟩ = (answer, after)) :
    Host.handle thread (.start (.library path) handle argv capture) host =
      (answer, host.withLibrary after) := by
  simp only [Host.handle, Host.engineOf, Host.libraryEngine, Engine.onPart, Library.engine, hstart]
  rfl

theorem handle_stop_library {handle : Handle} {capture : Capture}
    {answer : Outcome Empty Int32 × Capture}
    (hstop : library.stop handle capture ⟨host.machine, host.workspace⟩ = (answer, after)) :
    Host.handle thread (.stop (.library path) handle capture) host =
      (answer, host.withLibrary after) := by
  simp only [Host.handle, Host.engineOf, Host.libraryEngine, Engine.onPart, Library.engine, hstop]
  rfl

end

theorem letsGo_cons {entry : Exchange EngineRef × Host}
    {history : List (Exchange EngineRef × Host)} :
    LetsGo (entry :: history) ↔
      (entry.1.lends = true → entry.2.machine.attached = false) ∧ LetsGo history :=
  List.forall_mem_cons

/-- Where no capture is lent, there is none to let go of. -/
theorem letsGo_cons_of_not_lends {entry : Exchange EngineRef × Host}
    {history : List (Exchange EngineRef × Host)} (hkeeps : entry.1.lends = false) :
    LetsGo (entry :: history) ↔ LetsGo history := by
  simp [letsGo_cons, hkeeps]

theorem letsGo_append {history more : List (Exchange EngineRef × Host)} :
    LetsGo (history ++ more) ↔ LetsGo history ∧ LetsGo more :=
  List.forall_mem_append

theorem letsGo_nil : LetsGo [] := List.forall_mem_nil _

/-- A run goes one of the ways of a session, and lets go of its captures where the library
releases its handlers. -/
theorem session_createAndRun (host : Host) (thread : Nat) (path : Path) (argv : List String) :
    ∃ handle calls, host.machine.script.Session handle argv calls ∧
      host.machine.Sees
        ((createAndRun (.library path) argv).run (Host.handle thread) host).2.machine calls ∧
      (LetsGo ((createAndRun (.library path) argv).history (Host.handle thread) host) ↔
        host.machine.script.Releases) := by
  obtain ⟨handle, created, hcreate, hcreated, hnew⟩ := stands_create rfl host.workspace
  have hcreate := handle_create_library host thread path hcreate
  simp only [createAndRun, perform, run_bind, history_bind, run_act, history_act, run_done,
    history_done, hcreate]
  cases hgiven : host.machine.script.creationError? with
  | some code =>
      rw [hgiven] at hnew
      refine ⟨handle, _, .notCreated (by rw [hgiven]; exact Option.some_ne_none code), hnew, ?_⟩
      refine iff_of_true ((letsGo_cons_of_not_lends rfl).mpr letsGo_nil) fun hnone => ?_
      rw [hgiven] at hnone
      cases hnone
  | none =>
      rw [hgiven] at hnew
      obtain ⟨outcome, early, started, calls, position, held, hstart, hstarts, hstarted, hsees⟩ :=
        starts_start hcreated created.workspace handle argv .empty
      have hstart := handle_start_library (host.withLibrary created) thread path hstart
      simp only [Option.elim_none, runInstance, perform, run_bind, history_bind, run_act,
        history_act, run_done, history_done, hstart]
      cases outcome with
      | panic message => cases hstarts
      | error error =>
          obtain ⟨rfl, hreleases⟩ := hstarts.releases_of_error
          simp only [discardAfter, perform, run_bind, history_bind, run_act, history_act, run_done,
            history_done]
          refine ⟨handle, _, .notStarted hgiven hstarts, (hnew.trans hsees).trans rfl, ?_⟩
          refine iff_of_true ((letsGo_cons_of_not_lends rfl).mpr ?_) hreleases
          refine letsGo_cons.mpr ⟨fun _ => hstarted.attached, ?_⟩
          exact (letsGo_cons_of_not_lends rfl).mpr letsGo_nil
      | ok status =>
          obtain rfl := hstarts.position_of_ok
          obtain ⟨late, stopped, last, hstop, hstopped, hmore⟩ :=
            stands_stop hstarted started.workspace handle early
          have hstop := handle_stop_library ((host.withLibrary created).withLibrary started)
            thread path hstop
          simp only [finishRun, discardAfter, perform, run_bind, history_bind, run_act, history_act,
            run_done, history_done, hstop]
          refine ⟨handle, _, .ended hgiven hstarts, ((hnew.trans hsees).trans hmore).trans rfl, ?_⟩
          rw [← hstarts.releases_iff_of_ok hgiven, ← hstopped.attached, ← hstarted.attached]
          simp [letsGo_cons, letsGo_nil, Exchange.lends, Host.withLibrary]

/-! ## The order of requests -/

namespace ScriptedLibrary

/-- Whether a call was made of the library, and not by it. -/
def Call.isRequest : Call → Bool
  | .callback _ _ | .noCallback _ => false
  | _ => true

/-- The instance that a call is on. -/
def Call.instance? : Call → Option Handle
  | .setArgumentEncoding handle _ | .attachHandlers handle | .detachHandlers handle
  | .run handle _ | .exit handle | .deleteInstance handle => some handle
  | .revision | .newInstance _ | .callback _ _ | .noCallback _ => none

/-- What a library is asked for in a run with some arguments, all of it on the instance that
it gives. -/
def Script.requests (script : Script) (handle : Handle) (argv : List String) : List Call :=
  if script.creationError?.isSome then [.newInstance none]
  else
    .newInstance (some handle) ::
      (.setArgumentEncoding handle 1 ::
        if script.encodingCode < 0 then []
        else
          .attachHandlers handle ::
            if script.handlerCode 0 < 0 then []
            else
              [.run handle argv, .detachHandlers handle, .attachHandlers handle, .exit handle] ++
                if script.handlerCode 2 < 0 then [] else [.detachHandlers handle]) ++
        [.deleteInstance handle]

/-- Calls in an order that the interface allows. -/
structure Script.Orderly (script : Script) (calls : List Call) : Prop where
  /-- What is called on an instance is called on one that the library gave before. -/
  given : ∀ before call after, calls = before ++ call :: after →
    ∀ handle, call.instance? = some handle → .newInstance (some handle) ∈ before
  /-- What runs takes UTF-8 and has its handlers. -/
  run : ∀ before handle argv after, calls = before ++ .run handle argv :: after →
    before =
        [.newInstance (some handle), .setArgumentEncoding handle 1, .attachHandlers handle] ∧
      0 ≤ script.encodingCode ∧ 0 ≤ script.handlerCode 0
  /-- What exits was run. -/
  exit : ∀ before handle after, calls = before ++ .exit handle :: after →
    ∃ argv, .run handle argv ∈ before
  /-- What is deleted is left alone. -/
  deletion : ∀ before handle after, calls = before ++ .deleteInstance handle :: after → after = []

@[simp] theorem isRequest_heard (held : Bool) (write : Write) :
    (write.heard held).isRequest = false := by
  unfold Write.heard
  split <;> rfl

theorem filter_isRequest_heard (held : Bool) (writes : List Write) :
    (writes.map (Write.heard held)).filter Call.isRequest = [] := by
  simp [List.filter_map]

@[simp] theorem heard_ne_run (held : Bool) (write : Write) (handle : Handle)
    (argv : List String) : write.heard held ≠ .run handle argv := by
  unfold Write.heard
  split <;> nofun

@[simp] theorem heard_ne_deleteInstance (held : Bool) (write : Write) (handle : Handle) :
    write.heard held ≠ .deleteInstance handle := by
  unfold Write.heard
  split <;> nofun

@[simp] theorem instance?_heard (held : Bool) (write : Write) :
    (write.heard held).instance? = none := by
  unfold Write.heard
  split <;> rfl

/-- The calls on instances are on one instance. -/
def Call.AllOn (handle : Handle) (calls : List Call) : Prop :=
  ∀ call ∈ calls, ∀ other, call.instance? = some other → other = handle

@[simp] theorem Call.allOn_nil (handle : Handle) : AllOn handle [] := List.forall_mem_nil _

@[simp] theorem Call.allOn_append {handle : Handle} {calls more : List Call} :
    AllOn handle (calls ++ more) ↔ AllOn handle calls ∧ AllOn handle more :=
  List.forall_mem_append

@[simp] theorem Call.allOn_cons {handle : Handle} {call : Call} {calls : List Call} :
    AllOn handle (call :: calls) ↔
      (∀ other, call.instance? = some other → other = handle) ∧ AllOn handle calls :=
  List.forall_mem_cons

@[simp] theorem Call.allOn_heard (handle : Handle) (held : Bool) (writes : List Write) :
    AllOn handle (writes.map (Write.heard held)) := by
  simp [AllOn]

/-- Stopping an instance neither runs nor deletes anything, and is about that instance. -/
theorem stopCalls_spec (script : Script) (handle : Handle) (held : Bool) :
    (∀ other argv, .run other argv ∉ script.stopCalls handle held) ∧
      (∀ other, .deleteInstance other ∉ script.stopCalls handle held) ∧
      Call.AllOn handle (script.stopCalls handle held) := by
  unfold Script.stopCalls
  split <;> simp [Call.instance?]

/-- What stands in front of something stands in front of all that comes no sooner. -/
theorem mem_of_append_cons_eq {α : Type} {left right before after : List α} {first second : α}
    (hsplit : left ++ first :: right = before ++ second :: after) (hleft : second ∉ left)
    (hne : second ≠ first) : first ∈ before := by
  rcases List.append_eq_append_iff.mp hsplit with ⟨between, rfl, hrest⟩ | ⟨between, rfl, hrest⟩
  · cases between with
    | nil => exact absurd (List.cons.inj hrest).1.symm hne
    | cons head between =>
        obtain ⟨rfl, -⟩ := List.cons.inj hrest
        exact List.mem_append_right _ List.mem_cons_self
  · cases between with
    | nil => exact absurd (List.cons.inj hrest).1 hne
    | cons head between =>
        obtain ⟨rfl, -⟩ := List.cons.inj hrest
        exact absurd (List.mem_append_right _ List.mem_cons_self) hleft

/-- What is called on the one instance is called after it was given. -/
theorem Call.AllOn.given {handle other : Handle} {calls before after : List Call} {call : Call}
    (hon : AllOn handle calls)
    (hsplit : .newInstance (some handle) :: calls = before ++ call :: after)
    (hinstance : call.instance? = some other) : .newInstance (some other) ∈ before := by
  cases before with
  | nil =>
      obtain ⟨rfl, -⟩ := List.cons.inj hsplit
      cases hinstance
  | cons first before =>
      obtain ⟨rfl, rfl⟩ := List.cons.inj hsplit
      rw [hon call (List.mem_append_right _ List.mem_cons_self) other hinstance]
      exact List.mem_cons_self

/-- An instance that is given up is only deleted. -/
theorem Script.orderly_of_notRun {script : Script} {handle : Handle} {calls : List Call}
    (hon : Call.AllOn handle calls) (hrun : ∀ other argv, .run other argv ∉ calls)
    (hexit : ∀ other, .exit other ∉ calls) (hdeletion : ∀ other, .deleteInstance other ∉ calls) :
    script.Orderly (.newInstance (some handle) :: (calls ++ [.deleteInstance handle])) := by
  constructor
  case given =>
    intro before call after hsplit other hinstance
    have hall : Call.AllOn handle (calls ++ [.deleteInstance handle]) := by
      simpa [Call.instance?] using hon
    exact hall.given hsplit hinstance
  case run =>
    intro before other argv after hsplit
    have hmem : .run other argv ∈
        .newInstance (some handle) :: (calls ++ [.deleteInstance handle]) :=
      hsplit ▸ List.mem_append_right _ List.mem_cons_self
    simp [hrun] at hmem
  case exit =>
    intro before other after hsplit
    have hmem : .exit other ∈ .newInstance (some handle) :: (calls ++ [.deleteInstance handle]) :=
      hsplit ▸ List.mem_append_right _ List.mem_cons_self
    simp [hexit] at hmem
  case deletion =>
    intro before other after hsplit
    rw [← List.cons_append] at hsplit
    obtain ⟨-, -, hafter⟩ :=
      (List.append_cons_inj_of_notMem (by simp [hdeletion]) List.not_mem_nil).mp hsplit
    exact hafter.symm

/-- An instance that has what it needs runs once, and is deleted after all the rest. -/
theorem Script.orderly_of_run {script : Script} {handle : Handle} (argv : List String)
    {rest : List Call} (hencoding : 0 ≤ script.encodingCode) (hattach : 0 ≤ script.handlerCode 0)
    (hon : Call.AllOn handle rest) (hrun : ∀ other argv, .run other argv ∉ rest)
    (hdeletion : ∀ other, .deleteInstance other ∉ rest) :
    script.Orderly
      ([.newInstance (some handle), .setArgumentEncoding handle 1, .attachHandlers handle] ++
        .run handle argv :: (rest ++ [.deleteInstance handle])) := by
  have hall : Call.AllOn handle ([.setArgumentEncoding handle 1, .attachHandlers handle] ++
      .run handle argv :: (rest ++ [.deleteInstance handle])) := by
    simpa [Call.instance?] using hon
  constructor
  case given =>
    intro before call after hsplit other hinstance
    exact hall.given hsplit hinstance
  case run =>
    intro before other argv after hsplit
    obtain ⟨hbefore, hran, -⟩ :=
      (List.append_cons_inj_of_notMem (by simp) (by simp [hrun])).mp hsplit
    obtain ⟨rfl, -⟩ := Call.run.inj hran
    exact ⟨hbefore.symm, hencoding, hattach⟩
  case exit =>
    intro before other after hsplit
    refine ⟨argv, ?_⟩
    -- the only instance there is to exit is the one that was run
    obtain rfl : other = handle := hall (.exit other) (by
      have hmem : .exit other ∈ before ++ .exit other :: after := by simp
      rw [← hsplit] at hmem
      simpa using hmem) other rfl
    exact mem_of_append_cons_eq hsplit (by simp) nofun
  case deletion =>
    intro before other after hsplit
    rw [← List.cons_append, ← List.append_assoc] at hsplit
    obtain ⟨-, -, hafter⟩ :=
      (List.append_cons_inj_of_notMem (by simp [hdeletion]) List.not_mem_nil).mp hsplit
    exact hafter.symm

namespace Script.Session

variable {script : Script} {handle : Handle} {argv : List String} {calls : List Call}

theorem filter_isRequest (hsession : script.Session handle argv calls) :
    calls.filter Call.isRequest = script.requests handle argv := by
  cases hsession with
  | notCreated hgiven =>
      rw [Script.requests, if_pos (Option.isSome_iff_ne_none.mpr hgiven)]
      rfl
  | notStarted hgiven hstarts =>
      cases hstarts with
      | notDeclared hencoding => simp [Script.requests, hgiven, hencoding, Call.isRequest]
      | notAttached hencoding hattach =>
          simp [Script.requests, hgiven, hencoding, hattach, Call.isRequest]
  | ended hgiven hstarts =>
      cases hstarts with
      | ran hencoding hattach =>
          rw [Script.requests, Script.stopCalls, hgiven, if_neg hencoding, if_neg hattach]
          by_cases hagain : script.handlerCode 2 < 0
          · rw [if_pos hagain, if_pos hagain]
            simp only [List.cons_append, List.nil_append, List.append_assoc, List.filter_cons,
              List.filter_append, filter_isRequest_heard]
            rfl
          · rw [if_neg hagain, if_neg hagain]
            simp only [List.cons_append, List.nil_append, List.append_assoc, List.filter_cons,
              List.filter_append, filter_isRequest_heard]
            rfl

theorem orderly (hsession : script.Session handle argv calls) : script.Orderly calls := by
  cases hsession with
  | notCreated hgiven => constructor <;> simp +contextual [List.cons_eq_append_iff, Call.instance?]
  | notStarted hgiven hstarts =>
      cases hstarts with
      | notDeclared hencoding =>
          exact orderly_of_notRun (by simp [Call.instance?]) (by simp) (by simp)
            (by simp)
      | notAttached hencoding hattach =>
          exact orderly_of_notRun (by simp [Call.instance?]) (by simp) (by simp)
            (by simp)
  | ended hgiven hstarts =>
      cases hstarts with
      | ran hencoding hattach =>
          obtain ⟨hrun, hdeletion, hon⟩ :=
            stopCalls_spec script handle (decide (script.handlerCode 1 < 0))
          have hall : Call.AllOn handle (script.runWrites.map (Write.heard true) ++
              .detachHandlers handle ::
                script.stopCalls handle (decide (script.handlerCode 1 < 0))) := by
            simpa [Call.instance?] using hon
          have hrest := orderly_of_run argv (Int32.not_lt.mp hencoding) (Int32.not_lt.mp hattach)
            hall (by simp [hrun]) (by simp [hdeletion])
          simpa using hrest

end Script.Session

end ScriptedLibrary

/-- **The protocol of a run.**  Whatever codes a library gives, it is asked for one thing after
another in the one order, as far as the codes let the run go, and always on the instance that it
gave, which is deleted in the end. -/
theorem calls_invoke (host : Host) (thread : Nat) (path : Path) (arguments : Arguments) :
    let ran := (invoke (.library path) arguments).run (Host.handle thread) host
    ∃ handle calls, ran.2.machine.calls = calls.reverse ++ host.machine.calls ∧
      calls.filter Call.isRequest =
        (match arguments.argv with
          | .error _ => []
          | .ok argv => host.machine.script.requests handle argv) ∧
      host.machine.script.Orderly calls := by
  intro ran
  cases hargv : arguments.argv with
  | error error =>
      have hran : ran = (.error error, host) := (invoke_of_argv_eq_error _ _ hargv host).2
      rw [hran]
      refine ⟨0, [], rfl, rfl, ?_⟩
      constructor <;> simp
  | ok argv =>
      obtain ⟨handle, calls, hsession, hsees, -⟩ :=
        session_createAndRun { host with engineLocked := true } thread path argv
      refine ⟨handle, calls, ?_, hsession.filter_isRequest, hsession.orderly⟩
      rw [← hsees]
      simp [ran, invoke, hargv, perform, Host.handle]

/-! ## Handlers that are left -/

/-- **Captures are let go of** by the libraries that detach handlers whenever they attached
them, and by no others. -/
theorem letsGo_invoke_iff (host : Host) (thread : Nat) (path : Path) (arguments : Arguments) :
    LetsGo ((invoke (.library path) arguments).history (Host.handle thread) host) ↔
      ∀ argv, arguments.argv = .ok argv → host.machine.script.Releases := by
  cases hargv : arguments.argv with
  | error error => simp [invoke, hargv, letsGo_nil]
  | ok argv =>
      obtain ⟨-, -, -, -, hletsGo⟩ :=
        session_createAndRun { host with engineLocked := true } thread path argv
      have hlocked : LetsGo ((invoke (.library path) arguments).history (Host.handle thread) host) ↔
          LetsGo ((createAndRun (.library path) argv).history (Host.handle thread)
            { host with engineLocked := true }) := by
        simp [invoke, hargv, perform, letsGo_cons, letsGo_append, letsGo_nil, Exchange.lends,
          Host.handle]
      rw [hlocked, hletsGo]
      exact ⟨fun hreleases _ _ => hreleases, fun hreleases => hreleases argv rfl⟩

/-- A library that refuses to detach handlers, and to attach others, and calls a handler as it
exits. -/
def ScriptedLibrary.Script.clinging : ScriptedLibrary.Script :=
  { Script.default with
    handlerCodes := [0, -1, -1]
    exitWrites := [⟨.output, none, 0, 1⟩] }

/-- It calls a handler that was attached for another call, and whose capture is gone. -/
theorem not_letsGo_clinging :
    let host := Host.start default [] .clinging
    let invocation := invoke (.library (Path.ofString "lib/gs.so")) ⟨["a"]⟩
    let ran := invocation.run (Host.handle Host.firstThread) host
    ¬ LetsGo (invocation.history (Host.handle Host.firstThread) host) ∧
      ran.2.machine.calls.reverse =
        [.newInstance (some 1), .setArgumentEncoding 1 1, .attachHandlers 1, .run 1 ["gs", "a"],
          .detachHandlers 1, .attachHandlers 1, .exit 1, .callback .output 0,
          .deleteInstance 1] := by
  intro host invocation ran
  refine ⟨fun hletsGo => ?_, rfl⟩
  -- the third exchange is the start, after which a handler is left
  exact Bool.noConfusion (hletsGo _ (.tail _ (.tail _ (.head _))) rfl)

end EpsBridge
