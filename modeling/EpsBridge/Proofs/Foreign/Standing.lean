import EpsBridge.Proofs.Foreign.Answer
import EpsBridge.Proofs.Threads.Execution

/-!
# What a foreign call may do next

How a call stands follows from what it has exchanged: the locks that it has, what it knows of the
slot, what its load came to, and the bridge that it got.  This is all that decides what it may do
next (`Call.Permits`), and every call keeps to it (`keeps_program`).

A call that has loaded a library because the slot was empty owes the slot a bridge over it, and
does nothing else until it has put it there.
-/

namespace EpsBridge.Foreign

open Program Program.Exchange

variable {ε α : Type}

/-! ## Standings -/

/-- How a call stands. -/
structure Standing (ε : Type) where
  slotLock : Bool
  engineLock : Bool
  /-- What the slot holds, if the call knows it. -/
  seen : Option (Option (Bridge ε))
  /-- What the load of the call came to, if it made one. -/
  loaded : Option (Except LibraryError ε)
  /-- The bridge that the call found in the slot or put there. -/
  bridge : Option (Bridge ε)

namespace Standing

/-- The standing of a call that has done nothing. -/
def fresh : Standing ε := ⟨false, false, none, none, none⟩

/-- The standing after an exchange. -/
def after (standing : Standing ε) : Exchange ε → Standing ε
  | ⟨.lockSlot, _⟩ => { standing with slotLock := true, seen := none }
  | ⟨.unlockSlot, _⟩ => { standing with slotLock := false, seen := none }
  | ⟨.lockEngine, _⟩ => { standing with engineLock := true }
  | ⟨.unlockEngine, _⟩ => { standing with engineLock := false }
  | ⟨.readSlot, answer⟩ => { standing with seen := some answer, bridge := answer }
  | ⟨.fillSlot bridge, _⟩ => { standing with seen := some (some bridge), bridge := some bridge }
  | ⟨.load _, answer⟩ => { standing with loaded := some answer }
  | _ => standing

/-- The standing after all that was exchanged. -/
def ofPast (past : List (Exchange ε)) : Standing ε := past.foldl after fresh

@[simp] theorem ofPast_append_singleton (past : List (Exchange ε)) (exchange : Exchange ε) :
    ofPast (past ++ [exchange]) = (ofPast past).after exchange := by
  rw [ofPast, List.foldl_append]
  rfl

/-- The bridge that a call owes the slot, which it found empty before its load succeeded. -/
def owed (standing : Standing ε) : Option (Bridge ε) :=
  match standing.seen, standing.loaded with
  | some none, some (.ok engine) => some ⟨engine, .default⟩
  | _, _ => none

/-- A call that has no lock and owes nothing. -/
structure IsFree (standing : Standing ε) : Prop where
  slotLock : standing.slotLock = false
  engineLock : standing.engineLock = false
  owed : standing.owed = none

end Standing

/-! ## What is permitted -/

/-- The loads that a call makes at a standing. -/
def Call.Loads (standing : Standing ε) (path : Option Path) : Call ε → Prop
  | init text => standing.slotLock = false ∧ requestedPath text = .ok path
  | install _ | lastError | freeText _ => False
  | _ => standing.seen = some none ∧ path = none

/-- The bridges that a call puts into the slot, whatever is in there. -/
def Call.Supplies (standing : Standing ε) (bridge : Bridge ε) : Call ε → Prop
  | install installed => bridge = installed
  | init text => ∃ engine path, standing.loaded = some (.ok engine) ∧
      requestedPath text = .ok path ∧ bridge = ⟨engine, { Config.default with libraryPath := path }⟩
  | _ => False

/-- Whether a call leaves a number. -/
def Call.records : Call ε → Bool
  | install _ | lastError | freeText _ => false
  | _ => true

/-- What a call may do that owes nothing. -/
def Call.Allows (call : Call ε) (standing : Standing ε) : Action ε → Prop
  | .lockSlot | .lockEngine => standing.slotLock = false ∧ standing.engineLock = false
  | .unlockSlot => standing.slotLock = true
  | .readSlot => standing.slotLock = true ∧ standing.bridge = none
  | .unlockEngine => standing.engineLock = true
  | .load path => standing.loaded = none ∧ call.Loads standing path
  | .fillSlot bridge =>
    standing.slotLock = true ∧ standing.bridge = none ∧ call.Supplies standing bridge
  | .revision engine =>
    standing.slotLock = false ∧ standing.bridge.map Bridge.engine = some engine
  | .create engine | .start engine _ _ _ | .stop engine _ _ | .discard engine _ _ =>
    standing.engineLock = true ∧ standing.bridge.map Bridge.engine = some engine
  | .readLastError => call = .lastError
  | .writeLastError _ =>
    call.records = true ∧ standing.slotLock = false ∧ standing.engineLock = false
  | _ => False

/-- What a call may do. -/
def Call.Permits (call : Call ε) (standing : Standing ε) (action : Action ε) : Prop :=
  match standing.owed with
  | some bridge => action = .fillSlot bridge
  | none => call.Allows standing action

theorem Call.Permits.allows {call : Call ε} {standing : Standing ε} {action : Action ε}
    (hpermits : call.Permits standing action) (haction : ∀ bridge, action ≠ .fillSlot bridge) :
    call.Allows standing action := by
  unfold Call.Permits at hpermits
  split at hpermits
  · exact absurd hpermits (haction _)
  · exact hpermits

theorem Standing.owed_eq_some_iff {standing : Standing ε} {bridge : Bridge ε} :
    standing.owed = some bridge ↔ standing.seen = some none ∧
      ∃ engine, standing.loaded = some (.ok engine) ∧ bridge = ⟨engine, .default⟩ := by
  unfold Standing.owed
  split
  · next engine hseen hloaded =>
      rw [hseen, hloaded]
      constructor
      · rintro ⟨⟩
        exact ⟨rfl, engine, rfl, rfl⟩
      · rintro ⟨-, _, ⟨⟩, rfl⟩
        rfl
  · next hnot =>
      refine iff_of_false nofun ?_
      rintro ⟨hseen, engine, hloaded, -⟩
      exact hnot engine hseen hloaded

theorem Standing.seen_of_owed {standing : Standing ε} {bridge : Bridge ε}
    (howed : standing.owed = some bridge) : standing.seen = some none :=
  (Standing.owed_eq_some_iff.mp howed).1

/-! ## Calls keep to it -/

/-- A program that does no more than a call may do, and ends as it should. -/
abbrev Call.Keeps (call : Call ε) (program : Program ε α) (ends : List (Exchange ε) → α → Prop)
    (past : List (Exchange ε)) : Prop :=
  program.Keeps (fun past action => call.Permits (.ofPast past) action) (fun _ => True) ends past

variable {call : Call ε} {standing : Standing ε} {engine : ε} {past : List (Exchange ε)}

/-- A call that runs an engine. -/
structure Standing.Runs (standing : Standing ε) (engine : ε) : Prop where
  engineLock : standing.engineLock = true
  owed : standing.owed = none
  engine : standing.bridge.map Bridge.engine = some engine

/-- Whether an action is one of a run of an engine. -/
def runsOn (engine : ε) : Action ε → Prop
  | .create other | .start other _ _ _ | .stop other _ _ | .discard other _ _ => other = engine
  | _ => False

/-- A run of an engine leaves a call as it stood. -/
theorem keeps_engineCall {action : Action ε} {next : action.Answer → Program ε α}
    {ends : List (Exchange ε) → α → Prop} (haction : runsOn engine action)
    (hruns : standing.Runs engine) (hpast : .ofPast past = standing)
    (hnext : ∀ answer, .ofPast (past ++ [⟨action, answer⟩]) = standing →
      call.Keeps (next answer) ends (past ++ [⟨action, answer⟩])) :
    call.Keeps (perform action >>= next) ends past := by
  obtain ⟨hlock, howed, hengine⟩ := hruns
  subst hpast
  refine .perform ?_ fun answer _ => hnext answer ?_
  · unfold Call.Permits
    rw [howed]
    cases action with
    | create other | start other handle argv capture | stop other handle capture
    | discard other handle unwinding =>
        obtain rfl : other = engine := haction
        exact ⟨hlock, hengine⟩
    | _ => exact haction.elim
  · rw [Standing.ofPast_append_singleton]
    cases action with
    | create other | start other handle argv capture | stop other handle capture
    | discard other handle unwinding => rfl
    | _ => exact haction.elim

theorem keeps_createAndRun (hruns : standing.Runs engine) (argv : List String)
    (hpast : .ofPast past = standing) :
    call.Keeps (createAndRun engine argv) (fun later _ => .ofPast later = standing) past := by
  refine keeps_engineCall rfl hruns hpast fun created hcreated => ?_
  cases created with
  | panic message => exact hcreated
  | error code => exact hcreated
  | ok handle =>
      refine keeps_engineCall rfl hruns hcreated fun started hstarted => ?_
      obtain ⟨status | error | message, early⟩ := started
      · refine keeps_engineCall rfl hruns hstarted fun stopped hstopped => ?_
        obtain ⟨exit | nothing | message, late⟩ := stopped
        · exact keeps_engineCall rfl hruns hstopped fun _ hdiscarded => hdiscarded
        · exact nothing.elim
        · exact hstopped
      · exact keeps_engineCall rfl hruns hstarted fun _ hdiscarded => hdiscarded
      · exact keeps_engineCall rfl hruns hstarted fun _ hdiscarded => hdiscarded

/-- A call that has a bridge and is free to use it. -/
structure Standing.Has (standing : Standing ε) (bridge : Bridge ε) : Prop extends
    IsFree standing where
  bridge : standing.bridge = some bridge

/-- How a program ends that leaves a call without locks. -/
abbrev EndsFree (past : List (Exchange ε)) (_ : α) : Prop := (Standing.ofPast past).IsFree

theorem keeps_invoke {bridge : Bridge ε} (hhas : (Standing.ofPast past).Has bridge)
    (arguments : Arguments) :
    call.Keeps (invoke bridge.engine arguments) EndsFree past := by
  unfold invoke
  cases arguments.argv with
  | error error => exact hhas.toIsFree
  | ok argv =>
      obtain ⟨⟨hslot, hlock, howed⟩, hbridge⟩ := hhas
      have hlocked := Standing.ofPast_append_singleton past ⟨.lockEngine, ()⟩
      refine .perform ?_ fun _ _ => ?_
      · unfold Call.Permits
        rw [howed]
        exact ⟨hslot, hlock⟩
      · refine (keeps_createAndRun ⟨?_, ?_, ?_⟩ argv hlocked).bind fun later outcome hlater => ?_
        · rfl
        · exact howed
        · exact congrArg (Option.map Bridge.engine) hbridge
        · refine .perform ?_ fun _ _ => ?_
          · rw [hlater]
            unfold Call.Permits
            split
            · next hsome => cases hsome.symm.trans howed
            · exact rfl
          · change (Standing.ofPast _).IsFree
            rw [Standing.ofPast_append_singleton, hlater]
            exact ⟨hslot, rfl, howed⟩

theorem keeps_convert {bridge : Bridge ε} (hhas : (Standing.ofPast past).Has bridge)
    (request : Request) : call.Keeps (bridge.convert request) EndsFree past :=
  (keeps_invoke hhas request.arguments).bind fun _ _ hfree => hfree

theorem keeps_version {bridge : Bridge ε} (hhas : (Standing.ofPast past).Has bridge) :
    call.Keeps bridge.version EndsFree past := by
  obtain ⟨hfree, hbridge⟩ := hhas
  refine .perform ?_ fun answer _ => ?_
  · unfold Call.Permits
    rw [hfree.owed]
    exact ⟨hfree.slotLock, congrArg (Option.map Bridge.engine) hbridge⟩
  · change (Standing.ofPast _).IsFree
    rw [Standing.ofPast_append_singleton]
    exact hfree

/-- An operation of a bridge asks for nothing but the engine of this bridge. -/
theorem keeps_operation {other : Call ε} {operation : Operation ε} {bridge : Bridge ε}
    (hoperation : other.operation? = some operation) (arguments : operation.Argument)
    (hhas : (Standing.ofPast past).Has bridge) :
    call.Keeps (operation.perform arguments bridge) EndsFree past := by
  cases other with
  | install bridge | init path | lastError | freeText text => cases hoperation
  | isAvailable =>
      obtain rfl := Option.some.inj hoperation
      exact hhas.toIsFree
  | version =>
      obtain rfl := Option.some.inj hoperation
      exact (keeps_version hhas).bind fun _ _ hfree => hfree
  | renderPng input output dpi =>
      obtain rfl := Option.some.inj hoperation
      obtain ⟨input, output, dpi⟩ := arguments
      dsimp only [Bridge.renderPng]
      split
      · exact hhas.toIsFree
      · exact keeps_convert hhas _
  | renderJpeg input output dpi quality =>
      obtain rfl := Option.some.inj hoperation
      obtain ⟨input, output, dpi⟩ := arguments
      dsimp only [Bridge.renderJpeg]
      split
      · exact hhas.toIsFree
      · exact keeps_convert hhas _
  | convertPdf input output =>
      obtain rfl := Option.some.inj hoperation
      exact keeps_convert hhas _
  | execute arguments =>
      obtain rfl := Option.some.inj hoperation
      exact keeps_invoke hhas _
  | boundingBox input buffer =>
      obtain rfl := Option.some.inj hoperation
      exact (keeps_invoke hhas _).bind fun _ _ hfree => hfree

/-- Sharing the bridge fills an empty slot and no other, and leaves a call without the lock. -/
theorem keeps_sharedBridge (hloads : ∀ standing, standing.seen = some none →
      call.Loads standing none) :
    call.Keeps sharedBridge (fun past shared => match shared with
      | .ok bridge => (Standing.ofPast past).Has bridge
      | .error _ => (Standing.ofPast past).IsFree) [] := by
  refine .perform ⟨rfl, rfl⟩ fun _ _ => .perform ⟨rfl, rfl⟩ fun found _ => ?_
  cases found with
  | some bridge => exact .perform rfl fun _ _ => ⟨⟨rfl, rfl, rfl⟩, rfl⟩
  | none =>
      refine .perform ⟨rfl, hloads _ rfl⟩ fun loaded _ => ?_
      cases loaded with
      | error error => exact .perform rfl fun _ _ => ⟨rfl, rfl, rfl⟩
      | ok engine =>
          exact .perform rfl fun _ _ => .perform rfl fun _ _ => ⟨⟨rfl, rfl, rfl⟩, rfl⟩

/-- A guarded call leaves its number when it is free of all locks. -/
theorem keeps_guarded {fallback : α} {work : Program ε (Outcome Error α)}
    (hrecords : call.records = true) (hwork : call.Keeps work EndsFree past) :
    call.Keeps (guarded fallback work) EndsFree past := by
  refine hwork.bind fun later outcome hfree => ?_
  refine .perform ?_ fun _ _ => ?_
  · unfold Call.Permits
    rw [hfree.owed]
    exact ⟨hrecords, hfree.slotLock, hfree.engineLock⟩
  · change (Standing.ofPast _).IsFree
    rw [Standing.ofPast_append_singleton]
    exact hfree

theorem keeps_loadInto {path : Option Path} (text : Text) (hpath : requestedPath text = .ok path) :
    (Call.init text : Call ε).Keeps (loadInto path) EndsFree [] := by
  refine .perform ⟨rfl, rfl, hpath⟩ fun loaded _ => ?_
  cases loaded with
  | error error => exact ⟨rfl, rfl, rfl⟩
  | ok engine =>
      refine .perform ⟨rfl, rfl⟩ fun _ _ => ?_
      refine .perform ⟨rfl, rfl, engine, path, rfl, hpath, rfl⟩ fun _ _ => ?_
      exact .perform rfl fun _ _ => ⟨rfl, rfl, rfl⟩

/-- **A call keeps to what it may do**, and has no lock in the end. -/
theorem keeps_program (call : Call ε) : call.Keeps call.program EndsFree [] := by
  cases hoperation : call.operation? with
  | some operation =>
      obtain ⟨γ, give, success, fallback, hprogram, -, -⟩ := program_eq_guarded hoperation
      have hshares : call.records = true ∧
          ∀ standing, standing.seen = some none → call.Loads standing none := by
        cases call with
        | install bridge | init path | lastError | freeText text => cases hoperation
        | _ => exact ⟨rfl, fun _ hempty => ⟨hempty, rfl⟩⟩
      rw [hprogram]
      refine (keeps_guarded hshares.1 ?_).bind fun _ _ hfree => hfree
      unfold withBridge
      split
      · exact ⟨rfl, rfl, rfl⟩
      · refine (keeps_sharedBridge hshares.2).bind fun later shared hshared => ?_
        cases shared with
        | error error => exact hshared
        | ok bridge => exact (keeps_operation hoperation _ hshared).bind fun _ _ hfree => hfree
  | none =>
      cases call with
      | install bridge =>
          refine .perform ⟨rfl, rfl⟩ fun _ _ => .perform ⟨rfl, rfl, rfl⟩ fun _ _ => ?_
          exact .perform rfl fun _ _ => ⟨rfl, rfl, rfl⟩
      | init path =>
          refine (keeps_guarded rfl ?_).bind fun _ _ hfree => hfree
          cases path with
          | none => exact keeps_loadInto none rfl
          | some bytes =>
              dsimp only
              split
              · exact ⟨rfl, rfl, rfl⟩
              · next text htext =>
                  exact keeps_loadInto (some bytes) (by rw [requestedPath, htext]; rfl)
      | lastError => exact .perform rfl fun _ _ => ⟨rfl, rfl, rfl⟩
      | freeText text => exact ⟨rfl, rfl, rfl⟩
      | _ => cases hoperation

end EpsBridge.Foreign
