import EpsBridge.Foreign.Call
import EpsBridge.Proofs.Trace

/-!
# What a foreign call answers

A call stands for an operation of a bridge.  `Answered` says what the call exchanges and gives
back, by what the operation comes to: it succeeds where the operation does, and else gives its
fallback, and it leaves the number of the outcome as its last act.  No call has any other end
(`answered_of_ends`), whoever answers it.
-/

namespace EpsBridge.Foreign

open Program Program.Exchange

variable {ε α : Type}

/-! ## Operations behind calls -/

/-- An operation that a call makes with the shared bridge. -/
structure Operation (ε : Type) where
  Argument : Type
  Result : Type
  arguments : Except Error Argument
  perform : Argument → Bridge ε → Program ε (Outcome Error Result)
  success : Result → Value
  fallback : Value

/-- The operation of a call, for those that share the bridge. -/
def Call.operation? : Call ε → Option (Operation ε)
  | install _ | init _ | lastError | freeText _ => none
  | isAvailable => some {
      Argument := Unit
      Result := Unit
      arguments := .ok ()
      perform := fun _ _ => return .ok ()
      success := fun _ => .truth true
      fallback := .truth false }
  | version => some {
      Argument := Unit
      Result := String
      arguments := .ok ()
      perform := fun _ bridge => bridge.version
      success := fun text => .text (some text)
      fallback := .text none }
  | renderPng input output dpi => some {
      Argument := String × String × UInt32
      Result := Unit
      arguments := do
        let input ← textArgument 0 input
        let output ← textArgument 1 output
        return (input, output, ← dpiArgument 2 dpi)
      perform := fun (input, output, dpi) bridge => bridge.renderPng input output dpi
      success := fun _ => .truth true
      fallback := .truth false }
  | renderJpeg input output dpi quality => some {
      Argument := String × String × UInt32
      Result := Unit
      arguments := do
        let input ← textArgument 0 input
        let output ← textArgument 1 output
        return (input, output, ← dpiArgument 2 dpi)
      perform := fun (input, output, dpi) bridge => bridge.renderJpeg input output dpi quality
      success := fun _ => .truth true
      fallback := .truth false }
  | convertPdf input output => some {
      Argument := String × String
      Result := Unit
      arguments := do return (← textArgument 0 input, ← textArgument 1 output)
      perform := fun (input, output) bridge => bridge.convertPdf input output
      success := fun _ => .truth true
      fallback := .truth false }
  | execute arguments => some {
      Argument := List String
      Result := Capture
      arguments := arrayArgument arguments
      perform := fun arguments bridge => bridge.execute arguments
      success := fun _ => .truth true
      fallback := .truth false }
  | boundingBox input buffer => some {
      Argument := String × List Int32
      Result := BoundingBox
      arguments := boxArguments input buffer
      perform := fun (input, _) bridge => bridge.boundingBox input
      success := fun box => .box true (some box.toList)
      fallback := .box false buffer }

/-- No success looks like a fallback. -/
theorem success_ne_fallback {call : Call ε} {operation : Operation ε}
    (hoperation : call.operation? = some operation) (result : operation.Result) :
    operation.success result ≠ operation.fallback := by
  cases call with
  | install bridge | init path | lastError | freeText text => cases hoperation
  | _ => cases hoperation; nofun

/-- The number of an error: without an engine it is 1, then 2 for one that does not start, 3 for
one that fails, 4 where no box is found, 5 for what was asked for, and 6 for all else. -/
def numberOf : Error → Nat
  | .engineUnavailable _ => 1
  | .instanceCreation _ | .instanceSetup _ _ => 2
  | .execution _ _ | .revision _ => 3
  | .boundingBoxNotFound _ => 4
  | .invalidArgument _ _ | .invalidConfig _ => 5
  | .fileNotFound _ | .notAnEps _ _ | .readFailed _ _ | .outputWriteFailed _ _
  | .decodeFailed _ _ | .internal _ => 6

theorem errorNumber_error (error : Error) :
    errorNumber (.error error : Outcome Error α) = numberOf error := by
  cases error <;> rfl

/-- What a call exchanges for its operation, and what it gives back. -/
inductive Operation.Answered (operation : Operation ε) : List (Exchange ε) → Value → Prop
  /-- Arguments that are no good are refused before anything else happens. -/
  | refused {error : Error} (harguments : operation.arguments = .error error) :
      Answered operation [⟨.writeLastError (numberOf error), ()⟩] operation.fallback
  | unavailable {arguments : operation.Argument} {taken : List (Exchange ε)} {error : Error}
      (harguments : operation.arguments = .ok arguments)
      (htaken : sharedBridge.Ends taken (.error error)) :
      Answered operation (taken ++ [⟨.writeLastError (numberOf error), ()⟩]) operation.fallback
  | succeeded {arguments : operation.Argument} {taken worked : List (Exchange ε)}
      {bridge : Bridge ε} {result : operation.Result}
      (harguments : operation.arguments = .ok arguments)
      (htaken : sharedBridge.Ends taken (.ok bridge))
      (hworked : (operation.perform arguments bridge).Ends worked (.ok result)) :
      Answered operation (taken ++ worked ++ [⟨.writeLastError 0, ()⟩]) (operation.success result)
  | failed {arguments : operation.Argument} {taken worked : List (Exchange ε)}
      {bridge : Bridge ε} {error : Error}
      (harguments : operation.arguments = .ok arguments)
      (htaken : sharedBridge.Ends taken (.ok bridge))
      (hworked : (operation.perform arguments bridge).Ends worked (.error error)) :
      Answered operation (taken ++ worked ++ [⟨.writeLastError (numberOf error), ()⟩])
        operation.fallback
  | panicked {arguments : operation.Argument} {taken worked : List (Exchange ε)}
      {bridge : Bridge ε} {message : String}
      (harguments : operation.arguments = .ok arguments)
      (htaken : sharedBridge.Ends taken (.ok bridge))
      (hworked : (operation.perform arguments bridge).Ends worked (.panic message)) :
      Answered operation (taken ++ worked ++ [⟨.writeLastError 6, ()⟩]) operation.fallback

/-- The path that a caller asks a library to be bound at, if there is one. -/
def requestedPath : Text → Except Error (Option Path)
  | none => .ok none
  | some bytes => do return some (.ofString (← textArgument 0 (some bytes)))

/-- What a call exchanges, and what it gives back. -/
inductive Call.Answered : Call ε → List (Exchange ε) → Value → Prop
  | installed (bridge : Bridge ε) :
      Answered (.install bridge) [⟨.lockSlot, ()⟩, ⟨.fillSlot bridge, ()⟩, ⟨.unlockSlot, ()⟩]
        .nothing
  | freed (text : Option String) : Answered (.freeText text) [] .nothing
  | told (number : Nat) : Answered .lastError [⟨.readLastError, number⟩] (.number number)
  | refused {path : Text} {error : Error} (hpath : requestedPath path = .error error) :
      Answered (.init path) [⟨.writeLastError (numberOf error), ()⟩] (.truth false)
  | notLoaded {path : Text} {requested : Option Path} {loaded : List (Exchange ε)} {error : Error}
      (hpath : requestedPath path = .ok requested)
      (hloaded : (Bridge.load { Config.default with libraryPath := requested }).Ends loaded
        (.error error)) :
      Answered (.init path) (loaded ++ [⟨.writeLastError (numberOf error), ()⟩]) (.truth false)
  | initialized {path : Text} {requested : Option Path} {loaded : List (Exchange ε)}
      {bridge : Bridge ε} (hpath : requestedPath path = .ok requested)
      (hloaded : (Bridge.load { Config.default with libraryPath := requested }).Ends loaded
        (.ok bridge)) :
      Answered (.init path)
        (loaded ++ [⟨.lockSlot, ()⟩, ⟨.fillSlot bridge, ()⟩, ⟨.unlockSlot, ()⟩,
          ⟨.writeLastError 0, ()⟩]) (.truth true)
  | operated {call : Call ε} {operation : Operation ε} {exchanges : List (Exchange ε)}
      {value : Value} (hoperation : call.operation? = some operation)
      (hanswered : operation.Answered exchanges value) : Answered call exchanges value

/-! ## How calls end -/

variable {exchanges : List (Exchange ε)}

theorem ends_guarded {fallback value : α} {work : Program ε (Outcome Error α)}
    (hends : (guarded fallback work).Ends exchanges value) :
    ∃ worked outcome, work.Ends worked outcome ∧
      exchanges = worked ++ [⟨.writeLastError (errorNumber outcome), ()⟩] ∧
      value = valueOr fallback outcome := by
  unfold guarded at hends
  rw [ends_bind_iff] at hends
  obtain ⟨worked, outcome, written, rfl, hworked, hwritten⟩ := hends
  rw [ends_perform_bind_iff] at hwritten
  obtain ⟨_, rest, rfl, hrest⟩ := hwritten
  obtain ⟨rfl, rfl⟩ := ends_pure_iff.mp hrest
  exact ⟨worked, outcome, hworked, rfl, rfl⟩

/-- A call that shares the bridge is its operation, guarded. -/
theorem program_eq_guarded {call : Call ε} {operation : Operation ε}
    (hoperation : call.operation? = some operation) :
    ∃ (γ : Type) (give : γ → Value) (success : operation.Result → γ) (fallback : γ),
      call.program = give <$> guarded fallback (withBridge operation.arguments
        fun arguments bridge => do return (← operation.perform arguments bridge).map success) ∧
      (∀ result, operation.success result = give (success result)) ∧
      operation.fallback = give fallback := by
  cases call with
  | install bridge | init path | lastError | freeText text => cases hoperation
  | version =>
      obtain rfl := Option.some.inj hoperation
      exact ⟨_, .text, some, none, rfl, fun _ => rfl, rfl⟩
  | isAvailable | renderPng input output dpi | renderJpeg input output dpi quality
  | convertPdf input output | execute arguments =>
      obtain rfl := Option.some.inj hoperation
      exact ⟨_, .truth, fun _ => true, false, rfl, fun _ => rfl, rfl⟩
  | boundingBox input buffer =>
      obtain rfl := Option.some.inj hoperation
      exact ⟨_, fun boxed => .box boxed.1 boxed.2, fun box => (true, some box.toList),
        (false, buffer), rfl, fun _ => rfl, rfl⟩

theorem answered_of_operation? {call : Call ε} {operation : Operation ε} {value : Value}
    (hoperation : call.operation? = some operation)
    (hends : call.program.Ends exchanges value) : operation.Answered exchanges value := by
  obtain ⟨γ, give, success, fallback, hprogram, hsuccess, hfallback⟩ :=
    program_eq_guarded hoperation
  rw [hprogram] at hends
  obtain ⟨_, hguarded, rfl⟩ := ends_map_iff.mp hends
  obtain ⟨worked, outcome, hworked, rfl, rfl⟩ := ends_guarded hguarded
  have herror : ∀ error, give (valueOr fallback (.error error)) = operation.fallback :=
    fun _ => hfallback.symm
  unfold withBridge at hworked
  cases harguments : operation.arguments with
  | error error =>
      rw [harguments] at hworked
      obtain ⟨rfl, rfl⟩ := ends_pure_iff.mp hworked
      rw [herror, errorNumber_error]
      exact .refused harguments
  | ok arguments =>
      rw [harguments] at hworked
      obtain ⟨taken, shared, worked, rfl, htaken, hworked⟩ := ends_bind_iff.mp hworked
      cases shared with
      | error error =>
          obtain ⟨rfl, rfl⟩ := ends_pure_iff.mp hworked
          rw [List.append_nil, herror, errorNumber_error]
          exact .unavailable harguments htaken
      | ok bridge =>
          obtain ⟨performed, result, _, rfl, hperformed, hmapped⟩ := ends_bind_iff.mp hworked
          obtain ⟨rfl, rfl⟩ := ends_pure_iff.mp hmapped
          rw [List.append_nil]
          cases result with
          | ok result =>
              have hvalue : give (valueOr fallback ((Outcome.ok result).map success)) =
                operation.success result := (hsuccess result).symm
              rw [hvalue]
              exact .succeeded harguments htaken hperformed
          | error error =>
              have hvalue : give (valueOr fallback ((Outcome.error error).map success)) =
                operation.fallback := hfallback.symm
              rw [hvalue]
              change operation.Answered (_ ++ [⟨.writeLastError (errorNumber (.error error)), ()⟩]) _
              rw [errorNumber_error]
              exact .failed harguments htaken hperformed
          | panic message =>
              have hvalue : give (valueOr fallback ((Outcome.panic message).map success)) =
                operation.fallback := hfallback.symm
              rw [hvalue]
              exact .panicked harguments htaken hperformed

theorem ends_install {bridge : Bridge ε} {value : Unit}
    (hends : (install bridge).Ends exchanges value) :
    exchanges = [⟨.lockSlot, ()⟩, ⟨.fillSlot bridge, ()⟩, ⟨.unlockSlot, ()⟩] := by
  obtain ⟨_, locked, rfl, hlocked⟩ := ends_perform_bind_iff.mp hends
  obtain ⟨_, filled, rfl, hfilled⟩ := ends_perform_bind_iff.mp hlocked
  rw [ends_perform_iff.mp hfilled]

theorem ends_loadInto {path : Option Path} {outcome : Outcome Error Bool}
    (hends : (loadInto path : Program ε _).Ends exchanges outcome) :
    ∃ loaded result, (Bridge.load { Config.default with libraryPath := path }).Ends loaded result ∧
      match result with
      | .error error => exchanges = loaded ∧ outcome = .error error
      | .ok bridge =>
        exchanges = loaded ++
            [⟨.lockSlot, ()⟩, ⟨.fillSlot bridge, ()⟩, ⟨.unlockSlot, ()⟩] ∧ outcome = .ok true := by
  obtain ⟨loaded, result, rest, rfl, hloaded, hrest⟩ := ends_bind_iff.mp hends
  refine ⟨loaded, result, hloaded, ?_⟩
  cases result with
  | error error =>
      obtain ⟨rfl, rfl⟩ := ends_pure_iff.mp hrest
      exact ⟨List.append_nil _, rfl⟩
  | ok bridge =>
      obtain ⟨installed, _, ended, rfl, hinstalled, hended⟩ := ends_bind_iff.mp hrest
      obtain ⟨rfl, rfl⟩ := ends_pure_iff.mp hended
      rw [ends_install hinstalled, List.append_nil]
      exact ⟨rfl, rfl⟩

theorem answered_init {path : Text} {value : Value}
    (hends : (Call.init path : Call ε).program.Ends exchanges value) :
    (Call.init path : Call ε).Answered exchanges value := by
  obtain ⟨_, hguarded, rfl⟩ := ends_map_iff.mp hends
  obtain ⟨worked, outcome, hworked, rfl, rfl⟩ := ends_guarded hguarded
  have hloaded : ∀ requested, requestedPath path = .ok requested →
      (loadInto requested : Program ε _).Ends worked outcome →
      (Call.init path : Call ε).Answered
        (worked ++ [⟨.writeLastError (errorNumber outcome), ()⟩])
        (.truth (valueOr false outcome)) := by
    intro requested hpath hload
    obtain ⟨loaded, result, hloaded, hresult⟩ := ends_loadInto hload
    cases result with
    | error error =>
        obtain ⟨rfl, rfl⟩ := hresult
        rw [errorNumber_error]
        exact .notLoaded hpath hloaded
    | ok bridge =>
        obtain ⟨rfl, rfl⟩ := hresult
        rw [List.append_assoc]
        exact .initialized hpath hloaded
  cases path with
  | none => exact hloaded none rfl hworked
  | some bytes =>
      dsimp only at hworked
      cases htext : textArgument 0 (some bytes) with
      | error error =>
          rw [htext] at hworked
          obtain ⟨rfl, rfl⟩ := ends_pure_iff.mp hworked
          rw [errorNumber_error]
          exact .refused (by rw [requestedPath, htext]; rfl)
      | ok text =>
          rw [htext] at hworked
          exact hloaded _ (by rw [requestedPath, htext]; rfl) hworked

/-- **A call is answered** as its operation is, whatever it is told on the way. -/
theorem answered_of_ends {call : Call ε} {value : Value}
    (hends : call.program.Ends exchanges value) : call.Answered exchanges value := by
  cases hoperation : call.operation? with
  | some operation => exact .operated hoperation (answered_of_operation? hoperation hends)
  | none =>
      cases call with
      | install bridge =>
          obtain ⟨_, hinstall, rfl⟩ := ends_map_iff.mp hends
          rw [ends_install hinstall]
          exact .installed bridge
      | init path => exact answered_init hends
      | lastError =>
          obtain ⟨number, hread, rfl⟩ := ends_map_iff.mp hends
          rw [ends_perform_iff.mp hread]
          exact .told number
      | freeText text =>
          obtain ⟨_, hnothing, rfl⟩ := ends_map_iff.mp hends
          obtain ⟨rfl, -⟩ := ends_pure_iff.mp hnothing
          exact .freed text
      | _ => cases hoperation

end EpsBridge.Foreign
