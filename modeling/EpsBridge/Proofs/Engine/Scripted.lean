import EpsBridge.Proofs.Engine.Confined

/-!
# The engine library of a host

The scripted library of a host changes no files but in a run, and then none but the output
that the arguments name.  So whatever is bound on a host is confined
(`bindsConfined_handle`), and binding it changes no files at all.
-/

namespace EpsBridge

open Program Workspace

variable {ε σ : Type}

namespace ScriptedLibrary

theorem workspace_create (state : State) :
    (library.create state).2.workspace = state.workspace := by
  unfold Library.create
  dsimp only [library]
  split
  · rfl
  · split <;> rfl

theorem workspace_stop (handle : Handle) (capture : Capture) (state : State) :
    (library.stop handle capture state).2.workspace = state.workspace := by
  unfold Library.stop
  dsimp only [library]
  split <;> rfl

theorem changesOnly_writeOutput (script : Script) (argv : List String) (workspace : Workspace) :
    ChangesOnly (firstOutput? argv) workspace (writeOutput script argv workspace) := by
  unfold writeOutput
  split
  · next content path _ houtput =>
      rw [houtput]
      exact changesOnly_writeFile workspace path content
  · exact .refl _ _

theorem changesOnly_start (handle : Handle) (argv : List String) (capture : Capture)
    (state : State) :
    ChangesOnly (firstOutput? argv) state.workspace
      (library.start handle argv capture state).2.workspace := by
  unfold Library.start
  dsimp only [library]
  split
  · exact .refl _ _
  · split
    · exact .refl _ _
    · exact changesOnly_writeOutput _ argv state.workspace

end ScriptedLibrary

/-- The library of a host is confined.  All its writing is done while it starts. -/
theorem confined_library (thread : Nat) (path : Path) :
    Confined (Host.handle thread) Host.workspace (.library path) fun _ _ => none where
  create state := by
    have hcreate : (Host.handle thread (.create (.library path)) state).2.workspace =
        state.workspace := ScriptedLibrary.workspace_create ⟨state.machine, state.workspace⟩
    rw [hcreate]
    exact .refl none _
  start handle argv capture state :=
    ScriptedLibrary.changesOnly_start handle argv capture ⟨state.machine, state.workspace⟩
  output_start _ _ _ _ := .inl rfl
  stop handle capture state := by
    have hstop : (Host.handle thread (.stop (.library path) handle capture) state).2.workspace =
        state.workspace :=
      ScriptedLibrary.workspace_stop handle capture ⟨state.machine, state.workspace⟩
    rw [hstop]
    exact .refl none _
  output_stop _ _ _ := .inl rfl
  discard _ unwinding _ := by cases unwinding <;> exact .refl none _

/-- A handler that binds nothing but engines which are confined, and changes no files in
doing so. -/
structure BindsConfined (handler : Handler ε σ) (files : σ → Workspace)
    (output? : σ → Handle → Option Path) : Prop where
  load : ∀ path state, ChangesOnly none (files state) (files (handler (.load path) state).2)
  confined : ∀ path state engine, (handler (.load path) state).1 = .ok engine →
    Confined handler files engine output?

theorem bindsConfined_handle (thread : Nat) :
    BindsConfined (Host.handle thread) Host.workspace fun _ _ => none where
  load path state := by
    have hload : (state.load path).2.workspace = state.workspace := by
      unfold Host.load
      split <;> rfl
    change ChangesOnly none state.workspace (state.load path).2.workspace
    rw [hload]
    exact .refl none _
  confined path state engine hload := by
    change (state.load path).1 = .ok engine at hload
    unfold Host.load at hload
    split at hload
    · cases hload
    · cases hload
      exact confined_library thread _

end EpsBridge
