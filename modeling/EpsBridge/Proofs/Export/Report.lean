import EpsBridge.Export.File
import EpsBridge.Proofs.Trace

/-!
# Records of exports

A record holds paths as text, so what names a path that is not UTF-8 has no record, and
everything else has one (`Finished.isSome_toJson?_iff`, `Report.isSome_toJson?_iff`).  What a
finished export names are the paths that were asked for (`paths_of_run_exportFile`).
-/

namespace EpsBridge

/-- A path that can be written in a record. -/
def Path.Writable (path : Path) : Prop := path.text?.isSome = true

instance (path : Path) : Decidable path.Writable :=
  inferInstanceAs (Decidable (path.text?.isSome = true))

theorem Path.isSome_toJson?_iff (path : Path) : path.toJson?.isSome = true ↔ path.Writable := by
  rw [toJson?, Option.isSome_map, Writable]

namespace Export

/-- The paths that a finished export names. -/
def Finished.paths (finished : Finished) : List Path := [finished.input, finished.output]

/-- The paths that an item names. -/
def Item.paths (item : Item) : List Path :=
  item.input :: item.output :: (item.finished.map Finished.paths).getD []

/-- The paths that a report names. -/
def Report.paths (report : Report) : List Path := report.items.flatMap Item.paths

theorem Finished.isSome_toJson?_iff (finished : Finished) :
    finished.toJson?.isSome = true ↔ ∀ path ∈ finished.paths, path.Writable := by
  simp only [paths, List.forall_mem_cons, ← Path.isSome_toJson?_iff]
  unfold toJson?
  cases finished.input.toJson? <;> cases finished.output.toJson? <;> simp

theorem Item.isSome_toJson?_iff (item : Item) :
    item.toJson?.isSome = true ↔ ∀ path ∈ item.paths, path.Writable := by
  rw [paths, List.forall_mem_cons, List.forall_mem_cons, ← Path.isSome_toJson?_iff,
    ← Path.isSome_toJson?_iff]
  unfold toJson?
  cases item.finished with
  | none => cases item.input.toJson? <;> cases item.output.toJson? <;> simp
  | some finished =>
      simp only [Option.map_some, Option.getD_some, ← finished.isSome_toJson?_iff]
      cases finished.toJson? <;> cases item.input.toJson? <;> cases item.output.toJson? <;> simp

theorem isSome_mapM_iff {α β : Type} (write : α → Option β) (values : List α) :
    (values.mapM write).isSome = true ↔ ∀ value ∈ values, (write value).isSome = true := by
  induction values with
  | nil => simp
  | cons value rest ih =>
      rw [List.mapM_cons, List.forall_mem_cons, ← ih]
      cases write value <;> cases rest.mapM write <;> simp

theorem Report.isSome_toJson?_iff (report : Report) :
    report.toJson?.isSome = true ↔ ∀ path ∈ report.paths, path.Writable := by
  have hitems : report.toJson?.isSome = (report.items.mapM Item.toJson?).isSome := by
    unfold toJson?
    cases report.items.mapM Item.toJson? <;> rfl
  rw [hitems, isSome_mapM_iff, paths, List.forall_mem_flatMap]
  exact forall₂_congr fun item _ => item.isSome_toJson?_iff

section Paths

open Program

variable {ε σ : Type} {handler : Handler ε σ} {bridge : Bridge ε} {input output : Path}
  {format : Format} {options : Options} {state after : σ} {finished : Finished}

theorem paths_of_run_exportWork
    (hrun : (exportWork bridge input output format options).run handler state =
      (.ok finished, after)) : finished.paths = [input, output] := by
  simp only [exportWork, perform, run_bind, run_act, run_done] at hrun
  split at hrun
  · cases hrun
  · simp only [run_bind, run_act, run_done] at hrun
    split at hrun
    · cases hrun
    · simp only [run_bind, run_act, run_done, run_pure] at hrun
      generalize ((removeUnlessOk _ _).run handler _).1 = outcome at hrun
      cases outcome with
      | ok bytes =>
          cases hrun
          rfl
      | error error => cases hrun
      | panic message => cases hrun

/-- A finished export names the paths that were asked for. -/
theorem paths_of_run_exportFile
    (hrun : (exportFile bridge input output format options).run handler state =
      (.ok finished, after)) : finished.paths = [input, output] := by
  rw [exportFile, run_bind] at hrun
  rcases hwork : (exportWork bridge input output format options).run handler state with
    ⟨outcome, ended⟩
  rw [hwork] at hrun
  cases outcome with
  | ok found =>
      cases hrun
      exact paths_of_run_exportWork hwork
  | error error => cases hrun
  | panic message => cases hrun

end Paths

end Export

end EpsBridge
