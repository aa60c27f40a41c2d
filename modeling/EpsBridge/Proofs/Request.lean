import EpsBridge.Engine.Output
import EpsBridge.Request

/-!
# The output that arguments name

Among the arguments of a rendering, the output flag is the only one in front of the
input that begins with `-o`.  So the output of a rendering is what an engine takes
for its output, even where the input looks like an output flag.
-/

namespace EpsBridge

/-- Flags that are no output leave the output to what follows them. -/
theorem firstOutput?_append {flags : List String}
    (hflags : ∀ flag ∈ flags, outputOf? flag = none) (rest : List String) :
    firstOutput? (flags ++ rest) = firstOutput? rest := by
  rw [firstOutput?, List.findSome?_append, List.findSome?_eq_none_iff.mpr hflags]
  rfl

namespace Request

theorem outputOf?_outputFlag (output : String) :
    outputOf? (outputFlag output) = some (.ofString output) := by
  simp [outputOf?, outputFlag, Text.after?]

theorem outputOf?_managed (device : Device) : ∀ flag ∈ managed device, outputOf? flag = none := by
  cases device <;> decide

theorem outputOf?_flag (resolution : Resolution) : outputOf? resolution.flag = none := by
  simp [outputOf?, Resolution.flag, Text.after?]

theorem outputOf?_qualityFlag (quality : Int32) : outputOf? (qualityFlag quality) = none := by
  simp [outputOf?, qualityFlag, Text.after?]

theorem outputOf?_cropFlag : outputOf? cropFlag = none := by decide

/-- Whether an operation renders to a file. -/
def Renders : Operation → Prop
  | .toPng _ | .toJpeg _ _ | .toPdf => True
  | .custom _ | .measure => False

/-- A rendering has an output flag behind flags that are none, whatever its input. -/
theorem arguments_of_renders {request : Request} (hrenders : Renders request.operation) :
    ∃ flags, (∀ flag ∈ flags, outputOf? flag = none) ∧
      request.arguments.toList = flags ++ [outputFlag request.output, request.input] := by
  rcases request with ⟨input, output, resolution | ⟨resolution, quality⟩ | _ | arguments | _⟩
  · refine ⟨managed .png16m ++ [resolution.flag], ?_, by simp [arguments]⟩
    rw [List.forall_mem_append, List.forall_mem_singleton]
    exact ⟨outputOf?_managed .png16m, outputOf?_flag resolution⟩
  · refine ⟨managed .jpeg ++ [qualityFlag quality, resolution.flag], ?_, by simp [arguments]⟩
    rw [List.forall_mem_append, List.forall_mem_cons, List.forall_mem_singleton]
    exact ⟨outputOf?_managed .jpeg, outputOf?_qualityFlag quality, outputOf?_flag resolution⟩
  · refine ⟨managed .pdfWrite ++ [cropFlag], ?_, by simp [arguments]⟩
    rw [List.forall_mem_append, List.forall_mem_singleton]
    exact ⟨outputOf?_managed .pdfWrite, outputOf?_cropFlag⟩
  · exact hrenders.elim
  · exact hrenders.elim

/-- The output of a rendering is the first that its arguments name. -/
theorem firstOutput?_arguments {request : Request} (hrenders : Renders request.operation)
    (program : String) (hprogram : outputOf? program = none) :
    firstOutput? (program :: request.arguments.toList) = some (.ofString request.output) := by
  obtain ⟨flags, hflags, harguments⟩ := arguments_of_renders hrenders
  rw [harguments, ← List.cons_append,
    firstOutput?_append (List.forall_mem_cons.mpr ⟨hprogram, hflags⟩), firstOutput?,
    List.findSome?_cons, outputOf?_outputFlag]

end Request

end EpsBridge
