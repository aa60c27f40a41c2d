import EpsBridge.Request

/-!
# The options among the arguments of a request

An engine takes an argument that begins with a dash for an option.  The arguments of
a managed request are the options that its operation calls for (`Request.options`),
with the input behind them, as it is.

So the input decides.  Where it begins with no dash, the options are those that
belong there, each kind in its number (`soleOptions_iff`).  Where it does, it is one
option more: a resolution for a PDF, a second device, a second quality.
-/

namespace EpsBridge

/-- Whether an argument begins with a text. -/
def beginsWith (beginning argument : String) : Bool :=
  (Text.after? beginning.toList argument.toList).isSome

/-- Whether an engine takes an argument for an option. -/
def isOption (argument : String) : Bool := beginsWith "-" argument

theorem after?_append (first second text : List Char) :
    Text.after? (first ++ second) text = (Text.after? first text).bind (Text.after? second) := by
  induction first generalizing text with
  | nil => rfl
  | cons key rest ih =>
      cases text with
      | nil => rfl
      | cons c text =>
          by_cases hkey : key = c
          · simpa [Text.after?, hkey] using ih text
          · simp [Text.after?, hkey]

/-- What begins with a text begins with every beginning of it. -/
theorem beginsWith_of_append {first second argument : String}
    (hbegins : beginsWith (first ++ second) argument = true) :
    beginsWith first argument = true := by
  rw [beginsWith, String.toList_append, after?_append] at hbegins
  rw [beginsWith]
  cases hfirst : Text.after? first.toList argument.toList with
  | none => rw [hfirst] at hbegins; cases hbegins
  | some _ => rfl

/-- An argument that is no option begins with nothing that begins with a dash. -/
theorem not_beginsWith_of_not_isOption {argument : String} (hoption : isOption argument = false)
    (rest : String) : beginsWith ("-" ++ rest) argument = false := by
  cases hbegins : beginsWith ("-" ++ rest) argument with
  | false => rfl
  | true => exact absurd (beginsWith_of_append hbegins) (by rw [← isOption, hoption]; decide)

namespace Request

/-- Whether the arguments of an operation are made here, and not by the caller. -/
def IsManaged : Operation → Prop
  | .toPng _ | .toJpeg _ _ | .toPdf | .measure => True
  | .custom _ => False

/-- The options that a request calls for. -/
def options (request : Request) : List String :=
  match request.operation with
  | .toPng resolution => managed .png16m ++ [resolution.flag, outputFlag request.output]
  | .toJpeg resolution quality =>
    managed .jpeg ++ [qualityFlag quality, resolution.flag, outputFlag request.output]
  | .toPdf => managed .pdfWrite ++ [cropFlag, outputFlag request.output]
  | .custom _ => []
  | .measure => managed .bbox

/-- The number of resolutions that an operation calls for. -/
def resolutionCount : Operation → Nat
  | .toPng _ | .toJpeg _ _ => 1
  | _ => 0

/-- The qualities that an operation calls for. -/
def qualityFlags : Operation → List String
  | .toJpeg _ quality => [qualityFlag quality]
  | _ => []

/-- The arguments of a managed request are its options and its input. -/
theorem arguments_of_isManaged {request : Request} (hmanaged : IsManaged request.operation) :
    request.arguments.toList = request.options ++ [request.input] := by
  obtain ⟨input, output, operation⟩ := request
  cases operation with
  | custom arguments => exact hmanaged.elim
  | toPng resolution | toJpeg resolution quality | toPdf | measure => simp [arguments, options]

/-! ## The flags and what they begin with -/

variable (resolution : Resolution) (quality : Int32) (output : String)

theorem beginsWith_outputFlag :
    beginsWith "-" (outputFlag output) = true ∧
      beginsWith "-sDEVICE=" (outputFlag output) = false ∧
      beginsWith "-r" (outputFlag output) = false ∧
      beginsWith "-dJPEGQ=" (outputFlag output) = false := by
  simp [beginsWith, outputFlag, Text.after?]

theorem beginsWith_flag :
    beginsWith "-" resolution.flag = true ∧ beginsWith "-sDEVICE=" resolution.flag = false ∧
      beginsWith "-r" resolution.flag = true ∧ beginsWith "-dJPEGQ=" resolution.flag = false := by
  simp [beginsWith, Resolution.flag, Text.after?]

theorem beginsWith_qualityFlag :
    beginsWith "-" (qualityFlag quality) = true ∧
      beginsWith "-sDEVICE=" (qualityFlag quality) = false ∧
      beginsWith "-r" (qualityFlag quality) = false ∧
      beginsWith "-dJPEGQ=" (qualityFlag quality) = true := by
  simp [beginsWith, qualityFlag, Text.after?]

/-! ## The options that belong to a request -/

/-- Flags that every managed run begins with: no resolution and no quality, and one
device among them. -/
theorem beginsWith_managed (device : Device) :
    (managed device).filter (beginsWith "-") = managed device ∧
      (managed device).countP (beginsWith "-sDEVICE=") = 1 ∧
      (managed device).countP (beginsWith "-r") = 0 ∧
      (managed device).filter (beginsWith "-dJPEGQ=") = [] := by
  cases device <;> decide

theorem filter_isOption_options (request : Request) :
    request.options.filter isOption = request.options := by
  obtain ⟨input, output, operation⟩ := request
  change List.filter (beginsWith "-") _ = _
  cases operation with
  | custom arguments => rfl
  | measure => exact (beginsWith_managed .bbox).1
  | toPdf =>
      rw [options, List.filter_append, (beginsWith_managed .pdfWrite).1]
      simp [(beginsWith_outputFlag output).1, show beginsWith "-" cropFlag = true by decide]
  | toPng resolution =>
      rw [options, List.filter_append, (beginsWith_managed .png16m).1]
      simp [(beginsWith_outputFlag output).1, (beginsWith_flag resolution).1]
  | toJpeg resolution quality =>
      rw [options, List.filter_append, (beginsWith_managed .jpeg).1]
      simp [(beginsWith_outputFlag output).1, (beginsWith_flag resolution).1,
        (beginsWith_qualityFlag quality).1]

/-- The options of a request select one device, set the resolution where there is one
to set, and set the quality that was asked for. -/
theorem kinds_options {request : Request} (hmanaged : IsManaged request.operation) :
    request.options.countP (beginsWith "-sDEVICE=") = 1 ∧
      request.options.countP (beginsWith "-r") = resolutionCount request.operation ∧
      request.options.filter (beginsWith "-dJPEGQ=") = qualityFlags request.operation := by
  obtain ⟨input, output, operation⟩ := request
  obtain ⟨-, hdeviceOutput, hresolutionOutput, hqualityOutput⟩ := beginsWith_outputFlag output
  cases operation with
  | custom arguments => exact hmanaged.elim
  | measure => exact (beginsWith_managed .bbox).2
  | toPdf =>
      obtain ⟨-, hdevice, hresolution, hquality⟩ := beginsWith_managed .pdfWrite
      have hcrop : beginsWith "-sDEVICE=" cropFlag = false ∧ beginsWith "-r" cropFlag = false ∧
          beginsWith "-dJPEGQ=" cropFlag = false := by decide
      simp [options, resolutionCount, qualityFlags, *]
  | toPng resolution =>
      obtain ⟨-, hdevice, hresolution, hquality⟩ := beginsWith_managed .png16m
      obtain ⟨-, hdeviceFlag, hresolutionFlag, hqualityFlag⟩ := beginsWith_flag resolution
      simp [options, resolutionCount, qualityFlags, *]
  | toJpeg resolution quality =>
      obtain ⟨-, hdevice, hresolution, hquality⟩ := beginsWith_managed .jpeg
      obtain ⟨-, hdeviceFlag, hresolutionFlag, hqualityFlag⟩ := beginsWith_flag resolution
      obtain ⟨-, hdeviceQuality, hresolutionQuality, hqualityQuality⟩ :=
        beginsWith_qualityFlag quality
      simp [options, resolutionCount, qualityFlags, *]

/-- The arguments of a request hold no option but its own. -/
structure SoleOptions (request : Request) : Prop where
  options : request.arguments.toList.filter isOption = request.options
  /-- The input is all that is no option. -/
  positional : request.arguments.toList.filter (fun argument => !isOption argument) =
    [request.input]
  device : request.arguments.toList.countP (beginsWith "-sDEVICE=") = 1
  resolution : request.arguments.toList.countP (beginsWith "-r") =
    resolutionCount request.operation
  quality : request.arguments.toList.filter (beginsWith "-dJPEGQ=") =
    qualityFlags request.operation

/-- **Options.**  The arguments of a managed request hold no option but its own if and
only if the input begins with no dash, whatever the output, the resolution and the
quality are. -/
theorem soleOptions_iff (request : Request) (hmanaged : IsManaged request.operation) :
    SoleOptions request ↔ isOption request.input = false := by
  have harguments := arguments_of_isManaged hmanaged
  constructor
  · intro hsole
    have hoptions := hsole.options
    rw [harguments, List.filter_append, filter_isOption_options] at hoptions
    cases hinput : isOption request.input with
    | false => rfl
    | true => simp [hinput] at hoptions
  · intro hinput
    obtain ⟨hdevice, hresolution, hquality⟩ := kinds_options hmanaged
    have hpositional : request.options.filter (fun argument => !isOption argument) = [] := by
      rw [← filter_isOption_options, List.filter_filter]
      simp
    -- the input begins with none of the flags, so each list ends where the options end
    have hdeviceInput := not_beginsWith_of_not_isOption hinput "sDEVICE="
    have hresolutionInput := not_beginsWith_of_not_isOption hinput "r"
    have hqualityInput := not_beginsWith_of_not_isOption hinput "dJPEGQ="
    constructor
    · simp [harguments, filter_isOption_options, hinput]
    · simp [harguments, hpositional, hinput]
    · rw [harguments, List.countP_append, hdevice, List.countP_singleton]
      simpa using hdeviceInput
    · rw [harguments, List.countP_append, hresolution, List.countP_singleton]
      simpa using hresolutionInput
    · rw [harguments, List.filter_append, hquality]
      simpa using hqualityInput

/-- An input in a directory is no option, even where its name begins with a dash. -/
theorem soleOptions_iff_enclosed :
    IsManaged (.toJpeg ⟨150, by decide⟩ (-5)) ∧
      SoleOptions ⟨"./-r300", "-sDEVICE=bbox", .toJpeg ⟨150, by decide⟩ (-5)⟩ :=
  ⟨trivial, (soleOptions_iff ⟨"./-r300", "-sDEVICE=bbox", .toJpeg ⟨150, by decide⟩ (-5)⟩
    trivial).mpr (by decide)⟩

/-- A file with the name of a resolution is one, and a PDF then has a resolution. -/
theorem not_soleOptions_dashed : ¬ SoleOptions ⟨"-r300", "a.pdf", .toPdf⟩ := by
  intro hsole
  exact absurd hsole.resolution (by decide)

end Request

end EpsBridge
