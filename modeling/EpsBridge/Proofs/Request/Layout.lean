import EpsBridge.Proofs.Number.Decimal
import EpsBridge.Proofs.Request
import EpsBridge.Proofs.Request.Options

/-!
# What the arguments of a request give back

The arguments of a managed request stand in a fixed order (`LaidOut`), and each value is
written behind a flag of its own, or as it is.  So the arguments tell what was asked for:
the device tells the operation, and the places behind it hold its values
(`arguments_eq_iff`).  It does not matter what the input and the output look like, as
nothing is looked for among the arguments but at its place.
-/

namespace EpsBridge

theorem Device.flag_injective : Function.Injective Device.flag := by
  intro first second hsame
  have hname := (String.append_right_inj "-sDEVICE=").mp hsame
  cases first <;> cases second <;> first | rfl | exact absurd hname (by decide)

theorem Resolution.flag_injective : Function.Injective Resolution.flag := by
  intro first second hsame
  have hnumber := Decimal.ofNat_injective ((String.append_right_inj "-r").mp hsame)
  obtain ⟨dpi, positive⟩ := first
  obtain rfl : dpi = second.dpi := UInt32.toNat_inj.mp hnumber
  rfl

namespace Request

theorem qualityFlag_injective : Function.Injective qualityFlag := by
  intro first second hsame
  have hnumber := Decimal.ofInt_injective ((String.append_right_inj "-dJPEGQ=").mp hsame)
  exact Int32.toInt_inj.mp hnumber

theorem outputFlag_injective : Function.Injective outputFlag := by
  intro first second hsame
  exact (String.append_right_inj "-o").mp hsame

/-! ## The order of arguments -/

/-- The device of an operation, unless the caller chooses it. -/
def device? : Operation → Option Device
  | .toPng _ => some .png16m
  | .toJpeg _ _ => some .jpeg
  | .toPdf => some .pdfWrite
  | .measure => some .bbox
  | .custom _ => none

/-- The resolution of an operation, if it has one. -/
def resolution? : Operation → Option Resolution
  | .toPng resolution | .toJpeg resolution _ => some resolution
  | _ => none

/-- The arguments of a request stand in order. -/
structure LaidOut (request : Request) : Prop where
  opening : ∃ device rest, device? request.operation = some device ∧
    request.arguments.toList =
      "-dNOPAUSE" :: "-dBATCH" :: "-dSAFER" :: ("-sDEVICE=" ++ device.name) :: rest
  input : ∃ options, request.arguments.toList = options ++ [request.input]
  output : Renders request.operation →
    ∃ options, request.arguments.toList = options ++ ["-o" ++ request.output, request.input]
  resolution : ∀ resolution, resolution? request.operation = some resolution →
    ∃ before between, request.arguments.toList =
      before ++ ("-r" ++ Decimal.ofNat resolution.dpi.toNat) ::
        (between ++ ["-o" ++ request.output, request.input])

theorem laidOut_of_isManaged {request : Request} (hmanaged : IsManaged request.operation) :
    LaidOut request where
  opening := by
    obtain ⟨input, output, operation⟩ := request
    cases operation with
    | custom arguments => exact hmanaged.elim
    | toPng resolution | toJpeg resolution quality | toPdf | measure => exact ⟨_, _, rfl, rfl⟩
  input := ⟨request.options, arguments_of_isManaged hmanaged⟩
  output hrenders := by
    obtain ⟨flags, -, harguments⟩ := arguments_of_renders hrenders
    exact ⟨flags, harguments⟩
  resolution resolution hresolution := by
    obtain ⟨input, output, operation⟩ := request
    cases operation with
    | toPng found =>
        obtain rfl := Option.some.inj hresolution
        exact ⟨managed .png16m, [], rfl⟩
    | toJpeg found quality =>
        obtain rfl := Option.some.inj hresolution
        exact ⟨managed .jpeg ++ [qualityFlag quality], [], rfl⟩
    | toPdf | custom arguments | measure => cases hresolution

/-! ## Reading arguments back -/

/-- What stands behind the device. -/
def details (request : Request) : List String :=
  match request.operation with
  | .toPng resolution => [resolution.flag, outputFlag request.output, request.input]
  | .toJpeg resolution quality =>
    [qualityFlag quality, resolution.flag, outputFlag request.output, request.input]
  | .toPdf => [cropFlag, outputFlag request.output, request.input]
  | .custom _ => []
  | .measure => [request.input]

theorem arguments_eq_details {request : Request} (hmanaged : IsManaged request.operation) :
    ∃ device, device? request.operation = some device ∧
      request.arguments.toList = managed device ++ request.details := by
  obtain ⟨input, output, operation⟩ := request
  cases operation with
  | custom arguments => exact hmanaged.elim
  | toPng resolution | toJpeg resolution quality | toPdf | measure => exact ⟨_, rfl, rfl⟩

/-- Requests for the same.  A measurement has no output. -/
structure AsksSame (first second : Request) : Prop where
  operation : first.operation = second.operation
  input : first.input = second.input
  output : first.operation ≠ .measure → first.output = second.output

/-- What stands behind the same device tells requests apart. -/
theorem asksSame_of_details_eq {first second : Request} {device : Device}
    (hfirst : device? first.operation = some device)
    (hsecond : device? second.operation = some device) (hsame : first.details = second.details) :
    AsksSame first second := by
  obtain ⟨input, output, operation⟩ := first
  obtain ⟨otherInput, otherOutput, otherOperation⟩ := second
  cases operation with
  | custom arguments => cases hfirst
  | toPng resolution =>
      cases hfirst
      cases otherOperation <;> cases hsecond
      simp only [details, List.cons.injEq, and_true] at hsame
      obtain ⟨hresolution, houtput, hinput⟩ := hsame
      obtain rfl := Resolution.flag_injective hresolution
      exact ⟨rfl, hinput, fun _ => outputFlag_injective houtput⟩
  | toJpeg resolution quality =>
      cases hfirst
      cases otherOperation <;> cases hsecond
      simp only [details, List.cons.injEq, and_true] at hsame
      obtain ⟨hquality, hresolution, houtput, hinput⟩ := hsame
      obtain rfl := qualityFlag_injective hquality
      obtain rfl := Resolution.flag_injective hresolution
      exact ⟨rfl, hinput, fun _ => outputFlag_injective houtput⟩
  | toPdf =>
      cases hfirst
      cases otherOperation <;> cases hsecond
      simp only [details, List.cons.injEq, true_and, and_true] at hsame
      obtain ⟨houtput, hinput⟩ := hsame
      exact ⟨rfl, hinput, fun _ => outputFlag_injective houtput⟩
  | measure =>
      cases hfirst
      cases otherOperation <;> cases hsecond
      exact ⟨rfl, List.singleton_inj.mp hsame, fun hrenders => absurd rfl hrenders⟩

theorem arguments_eq_of_asksSame {first second : Request} (hmanaged : IsManaged first.operation)
    (hsame : AsksSame first second) : first.arguments = second.arguments := by
  obtain ⟨input, output, operation⟩ := first
  obtain ⟨otherInput, otherOutput, otherOperation⟩ := second
  obtain ⟨rfl, rfl, houtput⟩ := hsame
  cases operation with
  | custom arguments => exact hmanaged.elim
  | measure => rfl
  | toPng resolution | toJpeg resolution quality | toPdf =>
      obtain rfl := houtput nofun
      rfl

/-- **Arguments.**  The arguments of a managed request stand in order, and no managed request
has the same that asks for anything else, whatever inputs and outputs look like. -/
theorem arguments_eq_iff (request : Request) (hmanaged : IsManaged request.operation) :
    LaidOut request ∧ ∀ other : Request, IsManaged other.operation →
      (other.arguments = request.arguments ↔ AsksSame other request) := by
  refine ⟨laidOut_of_isManaged hmanaged, fun other hother => ⟨fun hsame => ?_, ?_⟩⟩
  · obtain ⟨device, hdevice, harguments⟩ := arguments_eq_details hmanaged
    obtain ⟨otherDevice, hotherDevice, hotherArguments⟩ := arguments_eq_details hother
    -- what every run on a device begins with has one length for all devices
    have hlists := congrArg Arguments.toList hsame
    rw [harguments, hotherArguments, managed, managed, List.append_assoc,
      List.append_assoc] at hlists
    obtain ⟨hflag, hdetails⟩ := List.cons.inj (List.append_cancel_left hlists)
    obtain rfl := Device.flag_injective hflag
    exact asksSame_of_details_eq hotherDevice hdevice hdetails
  · exact arguments_eq_of_asksSame hother

/-- An input that looks like an output, and an output that looks like a resolution. -/
theorem arguments_eq_iff_disguised :
    IsManaged (.toJpeg ⟨72, by decide⟩ (-1)) ∧ IsManaged (.toPng ⟨72, by decide⟩) ∧
      LaidOut ⟨"-o", "-r72", .toJpeg ⟨72, by decide⟩ (-1)⟩ ∧
      ((⟨"-o", "-r72", .toPng ⟨72, by decide⟩⟩ : Request).arguments =
          (⟨"-o", "-r72", .toJpeg ⟨72, by decide⟩ (-1)⟩ : Request).arguments ↔
        AsksSame ⟨"-o", "-r72", .toPng ⟨72, by decide⟩⟩
          ⟨"-o", "-r72", .toJpeg ⟨72, by decide⟩ (-1)⟩) := by
  obtain ⟨hlaidOut, hiff⟩ :=
    arguments_eq_iff ⟨"-o", "-r72", .toJpeg ⟨72, by decide⟩ (-1)⟩ trivial
  exact ⟨trivial, trivial, hlaidOut, hiff ⟨"-o", "-r72", .toPng ⟨72, by decide⟩⟩ trivial⟩

end Request

end EpsBridge
