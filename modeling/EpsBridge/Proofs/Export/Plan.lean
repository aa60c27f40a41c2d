import EpsBridge.Export.Plan
import EpsBridge.Proofs.Number.Decimal
import EpsBridge.Proofs.Path
import EpsBridge.Proofs.Text.Lowercase
import Mathlib.Data.List.Nodup
import Mathlib.Data.List.Perm.Subperm

/-!
# Planned outputs lie apart

The names that an input may get are its stem with different ends, so their lower-case
forms are different, and one more than there are names taken: one of them is free
(`freeName_spec`).  So the names of a plan are pairwise different
(`nodup_namesFrom`).  No name holds a slash, whatever its input is called, so every output
lies in the directory under its own name, and no two outputs lie in one place
(`target?_ne_of_plan`).
-/

namespace EpsBridge.Export

/-! ## Names of one input -/

/-- What an output name adds to the stem: the extension, with a number or without. -/
def nameEnd (format : Format) : Option Nat → String
  | none => "." ++ format.extension
  | some number => "-" ++ Decimal.ofNat number ++ "." ++ format.extension

/-- The ends of the names that an output may have. -/
def endChoices (taken : Nat) : List (Option Nat) :=
  none :: (List.range taken).map fun index => some (index + 2)

theorem nameChoices_eq_map (stem : String) (format : Format) (taken : Nat) :
    nameChoices stem format taken =
      (endChoices taken).map fun number? => stem ++ nameEnd format number? := by
  rw [nameChoices, endChoices, List.map_cons, List.map_map]
  refine congrArg₂ List.cons ?_ (List.map_congr_left fun index _ => ?_)
  · exact String.append_assoc
  · simp [numberedName, nameEnd, String.append_assoc]

theorem isLower_nameEnd (format : Format) (number? : Option Nat) :
    Text.IsLower (nameEnd format number?) := by
  have hextension : Text.IsLower ("." ++ format.extension) := by
    cases format <;> decide
  cases number? with
  | none => exact hextension
  | some number =>
      have hdash : Text.IsLower "-" := by decide
      have hnumber := hdash.append (Text.isLower_decimal number)
      rw [nameEnd, String.append_assoc]
      exact hnumber.append hextension

theorem nameEnd_injective (format : Format) : Function.Injective (nameEnd format) := by
  have hdifferent : ∀ number, nameEnd format none ≠ nameEnd format (some number) := by
    intro number hsame
    have hfirst := congrArg (fun text => text.toList.head?) hsame
    simp [nameEnd, String.toList_append] at hfirst
  intro first second hsame
  cases first with
  | none =>
      cases second with
      | none => rfl
      | some number => exact absurd hsame (hdifferent number)
  | some number =>
      cases second with
      | none => exact absurd hsame.symm (hdifferent number)
      | some other =>
          simp only [nameEnd, String.append_assoc] at hsame
          have hnumbers := (String.append_right_inj "-").mp hsame
          rw [Decimal.ofNat_injective ((String.append_left_inj _).mp hnumbers)]

theorem nodup_lowercase_nameChoices (stem : String) (format : Format) (taken : Nat) :
    ((nameChoices stem format taken).map Text.lowercase).Nodup := by
  have hends : (endChoices taken).Nodup := by
    refine List.nodup_cons.mpr ⟨by simp, ?_⟩
    refine List.Nodup.map (fun first second hsame => ?_) List.nodup_range
    exact Nat.add_right_cancel (Option.some.inj hsame)
  rw [nameChoices_eq_map, List.map_map]
  refine List.Nodup.map (fun first second hsame => ?_) hends
  have hsame := Text.eq_of_lowercase_eq (isLower_nameEnd format first)
    (isLower_nameEnd format second) hsame
  exact nameEnd_injective format hsame

/-- There is always a name that is free. -/
theorem exists_free (stem : String) (format : Format) (taken : List String) :
    ∃ name ∈ nameChoices stem format taken.length, Text.lowercase name ∉ taken := by
  by_contra hnone
  have hsubset : (nameChoices stem format taken.length).map Text.lowercase ⊆ taken := by
    intro lower hlower
    obtain ⟨name, hname, rfl⟩ := List.mem_map.mp hlower
    by_contra hfree
    exact hnone ⟨name, hname, hfree⟩
  -- the choices are one more than there are names taken
  have hlength := ((nodup_lowercase_nameChoices stem format taken.length).subperm hsubset).length_le
  rw [List.length_map, nameChoices, List.length_cons, List.length_map, List.length_range] at hlength
  exact absurd hlength (Nat.not_succ_le_self _)

/-- The name of an output is the stem with an end, and free. -/
theorem freeName_spec (stem : String) (format : Format) (taken : List String) :
    freeName stem format taken ∈ nameChoices stem format taken.length ∧
      Text.lowercase (freeName stem format taken) ∉ taken := by
  unfold freeName
  obtain ⟨name, hname, hfree⟩ := exists_free stem format taken
  cases hfound : (nameChoices stem format taken.length).find? fun name =>
      !taken.contains (Text.lowercase name) with
  | none =>
      have htaken := List.find?_eq_none.mp hfound name hname
      exact absurd (by simpa using hfree) htaken
  | some found =>
      have hsatisfies := List.find?_some hfound
      exact ⟨List.mem_of_find?_eq_some hfound, by simpa using hsatisfies⟩

/-! ## Names without slashes -/

/-- Whether a text can be the name of a file. -/
def IsName (name : String) : Prop := '/' ∉ name.toList ∧ name ≠ ""

theorem slash_not_mem_stemOf (input : Path) : '/' ∉ (stemOf input).toList := by
  have hdefault : '/' ∉ defaultStem.toList := by decide
  unfold stemOf
  split
  · next bytes hstem =>
      split
      · exact hdefault
      · exact Utf8.not_mem_decode (by decide) (by decide) (Path.slash_not_mem_fileStem hstem)
  · exact hdefault

theorem slash_not_mem_nameEnd (format : Format) (number? : Option Nat) :
    '/' ∉ (nameEnd format number?).toList := by
  have hextension : '/' ∉ ("." ++ format.extension).toList := by
    cases format <;> decide
  cases number? with
  | none => exact hextension
  | some number =>
      have hnumber : '/' ∉ (Decimal.ofNat number).toList := by
        intro hmem
        rw [Decimal.ofNat, Nat.toList_repr] at hmem
        exact absurd (Nat.isDigit_of_mem_toDigits (by decide) (by decide) hmem) (by decide)
      rw [nameEnd, String.append_assoc, String.toList_append, String.toList_append,
        List.mem_append, List.mem_append]
      rintro ((hdash | hdigits) | hrest)
      · exact absurd hdash (by decide)
      · exact hnumber hdigits
      · exact hextension hrest

theorem isName_freeName (input : Path) (format : Format) (taken : List String) :
    IsName (freeName (stemOf input) format taken) := by
  obtain ⟨hchoice, -⟩ := freeName_spec (stemOf input) format taken
  rw [nameChoices_eq_map] at hchoice
  obtain ⟨number?, -, hname⟩ := List.mem_map.mp hchoice
  rw [← hname]
  constructor
  · rw [String.toList_append, List.mem_append]
    rintro (hstem | hend)
    · exact slash_not_mem_stemOf input hstem
    · exact slash_not_mem_nameEnd format number? hend
  · intro hempty
    have hlength := congrArg String.length hempty
    cases number? <;> simp [nameEnd] at hlength

/-! ## Names of a plan -/

/-- The names that a plan gives to some inputs. -/
def namesFrom (format : Format) : List String → List Path → List String
  | _, [] => []
  | taken, input :: rest =>
    let name := freeName (stemOf input) format taken
    name :: namesFrom format (Text.lowercase name :: taken) rest

/-- A plan pairs each input with its name in the directory. -/
theorem planFrom_eq_zip (directory : Path) (format : Format) (taken : List String)
    (inputs : List Path) :
    planFrom directory format taken inputs =
      inputs.zip ((namesFrom format taken inputs).map fun name =>
        directory.join (.ofString name)) := by
  induction inputs generalizing taken with
  | nil => rfl
  | cons input rest ih =>
      rw [planFrom, ih]
      rfl

theorem length_namesFrom (format : Format) (taken : List String) (inputs : List Path) :
    (namesFrom format taken inputs).length = inputs.length := by
  induction inputs generalizing taken with
  | nil => rfl
  | cons input rest ih => exact congrArg (· + 1) (ih _)

theorem isName_of_mem_namesFrom {format : Format} {taken : List String} {inputs : List Path}
    {name : String} (hname : name ∈ namesFrom format taken inputs) : IsName name := by
  induction inputs generalizing taken with
  | nil => cases hname
  | cons input rest ih =>
      rcases List.mem_cons.mp hname with rfl | hrest
      · exact isName_freeName input format taken
      · exact ih hrest

theorem not_mem_taken {format : Format} {taken : List String} {inputs : List Path}
    {name : String} (hname : name ∈ namesFrom format taken inputs) :
    Text.lowercase name ∉ taken := by
  induction inputs generalizing taken with
  | nil => cases hname
  | cons input rest ih =>
      rcases List.mem_cons.mp hname with rfl | hrest
      · exact (freeName_spec _ format taken).2
      · exact List.not_mem_of_not_mem_cons (ih hrest)

/-- No two names of a plan are the same, even without regard to case. -/
theorem nodup_namesFrom (format : Format) (taken : List String) (inputs : List Path) :
    ((namesFrom format taken inputs).map Text.lowercase).Nodup := by
  induction inputs generalizing taken with
  | nil => exact List.nodup_nil
  | cons input rest ih =>
      refine List.nodup_cons.mpr ⟨fun hmem => ?_, ih _⟩
      obtain ⟨name, hname, hsame⟩ := List.mem_map.mp hmem
      exact not_mem_taken hname (hsame ▸ List.mem_cons_self)

/-! ## Places -/

/-- What is written along an output of a plan bears the name that the plan gave. -/
theorem head?_of_target?_output {store : FileStore} {here place : Location} {directory : Path}
    {name : String} (hname : IsName name)
    (htarget : store.target? here (directory.join (.ofString name)) = some place) :
    place.head? = some (Utf8.encode name) := by
  obtain ⟨hslash, hempty⟩ := hname
  refine FileStore.head?_of_target?_join ?_ (Utf8.not_mem_encode (by decide) hslash) htarget
  intro hnone
  exact hempty (Utf8.encode_injective (hnone.trans (Utf8.encode_eq_flatMap "").symm))

/-- What stands at a position of a plan: the input there, and a name in the directory. -/
theorem exists_name_of_plan {inputs : List Path} {directory : Path} {format : Format}
    {position : Nat} {input output : Path}
    (hplan : (plan inputs directory format)[position]? = some (input, output)) :
    inputs[position]? = some input ∧
      ∃ name, (namesFrom format [] inputs)[position]? = some name ∧
        directory.join (.ofString name) = output := by
  rw [plan, planFrom_eq_zip, List.getElem?_zip_eq_some] at hplan
  obtain ⟨hinput, houtput⟩ := hplan
  rw [List.getElem?_map, Option.map_eq_some_iff] at houtput
  exact ⟨hinput, houtput⟩

/-- No two outputs of a plan lie in one place. -/
theorem target?_ne_of_plan {store : FileStore} {here place : Location} {inputs : List Path}
    {directory : Path} {format : Format} {first second : Nat} {input other output another : Path}
    (hfirst : (plan inputs directory format)[first]? = some (input, output))
    (hsecond : (plan inputs directory format)[second]? = some (other, another))
    (hdifferent : first ≠ second) (hplace : store.target? here output = some place) :
    store.target? here another ≠ some place := by
  obtain ⟨-, name, hname, rfl⟩ := exists_name_of_plan hfirst
  obtain ⟨-, otherName, hother, rfl⟩ := exists_name_of_plan hsecond
  intro hsame
  -- one place has one name, and the two positions have different ones
  have hisName := isName_of_mem_namesFrom (List.mem_of_getElem? hname)
  have hhead := head?_of_target?_output hisName hplace
  have hotherHead :=
    head?_of_target?_output (isName_of_mem_namesFrom (List.mem_of_getElem? hother)) hsame
  have hnames : name = otherName :=
    Utf8.encode_injective (Option.some.inj (hhead.symm.trans hotherHead))
  have hnodup := List.Nodup.of_map _ (nodup_namesFrom format [] inputs)
  obtain ⟨hlength, -⟩ := List.getElem?_eq_some_iff.mp hname
  refine hdifferent ((List.getElem?_inj hlength hnodup).mp ?_)
  rw [hname, hother, hnames]

end EpsBridge.Export
