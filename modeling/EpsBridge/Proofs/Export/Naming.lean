import EpsBridge.Proofs.Export.Plan

/-!
# Which names a plan gives

A plan picks each name from a list of choices that is long enough.  Here the names are
described without that list.  `Chosen` says which name is right, given those that are taken:
the plain one if it is free, and otherwise the one with the least number that makes it so.
`Tries` tries the plain name, then the numbers from two on, for as long as the name in hand
is taken, and knows of no limit.

The choice is the right one (`chosen_freeName`), and trying comes to it (`tries_of_chosen`).
Its number is at most one more than the names that are taken, so it is a number of 32 bits
in any batch that has fewer inputs than there are such numbers.
-/

namespace EpsBridge.Export

/-! ## Stems -/

/-- The stem of a file is never empty. -/
theorem ne_nil_of_fileStem? {path : Path} {stem : List UInt8}
    (hstem : path.fileStem? = some stem) : stem ≠ [] := by
  obtain ⟨name, hname, rfl⟩ := Option.map_eq_some_iff.mp hstem
  have hne : name ≠ [] := by
    rintro rfl
    -- nothing that is empty is a step of a path
    have hstep : Path.Component.name [] ∈ path.components := by
      unfold Path.fileName? at hname
      split at hname
      · next hlast =>
          cases hname
          exact List.mem_of_getLast? hlast
      · cases hname
    rw [Path.components, List.mem_append] at hstep
    rcases hstep with hfirst | hrest
    · split at hfirst
      · cases List.mem_singleton.mp hfirst
      · split at hfirst
        · cases List.mem_singleton.mp hfirst
        · cases hfirst
    · obtain ⟨segment, -, hsegment⟩ := List.mem_filterMap.mp hrest
      unfold Path.step? at hsegment
      split at hsegment
      · cases hsegment
      · next hkept =>
          split at hsegment
          · cases hsegment
          · cases hsegment
            exact hkept rfl
  unfold Path.splitName
  dsimp only
  split
  · exact hne
  · next hcut => exact fun hempty => hcut (List.reverse_eq_nil_iff.mp hempty)

/-- An input gives its output the stem of its file, as text, if it has one. -/
theorem stemOf_eq (input : Path) :
    stemOf input = (input.fileStem?.map Utf8.decode).getD defaultStem := by
  unfold stemOf
  split
  · next bytes hstem =>
      rw [hstem, if_neg (by simpa using ne_nil_of_fileStem? hstem)]
      rfl
  · next hnone =>
      rw [hnone]
      rfl

/-! ## The right name -/

/-- The name for a stem, given the lower-case forms of the names that are taken. -/
inductive Chosen (stem : String) (format : Format) (taken : List String) : String → Prop
  | plain (hfree : Text.lowercase (plainName stem format) ∉ taken) :
      Chosen stem format taken (plainName stem format)
  /-- The least number from two on that makes the name a free one. -/
  | numbered {number : Nat} (htaken : Text.lowercase (plainName stem format) ∈ taken)
      (htwo : 2 ≤ number) (hle : number ≤ taken.length + 1)
      (hfree : Text.lowercase (numberedName stem format number) ∉ taken)
      (hleast : ∀ smaller, 2 ≤ smaller → smaller < number →
        Text.lowercase (numberedName stem format smaller) ∈ taken) :
      Chosen stem format taken (numberedName stem format number)

section Chosen

variable {stem name : String} {format : Format} {taken other : List String}

/-- The plain name is used exactly when it is free. -/
theorem Chosen.eq_plainName_iff (hchosen : Chosen stem format taken name) :
    name = plainName stem format ↔ Text.lowercase (plainName stem format) ∉ taken := by
  cases hchosen with
  | plain hfree => exact iff_of_true rfl hfree
  | numbered htaken _ _ hfree _ =>
      refine iff_of_false (fun hsame => ?_) (not_not_intro htaken)
      rw [hsame] at hfree
      exact hfree htaken

/-- In which order names were taken does not matter. -/
theorem Chosen.congr (hmem : ∀ lower, lower ∈ taken ↔ lower ∈ other)
    (hlength : taken.length = other.length) (hchosen : Chosen stem format taken name) :
    Chosen stem format other name := by
  cases hchosen with
  | plain hfree => exact .plain (mt (hmem _).mpr hfree)
  | numbered htaken htwo hle hfree hleast =>
      exact .numbered ((hmem _).mp htaken) htwo (hlength ▸ hle) (mt (hmem _).mpr hfree)
        fun smaller hsmaller hless => (hmem _).mp (hleast smaller hsmaller hless)

/-- The first choice that is free is the right one. -/
theorem chosen_freeName (stem : String) (format : Format) (taken : List String) :
    Chosen stem format taken (freeName stem format taken) := by
  obtain ⟨name, hname, hfree⟩ := exists_free stem format taken
  have hsome : ((nameChoices stem format taken.length).find? fun choice =>
      !taken.contains (Text.lowercase choice)).isSome = true :=
    List.find?_isSome.mpr ⟨name, hname, by simpa using hfree⟩
  obtain ⟨found, hfound⟩ := Option.isSome_iff_exists.mp hsome
  rw [freeName, hfound, Option.getD_some]
  obtain ⟨hfree, index, hindex, rfl, hbefore⟩ := List.find?_eq_some_iff_getElem.mp hfound
  simp only [List.contains_eq_mem, decide_eq_false_iff_not, Bool.not_eq_eq_eq_not, Bool.not_true,
    Bool.not_false, decide_eq_true_eq] at hfree hbefore
  cases index with
  | zero => exact .plain hfree
  | succ index =>
      -- the choices before this one are the plain name and the smaller numbers
      have hnumbered : ∀ smaller (hsmaller : smaller + 1 < (nameChoices stem format
          taken.length).length), (nameChoices stem format taken.length)[smaller + 1] =
            numberedName stem format (smaller + 2) := by
        intro smaller hsmaller
        simp [nameChoices]
      have hlength : index < taken.length := by simpa [nameChoices] using hindex
      rw [hnumbered index hindex] at hfree ⊢
      refine .numbered (hbefore 0 (Nat.zero_lt_succ index)) (by omega) (by omega) hfree ?_
      intro smaller htwo hless
      have htaken := hbefore (smaller - 2 + 1) (by omega)
      rwa [hnumbered, Nat.sub_add_cancel htwo] at htaken

end Chosen

/-! ## Trying names -/

/-- Trying a name and, for as long as the name in hand is taken, the one with the next
number.  Numbers have 32 bits and a sign. -/
inductive Tries (stem : String) (format : Format) (taken : List String) :
    String → Int32 → String → Prop
  | free {name : String} {next : Int32} (hfree : Text.lowercase name ∉ taken) :
      Tries stem format taken name next name
  | taken {name last : String} {next : Int32} (htaken : Text.lowercase name ∈ taken)
      (hrest : Tries stem format taken
        (stem ++ "-" ++ Decimal.ofInt32 next ++ "." ++ format.extension) (next + 1) last) :
      Tries stem format taken name next last

section Tries

variable {stem name : String} {format : Format} {taken : List String}

theorem ofInt32_ofNat {number : Nat} (hsmall : number < 2147483648) :
    Decimal.ofInt32 (Int32.ofNat number) = Decimal.ofNat number := by
  rw [Decimal.ofInt32, Int32.toInt_ofNat_of_lt hsmall]
  rfl

/-- From a number on, trying comes to the first one that makes the name free. -/
theorem tries_numberedName {number : Nat} (hsmall : number < 2147483648)
    (hfree : Text.lowercase (numberedName stem format number) ∉ taken) (distance : Nat)
    (hdistance : distance ≤ number)
    (htaken : ∀ smaller, number - distance ≤ smaller → smaller < number →
      Text.lowercase (numberedName stem format smaller) ∈ taken) :
    Tries stem format taken (numberedName stem format (number - distance))
      (Int32.ofNat (number - distance) + 1) (numberedName stem format number) := by
  induction distance with
  | zero => exact .free hfree
  | succ distance ih =>
      have hnext : number - (distance + 1) + 1 = number - distance := by omega
      have hrest := ih (by omega) fun smaller hsmaller => htaken smaller (by omega)
      refine .taken (htaken _ (Nat.le_refl _) (by omega)) ?_
      have hcount : Int32.ofNat (number - (distance + 1)) + 1 = Int32.ofNat (number - distance) := by
        rw [← hnext, Int32.ofNat_add]
        rfl
      rw [hcount, ofInt32_ofNat (by omega)]
      exact hrest

/-- Trying comes to the right name. -/
theorem tries_of_chosen (hfew : taken.length + 1 < 2147483648)
    (hchosen : Chosen stem format taken name) :
    Tries stem format taken (plainName stem format) 2 name := by
  cases hchosen with
  | plain hfree => exact .free hfree
  | @numbered number htaken htwo hle hfree hleast =>
      have hstart : number - (number - 2) = 2 := by omega
      have hrest := tries_numberedName (by omega) hfree (number - 2) (by omega) (by
        rw [hstart]
        exact hleast)
      rw [hstart] at hrest
      exact .taken htaken hrest

end Tries

/-! ## Names of a plan -/

/-- The name that is due for a stem, given those that are taken. -/
structure Due (stem : String) (format : Format) (taken : List String) (name : String) :
    Prop where
  chosen : Chosen stem format taken name
  plain : name = plainName stem format ↔ Text.lowercase (plainName stem format) ∉ taken
  tried : Tries stem format taken (plainName stem format) 2 name

/-- The names that some inputs are to have, in their order. -/
structure Named (inputs : List Path) (format : Format) (names : List String) : Prop where
  length : names.length = inputs.length
  /-- No two of them are the same, even without regard to case. -/
  apart : (names.map Text.lowercase).Nodup
  /-- The names before it, whatever they were due to, are taken. -/
  due : ∀ (position : Nat) (input : Path) (name : String), inputs[position]? = some input →
    names[position]? = some name →
    Due ((input.fileStem?.map Utf8.decode).getD "output") format
      ((names.take position).map Text.lowercase) name

theorem chosen_namesFrom {format : Format} {taken : List String} {inputs : List Path}
    {position : Nat} {input : Path} {name : String} (hinput : inputs[position]? = some input)
    (hname : (namesFrom format taken inputs)[position]? = some name) :
    Chosen (stemOf input) format
      (((namesFrom format taken inputs).take position).map Text.lowercase ++ taken) name := by
  induction inputs generalizing taken position with
  | nil => cases hinput
  | cons first rest ih =>
      cases position with
      | zero =>
          cases hinput
          cases hname
          exact chosen_freeName _ format taken
      | succ position =>
          refine (ih hinput hname).congr (fun lower => ?_) ?_
          · simp only [namesFrom, List.take_succ_cons, List.map_cons, List.cons_append,
              List.mem_append, List.mem_cons]
            exact or_left_comm
          · simp only [namesFrom, List.take_succ_cons, List.map_cons, List.cons_append,
              List.length_append, List.length_cons]
            omega

/-- **A plan gives every input the name that is due to it.**  There is one name for each
input, in their order: its stem with the extension, or with the least number that is free,
whatever names the inputs before it were given. -/
theorem named_plan (inputs : List Path) (hfew : inputs.length < 2147483648) (directory : Path)
    (format : Format) :
    ∃ names, Named inputs format names ∧ plan inputs directory format =
      inputs.zip (names.map fun name => directory.join (.ofString name)) := by
  refine ⟨namesFrom format [] inputs, ?_, planFrom_eq_zip directory format [] inputs⟩
  constructor
  case length => exact length_namesFrom format [] inputs
  case apart => exact nodup_namesFrom format [] inputs
  case due =>
    intro position input name hinput hname
    have hchosen := chosen_namesFrom hinput hname
    rw [List.append_nil, stemOf_eq] at hchosen
    obtain ⟨hposition, -⟩ := List.getElem?_eq_some_iff.mp hinput
    refine ⟨hchosen, hchosen.eq_plainName_iff, tries_of_chosen ?_ hchosen⟩
    rw [List.length_map, List.length_take]
    omega

/-- Three inputs with the stems `fig`, `fig-2` and `FIG`: the literal number of the second is
taken for the third, and so is the name of the first, in whatever case. -/
theorem named_plan_literalNumber :
    [Path.ofString "a/fig.eps", .ofString "fig-2.eps", .ofString "FIG.ps"].length <
        2147483648 ∧
      ∃ names, Named [.ofString "a/fig.eps", .ofString "fig-2.eps", .ofString "FIG.ps"] .png
          names ∧
        plan [.ofString "a/fig.eps", .ofString "fig-2.eps", .ofString "FIG.ps"]
            (.ofString "out") .png =
          [Path.ofString "a/fig.eps", .ofString "fig-2.eps", .ofString "FIG.ps"].zip
            (names.map fun name => (Path.ofString "out").join (.ofString name)) ∧
        plan [.ofString "a/fig.eps", .ofString "fig-2.eps", .ofString "FIG.ps"]
            (.ofString "out") .png =
          [(.ofString "a/fig.eps", .ofString "out/fig.png"),
            (.ofString "fig-2.eps", .ofString "out/fig-2.png"),
            (.ofString "FIG.ps", .ofString "out/FIG-3.png")] := by
  have hplan : plan [.ofString "a/fig.eps", .ofString "fig-2.eps", .ofString "FIG.ps"]
      (.ofString "out") .png =
      [(.ofString "a/fig.eps", .ofString "out/fig.png"),
        (.ofString "fig-2.eps", .ofString "out/fig-2.png"),
        (.ofString "FIG.ps", .ofString "out/FIG-3.png")] := by
    decide +kernel
  obtain ⟨names, hnamed, hzip⟩ := named_plan
    [.ofString "a/fig.eps", .ofString "fig-2.eps", .ofString "FIG.ps"] (by decide)
    (.ofString "out") .png
  exact ⟨by decide, names, hnamed, hzip, hplan⟩

end EpsBridge.Export
