import EpsBridge.Proofs.Text.Lines

/-!
# Fields of a line

A line is read as the fields that stand between its gaps.  Splitting at every gap and leaving
out what is empty finds them however wide the gaps are (`fields_append_gap` is all that is
needed for it), and a field that is found stands in the text with a gap, or nothing, on
either side (`exists_of_fields_eq_cons`).
-/

namespace EpsBridge.Text

variable {gap : Char → Bool}

theorem after?_eq_some_iff {key text rest : List Char} :
    after? key text = some rest ↔ text = key ++ rest := by
  induction key generalizing text with
  | nil => simp [after?, eq_comm]
  | cons k key ih =>
      cases text with
      | nil => simp [after?]
      | cons c text =>
          by_cases hkey : k = c
          · simp [after?, hkey, ih]
          · simp [after?, hkey, Ne.symm hkey]

/-- What stands in front of the first separator is told by the text, and so is what stands
behind it. -/
theorem eq_of_append_cons_eq {front front' rest rest' : List Char} {separator : Char}
    (hfront : separator ∉ front) (hfront' : separator ∉ front')
    (hsame : front ++ separator :: rest = front' ++ separator :: rest') :
    front = front' ∧ rest = rest' := by
  have hpieces := congrArg (List.splitOn separator) hsame
  rw [List.splitOn_append_cons_self_of_not_mem hfront,
    List.splitOn_append_cons_self_of_not_mem hfront'] at hpieces
  obtain ⟨rfl, -⟩ := List.cons.inj hpieces
  obtain ⟨-, hrest⟩ := List.cons.inj (List.append_cancel_left hsame)
  exact ⟨rfl, hrest⟩

/-- What stands between the gaps of a text. -/
def fields (gap : Char → Bool) (text : List Char) : List (List Char) :=
  (pieces gap text).filter fun piece => !piece.isEmpty

@[simp] theorem fields_nil : fields gap [] = [] := rfl

/-- A gap separates what is in front of it from what is behind it. -/
theorem fields_append_gap {c : Char} (hc : gap c = true) (front rest : List Char) :
    fields gap (front ++ c :: rest) = fields gap front ++ fields gap rest := by
  simp only [fields, Utf8.pieces_eq_splitOnP]
  rw [List.splitOnP_append_cons front rest hc, List.filter_append]

theorem fields_gaps_append {gaps : List Char} (hgaps : ∀ c ∈ gaps, gap c = true)
    (text : List Char) : fields gap (gaps ++ text) = fields gap text := by
  induction gaps with
  | nil => rfl
  | cons c gaps ih =>
      have hc : gap c = true := hgaps c List.mem_cons_self
      have hrest : fields gap (c :: (gaps ++ text)) = fields gap (gaps ++ text) :=
        fields_append_gap hc [] _
      rw [List.cons_append, hrest]
      exact ih fun other hother => hgaps other (List.mem_cons_of_mem _ hother)

/-- A text that has a character and no gap. -/
def IsField (gap : Char → Bool) (text : List Char) : Prop :=
  text ≠ [] ∧ ∀ c ∈ text, gap c = false

theorem fields_of_isField {field : List Char} (hfield : IsField gap field) :
    fields gap field = [field] := by
  obtain ⟨hne, hnone⟩ := hfield
  rw [fields, Utf8.pieces_eq_splitOnP, List.splitOnP_eq_singleton hnone]
  simp [hne]

/-- A field ends at the first gap behind it. -/
theorem fields_field_append {field gaps : List Char} (hfield : IsField gap field)
    (hne : gaps ≠ []) (hgaps : ∀ c ∈ gaps, gap c = true) (rest : List Char) :
    fields gap (field ++ gaps ++ rest) = field :: fields gap rest := by
  obtain ⟨c, others, rfl⟩ := List.exists_cons_of_ne_nil hne
  have hc : gap c = true := hgaps c List.mem_cons_self
  rw [List.append_assoc, List.cons_append, fields_append_gap hc, fields_of_isField hfield,
    fields_gaps_append fun other hother => hgaps other (List.mem_cons_of_mem _ hother)]
  rfl

/-- A text begins with a run of characters of a class, which may be empty. -/
theorem exists_run (belongs : Char → Bool) (text : List Char) :
    ∃ run rest, text = run ++ rest ∧ (∀ c ∈ run, belongs c = true) ∧
      ∀ c ∈ rest.head?, belongs c = false := by
  induction text with
  | nil => exact ⟨[], [], rfl, by simp, by simp⟩
  | cons c text ih =>
      cases hc : belongs c with
      | false => exact ⟨[], c :: text, rfl, by simp, by simpa using hc⟩
      | true =>
          obtain ⟨run, rest, rfl, hrun, hrest⟩ := ih
          refine ⟨c :: run, rest, rfl, ?_, hrest⟩
          intro other hother
          rcases List.mem_cons.mp hother with rfl | hother
          · exact hc
          · exact hrun other hother

/-- What begins with no gap begins with a field, behind which comes a gap or nothing. -/
theorem exists_field {c : Char} (hc : gap c = false) (more : List Char) :
    ∃ field rest, c :: more = field ++ rest ∧ IsField gap field ∧
      fields gap (c :: more) = field :: fields gap rest ∧ ∀ c ∈ rest.head?, gap c = true := by
  obtain ⟨run, rest, rfl, hrun, hrest⟩ := exists_run (fun c => !gap c) more
  have hfield : IsField gap (c :: run) := by
    refine ⟨List.cons_ne_nil c run, ?_⟩
    intro other hother
    rcases List.mem_cons.mp hother with rfl | hother
    · exact hc
    · simpa using hrun other hother
  refine ⟨c :: run, rest, rfl, hfield, ?_, by simpa using hrest⟩
  rw [← List.cons_append]
  cases rest with
  | nil => rw [List.append_nil, fields_of_isField hfield, fields_nil]
  | cons other later =>
      have hother : gap other = true := by simpa using hrest
      have hlater : fields gap (other :: later) = fields gap later :=
        fields_append_gap hother [] later
      rw [fields_append_gap hother, fields_of_isField hfield, hlater]
      rfl

theorem gaps_of_fields_eq_nil {text : List Char} (hfields : fields gap text = []) :
    ∀ c ∈ text, gap c = true := by
  obtain ⟨gaps, rest, rfl, hgaps, hrest⟩ := exists_run gap text
  rw [fields_gaps_append hgaps] at hfields
  cases rest with
  | nil => simpa using hgaps
  | cons c more =>
      obtain ⟨field, rest, -, -, hfield, -⟩ := exists_field (hrest c rfl) more
      rw [hfield] at hfields
      cases hfields

/-- The first field of a text stands behind nothing but gaps. -/
theorem exists_of_fields_eq_cons {text field : List Char} {others : List (List Char)}
    (hfields : fields gap text = field :: others) :
    ∃ gaps rest, text = gaps ++ field ++ rest ∧ (∀ c ∈ gaps, gap c = true) ∧
      IsField gap field ∧ fields gap rest = others ∧ ∀ c ∈ rest.head?, gap c = true := by
  obtain ⟨gaps, behind, rfl, hgaps, hbehind⟩ := exists_run gap text
  rw [fields_gaps_append hgaps] at hfields
  cases behind with
  | nil => cases hfields
  | cons c more =>
      obtain ⟨found, rest, hfound, hfield, hcons, hrest⟩ := exists_field (hbehind c rfl) more
      rw [hcons] at hfields
      obtain ⟨rfl, rfl⟩ := List.cons.inj hfields
      refine ⟨gaps, rest, ?_, hgaps, hfield, rfl, hrest⟩
      rw [hfound, List.append_assoc]

/-- A field that is not the first has a gap in front of it. -/
theorem exists_next {text field : List Char} {others : List (List Char)}
    (hnext : ∀ c ∈ text.head?, gap c = true) (hfields : fields gap text = field :: others) :
    ∃ gaps rest, text = gaps ++ field ++ rest ∧ (gaps ≠ [] ∧ ∀ c ∈ gaps, gap c = true) ∧
      fields gap rest = others ∧ ∀ c ∈ rest.head?, gap c = true := by
  obtain ⟨gaps, rest, rfl, hgaps, ⟨hne, hfield⟩, hothers, hrest⟩ :=
    exists_of_fields_eq_cons hfields
  refine ⟨gaps, rest, rfl, ⟨?_, hgaps⟩, hothers, hrest⟩
  rintro rfl
  -- the text would begin with the field, which has no gap
  obtain ⟨c, more, rfl⟩ := List.exists_cons_of_ne_nil hne
  have hgap : gap c = true := hnext c rfl
  rw [hfield c List.mem_cons_self] at hgap
  cases hgap

end EpsBridge.Text
