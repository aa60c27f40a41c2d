import EpsBridge.Proofs.Text.Fields
import Mathlib.Data.List.DropRight

/-!
# Trimming a text

Trimming takes characters away at an end of a text, as long as they are of one class.  It
stops in front of what does not belong there (`trimEnd_append`), so a text begins with the
same keys as before; and where the class is one of gaps, the fields stay what they are.
-/

namespace EpsBridge.Text

variable {drop gap : Char → Bool}

theorem trimEnd_concat {c : Char} (hc : drop c = true) (text : List Char) :
    trimEnd drop (text ++ [c]) = trimEnd drop text :=
  List.rdropWhile_concat_pos drop text c hc

theorem trimEnd_concat_of_kept {c : Char} (hc : drop c = false) (text : List Char) :
    trimEnd drop (text ++ [c]) = text ++ [c] :=
  List.rdropWhile_concat_neg drop text c (Bool.not_eq_true _ ▸ hc)

/-- Trimming does not reach behind a character that stays. -/
theorem trimEnd_append {front : List Char} (hfront : ∀ c ∈ front.getLast?, drop c = false)
    (rest : List Char) : trimEnd drop (front ++ rest) = front ++ trimEnd drop rest := by
  induction rest using List.reverseRecOn with
  | nil =>
      rw [List.append_nil]
      rcases List.eq_nil_or_concat' front with rfl | ⟨initial, c, rfl⟩
      · rfl
      · rw [trimEnd_concat_of_kept (hfront c List.getLast?_concat)]
        exact (List.append_nil _).symm
  | append_singleton rest c ih =>
      rw [← List.append_assoc]
      cases hc : drop c with
      | true => rw [trimEnd_concat hc, trimEnd_concat hc, ih]
      | false => rw [trimEnd_concat_of_kept hc, trimEnd_concat_of_kept hc, List.append_assoc]

theorem begins_trimEnd_iff {key : List Char} (hkey : ∀ c ∈ key.getLast?, drop c = false)
    (text : List Char) : key <+: trimEnd drop text ↔ key <+: text := by
  constructor
  · intro hbegins
    exact hbegins.trans (List.rdropWhile_prefix drop text)
  · rintro ⟨rest, rfl⟩
    rw [trimEnd_append hkey]
    exact List.prefix_append _ _

/-! ## Fields -/

theorem fields_concat {c : Char} (hc : gap c = true) (text : List Char) :
    fields gap (text ++ [c]) = fields gap text := by
  rw [fields_append_gap hc, fields_nil, List.append_nil]

theorem fields_trimEnd (hdrop : ∀ c, drop c = true → gap c = true) (text : List Char) :
    fields gap (trimEnd drop text) = fields gap text := by
  induction text using List.reverseRecOn with
  | nil => rfl
  | append_singleton text c ih =>
      cases hc : drop c with
      | true => rw [trimEnd_concat hc, fields_concat (hdrop c hc), ih]
      | false => rw [trimEnd_concat_of_kept hc]

theorem fields_dropWhile (text : List Char) :
    fields gap (text.dropWhile gap) = fields gap text := by
  have hgaps : ∀ c ∈ text.takeWhile gap, gap c = true :=
    List.all_eq_true.mp List.all_takeWhile
  conv_rhs => rw [← List.takeWhile_append_dropWhile (p := gap) (l := text)]
  exact (fields_gaps_append hgaps _).symm

/-- Trimming a text leaves its tokens. -/
theorem tokens_trim (text : List Char) : tokens (trim text) = tokens text := by
  calc
    tokens (trim text) = fields isBlank (text.dropWhile isBlank) :=
      fields_trimEnd (fun _ hc => hc) _
    _ = tokens text := fields_dropWhile text

end EpsBridge.Text
