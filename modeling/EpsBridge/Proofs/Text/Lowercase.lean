import EpsBridge.Text.Lowercase
import Mathlib.Algebra.GroupWithZero.Nat

/-!
# Lower-case forms of texts with different ends

What a character becomes in lower case may depend on what surrounds it, but how many
characters it becomes does not.  So where two texts begin alike and their lower-case forms
are the same, the forms of their ends are the same (`eq_of_lowercase_eq`, for ends that
lower case leaves alone).
-/

namespace EpsBridge.Text

/-- The length of the lower-case form of a text. -/
def lowerLength (text : List Char) : Nat :=
  (text.map fun c => if c = 'Σ' then 1 else (lowerCharacter c).length).sum

/-- The lower-case form of a text that goes on has the form of the rest at its end, behind
as much as the text itself comes to. -/
theorem lowercaseAfter_append (before text more : List Char) :
    ∃ start, start.length = lowerLength text ∧
      lowercaseAfter before (text ++ more) =
        start ++ lowercaseAfter (text.reverse ++ before) more := by
  induction text generalizing before with
  | nil => exact ⟨[], rfl, rfl⟩
  | cons c rest ih =>
      obtain ⟨start, hlength, hrest⟩ := ih (c :: before)
      refine ⟨(if c = 'Σ' then [lowerSigma before (rest ++ more)] else lowerCharacter c) ++ start,
        ?_, ?_⟩
      · rw [List.length_append, hlength, lowerLength, lowerLength, List.map_cons, List.sum_cons]
        split <;> rfl
      · rw [List.cons_append, lowercaseAfter, hrest, List.reverse_cons, List.append_assoc,
          List.append_assoc]
        rfl

/-- Whether lower case leaves every character of a text alone. -/
def IsLower (text : String) : Prop :=
  ∀ c ∈ text.toList, c ≠ 'Σ' ∧ lowerCharacter c = [c]

instance (text : String) : Decidable (IsLower text) :=
  List.decidableBAll (fun c => c ≠ 'Σ' ∧ lowerCharacter c = [c]) text.toList

theorem IsLower.append {first second : String} (hfirst : IsLower first)
    (hsecond : IsLower second) : IsLower (first ++ second) := by
  intro c hc
  rw [String.toList_append, List.mem_append] at hc
  rcases hc with hc | hc
  · exact hfirst c hc
  · exact hsecond c hc

/-- Digits have no case. -/
theorem isLower_decimal (number : Nat) : IsLower (Nat.repr number) := by
  intro c hc
  rw [Nat.toList_repr] at hc
  have hdigit := Nat.isDigit_of_mem_toDigits (by decide) (by decide) hc
  rw [Char.isDigit, Bool.and_eq_true, decide_eq_true_eq, decide_eq_true_eq] at hdigit
  -- digits are ASCII characters below the capital letters
  have hsmall : c.toNat ≤ '9'.toNat := hdigit.2
  have hcapital : ¬ 'A'.val ≤ c.val := fun hle => absurd (Nat.le_trans hle hsmall) (by decide)
  have hascii : c.toNat < 0x80 := Nat.lt_of_le_of_lt hsmall (by decide)
  refine ⟨?_, ?_⟩
  · rintro rfl
    exact absurd hascii (by decide)
  · have hlower : c.toLower = c := dif_neg fun hupper => hcapital hupper.1
    rw [lowerCharacter, if_pos hascii, hlower]

theorem lowercaseAfter_of_isLower {text : String} (hlower : IsLower text) (before : List Char) :
    lowercaseAfter before text.toList = text.toList := by
  unfold IsLower at hlower
  generalize text.toList = characters at hlower
  induction characters generalizing before with
  | nil => rfl
  | cons c rest ih =>
      obtain ⟨hsigma, hc⟩ := hlower c List.mem_cons_self
      have hrest := ih (c :: before) fun d hd => hlower d (List.mem_cons_of_mem c hd)
      rw [lowercaseAfter, if_neg hsigma, hc, hrest]
      rfl

/-- Texts that begin alike and have the same lower-case form end alike, if their ends are
in lower case. -/
theorem eq_of_lowercase_eq {start first second : String} (hfirst : IsLower first)
    (hsecond : IsLower second) (hsame : lowercase (start ++ first) = lowercase (start ++ second)) :
    first = second := by
  have hcharacters := congrArg String.toList hsame
  rw [lowercase, lowercase, String.toList_ofList, String.toList_ofList, String.toList_append,
    String.toList_append] at hcharacters
  obtain ⟨front, hfront, hone⟩ := lowercaseAfter_append [] start.toList first.toList
  obtain ⟨other, hother, htwo⟩ := lowercaseAfter_append [] start.toList second.toList
  rw [hone, htwo, lowercaseAfter_of_isLower hfirst, lowercaseAfter_of_isLower hsecond]
    at hcharacters
  exact String.toList_inj.mp (List.append_inj hcharacters (hfront.trans hother.symm)).2

end EpsBridge.Text
