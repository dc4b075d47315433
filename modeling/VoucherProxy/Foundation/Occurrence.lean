import Mathlib.Data.List.Infix
import VoucherProxy.Foundation.Text

namespace VoucherProxy

/-! Where a word can occur in a text that is put together from pieces. -/

section

variable {α : Type} {word left right : List α} {mark : α}

/-- A word without the mark between two pieces occurs in one of them. -/
theorem infix_append_cons_iff (free : mark ∉ word) :
    word <:+: left ++ mark :: right ↔ word <:+: left ∨ word <:+: right := by
  constructor
  · rintro ⟨before, after, spelled⟩
    rcases List.append_eq_append_iff.mp spelled with ⟨rest, whole, -⟩ | ⟨cut, longer, behind⟩
    · exact .inl ⟨before, rest, whole.symm⟩
    cases cut with
    | nil =>
        rw [List.append_nil] at longer
        exact .inl ⟨before, [], by rw [longer, List.append_nil]⟩
    | cons first cut =>
        rcases List.cons.inj behind with ⟨rfl, later⟩
        rcases List.append_eq_append_iff.mp longer with ⟨start, -, crossing⟩ | ⟨gap, -, ends⟩
        · exact (free (by simp [crossing])).elim
        · cases gap with
          | nil =>
              have whole : mark :: cut = word := ends
              exact (free (by simp [← whole])).elim
          | cons own gap =>
              rcases List.cons.inj ends with ⟨-, place⟩
              exact .inr ⟨gap, after, by rw [later, place]; rfl⟩
  · rintro (early | late)
    · exact early.trans (List.prefix_append _ _).isInfix
    · exact late.trans ((List.suffix_cons _ _).trans (List.suffix_append _ _)).isInfix

/-- A word occurs only where all of its letters do. -/
theorem not_infix_of_mem {letter : α} (member : letter ∈ word) (other : letter ∉ left) :
    ¬ word <:+: left :=
  fun occurs => other (occurs.subset member)

end

namespace Text

theorem contains_iff {text piece : String} :
    contains text piece = true ↔ piece.toList <:+: text.toList := by
  rw [contains, List.any_eq_true]
  constructor
  · rintro ⟨rest, tail, begins⟩
    exact (List.isPrefixOf_iff_prefix.mp begins).isInfix.trans ((List.mem_tails ..).mp tail).isInfix
  · rintro ⟨before, after, spelled⟩
    refine ⟨piece.toList ++ after, (List.mem_tails ..).mpr ⟨before, ?_⟩,
      List.isPrefixOf_iff_prefix.mpr (List.prefix_append _ _)⟩
    rw [← List.append_assoc, spelled]

end Text

end VoucherProxy
