import VoucherProxy.Foundation.Text

namespace VoucherProxy

/-! The text of a GraphQL document: what may stand before its first definition, how
each definition opens, and which operation is executed. -/

/-- What the grammar ignores between tokens. -/
inductive Ignored
  | blank (c : Char) (isBlank : c ∈ [' ', '\t', '\n', '\r'])
  | comma
  | byteOrderMark
  /-- A comment with the end of its line. -/
  | comment (text : List Char) (terminator : Char) (ends : terminator ∈ ['\n', '\r'])
      (unbroken : '\n' ∉ text ∧ '\r' ∉ text)

namespace Ignored

def text : Ignored → List Char
  | .blank c _ => [c]
  | .comma => [',']
  | .byteOrderMark => ['\uFEFF']
  | .comment text terminator _ _ => '#' :: (text ++ [terminator])

def IsBlank : Ignored → Prop
  | .blank _ _ => True
  | _ => False

end Ignored

inductive DefinitionKind
  /-- A query in short, which begins with its selection. -/
  | shorthand
  | query
  | mutation
  | subscription
  | fragment
  deriving DecidableEq

def DefinitionKind.opening : DefinitionKind → String
  | .shorthand => "\x7b"
  | .query => "query"
  | .mutation => "mutation"
  | .subscription => "subscription"
  | .fragment => "fragment"

/-- `rest` is what follows the opening, up to the next definition. -/
structure Definition where
  kind : DefinitionKind
  name : Option String
  rest : List Char

def Definition.text (definition : Definition) : List Char :=
  definition.kind.opening.toList ++ definition.rest

structure Layout where
  leading : List Ignored
  first : Definition
  more : List Definition

namespace Layout

variable (layout : Layout)

def text : List Char :=
  layout.leading.flatMap Ignored.text ++
    (layout.first.text ++ layout.more.flatMap Definition.text)

def operations : List Definition :=
  (layout.first :: layout.more).filter fun definition => definition.kind ≠ .fragment

/-- The operation of that name, or the only one. -/
def selected : Option String → Option Definition
  | some name => layout.operations.find? fun definition => definition.name = some name
  | none => match layout.operations with
    | [only] => some only
    | _ => none

/-- Nothing but blanks stands before the first definition. -/
def StartsBlank : Prop := ∀ ignored ∈ layout.leading, ignored.IsBlank

end Layout

/-! ## What the text begins with -/

/-- A text after its blanks. -/
def trimStart (text : List Char) : List Char := text.dropWhile Text.isWhitespace

theorem isWhitespace_of_blank {c : Char} (isBlank : c ∈ [' ', '\t', '\n', '\r']) :
    Text.isWhitespace c = true := by
  have blanks : [' ', '\t', '\n', '\r'].all Text.isWhitespace = true := by decide
  exact List.all_eq_true.mp blanks c isBlank

theorem not_prefix_of_ne {first other : Char} (different : first ≠ other) (word text : List Char) :
    ¬ (first :: word) <+: other :: text := by
  rw [List.cons_prefix_cons]
  exact fun begins => different begins.1

/-- No definition begins with blanks, and only a mutation with that word. -/
theorem opening_prefix_iff {kind : DefinitionKind} {rest : List Char} :
    "mutation".toList <+: trimStart (kind.opening.toList ++ rest) ↔ kind = .mutation := by
  have kept : trimStart (kind.opening.toList ++ rest) = kind.opening.toList ++ rest := by
    cases kind <;> rfl
  rw [kept]
  cases kind with
  | mutation => exact iff_of_true (List.prefix_append _ _) rfl
  | shorthand => exact iff_of_false (not_prefix_of_ne (by decide) _ _) (by decide)
  | query => exact iff_of_false (not_prefix_of_ne (by decide) _ _) (by decide)
  | subscription => exact iff_of_false (not_prefix_of_ne (by decide) _ _) (by decide)
  | fragment => exact iff_of_false (not_prefix_of_ne (by decide) _ _) (by decide)

/-- Blanks are trimmed away, and anything else that is ignored stays in front. -/
theorem mutation_prefix_ignored (ignored : Ignored) (text : List Char) :
    "mutation".toList <+: trimStart (ignored.text ++ text) ↔
      ignored.IsBlank ∧ "mutation".toList <+: trimStart text := by
  cases ignored with
  | blank c isBlank =>
      rw [Ignored.text, List.singleton_append, trimStart, List.dropWhile_cons_of_pos
        (isWhitespace_of_blank isBlank)]
      exact (and_iff_right trivial).symm
  | comma => exact iff_of_false (not_prefix_of_ne (by decide) _ _) (fun both => both.1)
  | byteOrderMark => exact iff_of_false (not_prefix_of_ne (by decide) _ _) (fun both => both.1)
  | comment comment terminator ends unbroken =>
      exact iff_of_false (not_prefix_of_ne (by decide) _ _) (fun both => both.1)

/-- After its blanks, a document begins with the word that opens a mutation
exactly when its first definition is one and only blanks stand before it. -/
theorem Layout.mutation_prefix_iff (layout : Layout) :
    "mutation".toList <+: trimStart layout.text ↔
      layout.StartsBlank ∧ layout.first.kind = .mutation := by
  rcases layout with ⟨leading, first, more⟩
  unfold text StartsBlank
  induction leading with
  | nil =>
      rw [List.flatMap_nil, List.nil_append, Definition.text, List.append_assoc, opening_prefix_iff]
      simp
  | cons ignored leading induction =>
      rw [List.flatMap_cons, List.append_assoc, mutation_prefix_ignored, induction,
        List.forall_mem_cons, and_assoc]

end VoucherProxy
