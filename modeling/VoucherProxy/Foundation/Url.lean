import VoucherProxy.Foundation.Text

namespace VoucherProxy.Url

/-! The parts of a URL that say where a request goes: its scheme and its authority. -/

def isLetter (c : Char) : Bool := ('a' ≤ c && c ≤ 'z') || ('A' ≤ c && c ≤ 'Z')

def isSchemeCharacter (c : Char) : Bool :=
  Text.isAsciiAlphanumeric c || c == '+' || c == '-' || c == '.'

/-- A letter, then letters, digits, `+`, `-` and `.`. -/
structure IsScheme (scheme : List Char) : Prop where
  letter : scheme.head?.any isLetter = true
  characters : ∀ c ∈ scheme, isSchemeCharacter c = true

def mark : List Char := [':', '/', '/']

/-- The scheme a text begins with, and what follows the mark behind it. -/
def split (url : List Char) : Option (List Char × List Char) :=
  let scheme := url.takeWhile isSchemeCharacter
  let rest := url.dropWhile isSchemeCharacter
  if scheme.head?.any isLetter && mark.isPrefixOf rest then some (scheme, rest.drop mark.length)
  else none

theorem split_eq_some {url scheme rest : List Char} :
    split url = some (scheme, rest) ↔ IsScheme scheme ∧ url = scheme ++ (mark ++ rest) := by
  constructor
  · intro found
    rcases Option.ite_none_right_eq_some.mp found with ⟨marked, same⟩
    rw [Bool.and_eq_true, List.isPrefixOf_iff_prefix] at marked
    rcases marked with ⟨letter, after, spelled⟩
    rw [← spelled, List.drop_left] at same
    rcases Prod.mk.inj (Option.some.inj same) with ⟨rfl, rfl⟩
    refine ⟨⟨letter, fun c member => List.mem_takeWhile_imp member⟩, ?_⟩
    rw [spelled, List.takeWhile_append_dropWhile]
  · rintro ⟨isScheme, rfl⟩
    have taken : (scheme ++ (mark ++ rest)).takeWhile isSchemeCharacter = scheme := by
      rw [List.takeWhile_append_of_pos isScheme.characters]
      exact List.append_nil _
    have dropped : (scheme ++ (mark ++ rest)).dropWhile isSchemeCharacter = mark ++ rest := by
      rw [List.dropWhile_append_of_pos isScheme.characters]
      rfl
    have marked : mark.isPrefixOf (mark ++ rest) = true :=
      List.isPrefixOf_iff_prefix.mpr (List.prefix_append _ _)
    rw [split, taken, dropped, isScheme.letter, marked, List.drop_left]
    rfl

theorem split_append {scheme : List Char} (isScheme : IsScheme scheme) (rest : List Char) :
    split (scheme ++ (mark ++ rest)) = some (scheme, rest) :=
  split_eq_some.mpr ⟨isScheme, rfl⟩

/-- The scheme of a URL, in lower case. -/
def scheme (url : String) : Option String :=
  (split url.toList).map fun parts => Text.toAsciiLowercase (String.ofList parts.1)

end VoucherProxy.Url
