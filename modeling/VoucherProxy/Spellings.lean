import VoucherProxy.Pinning

namespace VoucherProxy.Tls

/-! Which spellings of a fingerprint the normaliser understands. -/

/-- A way to spell a digest: whitespace around it, a mark in any letter case or none,
and its digits in any case with separators among them. -/
structure Spelling (digest : Digest) where
  lead : List Char
  mark : Option String
  body : List Char
  trail : List Char
  before : ∀ c ∈ lead, Text.isWhitespace c = true
  after : ∀ c ∈ trail, Text.isWhitespace c = true
  cased : ∀ word ∈ mark, Text.toAsciiLowercase word = "sha256:"
  spells : Hex.decode (body.filter fun c => !isSeparator c) = some digest.toList

namespace Spelling

variable {digest : Digest} (spelling : Spelling digest)

def marked : List Char := (spelling.mark.getD "").toList

def text : String :=
  String.ofList (spelling.lead ++ ((spelling.marked ++ spelling.body) ++ spelling.trail))

/-- The mark is all in lower case or all in capitals. -/
def Uniform : Prop := ∀ word ∈ spelling.mark, word = "sha256:" ∨ word = "SHA256:"

end Spelling

/-! ## Letters of a mark -/

theorem toLower_of_isWhitespace {c : Char} (blank : Text.isWhitespace c = true) : c.toLower = c := by
  apply dif_neg
  rintro ⟨first, last⟩
  have capital : 65 ≤ c.val.toNat ∧ c.val.toNat ≤ 90 :=
    ⟨UInt32.le_iff_toNat_le.mp first, UInt32.le_iff_toNat_le.mp last⟩
  simp only [Text.isWhitespace, Bool.or_eq_true, Bool.and_eq_true, decide_eq_true_eq, beq_iff_eq,
    ← UInt32.toNat_inj, UInt32.le_iff_toNat_le, UInt32.reduceToNat] at blank
  omega

theorem toLower_of_isSeparator {c : Char} (separates : isSeparator c = true) : c.toLower = c := by
  simp only [isSeparator, Bool.or_eq_true, beq_iff_eq] at separates
  rcases separates with (rfl | rfl) | rfl
  · decide
  · decide
  · decide

/-- Folding its case keeps what is no whitespace, no separator and no digit. -/
theorem significant_of_toLower {c : Char} (other : Text.isWhitespace c.toLower = false ∧
      isSeparator c.toLower = false ∧ Text.isAsciiHexdigit c.toLower = false) :
    Text.isWhitespace c = false ∧ isSeparator c = false ∧ Text.isAsciiHexdigit c = false := by
  refine ⟨?_, ?_, ?_⟩
  · rw [← Bool.not_eq_true]
    intro blank
    rw [toLower_of_isWhitespace blank, blank] at other
    cases other.1
  · rw [← Bool.not_eq_true]
    intro separates
    rw [toLower_of_isSeparator separates, separates] at other
    cases other.2.1
  · rw [← Text.isAsciiHexdigit_toLower]
    exact other.2.2

section

variable {word : String}

theorem toLower_of_cased (cased : Text.toAsciiLowercase word = "sha256:") :
    word.toList.map Char.toLower = ['s', 'h', 'a', '2', '5', '6', ':'] := by
  rw [← toList_lowerMark, ← cased, Text.toAsciiLowercase, String.toList_ofList]

theorem exists_first_of_cased (cased : Text.toAsciiLowercase word = "sha256:") :
    ∃ first rest, word.toList = first :: rest ∧ Text.isWhitespace first = false ∧
      isSeparator first = false ∧ Text.isAsciiHexdigit first = false := by
  rcases List.map_eq_cons_iff.mp (toLower_of_cased cased) with ⟨first, rest, spelled, letter, -⟩
  refine ⟨first, rest, spelled, significant_of_toLower ?_⟩
  rw [letter]
  decide

theorem not_blank_of_cased (cased : Text.toAsciiLowercase word = "sha256:") :
    ∀ c ∈ word.toList, Text.isWhitespace c = false := by
  intro c member
  rw [← Bool.not_eq_true]
  intro blank
  have letter : c ∈ ['s', 'h', 'a', '2', '5', '6', ':'] := by
    rw [← toLower_of_cased cased, ← toLower_of_isWhitespace blank]
    exact List.mem_map_of_mem member
  have none : ['s', 'h', 'a', '2', '5', '6', ':'].all (fun c => !Text.isWhitespace c) = true := by
    decide
  have visible := List.all_eq_true.mp none c letter
  rw [blank] at visible
  cases visible

/-- Of the words of one length only the same one is found in front. -/
theorem not_prefix_of_cased (cased : Text.toAsciiLowercase word = "sha256:") {other : String}
    (length : other.toList.length = 7) (different : word ≠ other) (rest : List Char) :
    ¬ other.toList <+: word.toList ++ rest := by
  intro begins
  have letters : word.toList.length = 7 := by
    rw [← List.length_map Char.toLower, toLower_of_cased cased]
    rfl
  have shorter : other.toList <+: word.toList := by
    apply List.prefix_of_prefix_length_le begins (List.prefix_append _ _)
    omega
  apply different
  apply String.toList_inj.mp
  exact (shorter.eq_of_length (by omega)).symm

/-- Nothing is stripped from a text that begins with a mark of mixed case. -/
theorem significant_of_mixed (cased : Text.toAsciiLowercase word = "sha256:")
    (mixed : word ≠ "sha256:" ∧ word ≠ "SHA256:") {raw : String} {rest : List Char}
    (trimmed : Text.trim raw = String.ofList (word.toList ++ rest)) :
    significant raw = (word.toList ++ rest).filter fun c => !isSeparator c := by
  have kept : ∀ {other : String}, other.toList.length = 7 → word ≠ other →
      Text.trimStartMatches (String.ofList (word.toList ++ rest)) other =
        String.ofList (word.toList ++ rest) := by
    intro other length different
    apply Text.trimStartMatches_of_copies 0 String.toList_ofList
    · intro empty
      rw [empty] at length
      cases length
    · exact not_prefix_of_cased cased length different rest
  rw [significant, trimmed, kept (by decide) mixed.1, kept (by decide) mixed.2,
    String.toList_ofList]

end

/-! ## What is understood -/

namespace Spelling

variable {digest : Digest} (spelling : Spelling digest)

/-- A uniform mark is one that is stripped. -/
theorem denotes_of_uniform (uniform : spelling.Uniform) : Denotes spelling.text digest := by
  have spelled : ∃ lower upper, spelling.marked = marks lower upper := by
    cases mark : spelling.mark with
    | none => exact ⟨0, 0, by rw [marked, mark]; rfl⟩
    | some word =>
        rw [marked, mark]
        rcases uniform word mark with rfl | rfl
        · exact ⟨1, 0, by rw [marks_succ, marks_zero, List.append_nil]; rfl⟩
        · exact ⟨0, 1, by rw [marks_zero_succ, marks_zero, List.append_nil]; rfl⟩
  rcases spelled with ⟨lower, upper, spelled⟩
  rw [text, spelled]
  exact .intro lower upper spelling.before spelling.after spelling.spells

/-- A mark of mixed case is taken for digits, and refused. -/
theorem refused_of_mixed {word : String} (mark : spelling.mark = some word)
    (mixed : word ≠ "sha256:" ∧ word ≠ "SHA256:") (normalized : String) :
    normalizeFingerprint spelling.text ≠ .ok normalized := by
  have cased := spelling.cased word mark
  have blank := not_blank_of_cased cased
  rcases exists_first_of_cased cased with ⟨first, rest, letters, notBlank, notSeparator, notDigit⟩
  have opens : (word.toList ++ spelling.body).dropWhile Text.isWhitespace =
      word.toList ++ spelling.body := by
    rw [letters, List.cons_append, List.dropWhile_cons_of_neg (Bool.eq_false_iff.mp notBlank)]
  have closes : word.toList.rdropWhile Text.isWhitespace = word.toList := by
    apply List.rdropWhile_eq_self_iff.mpr
    intro some
    exact Bool.eq_false_iff.mp (blank _ (List.getLast_mem some))
  have trimmed : Text.trim spelling.text =
      String.ofList (word.toList ++ spelling.body.rdropWhile Text.isWhitespace) := by
    rw [text, marked, mark, Option.getD_some, Text.trim_padded spelling.before spelling.after,
      Text.trim_marked opens closes]
  intro accepted
  rcases normalizeFingerprint_eq_ok.mp accepted with ⟨other, read, -⟩
  have digit : Text.isAsciiHexdigit first = true := by
    apply Hex.digits_of_decode read
    rw [significant_of_mixed cased mixed trimmed, letters]
    exact List.mem_filter.mpr ⟨List.mem_cons_self, by rw [notSeparator]; rfl⟩
  rw [notDigit] at digit
  cases digit

theorem normalizes_iff :
    normalizeFingerprint spelling.text = .ok (pin digest) ↔ spelling.Uniform := by
  constructor
  · intro accepted word mark
    by_contra mixed
    exact spelling.refused_of_mixed mark (not_or.mp mixed) _ accepted
  · intro uniform
    exact normalizeFingerprint_iff.mpr ⟨digest, spelling.denotes_of_uniform uniform, rfl⟩

end Spelling

/-- A spelling of a digest is understood exactly when its mark is not in mixed case,
and what is understood is such a spelling, with marks repeated at most. -/
theorem spellings_iff {digest : Digest} (spelling : Spelling digest) :
    (normalizeFingerprint spelling.text = .ok (pin digest) ↔ spelling.Uniform) ∧
    ∀ raw normalized, normalizeFingerprint raw = .ok normalized →
      ∃ other, Denotes raw other ∧ normalized = pin other :=
  ⟨spelling.normalizes_iff, fun _ _ => normalizeFingerprint_iff.mp⟩

/-- The digest of a certificate behind a mark with one capital. -/
def capitalised : Spelling (Vector.replicate 32 0xAB) where
  lead := []
  mark := some "Sha256:"
  body := (List.replicate 32 ['A', 'b']).flatten
  trail := []
  before := by simp
  after := by simp
  cased := by
    intro word mark
    cases mark
    decide
  spells := by decide

theorem capitalised_refused :
    normalizeFingerprint capitalised.text ≠ .ok (pin (Vector.replicate 32 0xAB)) :=
  capitalised.refused_of_mixed rfl (by decide) _

end VoucherProxy.Tls
