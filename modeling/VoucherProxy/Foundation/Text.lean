import Mathlib.Data.List.DropRight

namespace VoucherProxy.Text

/-! String operations, computed on the list of characters. -/

/-- The characters of Unicode's `White_Space` property. -/
def isWhitespace (c : Char) : Bool :=
  let code := c.val
  (9 ≤ code && code ≤ 13) || code == 0x20 || code == 0x85 || code == 0xA0 ||
    code == 0x1680 || (0x2000 ≤ code && code ≤ 0x200A) || code == 0x2028 ||
    code == 0x2029 || code == 0x202F || code == 0x205F || code == 0x3000

def isAsciiAlphanumeric (c : Char) : Bool :=
  ('a' ≤ c && c ≤ 'z') || ('A' ≤ c && c ≤ 'Z') || ('0' ≤ c && c ≤ '9')

def isAsciiHexdigit (c : Char) : Bool :=
  ('0' ≤ c && c ≤ '9') || ('a' ≤ c && c ≤ 'f') || ('A' ≤ c && c ≤ 'F')

def startsWith (text start : String) : Bool := start.toList.isPrefixOf text.toList

/-- What follows `start`, when the text begins with it. -/
def stripStart (text start : String) : Option String :=
  if startsWith text start then some (String.ofList (text.toList.drop start.length)) else none

/-- Remove `start` from the front as often as it occurs there. `fuel` bounds the
repetitions; the length of the text is always enough. -/
def trimStartMatchesFrom (start : List Char) : Nat → List Char → List Char
  | 0, text => text
  | fuel + 1, text =>
      if start.isPrefixOf text then trimStartMatchesFrom start fuel (text.drop start.length)
      else text

def trimStartMatches (text start : String) : String :=
  String.ofList (trimStartMatchesFrom start.toList text.toList.length text.toList)

def trimEndMatches (text : String) (c : Char) : String :=
  String.ofList (text.toList.rdropWhile (· == c))

def trim (text : String) : String :=
  String.ofList ((text.toList.dropWhile isWhitespace).rdropWhile isWhitespace)

/-- The pieces between the occurrences of `separator`. -/
def split (text : String) (separator : Char) : List String :=
  (text.toList.splitOn separator).map String.ofList

def contains (text piece : String) : Bool :=
  text.toList.tails.any fun rest => piece.toList.isPrefixOf rest

def toAsciiLowercase (text : String) : String :=
  String.ofList (text.toList.map Char.toLower)

theorem startsWith_iff {text start : String} :
    startsWith text start = true ↔ start.toList <+: text.toList := by
  simp [startsWith]

theorem startsWith_append (start rest : String) : startsWith (start ++ rest) start = true := by
  rw [startsWith_iff, String.toList_append]
  exact List.prefix_append _ _

/-- A text whose characters take one byte each has as many bytes as characters. -/
theorem utf8ByteSize_of_ascii {text : String} (ascii : ∀ c ∈ text.toList, c.utf8Size = 1) :
    text.utf8ByteSize = text.toList.length := by
  have bytes : ∀ characters : List Char, (∀ c ∈ characters, c.utf8Size = 1) →
      (String.ofList characters).utf8ByteSize = characters.length := by
    intro characters
    induction characters with
    | nil => intro _; rfl
    | cons c characters induction =>
        intro single
        rw [String.ofList_cons, String.utf8ByteSize_append, String.utf8ByteSize_singleton,
          single c (by simp), induction fun other member => single other (by simp [member]),
          List.length_cons, Nat.add_comm]
  simpa using bytes text.toList ascii

theorem code_of_hexdigit {c : Char} (digit : isAsciiHexdigit c = true) :
    48 ≤ c.val.toNat ∧ c.val.toNat ≤ 102 := by
  simp only [isAsciiHexdigit, Bool.or_eq_true, Bool.and_eq_true, decide_eq_true_eq, Char.le_def,
    UInt32.le_iff_toNat_le] at digit
  change ((48 ≤ c.val.toNat ∧ c.val.toNat ≤ 57) ∨ (97 ≤ c.val.toNat ∧ c.val.toNat ≤ 102)) ∨
    (65 ≤ c.val.toNat ∧ c.val.toNat ≤ 70) at digit
  omega

theorem utf8Size_of_hexdigit {c : Char} (digit : isAsciiHexdigit c = true) : c.utf8Size = 1 := by
  rw [Char.utf8Size_eq_one_iff, UInt32.le_iff_toNat_le]
  exact (code_of_hexdigit digit).2.trans (by decide)

theorem isAsciiHexdigit_of_isWhitespace {c : Char} (blank : isWhitespace c = true) :
    isAsciiHexdigit c = false := by
  rw [← Bool.not_eq_true]
  intro digit
  have range := code_of_hexdigit digit
  simp only [isWhitespace, Bool.or_eq_true, Bool.and_eq_true, decide_eq_true_eq, beq_iff_eq,
    ← UInt32.toNat_inj, UInt32.le_iff_toNat_le, UInt32.reduceToNat] at blank
  omega

theorem isAsciiHexdigit_toLower (c : Char) : isAsciiHexdigit c.toLower = isAsciiHexdigit c := by
  have capital : ∀ n < 26, isAsciiHexdigit (Char.ofNat (65 + n)).toLower =
      isAsciiHexdigit (Char.ofNat (65 + n)) := by
    decide
  by_cases upper : 65 ≤ c.toNat ∧ c.toNat ≤ 90
  · have known := capital (c.toNat - 65) (by omega)
    rwa [Nat.add_sub_cancel' upper.1, Char.ofNat_toNat] at known
  · have other : ¬(c.val ≥ 'A'.val ∧ c.val ≤ 'Z'.val) := by
      simpa [UInt32.le_iff_toNat_le] using upper
    have same : c.toLower = c := dif_neg other
    rw [same]

/-- A text that still begins with `start` after its end was trimmed began with
it before. -/
theorem startsWith_of_trimEndMatches {text start : String} {c : Char}
    (begins : startsWith (trimEndMatches text c) start = true) :
    startsWith text start = true := by
  rw [startsWith_iff] at begins ⊢
  rw [trimEndMatches, String.toList_ofList] at begins
  exact begins.trans (List.rdropWhile_prefix _ _)

/-- Folding case keeps a lower-case beginning. -/
theorem startsWith_toAsciiLowercase {text start : String}
    (lower : start.toList.map Char.toLower = start.toList)
    (begins : startsWith text start = true) :
    startsWith (toAsciiLowercase text) start = true := by
  rw [startsWith_iff] at begins ⊢
  rw [toAsciiLowercase, String.toList_ofList, ← lower]
  exact begins.map _

theorem stripStart_append (start rest : String) : stripStart (start ++ rest) start = some rest := by
  rw [stripStart, if_pos (startsWith_append start rest), String.toList_append, ← String.length_toList,
    List.drop_left, String.ofList_toList]

theorem eq_append_of_stripStart {text start rest : String}
    (stripped : stripStart text start = some rest) : text = start ++ rest := by
  rw [stripStart, Option.ite_none_right_eq_some, startsWith_iff] at stripped
  rcases stripped with ⟨⟨tail, spelled⟩, same⟩
  rw [← spelled, ← String.length_toList, List.drop_left, Option.some.injEq] at same
  rw [← String.toList_inj, String.toList_append, ← same, String.toList_ofList, spelled]

/-- Pieces without the separator are found again between its occurrences. -/
theorem split_of_intercalate {text : String} {separator : Char} {pieces : List String}
    (spelled : text.toList = [separator].intercalate (pieces.map String.toList))
    (clean : ∀ piece ∈ pieces, separator ∉ piece.toList) (some : pieces ≠ []) :
    split text separator = pieces := by
  rw [split, spelled, List.splitOn_intercalate separator _ (by simpa using some), List.map_map]
  · simp
  · intro letters member
    rcases List.mem_map.mp member with ⟨piece, present, rfl⟩
    exact clean piece present

/-- Pieces that begin at a separator come after those of what stands before. -/
theorem split_append {start text : String} {separator : Char} {pieces : List String}
    (spelled : text.toList = separator :: [separator].intercalate (pieces.map String.toList))
    (clean : ∀ piece ∈ pieces, separator ∉ piece.toList) (some : pieces ≠ []) :
    split (start ++ text) separator = split start separator ++ pieces := by
  have rest : split (String.ofList ([separator].intercalate (pieces.map String.toList)))
      separator = pieces :=
    split_of_intercalate (by simp) clean some
  rw [split, String.toList_ofList] at rest
  rw [split, split, String.toList_append, spelled, List.splitOn_append_cons_self, List.map_append,
    rest]

/-- A text that itself begins at a separator goes on with the pieces behind it. -/
theorem split_append_of_split {start text : String} {separator : Char} {pieces : List String}
    (begins : split text separator = "" :: pieces) (some : pieces ≠ []) :
    split (start ++ text) separator = split start separator ++ pieces := by
  have letters : text.toList.splitOn separator = [] :: pieces.map String.toList := by
    have mapped := congrArg (List.map String.toList) begins
    simpa [split, Function.comp_def] using mapped
  have spelled : text.toList =
      separator :: [separator].intercalate (pieces.map String.toList) := by
    have whole : [separator].intercalate (text.toList.splitOn separator) = text.toList :=
      List.intercalate_splitOn separator
    rw [← whole, letters, List.intercalate_cons_of_ne_nil (by simpa using some)]
    rfl
  have behind : ([separator].intercalate (pieces.map String.toList)).splitOn separator =
      pieces.map String.toList := by
    have whole := List.splitOn_append_cons_self [] ([separator].intercalate
      (pieces.map String.toList)) (a := separator)
    rw [List.nil_append, ← spelled, letters] at whole
    exact (List.cons.inj whole).2.symm
  rw [split, String.toList_append, spelled, List.splitOn_append_cons_self, List.map_append, behind]
  simp [split]

/-! ## Trimming -/

/-- What trimming leaves stands between whitespace. -/
theorem trim_eq (text : String) :
    ∃ lead trail : List Char, text.toList = lead ++ ((trim text).toList ++ trail) ∧
      (∀ c ∈ lead, isWhitespace c = true) ∧ ∀ c ∈ trail, isWhitespace c = true := by
  refine ⟨text.toList.takeWhile isWhitespace,
    (text.toList.dropWhile isWhitespace).rtakeWhile isWhitespace, ?_,
    fun c member => List.mem_takeWhile_imp member, fun c member => List.mem_rtakeWhile_imp member⟩
  rw [trim, String.toList_ofList, List.rdropWhile_append_rtakeWhile, List.takeWhile_append_dropWhile]

theorem rdropWhile_append {α : Type} (p : α → Bool) (early late : List α) :
    (early ++ late).rdropWhile p =
      if late.all p then early.rdropWhile p else early ++ late.rdropWhile p := by
  have emptied : (late.reverse.dropWhile p).isEmpty = true ↔ late.all p = true := by
    rw [List.isEmpty_iff, List.dropWhile_eq_nil_iff]
    simp
  rw [List.rdropWhile, List.reverse_append, List.dropWhile_append, List.rdropWhile, List.rdropWhile,
    apply_ite List.reverse, List.reverse_append, List.reverse_reverse]
  exact if_congr emptied rfl rfl

/-- Copies of a word that ends with what is kept are kept. -/
theorem rdropWhile_copies {α : Type} {p : α → Bool} {word : List α} (some : word.all p = false)
    (kept : word.rdropWhile p = word) (early : List α) (count : Nat) :
    (early ++ (List.replicate (count + 1) word).flatten).rdropWhile p =
      early ++ (List.replicate (count + 1) word).flatten := by
  rw [List.replicate_succ', List.flatten_append, List.flatten_singleton, ← List.append_assoc,
    rdropWhile_append, some, kept]
  rfl

/-- Whitespace around a text makes no difference to what trimming leaves. -/
theorem trim_padded {lead trail : List Char} (before : ∀ c ∈ lead, isWhitespace c = true)
    (after : ∀ c ∈ trail, isWhitespace c = true) (middle : List Char) :
    trim (String.ofList (lead ++ (middle ++ trail))) = trim (String.ofList middle) := by
  rw [trim, trim, String.toList_ofList, String.toList_ofList, List.dropWhile_append_of_pos before,
    List.dropWhile_append, List.dropWhile_eq_nil_iff.mpr after]
  split
  next blank => rw [List.isEmpty_iff.mp blank]
  next => rw [rdropWhile_append, if_pos (by simpa using after)]

/-- Behind a mark that whitespace neither opens nor closes, only the end of a
text is trimmed. -/
theorem trim_marked {mark body : List Char}
    (opens : (mark ++ body).dropWhile isWhitespace = mark ++ body)
    (closes : mark.rdropWhile isWhitespace = mark) :
    trim (String.ofList (mark ++ body)) =
      String.ofList (mark ++ body.rdropWhile isWhitespace) := by
  rw [trim, String.toList_ofList, opens, rdropWhile_append]
  split
  next blank =>
    rw [closes, List.rdropWhile_eq_nil_iff.mpr (by simpa using blank), List.append_nil]
  next => rfl

/-- What was removed from the front is a number of copies. -/
theorem trimStartMatchesFrom_eq (start : List Char) : ∀ (fuel : Nat) (text : List Char),
    ∃ count, text = (List.replicate count start).flatten ++ trimStartMatchesFrom start fuel text
  | 0, text => ⟨0, rfl⟩
  | fuel + 1, text => by
      rw [trimStartMatchesFrom]
      split
      next begins =>
        rcases List.isPrefixOf_iff_prefix.mp begins with ⟨rest, rfl⟩
        rcases trimStartMatchesFrom_eq start fuel rest with ⟨count, copies⟩
        refine ⟨count + 1, ?_⟩
        rw [List.drop_left, List.replicate_succ, List.flatten_cons, List.append_assoc, ← copies]
      next => exact ⟨0, rfl⟩

theorem trimStartMatches_eq (text start : String) :
    ∃ count, text.toList =
      (List.replicate count start.toList).flatten ++ (trimStartMatches text start).toList := by
  rw [trimStartMatches, String.toList_ofList]
  exact trimStartMatchesFrom_eq start.toList text.toList.length text.toList

theorem trimStartMatchesFrom_of_copies {start rest : List Char} (other : ¬ start <+: rest) :
    ∀ {count fuel : Nat}, count ≤ fuel →
      trimStartMatchesFrom start fuel ((List.replicate count start).flatten ++ rest) = rest
  | 0, 0, _ => rfl
  | 0, fuel + 1, _ => by
      rw [List.replicate_zero, List.flatten_nil, List.nil_append, trimStartMatchesFrom,
        if_neg (by simpa using other)]
  | count + 1, fuel + 1, enough => by
      rw [List.replicate_succ, List.flatten_cons, List.append_assoc, trimStartMatchesFrom,
        if_pos (by simp), List.drop_left,
        trimStartMatchesFrom_of_copies other (Nat.le_of_succ_le_succ enough)]

/-- Copies of a start are removed, however many there are. -/
theorem trimStartMatches_of_copies {text start : String} {rest : List Char} (count : Nat)
    (spelled : text.toList = (List.replicate count start.toList).flatten ++ rest)
    (some : start.toList ≠ []) (other : ¬ start.toList <+: rest) :
    trimStartMatches text start = String.ofList rest := by
  have enough : count ≤ text.toList.length := by
    have letters : 0 < start.toList.length := List.length_pos_of_ne_nil some
    have copies : count ≤ count * start.toList.length := Nat.le_mul_of_pos_right count letters
    rw [spelled, List.length_append, List.length_flatten, List.map_replicate, List.sum_replicate_nat]
    omega
  rw [trimStartMatches, spelled, trimStartMatchesFrom_of_copies other (spelled ▸ enough)]

end VoucherProxy.Text
