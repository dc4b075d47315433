import Mathlib.Algebra.Order.Field.Rat
import Mathlib.Tactic.FieldSimp
import Mathlib.Tactic.Positivity
import VoucherProxy.Foundation.Scan

namespace VoucherProxy.Exposition

/-! # The text format of metrics

A line for each sample, with its name, its labels and its value, among comments that
may describe a metric or tell its type. -/

inductive Value
  | number (value : ℚ)
  | infinite (negative : Bool)
  | nan
  deriving DecidableEq

structure Sample where
  name : String
  labels : List (String × String)
  value : Value
  timestamp : Option Int
  deriving DecidableEq

inductive Kind
  | counter
  | gauge
  | histogram
  | summary
  | untyped
  deriving DecidableEq

inductive Line
  | blank
  | comment
  | help (name doc : String)
  | type (name : String) (kind : Kind)
  | sample (sample : Sample)
  deriving DecidableEq

/-! ## Words of a line -/

def isBlank (c : Char) : Bool := c == ' ' || c == '\t'

def isLabelLetter (c : Char) : Bool := c.isAlphanum || c == '_'

def isMetricLetter (c : Char) : Bool := isLabelLetter c || c == ':'

/-- A name is made of some letters, and begins with no digit. -/
def readName (letter : Char → Bool) (text : List Char) : Option (String × List Char) :=
  match Scan.word letter text with
  | ([], _) => none
  | (first :: name, rest) =>
      if first.isDigit then none else some (String.ofList (first :: name), rest)

/-- What a letter stands for behind a backslash in a quoted value. -/
def unescape (c : Char) : Option Char :=
  if c = '\\' then some '\\'
  else if c = '"' then some '"'
  else if c = 'n' then some '\n'
  else none

/-- The rest of a quoted value, up to the quote that ends it. -/
def readQuoted : Bool → List Char → Option (List Char × List Char)
  | _, [] => none
  | true, c :: rest => do
      let letter ← unescape c
      let (value, rest) ← readQuoted false rest
      some (letter :: value, rest)
  | false, c :: rest =>
      if c = '"' then some ([], rest)
      else if c = '\\' then readQuoted true rest
      else do
        let (value, rest) ← readQuoted false rest
        some (c :: value, rest)

/-- The rest of a list of labels, each of which takes several letters. -/
def readLabels : Nat → List Char → Option (List (String × String) × List Char)
  | 0, _ => none
  | more + 1, text =>
      match Scan.skip isBlank text with
      | '}' :: rest => some ([], rest)
      | text => do
          let (name, rest) ← readName isLabelLetter text
          let rest ← Scan.expect '=' (Scan.skip isBlank rest)
          let rest ← Scan.expect '"' (Scan.skip isBlank rest)
          let (value, rest) ← readQuoted false rest
          match Scan.skip isBlank rest with
          | '}' :: rest => some ([(name, String.ofList value)], rest)
          | ',' :: rest => do
              let (labels, rest) ← readLabels more rest
              some ((name, String.ofList value) :: labels, rest)
          | _ => none

/-! ## Numbers -/

def readSign : List Char → Bool × List Char
  | '-' :: rest => (true, rest)
  | '+' :: rest => (false, rest)
  | text => (false, text)

def readInteger (text : List Char) : Option Int :=
  let (negative, digits) := readSign text
  if digits ≠ [] ∧ digits.all Char.isDigit then
    some (if negative then -(Decimal.read digits : Int) else Decimal.read digits)
  else none

def readExponent : List Char → Option Int
  | [] => some 0
  | c :: rest => if c = 'e' ∨ c = 'E' then readInteger rest else none

/-- The part behind the decimal point. -/
def readFraction : List Char → List Char × List Char
  | '.' :: rest => Scan.word Char.isDigit rest
  | text => ([], text)

/-- A number is given by its digits, among which there may be a point, and an
exponent. -/
def readMagnitude (text : List Char) : Option ℚ := do
  let (whole, rest) := Scan.word Char.isDigit text
  let (fraction, rest) := readFraction rest
  let exponent ← readExponent rest
  if whole ++ fraction = [] then none
  else some (Decimal.read (whole ++ fraction) * 10 ^ (exponent - fraction.length))

def readValue (text : List Char) : Option Value :=
  let (negative, magnitude) := readSign text
  let lower := magnitude.map Char.toLower
  if text.map Char.toLower = ['n', 'a', 'n'] then some .nan
  else if lower = ['i', 'n', 'f'] ∨ lower = ['i', 'n', 'f', 'i', 'n', 'i', 't', 'y'] then
    some (.infinite negative)
  else (readMagnitude magnitude).map fun value => .number (if negative then -value else value)

/-! ## Lines -/

/-- The labels of a sample, which may have none. -/
def readBraces (text : List Char) : Option (List (String × String) × List Char) :=
  match Scan.skip isBlank text with
  | '{' :: rest => readLabels rest.length rest
  | _ => some ([], text)

/-- The value of a sample and its time, if it has one, up to the end of the line. -/
def readNumbers (text : List Char) : Option (Value × Option Int) := do
  let (token, rest) := Scan.word (!isBlank ·) (Scan.skip isBlank text)
  let value ← readValue token
  match Scan.word (!isBlank ·) (Scan.skip isBlank rest) with
  | ([], _) => some (value, none)
  | (stamp, rest) => do
      let timestamp ← readInteger stamp
      if Scan.skip isBlank rest = [] then some (value, some timestamp) else none

def readSample (text : List Char) : Option Sample := do
  let (name, rest) ← readName isMetricLetter text
  let (labels, rest) ← readBraces rest
  let (value, timestamp) ← readNumbers rest
  some ⟨name, labels, value, timestamp⟩

/-- A description escapes backslashes and line feeds. -/
def readDoc : Bool → List Char → Option (List Char)
  | true, [] => none
  | false, [] => some []
  | true, c :: rest => do
      let letter ← if c = '"' then none else unescape c
      (readDoc false rest).map (letter :: ·)
  | false, c :: rest =>
      if c = '\\' then readDoc true rest else (readDoc false rest).map (c :: ·)

def readKind (word : List Char) : Option Kind :=
  if word = "counter".toList then some .counter
  else if word = "gauge".toList then some .gauge
  else if word = "histogram".toList then some .histogram
  else if word = "summary".toList then some .summary
  else if word = "untyped".toList then some .untyped
  else none

/-- What stands behind the number sign. -/
def readComment (text : List Char) : Option Line :=
  let (word, rest) := Scan.word (!isBlank ·) (Scan.skip isBlank text)
  if word = "HELP".toList then do
    let (name, rest) ← readName isMetricLetter (Scan.skip isBlank rest)
    let doc ← readDoc false (Scan.skip isBlank rest)
    some (.help name (String.ofList doc))
  else if word = "TYPE".toList then do
    let (name, rest) ← readName isMetricLetter (Scan.skip isBlank rest)
    let (kind, rest) := Scan.word (!isBlank ·) (Scan.skip isBlank rest)
    let kind ← readKind kind
    if Scan.skip isBlank rest = [] then some (.type name kind) else none
  else some .comment

def readLine (text : List Char) : Option Line :=
  match Scan.skip isBlank text with
  | [] => some .blank
  | '#' :: rest => readComment rest
  | text => (readSample text).map .sample

/-- The lines of a text, each with a line feed at its end. The letters of the current
one have been read, the last one first. -/
def readLines : List Char → List Char → Option (List Line)
  | [], [] => some []
  | _ :: _, [] => none
  | read, c :: rest =>
      if c = '\n' then do
        let line ← readLine read.reverse
        let lines ← readLines [] rest
        some (line :: lines)
      else readLines (c :: read) rest

def parse (text : String) : Option (List Line) := readLines [] text.toList

/-- The samples among the lines. -/
def samples (lines : List Line) : List Sample :=
  lines.filterMap fun line =>
    match line with
    | .sample sample => some sample
    | _ => none

/-! ## Names and quoted values -/

/-- A name that may be written for a metric or a label. -/
def isName (letter : Char → Bool) (name : String) : Bool :=
  match name.toList with
  | [] => false
  | first :: rest => !first.isDigit && (first :: rest).all letter

theorem readName_append {letter : Char → Bool} {name : String} (rest : List Char)
    (proper : isName letter name = true) (ends : Scan.Ends letter rest) :
    readName letter (name.toList ++ rest) = some (name, rest) := by
  rw [isName] at proper
  cases letters : name.toList with
  | nil =>
      rw [letters] at proper
      cases proper
  | cons first others =>
      rw [letters, Bool.and_eq_true, Bool.not_eq_true'] at proper
      rw [readName, Scan.word_append proper.2 ends]
      simp only [proper.1, Bool.false_eq_true, if_false, ← letters, String.ofList_toList]

theorem all_of_isName {letter : Char → Bool} {name : String} (proper : isName letter name = true) :
    name.toList.all letter = true := by
  rw [isName] at proper
  cases letters : name.toList with
  | nil => rfl
  | cons first others =>
      rw [letters, Bool.and_eq_true] at proper
      exact proper.2

def escapeLetter (c : Char) : List Char :=
  if c = '\\' then ['\\', '\\']
  else if c = '"' then ['\\', '"']
  else if c = '\n' then ['\\', 'n']
  else [c]

/-- How a value is written between quotes. -/
def escape (value : List Char) : List Char := value.flatMap escapeLetter

theorem escape_cons (c : Char) (value : List Char) :
    escape (c :: value) = escapeLetter c ++ escape value :=
  List.flatMap_cons ..

/-- One written letter is read back. -/
theorem readQuoted_escapeLetter (c : Char) (rest : List Char) :
    readQuoted false (escapeLetter c ++ rest) =
      (readQuoted false rest).map fun read => (c :: read.1, read.2) := by
  have behind : ∀ {mark letter : Char}, unescape mark = some letter →
      readQuoted false ('\\' :: mark :: rest) =
        (readQuoted false rest).map fun read => (letter :: read.1, read.2) := by
    intro mark letter stands
    have quote : ('\\' : Char) ≠ '"' := by decide
    rw [readQuoted, if_neg quote, if_pos rfl, readQuoted, stands]
    cases readQuoted false rest with
    | none => rfl
    | some read => rfl
  rw [escapeLetter]
  by_cases backslash : c = '\\'
  · rw [if_pos backslash, backslash]
    exact behind rfl
  by_cases quote : c = '"'
  · rw [if_neg backslash, if_pos quote, quote]
    exact behind rfl
  by_cases feed : c = '\n'
  · rw [if_neg backslash, if_neg quote, if_pos feed, feed]
    exact behind rfl
  rw [if_neg backslash, if_neg quote, if_neg feed, List.singleton_append, readQuoted, if_neg quote,
    if_neg backslash]
  cases readQuoted false rest with
  | none => rfl
  | some read => rfl

/-- What is written between quotes is read back, and nothing behind it. -/
theorem readQuoted_escape (value rest : List Char) :
    readQuoted false (escape value ++ '"' :: rest) = some (value, rest) := by
  induction value with
  | nil => exact if_pos rfl
  | cons c value induction =>
      rw [escape_cons, List.append_assoc, readQuoted_escapeLetter, induction]
      rfl

theorem escape_injective : Function.Injective escape := by
  intro left right same
  have read := readQuoted_escape left []
  rw [same, readQuoted_escape] at read
  exact (congrArg Prod.fst (Option.some.inj read)).symm

theorem feed_notMem_escape (value : List Char) : '\n' ∉ escape value := by
  intro member
  rcases List.mem_flatMap.mp member with ⟨c, -, own⟩
  rw [escapeLetter] at own
  split_ifs at own with backslash quote feed
  · simp at own
  · simp at own
  · simp at own
  · exact feed (List.mem_singleton.mp own).symm

/-! ## Labels -/

def labelText (label : String × String) : List Char :=
  label.1.toList ++ '=' :: '"' :: (escape label.2.toList ++ ['"'])

/-- The labels that follow another, and the brace behind the last one. -/
def moreLabels : List (String × String) → List Char
  | [] => ['}']
  | label :: labels => ',' :: (labelText label ++ moreLabels labels)

theorem length_moreLabels (labels : List (String × String)) :
    labels.length < (moreLabels labels).length := by
  induction labels with
  | nil => exact Nat.zero_lt_one
  | cons label labels induction =>
      rw [moreLabels, List.length_cons, List.length_cons, List.length_append]
      omega

theorem skip_of_isName {letter : Char → Bool} {name : String} (rest : List Char)
    (proper : isName letter name = true) (visible : ∀ c, letter c = true → isBlank c = false) :
    Scan.skip isBlank (name.toList ++ rest) = name.toList ++ rest ∧
      ∃ first others, name.toList ++ rest = first :: others ∧ letter first = true := by
  have letters := all_of_isName proper
  rw [isName] at proper
  cases spelled : name.toList with
  | nil =>
      rw [spelled] at proper
      cases proper
  | cons first others =>
      rw [spelled, List.all_cons, Bool.and_eq_true] at letters
      exact ⟨Scan.skip_of_ends (Scan.ends_cons.mpr (visible first letters.1)),
        first, others ++ rest, rfl, letters.1⟩

theorem isBlank_of_isLabelLetter (c : Char) (letter : isLabelLetter c = true) :
    isBlank c = false := by
  rw [← Bool.not_eq_true]
  intro blank
  simp only [isBlank, Bool.or_eq_true, beq_iff_eq] at blank
  rcases blank with rfl | rfl
  · exact absurd letter (by decide)
  · exact absurd letter (by decide)

/-- One label is read up to what separates it from the next. -/
theorem readLabels_labelText {label : String × String}
    (proper : isName isLabelLetter label.1 = true) (more : Nat) {c : Char} {rest : List Char}
    (separates : c = '}' ∨ c = ',') :
    readLabels (more + 1) (labelText label ++ c :: rest) =
      if c = '}' then some ([label], rest)
      else (readLabels more rest).map fun read => (label :: read.1, read.2) := by
  have text : labelText label ++ c :: rest =
      label.1.toList ++ '=' :: '"' :: (escape label.2.toList ++ '"' :: c :: rest) := by
    simp [labelText]
  rcases skip_of_isName ('=' :: '"' :: (escape label.2.toList ++ '"' :: c :: rest)) proper
    isBlank_of_isLabelLetter with ⟨skipped, first, others, spelled, letter⟩
  have named := readName_append ('=' :: '"' :: (escape label.2.toList ++ '"' :: c :: rest)) proper
    (Scan.ends_cons.mpr (by decide))
  have marks : ['=', '"', '}', ','].all (fun c => isBlank c == false) = true := by decide
  have kept : ∀ c ∈ ['=', '"', '}', ','], ∀ rest, Scan.skip isBlank (c :: rest) = c :: rest := by
    intro c member rest
    have visible := List.all_eq_true.mp marks c member
    exact Scan.skip_of_ends (Scan.ends_cons.mpr (beq_iff_eq.mp visible))
  rw [text, readLabels, skipped]
  split
  · rename_i closes
    rw [closes] at spelled
    cases spelled
    exact absurd letter (by decide)
  · simp only [named, Option.bind_eq_bind, Option.bind_some, kept '=' (by simp),
      kept '"' (by simp), Scan.expect_cons, readQuoted_escape, String.ofList_toList]
    rcases separates with rfl | rfl
    · rw [kept '}' (by simp), if_pos rfl]
      rfl
    · rw [kept ',' (by simp), if_neg (by decide)]
      change (readLabels more rest).bind _ = _
      cases readLabels more rest with
      | none => rfl
      | some read => rfl

theorem readLabels_append {label : String × String} {labels : List (String × String)}
    (proper : ∀ other ∈ label :: labels, isName isLabelLetter other.1 = true) {fuel : Nat}
    (enough : labels.length < fuel) (rest : List Char) :
    readLabels fuel (labelText label ++ (moreLabels labels ++ rest)) =
      some (label :: labels, rest) := by
  induction labels generalizing label fuel with
  | nil =>
      obtain ⟨more, rfl⟩ := Nat.exists_eq_add_one_of_ne_zero (Nat.ne_zero_of_lt enough)
      exact (readLabels_labelText (proper label (by simp)) more (.inl rfl)).trans (if_pos rfl)
  | cons next labels induction =>
      obtain ⟨more, rfl⟩ := Nat.exists_eq_add_one_of_ne_zero (Nat.ne_zero_of_lt enough)
      have comma : ¬ (',' : Char) = '}' := by decide
      have others := induction (fun other member => proper other (List.mem_cons_of_mem _ member))
        (Nat.lt_of_succ_lt_succ enough)
      rw [moreLabels, List.cons_append, List.append_assoc,
        readLabels_labelText (proper label (by simp)) more (.inr rfl), if_neg comma, others]
      rfl

/-! ## Numerals -/

/-- A way to write a number, from its first digit on. -/
structure Writes (numeral : List Char) (value : ℚ) : Prop where
  starts : ∃ first others, numeral = first :: others ∧ first.isDigit = true
  plain : ∀ c ∈ numeral, isBlank c = false ∧ c ≠ '\n'
  reads : readMagnitude numeral = some value

theorem plain_of_isDigit {c : Char} (digit : c.isDigit = true) :
    isBlank c = false ∧ c ≠ '\n' := by
  refine ⟨?_, ?_⟩
  · rw [← Bool.not_eq_true]
    intro blank
    simp only [isBlank, Bool.or_eq_true, beq_iff_eq] at blank
    rcases blank with rfl | rfl
    · exact absurd digit (by decide)
    · exact absurd digit (by decide)
  · rintro rfl
    exact absurd digit (by decide)

theorem toLower_of_isDigit {c : Char} (digit : c.isDigit = true) : c.toLower = c := by
  apply dif_neg
  rintro ⟨first, -⟩
  have last : c.val.toNat ≤ 57 := UInt32.le_iff_toNat_le.mp (of_decide_eq_true
    (Bool.and_eq_true_iff.mp digit).2)
  have capital : 65 ≤ c.val.toNat := UInt32.le_iff_toNat_le.mp first
  omega

theorem Writes.readValue {numeral : List Char} {value : ℚ} (writes : Writes numeral value) :
    readValue numeral = some (.number value) := by
  rcases writes.starts with ⟨first, others, spelled, digit⟩
  have other : ∀ c, c.isDigit = false → first ≠ c := by
    rintro c notDigit rfl
    rw [digit] at notDigit
    cases notDigit
  have unsigned : readSign numeral = (false, numeral) := by
    rw [spelled, readSign]
    · exact fun rest same => other '-' (by decide) (List.cons.inj same).1
    · exact fun rest same => other '+' (by decide) (List.cons.inj same).1
  have word : ∀ c letters, c.isDigit = false → numeral.map Char.toLower ≠ c :: letters := by
    intro c letters notDigit same
    rw [spelled, List.map_cons, toLower_of_isDigit digit] at same
    exact other c notDigit (List.cons.inj same).1
  simp only [Exposition.readValue, unsigned, writes.reads, word 'n' _ (by decide),
    word 'i' _ (by decide), or_self, if_false, Option.map_some, Bool.false_eq_true]

theorem starts_digits (number : Nat) (rest : List Char) :
    ∃ first others, Decimal.digits number ++ rest = first :: others ∧ first.isDigit = true := by
  have digits := Decimal.isDigit_digits number
  cases spelled : Decimal.digits number with
  | nil => exact absurd spelled (Decimal.digits_ne_nil number)
  | cons first others =>
      rw [spelled, List.all_cons, Bool.and_eq_true] at digits
      exact ⟨first, others ++ rest, rfl, digits.1⟩

/-- A whole number. -/
theorem writes_digits (number : Nat) : Writes (Decimal.digits number) number where
  starts := by simpa using starts_digits number []
  plain c member :=
    plain_of_isDigit (List.all_eq_true.mp (Decimal.isDigit_digits number) c member)
  reads := by
    have word := Scan.word_all (Decimal.isDigit_digits number)
    simp only [readMagnitude, word, readFraction, readExponent, List.append_nil,
      if_neg (Decimal.digits_ne_nil number), Decimal.read_digits, Option.bind_eq_bind,
      Option.bind_some, List.length_nil, Nat.cast_zero, sub_zero, zpow_zero, mul_one]

/-- A number with a part behind the point. -/
theorem writes_fixed (whole : Nat) {fraction : List Char}
    (digits : fraction.all Char.isDigit = true) :
    Writes (Decimal.digits whole ++ '.' :: fraction)
      (whole + Decimal.read fraction / 10 ^ fraction.length) where
  starts := starts_digits whole _
  plain c member := by
    rcases List.mem_append.mp member with early | late
    · exact plain_of_isDigit (List.all_eq_true.mp (Decimal.isDigit_digits whole) c early)
    rcases List.mem_cons.mp late with rfl | late
    · decide
    · exact plain_of_isDigit (List.all_eq_true.mp digits c late)
  reads := by
    have point : Scan.Ends Char.isDigit ('.' :: fraction) := Scan.ends_cons.mpr (by decide)
    have word := Scan.word_append (Decimal.isDigit_digits whole) point
    have value : (Decimal.read (Decimal.digits whole ++ fraction) : ℚ) =
        10 ^ fraction.length * whole + Decimal.read fraction := by
      rw [Decimal.read_append, Decimal.read_digits]
      push_cast
      rfl
    have positive : (10 : ℚ) ^ fraction.length ≠ 0 := by positivity
    simp only [readMagnitude, word, readFraction, Scan.word_all digits, readExponent,
      Option.bind_eq_bind, Option.bind_some, zero_sub, zpow_neg, zpow_natCast, value]
    rw [if_neg fun none => Decimal.digits_ne_nil whole (List.append_eq_nil_iff.mp none).1]
    field_simp

/-! ## Whole lines -/

def labelsText : List (String × String) → List Char
  | [] => []
  | label :: labels => '{' :: (labelText label ++ moreLabels labels)

theorem isBlank_of_isMetricLetter (c : Char) (letter : isMetricLetter c = true) :
    isBlank c = false := by
  rcases Bool.or_eq_true_iff.mp letter with letter | colon
  · exact isBlank_of_isLabelLetter c letter
  · rw [beq_iff_eq.mp colon]
    decide

theorem skip_space {text : List Char} (ends : Scan.Ends isBlank text) :
    Scan.skip isBlank (' ' :: text) = text := by
  have blank : isBlank ' ' = true := by decide
  exact Scan.skip_cons blank ends

theorem readNumbers_text {numeral : List Char} {value : ℚ} (writes : Writes numeral value) :
    readNumbers (' ' :: numeral) = some (.number value, none) := by
  have visible : numeral.all (!isBlank ·) = true := by
    rw [List.all_eq_true]
    intro c member
    rw [(writes.plain c member).1]
    rfl
  rcases writes.starts with ⟨first, others, spelled, digit⟩
  have ends : Scan.Ends isBlank numeral := by
    rw [spelled]
    exact Scan.ends_cons.mpr (plain_of_isDigit digit).1
  simp only [readNumbers, skip_space ends, Scan.word_all visible, writes.readValue,
    Option.bind_eq_bind, Option.bind_some]
  rfl

theorem readBraces_text {labels : List (String × String)}
    (labelled : ∀ label ∈ labels, isName isLabelLetter label.1 = true) {first : Char}
    (digit : first.isDigit = true) (others : List Char) :
    readBraces (labelsText labels ++ ' ' :: first :: others) =
      some (labels, ' ' :: first :: others) := by
  have ends : Scan.Ends isBlank (first :: others) :=
    Scan.ends_cons.mpr (plain_of_isDigit digit).1
  cases labels with
  | nil =>
      rw [labelsText, List.nil_append, readBraces, skip_space ends]
      split
      · rename_i opens
        cases opens
        exact absurd digit (by decide)
      · rfl
  | cons label labels =>
      have brace : Scan.Ends isBlank
          ('{' :: (labelText label ++ (moreLabels labels ++ ' ' :: first :: others))) :=
        Scan.ends_cons.mpr (by decide)
      rw [labelsText, List.cons_append, List.append_assoc, readBraces, Scan.skip_of_ends brace]
      apply readLabels_append labelled
      have longer := length_moreLabels labels
      rw [List.length_append, List.length_append]
      omega

/-- A sample is read back from its line. -/
theorem readSample_text {sample : Sample} {numeral : List Char} {value : ℚ}
    (named : isName isMetricLetter sample.name = true)
    (labelled : ∀ label ∈ sample.labels, isName isLabelLetter label.1 = true)
    (writes : Writes numeral value) (number : sample.value = .number value)
    (untimed : sample.timestamp = none) :
    readSample (sample.name.toList ++ (labelsText sample.labels ++ ' ' :: numeral)) =
      some sample := by
  rcases writes.starts with ⟨first, others, spelled, digit⟩
  have braces := readBraces_text labelled digit others
  have ends : Scan.Ends isMetricLetter (labelsText sample.labels ++ ' ' :: numeral) := by
    cases sample.labels with
    | nil => exact Scan.ends_cons.mpr (by decide)
    | cons label labels => exact Scan.ends_cons.mpr (by decide)
  rw [← spelled] at braces
  simp only [readSample, readName_append _ named ends, braces, readNumbers_text writes,
    Option.bind_eq_bind, Option.bind_some, ← number, ← untimed]

/-- A text is one line, which reads as this. -/
structure Spells (text : List Char) (line : Line) : Prop where
  one : '\n' ∉ text
  reads : readLine text = some line

theorem feed_notMem_of_letters {letter : Char → Bool} {text : List Char}
    (letters : text.all letter = true) (other : letter '\n' = false) : '\n' ∉ text := by
  intro member
  rw [List.all_eq_true.mp letters _ member] at other
  cases other

theorem feed_notMem_labelText {label : String × String}
    (labelled : isName isLabelLetter label.1 = true) : '\n' ∉ labelText label := by
  have named := feed_notMem_of_letters (all_of_isName labelled) (by decide)
  simp only [labelText, List.mem_append, List.mem_cons, List.not_mem_nil, or_false, not_or]
  exact ⟨named, by decide, by decide, feed_notMem_escape _, by decide⟩

theorem feed_notMem_labelsText {labels : List (String × String)}
    (labelled : ∀ label ∈ labels, isName isLabelLetter label.1 = true) :
    '\n' ∉ labelsText labels := by
  have more : ∀ others : List (String × String),
      (∀ label ∈ others, isName isLabelLetter label.1 = true) → '\n' ∉ moreLabels others := by
    intro others
    induction others with
    | nil => exact fun _ => by decide
    | cons label others induction =>
        intro labelled
        rw [List.forall_mem_cons] at labelled
        simp only [moreLabels, List.mem_cons, List.mem_append, not_or]
        exact ⟨by decide, feed_notMem_labelText labelled.1, induction labelled.2⟩
  cases labels with
  | nil => exact List.not_mem_nil
  | cons label labels =>
      rw [List.forall_mem_cons] at labelled
      simp only [labelsText, List.mem_cons, List.mem_append, not_or]
      exact ⟨by decide, feed_notMem_labelText labelled.1, more labels labelled.2⟩

theorem spells_sample {sample : Sample} {numeral : List Char} {value : ℚ}
    (named : isName isMetricLetter sample.name = true)
    (labelled : ∀ label ∈ sample.labels, isName isLabelLetter label.1 = true)
    (writes : Writes numeral value) (number : sample.value = .number value)
    (untimed : sample.timestamp = none) :
    Spells (sample.name.toList ++ (labelsText sample.labels ++ ' ' :: numeral))
      (.sample sample) where
  one := by
    simp only [List.mem_append, List.mem_cons, not_or]
    exact ⟨feed_notMem_of_letters (all_of_isName named) (by decide),
      feed_notMem_labelsText labelled, by decide, fun member => (writes.plain _ member).2 rfl⟩
  reads := by
    rcases skip_of_isName (labelsText sample.labels ++ ' ' :: numeral) named
      isBlank_of_isMetricLetter with ⟨skipped, first, others, spelled, letter⟩
    rw [readLine, skipped]
    split
    · rename_i none
      rw [none] at spelled
      cases spelled
    · rename_i marked
      rw [marked] at spelled
      cases spelled
      exact absurd letter (by decide)
    · rw [readSample_text named labelled writes number untimed]
      rfl

/-! ## Comments -/

theorem readDoc_plain {doc : List Char} (plain : '\\' ∉ doc) : readDoc false doc = some doc := by
  induction doc with
  | nil => rfl
  | cons c doc induction =>
      rw [List.mem_cons, not_or] at plain
      rw [readDoc, if_neg (Ne.symm plain.1), induction plain.2]
      rfl

/-- A comment is told by its first word, and a name behind that. -/
theorem readLine_comment (word : List Char) {name : String} (rest : List Char)
    (visible : word.all (!isBlank ·) = true) (nonempty : word ≠ [])
    (named : isName isMetricLetter name = true) :
    readLine ('#' :: ' ' :: (word ++ ' ' :: (name.toList ++ ' ' :: rest))) =
        readComment (' ' :: (word ++ ' ' :: (name.toList ++ ' ' :: rest))) ∧
      Scan.word (!isBlank ·)
          (Scan.skip isBlank (' ' :: (word ++ ' ' :: (name.toList ++ ' ' :: rest)))) =
        (word, ' ' :: (name.toList ++ ' ' :: rest)) ∧
      readName isMetricLetter (Scan.skip isBlank (' ' :: (name.toList ++ ' ' :: rest))) =
        some (name, ' ' :: rest) := by
  have ends : Scan.Ends isBlank (word ++ ' ' :: (name.toList ++ ' ' :: rest)) := by
    cases word with
    | nil => exact absurd rfl nonempty
    | cons first others =>
        rw [List.all_cons, Bool.and_eq_true, Bool.not_eq_true'] at visible
        exact Scan.ends_cons.mpr visible.1
  have marked : Scan.Ends isBlank
      ('#' :: ' ' :: (word ++ ' ' :: (name.toList ++ ' ' :: rest))) :=
    Scan.ends_cons.mpr (by decide)
  refine ⟨?_, ?_, ?_⟩
  · rw [readLine, Scan.skip_of_ends marked]
    rfl
  · rw [skip_space ends]
    exact Scan.word_append visible (Scan.ends_cons.mpr (by decide))
  · rcases skip_of_isName (' ' :: rest) named isBlank_of_isMetricLetter with
      ⟨-, first, others, spelled, letter⟩
    have visibleName : Scan.Ends isBlank (name.toList ++ ' ' :: rest) := by
      rw [spelled]
      exact Scan.ends_cons.mpr (isBlank_of_isMetricLetter first letter)
    rw [skip_space visibleName]
    exact readName_append _ named (Scan.ends_cons.mpr (by decide))

/-- A description that is written as it is. -/
def isDoc (doc : String) : Bool :=
  doc.toList.head?.all (!isBlank ·) && doc.toList.all fun c => c != '\\' && c != '\n'

theorem plain_of_isDoc {doc : String} (proper : isDoc doc = true) :
    Scan.Ends isBlank doc.toList ∧ '\\' ∉ doc.toList ∧ '\n' ∉ doc.toList := by
  rcases Bool.and_eq_true_iff.mp proper with ⟨begun, letters⟩
  rw [List.all_eq_true] at letters
  refine ⟨fun c first => ?_, fun member => ?_, fun member => ?_⟩
  · rw [Option.mem_def.mp first, Option.all_some, Bool.not_eq_true'] at begun
    exact begun
  · exact absurd (letters _ member) (by decide)
  · exact absurd (letters _ member) (by decide)

theorem spells_help {name doc : String} (named : isName isMetricLetter name = true)
    (proper : isDoc doc = true) :
    Spells ('#' :: ' ' :: ("HELP".toList ++ ' ' :: (name.toList ++ ' ' :: doc.toList)))
      (.help name doc) where
  one := by
    simp only [List.mem_append, List.mem_cons, not_or]
    exact ⟨by decide, by decide, by decide, by decide,
      feed_notMem_of_letters (all_of_isName named) (by decide), by decide,
      (plain_of_isDoc proper).2.2⟩
  reads := by
    rcases plain_of_isDoc proper with ⟨begun, plain, -⟩
    rcases readLine_comment "HELP".toList doc.toList (by decide) (by decide) named with
      ⟨comment, word, read⟩
    simp only [comment, readComment, word, read, if_true, Option.bind_eq_bind, Option.bind_some,
      skip_space begun, readDoc_plain plain, String.ofList_toList]

def Kind.word : Kind → String
  | .counter => "counter"
  | .gauge => "gauge"
  | .histogram => "histogram"
  | .summary => "summary"
  | .untyped => "untyped"

theorem spells_type {name : String} (named : isName isMetricLetter name = true) (kind : Kind) :
    Spells ('#' :: ' ' :: ("TYPE".toList ++ ' ' :: (name.toList ++ ' ' :: kind.word.toList)))
      (.type name kind) where
  one := by
    have word : '\n' ∉ kind.word.toList := by cases kind <;> decide
    simp only [List.mem_append, List.mem_cons, not_or]
    exact ⟨by decide, by decide, by decide, by decide,
      feed_notMem_of_letters (all_of_isName named) (by decide), by decide, word⟩
  reads := by
    rcases readLine_comment "TYPE".toList kind.word.toList (by decide) (by decide) named with
      ⟨comment, word, read⟩
    have other : ¬ "TYPE".toList = "HELP".toList := by decide
    have kinds : readKind (Scan.word (!isBlank ·) (Scan.skip isBlank (' ' :: kind.word.toList))).1 =
          some kind ∧
        Scan.skip isBlank
          (Scan.word (!isBlank ·) (Scan.skip isBlank (' ' :: kind.word.toList))).2 = [] := by
      cases kind <;> decide
    simp only [comment, readComment, word, read, if_neg other, if_true, Option.bind_eq_bind,
      Option.bind_some, kinds.1, kinds.2]

/-! ## Whole texts -/

theorem readLines_append {read text : List Char} (one : '\n' ∉ text) (rest : List Char) :
    readLines read (text ++ '\n' :: rest) = (do
      let line ← readLine (read.reverse ++ text)
      let lines ← readLines [] rest
      some (line :: lines)) := by
  induction text generalizing read with
  | nil =>
      rw [List.nil_append, readLines, if_pos rfl, List.append_nil]
  | cons c text induction =>
      rw [List.mem_cons, not_or] at one
      rw [List.cons_append, readLines, if_neg (Ne.symm one.1), induction one.2, List.reverse_cons,
        List.append_assoc, List.singleton_append]

/-- A text of lines is read line by line. -/
theorem readLines_of_spells {texts : List (List Char)} {lines : List Line}
    (spell : List.Forall₂ Spells texts lines) :
    readLines [] (texts.flatMap (· ++ ['\n'])) = some lines := by
  induction spell with
  | nil => rfl
  | @cons text line texts lines spells _ induction =>
      rw [List.flatMap_cons, List.append_assoc, List.singleton_append,
        readLines_append spells.one, induction]
      simp only [List.reverse_nil, List.nil_append, spells.reads, Option.bind_eq_bind,
        Option.bind_some]

/-- What is reported for one set of labels. -/
structure Reading where
  labels : List (String × String)
  numeral : List Char
  value : ℚ
  labelled : ∀ label ∈ labels, isName isLabelLetter label.1 = true
  writes : Writes numeral value

/-- A metric with its description, its type and what is reported of it. -/
structure Family where
  name : String
  doc : String
  kind : Kind
  readings : List Reading
  named : isName isMetricLetter name = true
  described : isDoc doc = true

namespace Family

variable (family : Family)

def sample (reading : Reading) : Sample :=
  ⟨family.name, reading.labels, .number reading.value, none⟩

def helpText : List Char :=
  '#' :: ' ' :: ("HELP".toList ++ ' ' :: (family.name.toList ++ ' ' :: family.doc.toList))

def typeText : List Char :=
  '#' :: ' ' :: ("TYPE".toList ++ ' ' :: (family.name.toList ++ ' ' :: family.kind.word.toList))

def sampleText (reading : Reading) : List Char :=
  family.name.toList ++ (labelsText reading.labels ++ ' ' :: reading.numeral)

def texts : List (List Char) :=
  family.helpText :: family.typeText :: family.readings.map family.sampleText

def lines : List Line :=
  .help family.name family.doc :: .type family.name family.kind ::
    family.readings.map fun reading => .sample (family.sample reading)

theorem spells : List.Forall₂ Spells family.texts family.lines := by
  refine .cons (spells_help family.named family.described)
    (.cons (spells_type family.named family.kind) ?_)
  rw [List.forall₂_map_left_iff, List.forall₂_map_right_iff]
  apply List.forall₂_same.mpr
  intro reading _
  have named : isName isMetricLetter (family.sample reading).name = true := family.named
  exact spells_sample named reading.labelled reading.writes rfl rfl

theorem samples_lines : samples family.lines = family.readings.map family.sample := by
  rw [lines, samples, List.filterMap_cons_none rfl, List.filterMap_cons_none rfl,
    List.filterMap_map]
  exact congrFun List.filterMap_eq_map family.readings

end Family

/-- What families of samples are written as is read back, and nothing else. -/
theorem parse_families {families : List Family} {text : String}
    (printed : text.toList = (families.flatMap Family.texts).flatMap (· ++ ['\n'])) :
    parse text = some (families.flatMap Family.lines) := by
  rw [parse, printed]
  apply readLines_of_spells
  clear printed
  induction families with
  | nil => exact .nil
  | cons family families induction => exact List.rel_append family.spells induction

theorem samples_families (families : List Family) :
    samples (families.flatMap Family.lines) =
      families.flatMap fun family => family.readings.map family.sample := by
  induction families with
  | nil => rfl
  | cons family families induction =>
      have parts : samples (family.lines ++ families.flatMap Family.lines) =
          samples family.lines ++ samples (families.flatMap Family.lines) :=
        List.filterMap_append
      rw [List.flatMap_cons, List.flatMap_cons, parts, family.samples_lines, induction]

/-- Samples differ when the names of the families do, and in each of them the labels. -/
theorem nodup_families {families : List Family} (names : (families.map Family.name).Nodup)
    (labels : ∀ family ∈ families, (family.readings.map Reading.labels).Nodup) :
    ((families.flatMap fun family => family.readings.map family.sample).map fun sample =>
      (sample.name, sample.labels)).Nodup := by
  rw [List.map_flatMap, List.nodup_flatMap]
  constructor
  · intro family member
    rw [List.map_map]
    have own := (labels family member).map (Prod.mk_right_injective family.name)
    rwa [List.map_map] at own
  · apply (List.pairwise_map.mp names).imp
    intro left right different pair inLeft inRight
    simp only [List.map_map, List.mem_map] at inLeft inRight
    rcases inLeft with ⟨first, -, rfl⟩
    rcases inRight with ⟨second, -, same⟩
    exact different (congrArg Prod.fst same).symm

end VoucherProxy.Exposition
