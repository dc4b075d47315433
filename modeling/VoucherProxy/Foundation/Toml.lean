import VoucherProxy.Foundation.Hex
import VoucherProxy.Foundation.Scan
import VoucherProxy.Foundation.SortedMap

namespace VoucherProxy.Toml

/-! # A language for configuration files

Keys are given values, in tables that headers open. How the values other than texts and
arrays are written is left open: numbers, booleans, times and inline tables. -/

inductive Value (Other : Type)
  | string (text : String)
  | array (items : List (Value Other))
  | other (value : Other)

class Others (Other : Type) where
  read : List Char → Option (Other × List Char)

inductive Statement (Other : Type)
  /-- A key, which may be dotted, is given a value. -/
  | pair (path : List String) (value : Value Other)
  /-- The header of a table. -/
  | table (path : List String)
  /-- The header of one more entry of an array of tables. -/
  | entry (path : List String)

/-! ## Characters -/

def isBlank (c : Char) : Bool := c == ' ' || c == '\t'

/-- The characters that no text and no comment has in it. -/
def isControl (c : Char) : Bool := (c.toNat < 32 && c != '\t') || c.toNat == 127

def isBare (c : Char) : Bool := c.isAlphanum || c == '_' || c == '-'

def apostrophe : Char := Char.ofNat 39

/-- A line may end with a carriage return before its line feed. -/
def unifyFeeds : List Char → List Char
  | [] => []
  | c :: rest =>
      if c = '\r' ∧ rest.head? = some '\n' then unifyFeeds rest else c :: unifyFeeds rest

/-! ## Texts -/

/-- How far a text between quotation marks has been read. -/
inductive Progress
  | text (trim : Bool)
  | escape
  | ending
  | code (left value : Nat)

/-- The letters of one character behind a backslash. -/
def unescape (c : Char) : Option Char :=
  if c = '"' ∨ c = '\\' then some c
  else if c = 'b' then some (Char.ofNat 8)
  else if c = 't' then some '\t'
  else if c = 'n' then some '\n'
  else if c = 'f' then some (Char.ofNat 12)
  else if c = 'r' then some '\r'
  else none

def scalar (code : Nat) : Option Char :=
  if code.isValidChar then some (Char.ofNat code) else none

def push (c : Char) (read : Option (List Char × List Char)) : Option (List Char × List Char) :=
  read.map fun read => (c :: read.1, read.2)

/-- A long text ends with three quotes, before which there may be two of its own. -/
def closing (quote : Char) (more : List Char) : List Char × List Char :=
  let own := (more.takeWhile (· == quote)).take 2
  (own, more.drop own.length)

/-- The rest of a text between quotation marks, of one or of three. A long one may go on
over lines, and a backslash at the end of a line takes in all the space behind it. -/
def readText (long : Bool) : Progress → List Char → Option (List Char × List Char)
  | _, [] => none
  | .text trim, c :: rest =>
      if trim && (isBlank c || c == '\n') then readText long (.text true) rest
      else if c = '"' then
        if long then
          if rest.take 2 = ['"', '"'] then some (closing '"' (rest.drop 2))
          else push c (readText long (.text false) rest)
        else some ([], rest)
      else if c = '\\' then readText long .escape rest
      else if isControl c && !(long && c == '\n') then none
      else push c (readText long (.text false) rest)
  | .escape, c :: rest =>
      match unescape c with
      | some letter => push letter (readText long (.text false) rest)
      | none =>
          if c = 'u' then readText long (.code 4 0) rest
          else if c = 'U' then readText long (.code 8 0) rest
          else if long && isBlank c then readText long .ending rest
          else if long && c == '\n' then readText long (.text true) rest
          else none
  | .ending, c :: rest =>
      if isBlank c then readText long .ending rest
      else if c = '\n' then readText long (.text true) rest
      else none
  | .code left value, c :: rest =>
      match Hex.value? c with
      | none => none
      | some digit =>
          if left ≤ 1 then
            match scalar (16 * value + digit) with
            | some letter => push letter (readText long (.text false) rest)
            | none => none
          else readText long (.code (left - 1) (16 * value + digit)) rest

/-- The rest of a text between apostrophes, in which nothing is escaped. -/
def readRaw (long : Bool) : List Char → Option (List Char × List Char)
  | [] => none
  | c :: rest =>
      if c = apostrophe then
        if long then
          if rest.take 2 = [apostrophe, apostrophe] then
            some (closing apostrophe (rest.drop 2))
          else push c (readRaw long rest)
        else some ([], rest)
      else if isControl c && !(long && c == '\n') then none
      else push c (readRaw long rest)

/-- A line feed right behind three quotes is no part of the text. -/
def dropFeed : List Char → List Char
  | '\n' :: rest => rest
  | text => text

def readString : List Char → Option (List Char × List Char)
  | '"' :: '"' :: rest => readText true (.text false) (dropFeed rest)
  | rest => readText false (.text false) rest

def readRawString (text : List Char) : Option (List Char × List Char) :=
  if text.take 2 = [apostrophe, apostrophe] then readRaw true (dropFeed (text.drop 2))
  else readRaw false text

/-! ## Keys -/

def readSimpleKey : List Char → Option (String × List Char)
  | [] => none
  | c :: rest =>
      if c = '"' then
        (readText false (.text false) rest).map fun read => (String.ofList read.1, read.2)
      else if c = apostrophe then
        (readRaw false rest).map fun read => (String.ofList read.1, read.2)
      else
        match Scan.word isBare (c :: rest) with
        | ([], _) => none
        | (word, rest) => some (String.ofList word, rest)

/-- A key may have parts, with dots between them. -/
def readKey : Nat → List Char → Option (List String × List Char)
  | 0, _ => none
  | more + 1, text => do
      let (name, rest) ← readSimpleKey (Scan.skip isBlank text)
      match Scan.skip isBlank rest with
      | '.' :: rest => do
          let (path, rest) ← readKey more rest
          some (name :: path, rest)
      | rest => some ([name], rest)

/-! ## Values -/

/-- What may stand between the items of an array: space, line ends and comments. -/
def skipFiller : Bool → List Char → Option (List Char)
  | _, [] => some []
  | true, c :: rest =>
      if c = '\n' then skipFiller false rest
      else if isControl c then none
      else skipFiller true rest
  | false, c :: rest =>
      if isBlank c || c == '\n' then skipFiller false rest
      else if c = '#' then skipFiller true rest
      else some (c :: rest)

section

variable {Other : Type} [Others Other]

mutual

def readValue : Nat → List Char → Option (Value Other × List Char)
  | 0, _ => none
  | _, [] => none
  | more + 1, c :: rest =>
      if c = '"' then (readString rest).map fun read => (.string (String.ofList read.1), read.2)
      else if c = apostrophe then
        (readRawString rest).map fun read => (.string (String.ofList read.1), read.2)
      else if c = '[' then (readItems more rest).map fun read => (.array read.1, read.2)
      else (Others.read (c :: rest)).map fun read => (.other read.1, read.2)

def readItems : Nat → List Char → Option (List (Value Other) × List Char)
  | 0, _ => none
  | more + 1, text => do
      match ← skipFiller false text with
      | ']' :: rest => some ([], rest)
      | text => do
          let (value, rest) ← readValue more text
          match ← skipFiller false rest with
          | ']' :: rest => some ([value], rest)
          | ',' :: rest => do
              let (values, rest) ← readItems more rest
              some (value :: values, rest)
          | _ => none

end

/-! ## Lines -/

/-- The rest of a comment, and the line feed behind it. -/
def readComment : List Char → Option (List Char)
  | [] => some []
  | c :: rest =>
      if c = '\n' then some rest
      else if isControl c then none
      else readComment rest

/-- What may stand behind a statement on its line. -/
def readEnd (text : List Char) : Option (List Char) :=
  match Scan.skip isBlank text with
  | [] => some []
  | '\n' :: rest => some rest
  | '#' :: rest => readComment rest
  | _ => none

def readStatement : List Char → Option (Statement Other × List Char)
  | '[' :: '[' :: rest => do
      let (path, rest) ← readKey rest.length rest
      let rest ← Scan.expect ']' rest
      let rest ← Scan.expect ']' rest
      some (.entry path, rest)
  | '[' :: rest => do
      let (path, rest) ← readKey rest.length rest
      let rest ← Scan.expect ']' rest
      some (.table path, rest)
  | text => do
      let (path, rest) ← readKey text.length text
      let rest ← Scan.expect '=' rest
      let rest := Scan.skip isBlank rest
      let (value, rest) ← readValue rest.length rest
      some (.pair path value, rest)

def readLines : Nat → List Char → Option (List (Statement Other))
  | _, [] => some []
  | 0, _ :: _ => none
  | more + 1, text =>
      match Scan.skip isBlank text with
      | [] => some []
      | '\n' :: rest => readLines more rest
      | '#' :: rest => do
          let rest ← readComment rest
          readLines more rest
      | text => do
          let (statement, rest) ← readStatement text
          let rest ← readEnd rest
          let others ← readLines more rest
          some (statement :: others)

def readStatements (text : String) : Option (List (Statement Other)) :=
  let text := unifyFeeds text.toList
  readLines text.length text

end

/-! ## What the statements make -/

/-- How a table came to be: by a header of its own, by one of a table in it, or by a
dotted key. -/
inductive Origin
  | header
  | above
  | dotted
  deriving DecidableEq

/-- What a key stands for. The entry that an array of tables had last is kept apart. -/
inductive Node (Other : Type)
  | value (value : Value Other)
  | table (origin : Origin) (members : List (String × Node Other))
  | entries (earlier : List (List (String × Node Other))) (last : List (String × Node Other))

abbrev Members (Other : Type) := List (String × Node Other)

namespace Members

variable {Other : Type}

def replace (key : String) (node : Node Other) (members : Members Other) : Members Other :=
  members.map fun member => if member.1 = key then (key, node) else member

/-- Change what a path leads to. Tables that are not there are made; a dotted key does not
go through what a header has made. -/
def within (origin : Origin) (action : Members Other → Option (Members Other)) :
    List String → Members Other → Option (Members Other)
  | [], members => action members
  | key :: path, members =>
      match members.lookup key with
      | none => do
          let inner ← within origin action path []
          some (members ++ [(key, .table origin inner)])
      | some (.value _) => none
      | some (.table made inner) =>
          if origin = .dotted ∧ made = .header then none
          else do
            let inner ← within origin action path inner
            let made := if origin = .dotted then .dotted else made
            some (members.replace key (.table made inner))
      | some (.entries earlier last) =>
          if origin = .dotted then none
          else do
            let inner ← within origin action path last
            some (members.replace key (.entries earlier inner))

/-- A key is given a value once. -/
def insert (key : String) (value : Value Other) (members : Members Other) :
    Option (Members Other) :=
  match members.lookup key with
  | none => some (members ++ [(key, .value value)])
  | some _ => none

/-- A table is opened once, by a header. -/
def openTable (key : String) (members : Members Other) : Option (Members Other) :=
  match members.lookup key with
  | none => some (members ++ [(key, .table .header [])])
  | some (.table .above inner) => some (members.replace key (.table .header inner))
  | some _ => none

def openEntry (key : String) (members : Members Other) : Option (Members Other) :=
  match members.lookup key with
  | none => some (members ++ [(key, .entries [] [])])
  | some (.entries earlier last) => some (members.replace key (.entries (earlier ++ [last]) []))
  | some _ => none

end Members

section

variable {Other : Type}

/-- The last part of a path, and those before it. -/
def split (path : List String) : Option (List String × String) :=
  path.getLast?.map fun last => (path.dropLast, last)

/-- One statement, behind the header of some table. -/
def step (state : Members Other × List String) (statement : Statement Other) :
    Option (Members Other × List String) :=
  match statement with
  | .pair path value => do
      let (path, key) ← split path
      let changed ← Members.within .above
        (Members.within .dotted (Members.insert key value) path) state.2 state.1
      some (changed, state.2)
  | .table path => do
      let (above, key) ← split path
      let changed ← Members.within .above (Members.openTable key) above state.1
      some (changed, path)
  | .entry path => do
      let (above, key) ← split path
      let changed ← Members.within .above (Members.openEntry key) above state.1
      some (changed, path)

def build (state : Members Other × List String) :
    List (Statement Other) → Option (Members Other)
  | [] => some state.1
  | statement :: statements => do
      let state ← step state statement
      build state statements

/-- The tables that a text describes. -/
def parse [Others Other] (text : String) : Option (Members Other) := do
  let statements ← readStatements text
  build ([], []) statements

end

/-! ## Reading a text -/

/-- A character that a text has as it is. -/
def isPlain (c : Char) : Bool := c != '"' && c != '\\' && !isControl c

theorem notMem_of_plain {c : Char} (other : isPlain c = false) {word : List Char}
    (plain : word.all isPlain = true) : c ∉ word := by
  intro member
  rw [List.all_eq_true.mp plain c member] at other
  cases other

theorem readText_plain {c : Char} (plain : isPlain c = true) (rest : List Char) :
    readText false (.text false) (c :: rest) = push c (readText false (.text false) rest) := by
  simp only [isPlain, Bool.and_eq_true, bne_iff_ne, Bool.not_eq_true'] at plain
  rcases plain with ⟨⟨quote, backslash⟩, control⟩
  rw [readText, if_neg quote, if_neg backslash, control]
  rfl

/-- A text without anything to escape is read as it is. -/
theorem readText_append {word : List Char} (plain : word.all isPlain = true) (rest : List Char) :
    readText false (.text false) (word ++ '"' :: rest) = some (word, rest) := by
  induction word with
  | nil => rfl
  | cons c word induction =>
      rw [List.all_cons, Bool.and_eq_true] at plain
      rw [List.cons_append, readText_plain plain.1, induction plain.2]
      rfl

theorem exists_of_push {c : Char} {read : Option (List Char × List Char)}
    {value rest : List Char} (pushed : push c read = some (value, rest)) :
    ∃ shorter, read = some (shorter, rest) ∧ value = c :: shorter := by
  rcases Option.map_eq_some_iff.mp pushed with ⟨⟨shorter, others⟩, same, pair⟩
  cases pair
  exact ⟨shorter, same, rfl⟩

/-- Only a long text goes on at the next line. -/
def Progress.Within (long : Bool) : Progress → Prop
  | .text trim => trim = true → long = true
  | .ending => long = true
  | .escape => True
  | .code _ _ => True

/-- The text goes on, with at most one letter behind it. -/
def Continues (long : Bool) (text value rest : List Char) : Prop :=
  ∃ (next : Progress) (shorter : List Char), next.Within long ∧
    readText long next text = some (shorter, rest) ∧ value.length ≤ shorter.length + 1

section

variable {long : Bool} {text value rest : List Char}

theorem continues_of_read (next : Progress) (within : next.Within long)
    (read : readText long next text = some (value, rest)) : Continues long text value rest :=
  ⟨next, value, within, read, Nat.le_succ _⟩

theorem continues_of_push {letter : Char}
    (pushed : push letter (readText long (.text false) text) = some (value, rest)) :
    Continues long text value rest := by
  rcases exists_of_push pushed with ⟨shorter, read, rfl⟩
  have within : (Progress.text false).Within long := fun trim => nomatch trim
  exact ⟨.text false, shorter, within, read, le_rfl⟩

theorem length_closing (quote : Char) (more : List Char) : (closing quote more).1.length ≤ 2 :=
  List.length_take_le 2 _

/-- What a character does to a text: it may give a letter, or end the text. -/
theorem readText_cons {progress : Progress} (within : progress.Within long) {c : Char}
    (read : readText long progress (c :: text) = some (value, rest)) :
    Continues long text value rest ∨
      (c = '"' ∧ ((long = true ∧ text.take 2 = ['"', '"'] ∧ value.length ≤ 2) ∨
        (long = false ∧ value = []))) := by
  cases progress with
  | text trim =>
      rw [readText] at read
      split_ifs at read with skips quote isLong closes backslash control
      · exact .inl (continues_of_read (.text true)
          (fun _ => within (Bool.and_eq_true_iff.mp skips).1) read)
      · have own := congrArg Prod.fst (Option.some.inj read)
        have short := length_closing '"' (text.drop 2)
        rw [own] at short
        exact .inr ⟨quote, .inl ⟨isLong, closes, short⟩⟩
      · exact .inl (continues_of_push read)
      · cases read
        exact .inr ⟨quote, .inr ⟨by simpa using isLong, rfl⟩⟩
      · exact .inl (continues_of_read .escape trivial read)
      · exact .inl (continues_of_push read)
  | escape =>
      rw [readText] at read
      cases stands : unescape c with
      | some letter =>
          rw [stands] at read
          exact .inl (continues_of_push read)
      | none =>
          rw [stands] at read
          simp only at read
          split_ifs at read with short wide blank feed
          · exact .inl (continues_of_read (.code 4 0) trivial read)
          · exact .inl (continues_of_read (.code 8 0) trivial read)
          · exact .inl (continues_of_read .ending (Bool.and_eq_true_iff.mp blank).1 read)
          · exact .inl (continues_of_read (.text true)
              (fun _ => (Bool.and_eq_true_iff.mp feed).1) read)
  | ending =>
      rw [readText] at read
      split_ifs at read with blank feed
      · exact .inl (continues_of_read .ending within read)
      · exact .inl (continues_of_read (.text true) (fun _ => within) read)
  | code left number =>
      rw [readText] at read
      cases digit : Hex.value? c with
      | none =>
          rw [digit] at read
          cases read
      | some value =>
          rw [digit] at read
          simp only at read
          split_ifs at read with last
          · cases letter : scalar (16 * number + value) with
            | none =>
                rw [letter] at read
                cases read
            | some letter' =>
                rw [letter] at read
                exact .inl (continues_of_push read)
          · exact .inl (continues_of_read (.code (left - 1) (16 * number + value)) trivial read)

/-- A text that no line end lets go on is no longer than what it was written as, up to
a quote at the end of a line. -/
theorem length_readText {body tail : List Char} {progress : Progress}
    (within : progress.Within long)
    (shut : ∀ next : Progress, next.Within long → readText long next ('\n' :: tail) = none)
    (read : readText long progress (body ++ '"' :: '\n' :: tail) = some (value, rest)) :
    value.length ≤ body.length := by
  induction body generalizing progress value with
  | nil =>
      rcases readText_cons within read with ⟨next, shorter, fits, goes, -⟩ | ⟨-, ends⟩
      · rw [shut next fits] at goes
        cases goes
      rcases ends with ⟨-, quotes, -⟩ | ⟨-, rfl⟩
      · cases quotes
      · exact le_rfl
  | cons c body induction =>
      rcases readText_cons within read with ⟨next, shorter, fits, goes, longer⟩ | ⟨-, ends⟩
      · have bound := induction fits goes
        rw [List.length_cons]
        omega
      rcases ends with ⟨-, quotes, short⟩ | ⟨-, rfl⟩
      · cases body with
        | nil => cases quotes
        | cons d body =>
            rw [List.length_cons, List.length_cons]
            omega
      · exact Nat.zero_le _

/-- A short text does not go on at the next line. -/
theorem readText_feed {progress : Progress} (within : progress.Within false) (tail : List Char) :
    readText false progress ('\n' :: tail) = none := by
  cases progress with
  | text trim =>
      cases trim with
      | true => exact absurd (within rfl) (by decide)
      | false => rfl
  | escape => rfl
  | ending => cases within
  | code left value => rfl

/-- Three quotes in a row, somewhere in a text. -/
def tripled : List Char → Bool
  | [] => false
  | c :: rest => (c == '"' && rest.take 2 == ['"', '"']) || tripled rest

/-- A long text ends with three quotes. -/
theorem readText_of_not_tripled {progress : Progress} (within : progress.Within true)
    (single : tripled text = false) : readText true progress text = none := by
  induction text generalizing progress with
  | nil => rw [readText]
  | cons c text induction =>
      rw [tripled, Bool.or_eq_false_iff] at single
      cases read : readText true progress (c :: text) with
      | none => rfl
      | some pair =>
          exfalso
          rcases readText_cons within read with ⟨next, shorter, fits, goes, -⟩ | ⟨quote, ends⟩
          · rw [induction fits single.2] at goes
            cases goes
          rcases ends with ⟨-, quotes, -⟩ | ⟨short, -⟩
          · simp [quote, quotes] at single
          · cases short

theorem tripled_append {word : List Char} (free : '"' ∉ word) (rest : List Char) :
    tripled (word ++ rest) = tripled rest := by
  induction word with
  | nil => rfl
  | cons c word induction =>
      rw [List.mem_cons, not_or] at free
      have other : (c == '"') = false := by simpa using Ne.symm free.1
      rw [List.cons_append, tripled, other, Bool.false_and, Bool.false_or, induction free.2]

end

theorem plain_of_readText {name tail value rest : List Char}
    (read : readText false (.text false) (name ++ '"' :: '\n' :: tail) = some (value, rest))
    (whole : name.length ≤ value.length) : name.all isPlain = true := by
  induction name generalizing value with
  | nil => rfl
  | cons c name induction =>
      rw [List.cons_append, readText] at read
      split_ifs at read with skips quote isLong closes backslash control
      · cases skips
      · cases isLong
      · cases isLong
      · cases read
        cases whole
      · have within : Progress.escape.Within false := trivial
        have shorter := length_readText within (fun _ fits => readText_feed fits tail) read
        rw [List.length_cons] at whole
        omega
      · rcases exists_of_push read with ⟨shorter, goes, rfl⟩
        have plain : isPlain c = true := by
          simp only [Bool.false_and, Bool.not_false, Bool.and_true, Bool.not_eq_true] at control
          simp [isPlain, quote, backslash, control]
        rw [List.all_cons, plain, induction goes (Nat.le_of_succ_le_succ whole)]
        rfl

theorem readString_of_ne {text : List Char} (short : text.take 2 ≠ ['"', '"']) :
    readString text = readText false (.text false) text := by
  unfold readString
  split
  · exact absurd rfl short
  · rfl

theorem exists_dropFeed (body rest : List Char) :
    ∃ kept, dropFeed (body ++ '"' :: rest) = kept ++ '"' :: rest ∧ kept.length ≤ body.length := by
  cases body with
  | nil => exact ⟨[], rfl, le_rfl⟩
  | cons c body =>
      by_cases feed : c = '\n'
      · exact ⟨body, by rw [feed]; rfl, Nat.le_succ _⟩
      · refine ⟨c :: body, ?_, le_rfl⟩
        rw [List.cons_append, dropFeed]
        exact fun other same => feed (List.cons.inj same).1

/-- A text that does not become shorter has nothing to escape: whatever else is written
between quotes reads as something shorter, if at all. -/
theorem plain_of_readString {name tail value rest : List Char} (single : tripled tail = false)
    (read : readString (name ++ '"' :: '\n' :: tail) = some (value, rest))
    (whole : name.length ≤ value.length) : name.all isPlain = true := by
  by_cases short : (name ++ '"' :: '\n' :: tail).take 2 = ['"', '"']
  · have shut : ∀ next : Progress, next.Within true → readText true next ('\n' :: tail) = none :=
      fun next fits => readText_of_not_tripled fits single
    have within : (Progress.text false).Within true := fun trim => nomatch trim
    rcases name with _ | ⟨first, _ | ⟨second, body⟩⟩
    · rfl
    · cases short
      change readText true (.text false) tail = _ at read
      rw [readText_of_not_tripled within single] at read
      cases read
    · cases short
      change readText true (.text false) (dropFeed (body ++ '"' :: '\n' :: tail)) = _ at read
      rcases exists_dropFeed body ('\n' :: tail) with ⟨kept, same, fewer⟩
      rw [same] at read
      have longer := length_readText within shut read
      rw [List.length_cons, List.length_cons] at whole
      omega
  · rw [readString_of_ne short] at read
    exact plain_of_readText read whole

theorem readString_append {word : List Char} (plain : word.all isPlain = true) {c : Char}
    (other : c ≠ '"') (rest : List Char) :
    readString (word ++ '"' :: c :: rest) = some (word, c :: rest) := by
  have short : (word ++ '"' :: c :: rest).take 2 ≠ ['"', '"'] := by
    rcases word with _ | ⟨first, _ | ⟨second, word⟩⟩
    · simpa using other
    · intro quotes
      cases quotes
      exact absurd plain (by decide)
    · intro quotes
      cases quotes
      exact absurd plain (by simp [isPlain])
  rw [readString_of_ne short]
  exact readText_append plain _

/-! ## Line ends -/

theorem unifyFeeds_append (word : List Char) {c : Char} (other : c ≠ '\n') (rest : List Char) :
    unifyFeeds (word ++ c :: rest) = unifyFeeds word ++ unifyFeeds (c :: rest) := by
  induction word with
  | nil => rfl
  | cons first word induction =>
      have next : (word ++ c :: rest).head? = some '\n' ↔ word.head? = some '\n' := by
        cases word with
        | nil => simpa using other
        | cons second word => exact Iff.rfl
      rw [List.cons_append, unifyFeeds, unifyFeeds, induction]
      simp only [next]
      split
      · rfl
      · rfl

theorem unifyFeeds_of_notMem {word : List Char} (free : '\r' ∉ word) : unifyFeeds word = word := by
  induction word with
  | nil => rfl
  | cons c word induction =>
      rw [List.mem_cons, not_or] at free
      rw [unifyFeeds, if_neg fun both => free.1 both.1.symm, induction free.2]

theorem length_unifyFeeds (word : List Char) : (unifyFeeds word).length ≤ word.length := by
  induction word with
  | nil => exact le_rfl
  | cons c word induction =>
      rw [unifyFeeds]
      split
      · exact induction.trans (Nat.le_succ _)
      · exact Nat.succ_le_succ induction

theorem unifyFeeds_eq_self {word : List Char} (plain : word.all isPlain = true) :
    unifyFeeds word = word :=
  unifyFeeds_of_notMem (notMem_of_plain (by decide) plain)

/-- A line end that was unified is one that is not plain. -/
theorem unifyFeeds_of_plain {word : List Char} (plain : (unifyFeeds word).all isPlain = true) :
    unifyFeeds word = word := by
  induction word with
  | nil => rfl
  | cons c word induction =>
      rw [unifyFeeds] at plain ⊢
      split at plain
      next ends =>
        cases word with
        | nil => cases ends.2
        | cons second word =>
            rw [List.head?_cons, Option.some.injEq] at ends
            rw [ends.2, unifyFeeds, if_neg (by simp), List.all_cons] at plain
            exact absurd plain (by simp [isPlain, isControl])
      next goes =>
        rw [List.all_cons, Bool.and_eq_true] at plain
        rw [if_neg goes, induction plain.2]

/-! ## Reading a line -/

@[simp] theorem readEnd_feed (rest : List Char) : readEnd ('\n' :: rest) = some rest := rfl

section

variable {word rest : List Char}

theorem notBlank_of_isBare {c : Char} (bare : isBare c = true) : isBlank c = false := by
  rw [Bool.eq_false_iff]
  intro blank
  rw [isBlank, Bool.or_eq_true, beq_iff_eq, beq_iff_eq] at blank
  rcases blank with rfl | rfl
  · cases bare
  · cases bare

theorem skip_bare {c : Char} (bare : isBare c = true) (text : List Char) :
    Scan.skip isBlank (c :: text) = c :: text :=
  Scan.skip_of_ends (Scan.ends_cons.mpr (notBlank_of_isBare bare))

theorem readSimpleKey_bare {c : Char} (bare : (c :: word).all isBare = true)
    (ends : Scan.Ends isBare rest) :
    readSimpleKey (c :: word ++ rest) = some (String.ofList (c :: word), rest) := by
  have own : isBare c = true := (Bool.and_eq_true_iff.mp bare).1
  have quote : c ≠ '"' := by
    rintro rfl
    cases own
  have other : c ≠ apostrophe := by
    rintro rfl
    cases own
  rw [List.cons_append, readSimpleKey, if_neg quote, if_neg other, ← List.cons_append,
    Scan.word_append bare ends]

theorem readKey_bare {c : Char} (bare : (c :: word).all isBare = true) (fuel : Nat) :
    readKey (fuel + 1) (c :: word ++ ' ' :: '=' :: rest) =
      some ([String.ofList (c :: word)], '=' :: rest) := by
  have own : isBare c = true := (Bool.and_eq_true_iff.mp bare).1
  have ends : Scan.Ends isBare (' ' :: '=' :: rest) := Scan.ends_cons.mpr rfl
  have key := readSimpleKey_bare bare ends
  rw [List.cons_append] at key ⊢
  rw [readKey, skip_bare own, key]
  rfl

variable {Other : Type} [Others Other]

theorem readStatement_string {c : Char} (bare : (c :: word).all isBare = true)
    (text : List Char) :
    @readStatement Other _ (c :: word ++ ' ' :: '=' :: ' ' :: '"' :: text) =
      (readString text).map fun read =>
        (.pair [String.ofList (c :: word)] (.string (String.ofList read.1)), read.2) := by
  have own : isBare c = true := (Bool.and_eq_true_iff.mp bare).1
  have other : c ≠ '[' := by
    rintro rfl
    cases own
  have key : readKey (c :: word ++ ' ' :: '=' :: ' ' :: '"' :: text).length
      (c :: word ++ ' ' :: '=' :: ' ' :: '"' :: text) = _ := readKey_bare bare _
  rw [List.cons_append] at key ⊢
  rw [readStatement, key]
  · change Option.bind (Option.map _ (readString text)) _ = Option.map _ (readString text)
    cases readString text with
    | none => rfl
    | some read => rfl
  · exact fun _ entry => other (List.cons.inj entry).1
  · exact fun _ table => other (List.cons.inj table).1

/-- A key that is given a text, on a line of its own. -/
theorem readLines_string {key : String} (bare : key.toList.all isBare = true)
    (named : key.toList ≠ []) (fuel : Nat) (text : List Char) :
    @readLines Other _ (fuel + 1) (key.toList ++ ' ' :: '=' :: ' ' :: '"' :: text) =
      (readString text).bind fun read => (readEnd read.2).bind fun rest =>
        (readLines fuel rest).map (.pair [key] (.string (String.ofList read.1)) :: ·) := by
  rcases List.exists_cons_of_ne_nil named with ⟨c, word, spelled⟩
  rw [spelled] at bare
  have own : isBare c = true := (Bool.and_eq_true_iff.mp bare).1
  have statement := @readStatement_string _ Other _ _ bare text
  rw [← spelled, String.ofList_toList, spelled, List.cons_append] at statement
  rw [spelled, List.cons_append, readLines, skip_bare own]
  · split
    next none => cases none
    next feed =>
      cases feed
      cases own
    next comment =>
      cases comment
      cases own
    next =>
      rw [statement]
      cases readString text with
      | none => rfl
      | some read =>
          change Option.bind (readEnd read.2) _ = Option.bind (readEnd read.2) _
          apply congrArg (Option.bind (readEnd read.2))
          funext rest
          exact (Option.map_eq_bind ..).symm
  · exact List.cons_ne_nil _ _

end

/-! ## What stays as it was set -/

namespace Members

variable {Other : Type} {value : Value Other}

theorem lookup_append (members : Members Other) (key other : String) (node : Node Other) :
    (members ++ [(key, node)]).lookup other =
      (members.lookup other).or (if other = key then some node else none) := by
  induction members with
  | nil => exact lookup_cons_ite key other node []
  | cons member members induction =>
      rw [List.cons_append, lookup_cons_ite, lookup_cons_ite, induction]
      split
      · rfl
      · rfl

theorem replace_cons (key : String) (node : Node Other) (member : String × Node Other)
    (members : Members Other) :
    replace key node (member :: members) =
      (if member.1 = key then (key, node) else member) :: replace key node members :=
  List.map_cons ..

theorem lookup_replace_of_ne (members : Members Other) {key other : String} (node : Node Other)
    (different : other ≠ key) : (replace key node members).lookup other = members.lookup other := by
  induction members with
  | nil => rfl
  | cons member members induction =>
      rw [replace_cons]
      split
      next same =>
        rw [lookup_cons_ite, lookup_cons_ite, if_neg different, same, if_neg different, induction]
      next => rw [lookup_cons_ite, lookup_cons_ite, induction]

theorem lookup_replace_self {members : Members Other} {key : String} (node : Node Other)
    (present : (members.lookup key).isSome) : (replace key node members).lookup key = some node := by
  induction members with
  | nil => cases present
  | cons member members induction =>
      rw [replace_cons]
      split
      next => rw [lookup_cons_ite, if_pos rfl]
      next other =>
        rw [lookup_cons_ite, if_neg (Ne.symm other)] at present
        rw [lookup_cons_ite, if_neg (Ne.symm other), induction present]

/-- A key's value is still there. -/
def Holds (key : String) (value : Value Other) (members : Members Other) : Prop :=
  members.lookup key = some (.value value)

/-- Under a key there are entries, in the first of which another has a value. -/
def FirstHolds (key inner : String) (value : Value Other) (members : Members Other) : Prop :=
  ∃ earlier last, members.lookup key = some (.entries earlier last) ∧
    ∀ first ∈ (earlier ++ [last]).head?, Holds inner value first

/-- An action that leaves alone what was set. -/
structure Leaves (action : Members Other → Option (Members Other)) : Prop where
  holds : ∀ {members changed}, action members = some changed →
    ∀ {key value}, Holds key value members → Holds key value changed
  firstHolds : ∀ {members changed}, action members = some changed →
    ∀ {key inner value}, FirstHolds key inner value members → FirstHolds key inner value changed

section

variable {members : Members Other} {key other inner : String} {node : Node Other}

theorem lookup_of_append {found : Node Other} (present : members.lookup other = some found) :
    (members ++ [(key, node)]).lookup other = some found := by
  rw [lookup_append, present, Option.some_or]

/-- What is not a value gives way, and nothing else does. -/
theorem holds_of_replace {old : Node Other} (present : members.lookup key = some old)
    (free : ∀ value, old ≠ .value value) (holds : Holds other value members) :
    Holds other value (replace key node members) := by
  rw [Holds, lookup_replace_of_ne members node]
  · exact holds
  · rintro rfl
    exact free value (Option.some.inj (present.symm.trans holds))

theorem firstHolds_of_append (holds : FirstHolds other inner value members) :
    FirstHolds other inner value (members ++ [(key, node)]) := by
  rcases holds with ⟨earlier, last, present, first⟩
  exact ⟨earlier, last, lookup_of_append present, first⟩

theorem firstHolds_of_replace (different : other ≠ key)
    (holds : FirstHolds other inner value members) :
    FirstHolds other inner value (replace key node members) := by
  rcases holds with ⟨earlier, last, present, first⟩
  exact ⟨earlier, last, (lookup_replace_of_ne members node different).trans present, first⟩

/-- Entries are not under the key of a table. -/
theorem firstHolds_of_table {made : Origin} {table : Members Other}
    (found : members.lookup key = some (.table made table))
    (holds : FirstHolds other inner value members) :
    FirstHolds other inner value (replace key node members) := by
  apply firstHolds_of_replace _ holds
  rintro rfl
  rcases holds with ⟨earlier, last, present, first⟩
  rw [found] at present
  cases present

/-- Entries give way to others whose first one has the same value. -/
theorem firstHolds_of_entries {earlier others : List (Members Other)} {last final : Members Other}
    (found : members.lookup key = some (.entries earlier last))
    (heads : (∀ first ∈ (earlier ++ [last]).head?, Holds inner value first) →
      ∀ first ∈ (others ++ [final]).head?, Holds inner value first)
    (holds : FirstHolds other inner value members) :
    FirstHolds other inner value (replace key (.entries others final) members) := by
  by_cases own : other = key
  · subst own
    rcases holds with ⟨before, current, present, first⟩
    rw [found, Option.some.injEq, Node.entries.injEq] at present
    rw [← present.1, ← present.2] at first
    have reset := lookup_replace_self (.entries others final)
      (Option.isSome_iff_exists.mpr ⟨_, found⟩)
    exact ⟨others, final, reset, heads first⟩
  · exact firstHolds_of_replace own holds

end

theorem leaves_insert (key : String) (value : Value Other) : Leaves (insert key value) := by
  constructor
  · intro members changed inserted other old holds
    rw [insert] at inserted
    split at inserted
    · cases inserted
      exact lookup_of_append holds
    · cases inserted
  · intro members changed inserted other inner old holds
    rw [insert] at inserted
    split at inserted
    · cases inserted
      exact firstHolds_of_append holds
    · cases inserted

theorem leaves_openTable (key : String) :
    Leaves (openTable key : Members Other → Option (Members Other)) := by
  constructor
  · intro members changed opened other old holds
    rw [openTable] at opened
    split at opened
    · cases opened
      exact lookup_of_append holds
    next found =>
      cases opened
      exact holds_of_replace found (fun _ => nofun) holds
    · cases opened
  · intro members changed opened other inner old holds
    rw [openTable] at opened
    split at opened
    · cases opened
      exact firstHolds_of_append holds
    next found =>
      cases opened
      exact firstHolds_of_table found holds
    · cases opened

theorem leaves_openEntry (key : String) :
    Leaves (openEntry key : Members Other → Option (Members Other)) := by
  constructor
  · intro members changed opened other old holds
    rw [openEntry] at opened
    split at opened
    · cases opened
      exact lookup_of_append holds
    next found =>
      cases opened
      exact holds_of_replace found (fun _ => nofun) holds
    · cases opened
  · intro members changed opened other inner old holds
    rw [openEntry] at opened
    split at opened
    · cases opened
      exact firstHolds_of_append holds
    next earlier last found =>
      cases opened
      apply firstHolds_of_entries found _ holds
      intro first table is
      apply first
      rw [List.append_assoc] at is
      cases earlier with
      | nil => exact is
      | cons head earlier => exact is
    · cases opened

/-- Within whatever a path leads to, what was set is left alone. -/
theorem leaves_within {action : Members Other → Option (Members Other)} (leaves : Leaves action)
    (origin : Origin) (path : List String) : Leaves (within origin action path) := by
  induction path with
  | nil => exact leaves
  | cons key path induction =>
      constructor
      · intro members changed went other old holds
        rw [within] at went
        split at went
        next found =>
          rcases Option.bind_eq_some_iff.mp went with ⟨inner, -, same⟩
          cases same
          exact lookup_of_append holds
        next found => cases went
        next made table found =>
          split at went
          · cases went
          rcases Option.bind_eq_some_iff.mp went with ⟨inner, -, same⟩
          cases same
          exact holds_of_replace found (fun _ => nofun) holds
        next earlier last found =>
          split at went
          · cases went
          rcases Option.bind_eq_some_iff.mp went with ⟨inner, -, same⟩
          cases same
          exact holds_of_replace found (fun _ => nofun) holds
      · intro members changed went other name old holds
        rw [within] at went
        split at went
        next found =>
          rcases Option.bind_eq_some_iff.mp went with ⟨inner, -, same⟩
          cases same
          exact firstHolds_of_append holds
        next found => cases went
        next made table found =>
          split at went
          · cases went
          rcases Option.bind_eq_some_iff.mp went with ⟨inner, -, same⟩
          cases same
          exact firstHolds_of_table found holds
        next earlier last found =>
          split at went
          · cases went
          rcases Option.bind_eq_some_iff.mp went with ⟨inner, goes, same⟩
          cases same
          apply firstHolds_of_entries found _ holds
          intro first table is
          -- The first entry is the one gone into when there is no other.
          cases earlier with
          | nil =>
              cases is
              exact induction.holds goes (first last rfl)
          | cons head earlier => exact first table is

end Members

section

variable {Other : Type} {state state' : Members Other × List String} {members : Members Other}

theorem firstHolds_step {statement : Statement Other} {key inner : String} {value : Value Other}
    (stepped : step state statement = some state')
    (holds : Members.FirstHolds key inner value state.1) :
    Members.FirstHolds key inner value state'.1 := by
  cases statement with
  | pair path set =>
      rcases Option.bind_eq_some_iff.mp stepped with ⟨parts, -, goes⟩
      rcases Option.bind_eq_some_iff.mp goes with ⟨changed, went, same⟩
      cases same
      exact (Members.leaves_within (Members.leaves_within (Members.leaves_insert parts.2 set)
        .dotted parts.1) .above state.2).firstHolds went holds
  | table path =>
      rcases Option.bind_eq_some_iff.mp stepped with ⟨parts, -, goes⟩
      rcases Option.bind_eq_some_iff.mp goes with ⟨changed, went, same⟩
      cases same
      exact (Members.leaves_within (Members.leaves_openTable parts.2)
        .above parts.1).firstHolds went holds
  | entry path =>
      rcases Option.bind_eq_some_iff.mp stepped with ⟨parts, -, goes⟩
      rcases Option.bind_eq_some_iff.mp goes with ⟨changed, went, same⟩
      cases same
      exact (Members.leaves_within (Members.leaves_openEntry parts.2)
        .above parts.1).firstHolds went holds

/-- What the first entry was given stays as it was, whatever statements follow. -/
theorem firstHolds_build {statements : List (Statement Other)} {key inner : String}
    {value : Value Other} (built : build state statements = some members)
    (holds : Members.FirstHolds key inner value state.1) :
    Members.FirstHolds key inner value members := by
  induction statements generalizing state with
  | nil =>
      cases built
      exact holds
  | cons statement statements induction =>
      rcases Option.bind_eq_some_iff.mp built with ⟨next, stepped, goes⟩
      exact induction goes (firstHolds_step stepped holds)

end

end VoucherProxy.Toml
