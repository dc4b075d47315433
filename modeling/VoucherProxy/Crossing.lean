import VoucherProxy.Exits
import VoucherProxy.Foundation.Utf8
import VoucherProxy.Sample

namespace VoucherProxy

/-! What of an error of the controller reaches a client: the text of its body is
withheld, or reduced to one message that is clamped. -/

/-! ## Clamping -/

/-- The cut behind 200 characters at its byte offset, as the slice is taken; none
where the slice would fall inside a character. -/
def cutSlice (trimmed : List Char) : Option String :=
  match (Text.charIndices 0 trimmed)[200]? with
  | some (cut, _) => (Text.sliceTo trimmed cut).map fun kept => String.ofList kept ++ "…"
  | none => some (String.ofList trimmed)

def clampSlice (raw : String) : Option String :=
  let cleaned := String.ofList (raw.toList.map fun c => if isControl c then ' ' else c)
  cutSlice (Text.trim cleaned).toList

/-- Characters that cleaning and trimming leave alone. -/
structure Trimmed (text : List Char) : Prop where
  clean : ∀ c ∈ text, isControl c = false
  opening : text.dropWhile Text.isWhitespace = text
  ending : text.rdropWhile Text.isWhitespace = text

/-- The cut after 200 characters. -/
def cut (text : List Char) : List Char :=
  if 200 < text.length then text.take 200 ++ ['…'] else text

theorem isControl_clean (raw : List Char) :
    ∀ c ∈ raw.map fun c => if isControl c then ' ' else c, isControl c = false := by
  intro c member
  rcases List.mem_map.mp member with ⟨own, -, rfl⟩
  cases control : isControl own with
  | true => rfl
  | false => simpa using control

theorem clean_eq_self {text : List Char} (clean : ∀ c ∈ text, isControl c = false) :
    text.map (fun c => if isControl c then ' ' else c) = text := by
  apply (List.map_congr_left _).trans (List.map_id text)
  intro c member
  simp [clean c member]

theorem dropWhile_of_prefix {p : Char → Bool} {text start : List Char}
    (kept : text.dropWhile p = text) (begins : start <+: text) : start.dropWhile p = start := by
  rcases begins with ⟨rest, rfl⟩
  cases start with
  | nil => rfl
  | cons first start =>
      rw [List.dropWhile_eq_self_iff] at kept ⊢
      intro some
      exact kept (Nat.zero_lt_succ _)

/-- What is left of a text before it is cut. -/
def cleaned (raw : String) : List Char :=
  (Text.trim (String.ofList (raw.toList.map fun c => if isControl c then ' ' else c))).toList

/-- Whatever the controller sent, what is cut has been cleaned and trimmed. -/
theorem trimmed_cleaned (raw : String) : Trimmed (cleaned raw) := by
  let mapped := raw.toList.map fun c => if isControl c then ' ' else c
  have spelled : cleaned raw = (mapped.dropWhile Text.isWhitespace).rdropWhile Text.isWhitespace := by
    rw [cleaned, Text.trim, String.toList_ofList, String.toList_ofList]
  have begins : cleaned raw <+: mapped.dropWhile Text.isWhitespace := by
    rw [spelled]
    exact List.rdropWhile_prefix _ _
  refine ⟨?_, ?_, ?_⟩
  · intro c member
    apply isControl_clean raw.toList
    exact (List.dropWhile_suffix _).mem (begins.mem member)
  · exact dropWhile_of_prefix (List.dropWhile_idempotent _ _) begins
  · rw [spelled]
    exact List.rdropWhile_idempotent _ _

/-- Cleaning and trimming leave alone what was cleaned and trimmed. -/
theorem Trimmed.cleaned_eq {text : List Char} (trimmed : Trimmed text) :
    cleaned (String.ofList text) = text := by
  rw [cleaned, String.toList_ofList, clean_eq_self trimmed.clean, Text.trim, String.toList_ofList,
    String.toList_ofList, trimmed.opening, trimmed.ending]

theorem clamp_eq (raw : String) : clamp raw = String.ofList (cut (cleaned raw)) := by
  rw [cut, apply_ite String.ofList, String.ofList_append, cleaned, String.ofList_toList]
  rfl

theorem length_cut_le (text : List Char) : (cut text).length ≤ 201 := by
  rw [cut]
  split
  · rw [List.length_append, List.length_take]
    simp
  · omega

/-- A second cut takes off the mark of the first, and puts it back. -/
theorem cut_cut (text : List Char) : cut (cut text) = cut text := by
  by_cases long : 200 < text.length
  · have first : (text.take 200).length = 200 := by
      rw [List.length_take]
      omega
    have marked : cut text = text.take 200 ++ ['…'] := if_pos long
    rw [marked, cut, if_pos (by simp [first]), List.take_left' first]
  · have whole : cut text = text := if_neg long
    rw [whole, whole]

theorem Trimmed.of_cut {text : List Char} (trimmed : Trimmed text) : Trimmed (cut text) := by
  rw [cut]
  split
  next long =>
    have kept := dropWhile_of_prefix trimmed.opening (List.take_prefix 200 text)
    refine ⟨?_, ?_, List.rdropWhile_concat_neg _ _ _ (by decide)⟩
    · intro c member
      rcases List.mem_append.mp member with early | mark
      · exact trimmed.clean c (List.mem_of_mem_take early)
      · rw [List.mem_singleton.mp mark]
        decide
    · cases first : text.take 200 with
      | nil => rfl
      | cons c rest =>
          rw [first, List.dropWhile_eq_self_iff] at kept
          rw [List.cons_append, List.dropWhile_eq_self_iff]
          intro some
          exact kept (Nat.zero_lt_succ _)
  next short => exact trimmed

theorem trimmed_clamp (raw : String) : Trimmed (clamp raw).toList := by
  rw [clamp_eq, String.toList_ofList]
  exact (trimmed_cleaned raw).of_cut

theorem length_clamp_le (raw : String) : (clamp raw).toList.length ≤ 201 := by
  rw [clamp_eq, String.toList_ofList]
  exact length_cut_le _

theorem clamp_clamp (raw : String) : clamp (clamp raw) = clamp raw := by
  rw [clamp_eq raw, clamp_eq, (trimmed_cleaned raw).of_cut.cleaned_eq, cut_cut]

/-- The cut is always between two characters. -/
theorem cutSlice_eq (text : List Char) : cutSlice text = some (String.ofList (cut text)) := by
  rw [cutSlice, Text.charIndices_getElem?]
  by_cases long : 200 < text.length
  · have kept := Text.sliceTo_size (text.take 200) (text.drop 200)
    rw [List.take_append_drop] at kept
    rw [List.getElem?_eq_getElem long, Option.map_some, Nat.zero_add, cut, if_pos long,
      String.ofList_append]
    simp only [kept]
    rfl
  · rw [List.getElem?_eq_none (Nat.le_of_not_lt long), cut, if_neg long]
    rfl

theorem clampSlice_eq (raw : String) : clampSlice raw = some (clamp raw) := by
  rw [clampSlice, cutSlice_eq, clamp_eq, cleaned]

/-! ## The messages -/

/-- A text that may cross: at most 201 characters, none of them a control character. -/
structure Fit (text : String) : Prop where
  short : text.toList.length ≤ 201
  printable : ∀ c ∈ text.toList, isControl c = false

theorem fit_clamp (raw : String) : Fit (clamp raw) :=
  ⟨length_clamp_le raw, (trimmed_clamp raw).clean⟩

theorem isControl_of_isDigit {c : Char} (digit : c.isDigit = true) : isControl c = false := by
  rw [Char.isDigit, Bool.and_eq_true, decide_eq_true_eq, decide_eq_true_eq, ge_iff_le,
    UInt32.le_iff_toNat_le, UInt32.le_iff_toNat_le] at digit
  rw [isControl, Bool.or_eq_false_iff, Bool.and_eq_false_iff]
  have range : 48 ≤ c.toNat ∧ c.toNat ≤ 57 := digit
  simp
  omega

/-- A status in a text of a few words. -/
theorem fit_numbered {before after : String} (status : StatusCode)
    (short : before.toList.length + after.toList.length ≤ 198)
    (printable : (before.toList ++ after.toList).all (!isControl ·) = true) :
    Fit (before ++ toString status.code ++ after) := by
  have digits : (toString status.code).toList = Nat.toDigits 10 status.code := Nat.toList_repr
  have three : (Nat.toDigits 10 status.code).length ≤ 3 :=
    (Nat.length_toDigits_le_iff (by decide) (by decide)).mpr status.valid.2
  constructor
  · rw [String.toList_append, String.toList_append, digits, List.length_append, List.length_append]
    omega
  · intro c member
    rw [String.toList_append, String.toList_append, digits, List.mem_append, List.mem_append] at member
    have allowed := List.all_eq_true.mp printable
    rcases member with (early | own) | late
    · simpa using allowed c (List.mem_append_left _ early)
    · exact isControl_of_isDigit (Nat.isDigit_of_mem_toDigits (by decide) (by decide) own)
    · simpa using allowed c (List.mem_append_right _ late)

section

variable [Crates]

/-- The string under the key `message` of a body that is JSON. -/
def controllerMessage (read : Option String) : Option String :=
  let text := read.getD ""
  let json := if (Text.trim text).isEmpty then Json.null else (SerdeJson.fromStr text).getD .null
  (json.get "message").bind Json.asStr

/-- The statuses whose bodies are the operator's to read. -/
def Withheld (status : StatusCode) : Prop :=
  status = .unauthorized ∨ status = .forbidden ∨ status.isServerError = true

/-- The message of the error that an answer is read as. -/
def told (status : StatusCode) (read : Option String) : String :=
  match (Reply.answered status read).interpret with
  | .ok _ => ""
  | .error why => why.message

variable {status : StatusCode}

/-- An answer without success is an error with its status. -/
theorem interpret_answered (failed : status.isSuccess = false) (read : Option String) :
    (Reply.answered status read).interpret = .error (.upstream status (told status read)) := by
  unfold told Reply.interpret
  simp only [failed, Bool.false_eq_true, if_false]
  rfl

theorem told_eq (failed : status.isSuccess = false) (read : Option String) :
    told status read =
      if status.isServerError then
        "the controller reported an error (HTTP " ++ toString status.code ++ ")"
      else if status = .unauthorized ∨ status = .forbidden then
        "the controller rejected the proxy's API key"
      else match controllerMessage read with
        | some message => clamp message
        | none => "controller request failed (HTTP " ++ toString status.code ++ ")" := by
  unfold told Reply.interpret
  simp only [failed, Bool.false_eq_true, if_false]
  rfl

/-- A withheld body has no say in the message. -/
theorem told_of_withheld (failed : status.isSuccess = false) (withheld : Withheld status)
    (read other : Option String) : told status read = told status other := by
  rw [told_eq failed, told_eq failed]
  cases server : status.isServerError with
  | true => rw [if_pos rfl, if_pos rfl]
  | false =>
      have rejected : status = .unauthorized ∨ status = .forbidden := by
        rcases withheld with unauthorized | forbidden | error
        · exact .inl unauthorized
        · exact .inr forbidden
        · rw [server] at error
          cases error
      rw [if_neg Bool.false_ne_true, if_neg Bool.false_ne_true, if_pos rejected, if_pos rejected]

/-- Otherwise only the controller's own message has. -/
theorem told_of_message (failed : status.isSuccess = false) {read other : Option String}
    (same : controllerMessage read = controllerMessage other) :
    told status read = told status other := by
  rw [told_eq failed, told_eq failed, same]

theorem fit_told (failed : status.isSuccess = false) (read : Option String) :
    Fit (told status read) := by
  rw [told_eq failed]
  split
  · exact fit_numbered status (by decide) (by decide)
  · split
    · have printable : ("the controller rejected the proxy's API key".toList.all
          (!isControl ·)) = true := by decide
      refine ⟨by decide, fun c member => ?_⟩
      simpa using List.all_eq_true.mp printable c member
    · cases controllerMessage read with
      | some message => exact fit_clamp message
      | none => exact fit_numbered status (by decide) (by decide)

/-! ## What a client is shown -/

/-- What a client learns of an answer without success, on either surface. -/
structure Crosses (status : StatusCode) : Prop where
  rest : ∀ (operation : Operation Json) (caller : Caller) (events : History)
    (result : Except ProxyError Json) (sent : UpstreamRequest) (read : Option String),
    (operation.handle caller).Trace events (.pure result) →
      exchanges events = [(sent, .answered status read)] →
        Response.ofResult result =
          ⟨status, .json (.object [("message", .string (told status read))])⟩
  graphql : ∀ (operation : Operation FieldValue) (caller : Caller) (events : History)
    (result : Except GqlError FieldValue) (sent : UpstreamRequest) (read : Option String),
    (GraphQl.resolve caller operation).Trace events (.pure result) →
      exchanges events = [(sent, .answered status read)] →
        result = .error ⟨told status read, some ("upstream_error", status.code)⟩
  withheld : Withheld status → ∀ read other, told status read = told status other
  message : ∀ read other, controllerMessage read = controllerMessage other →
    told status read = told status other
  fit : ∀ read, Fit (told status read)

/-- An error of the controller crosses with its status and one message that fits;
the clamp cuts between characters, and clamping twice is clamping once. -/
theorem errors_cross_clamped (failed : status.isSuccess = false) :
    Crosses status ∧ ∀ raw, clampSlice raw = some (clamp raw) ∧ clamp (clamp raw) = clamp raw where
  left :=
    { rest := by
        intro operation caller events result sent read trace exchanged
        rcases (handled_of_trace trace).exchanged with ⟨nothing, -⟩ |
          ⟨plan, own, reply, -, only, ended⟩
        · rw [nothing] at exchanged
          cases exchanged
        · rw [only] at exchanged
          cases exchanged
          rw [ended, interpret_answered failed]
          rfl
      graphql := by
        intro operation caller events result sent read trace exchanged
        rcases (GraphQl.ended_of_trace trace).exchanged with ⟨nothing, -⟩ |
          ⟨plan, own, reply, -, only, ended⟩
        · rw [nothing] at exchanged
          cases exchanged
        · rw [only] at exchanged
          cases exchanged
          rw [ended, interpret_answered failed]
          rfl
      withheld := told_of_withheld failed
      message := fun _ _ => told_of_message failed
      fit := fit_told failed }
  right raw := ⟨clampSlice_eq raw, clamp_clamp raw⟩

end

section

open Sample

/-- A trace in the body of a failing gateway stays where it is. -/
theorem errors_cross_clamped_gateway :
    told .badGateway (some "TypeError at /srv/controller.js:17") = told .badGateway none ∧
      Fit (told .badGateway (some "TypeError at /srv/controller.js:17")) := by
  have crosses := (errors_cross_clamped (rfl : StatusCode.badGateway.isSuccess = false)).1
  exact ⟨crosses.withheld (.inr (.inr rfl)) _ _, crosses.fit _⟩

end

end VoucherProxy
