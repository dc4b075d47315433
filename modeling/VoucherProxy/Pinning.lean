import VoucherProxy.Auth
import VoucherProxy.Foundation.Hex
import VoucherProxy.Sample

namespace VoucherProxy

/-! Which certificates a configured list of fingerprints admits. -/

/-- The shapes that `controller.tls.fingerprint_sha256` may take. -/
inductive OneOrMany
  | one (fingerprint : String)
  | many (fingerprints : List String)

def oneOrMany (setting : OneOrMany) : Option (List String) :=
  some (match setting with
    | .one fingerprint => [fingerprint]
    | .many fingerprints => fingerprints)

/-- What is taken from the `sha2` crate: the digest of a byte string. -/
class Sha256 where
  digest : List UInt8 → Digest

namespace Tls

/-- How the digest of a certificate is written. -/
def pin (digest : Digest) : String := String.ofList (Hex.encode digest.toList)

theorem pin_injective : Function.Injective pin := by
  intro left right same
  have letters := congrArg String.toList same
  rw [pin, pin, String.toList_ofList, String.toList_ofList] at letters
  exact Vector.toList_inj.mp (Hex.encode_injective letters)

section

variable [Sha256]

/-- SHA-256 of a DER-encoded certificate, lowercase hex. -/
def fingerprint (cert : List UInt8) : String := pin (Sha256.digest cert)

/-- Verifies the leaf certificate by exact SHA-256 match and nothing else. -/
def verifyServerCert (expected : List String) (endEntity : List UInt8) : Except String Unit :=
  let actual := fingerprint endEntity
  if expected.contains actual then .ok ()
  else
    let pinned := " or ".intercalate expected
    .error s!"controller certificate fingerprint mismatch: pinned {pinned}, presented {actual}"

theorem verifyServerCert_eq_ok {expected : List String} {cert : List UInt8} :
    verifyServerCert expected cert = .ok () ↔ pin (Sha256.digest cert) ∈ expected := by
  rw [← List.contains_iff_mem]
  by_cases listed : expected.contains (fingerprint cert) = true
  · exact iff_of_true (if_pos listed) listed
  · rw [verifyServerCert, if_neg listed]
    exact iff_of_false (by simp) listed

end

/-! ## What an entry of the list denotes -/

def isSeparator (c : Char) : Bool := c == ':' || c == ' ' || c == '-'

/-- The marks that may stand in front of the digits. -/
def marks (lower upper : Nat) : List Char :=
  (List.replicate lower "sha256:".toList).flatten ++ (List.replicate upper "SHA256:".toList).flatten

/-- An entry denotes the digest whose bytes its digits spell, once the whitespace
around it, the marks in front and the separators are left out. -/
inductive Denotes : String → Digest → Prop
  | intro {lead body trail : List Char} {digest : Digest} (lower upper : Nat)
      (before : ∀ c ∈ lead, Text.isWhitespace c = true)
      (after : ∀ c ∈ trail, Text.isWhitespace c = true)
      (spells : Hex.decode (body.filter fun c => !isSeparator c) = some digest.toList) :
      Denotes (String.ofList (lead ++ ((marks lower upper ++ body) ++ trail))) digest

/-- The characters that the normaliser looks at. -/
def significant (raw : String) : List Char :=
  (Text.trimStartMatches (Text.trimStartMatches (Text.trim raw) "sha256:") "SHA256:").toList.filter
    fun c => !isSeparator c

/-- What the normaliser checks, and returns when it passes. -/
def cleaned (raw : String) : String := Text.toAsciiLowercase (String.ofList (significant raw))

theorem toList_cleaned (raw : String) : (cleaned raw).toList = (significant raw).map Char.toLower := by
  rw [cleaned, Text.toAsciiLowercase, String.toList_ofList, String.toList_ofList]

theorem normalizeFingerprint_cleaned {raw normalized : String} :
    normalizeFingerprint raw = .ok normalized ↔
      ((cleaned raw).utf8ByteSize = 64 ∧ (cleaned raw).toList.all Text.isAsciiHexdigit = true) ∧
        cleaned raw = normalized := by
  have unfolded : normalizeFingerprint raw =
      if (cleaned raw).utf8ByteSize != 64 || !(cleaned raw).toList.all Text.isAsciiHexdigit then
        .error s!"not a SHA-256 certificate fingerprint (expected 64 hex characters, got {(cleaned raw).utf8ByteSize})"
      else .ok (cleaned raw) := rfl
  rw [unfolded]
  by_cases passes : (cleaned raw).utf8ByteSize = 64 ∧
      (cleaned raw).toList.all Text.isAsciiHexdigit = true
  · rw [if_neg (by rw [passes.1, passes.2]; decide), Except.ok.injEq, and_iff_right passes]
  · rw [if_pos]
    · exact iff_of_false (fun equal => nomatch equal) fun both => passes both.1
    · rw [Bool.or_eq_true, bne_iff_ne, Bool.not_eq_true', ← Bool.not_eq_true]
      exact not_and_or.mp passes

/-- The normaliser accepts what spells a digest, and writes it out. -/
theorem normalizeFingerprint_eq_ok {raw normalized : String} :
    normalizeFingerprint raw = .ok normalized ↔
      ∃ digest : Digest, Hex.decode (significant raw) = some digest.toList ∧
        normalized = pin digest := by
  rw [normalizeFingerprint_cleaned]
  constructor
  · rintro ⟨⟨bytes, digits⟩, rfl⟩
    rw [List.all_eq_true] at digits
    rw [Text.utf8ByteSize_of_ascii fun c member => Text.utf8Size_of_hexdigit (digits c member),
      toList_cleaned, List.length_map] at bytes
    have significantDigits : ∀ letter ∈ significant raw, Text.isAsciiHexdigit letter = true := by
      intro letter member
      rw [← Text.isAsciiHexdigit_toLower]
      apply digits
      rw [toList_cleaned]
      exact List.mem_map_of_mem member
    have even : (significant raw).length = 2 * 32 := bytes
    rcases Hex.exists_decode even significantDigits with ⟨decoded, read, length⟩
    refine ⟨⟨decoded.toArray, length⟩, read, ?_⟩
    apply String.toList_inj.mp
    rw [toList_cleaned, pin, String.toList_ofList, ← Hex.encode_of_decode read]
    rfl
  · rintro ⟨digest, read, rfl⟩
    have same : cleaned raw = pin digest := by
      apply String.toList_inj.mp
      rw [toList_cleaned, pin, String.toList_ofList, Hex.encode_of_decode read]
    have digits : ∀ c ∈ (pin digest).toList, Text.isAsciiHexdigit c = true := by
      rw [pin, String.toList_ofList]
      exact Hex.digits_of_decode (Hex.decode_encode digest.toList)
    refine ⟨⟨?_, ?_⟩, same⟩
    · rw [same, Text.utf8ByteSize_of_ascii fun c member =>
          Text.utf8Size_of_hexdigit (digits c member), pin, String.toList_ofList,
        Hex.length_encode, Vector.length_toList]
    · rw [same]
      exact List.all_eq_true.mpr digits

/-- Nothing else stands in the body of an entry than digits and separators. -/
theorem mem_body {body : List Char} {bytes : List UInt8}
    (spells : Hex.decode (body.filter fun c => !isSeparator c) = some bytes) {c : Char}
    (member : c ∈ body) : isSeparator c = true ∨ Text.isAsciiHexdigit c = true := by
  cases separates : isSeparator c with
  | true => exact .inl rfl
  | false =>
      apply Or.inr
      apply Hex.digits_of_decode spells
      exact List.mem_filter.mpr ⟨member, by rw [separates]; rfl⟩

/-- What can stand in a body and is blank is a separator. -/
theorem isSeparator_of_blank {c : Char} (present : isSeparator c = true ∨ Text.isAsciiHexdigit c = true)
    (blank : Text.isWhitespace c = true) : isSeparator c = true :=
  present.resolve_right fun digit => by rw [Text.isAsciiHexdigit_of_isWhitespace blank] at digit; cases digit

theorem toList_lowerMark : "sha256:".toList = ['s', 'h', 'a', '2', '5', '6', ':'] := by decide

theorem toList_upperMark : "SHA256:".toList = ['S', 'H', 'A', '2', '5', '6', ':'] := by decide

theorem marks_zero : marks 0 0 = [] := rfl

theorem marks_succ (lower upper : Nat) :
    marks (lower + 1) upper = "sha256:".toList ++ marks lower upper := by
  rw [marks, marks, List.replicate_succ, List.flatten_cons, List.append_assoc]

theorem marks_zero_succ (upper : Nat) :
    marks 0 (upper + 1) = "SHA256:".toList ++ marks 0 upper := by
  rw [marks, marks, List.replicate_succ, List.flatten_cons, List.replicate_zero, List.flatten_nil,
    List.nil_append, List.nil_append]

/-- Marks survive trimming, and all that is lost of the body is blank. -/
theorem trim_marks (lower upper : Nat) (body : List Char) :
    ∃ left kept right, body = left ++ (kept ++ right) ∧
      (∀ c ∈ left ++ right, Text.isWhitespace c = true) ∧
      Text.trim (String.ofList (marks lower upper ++ body)) =
        String.ofList (marks lower upper ++ kept) := by
  have lowerEnds : "sha256:".toList.all Text.isWhitespace = false ∧
      "sha256:".toList.rdropWhile Text.isWhitespace = "sha256:".toList := by
    decide
  have upperEnds : "SHA256:".toList.all Text.isWhitespace = false ∧
      "SHA256:".toList.rdropWhile Text.isWhitespace = "SHA256:".toList := by
    decide
  have marked : (marks lower upper ++ body).dropWhile Text.isWhitespace =
        marks lower upper ++ body →
      (marks lower upper).rdropWhile Text.isWhitespace = marks lower upper →
      ∃ left kept right, body = left ++ (kept ++ right) ∧
        (∀ c ∈ left ++ right, Text.isWhitespace c = true) ∧
        Text.trim (String.ofList (marks lower upper ++ body)) =
          String.ofList (marks lower upper ++ kept) := by
    intro opens closes
    exact ⟨[], body.rdropWhile Text.isWhitespace, body.rtakeWhile Text.isWhitespace,
      (List.rdropWhile_append_rtakeWhile ..).symm,
      fun c member => List.mem_rtakeWhile_imp member, Text.trim_marked opens closes⟩
  cases upper with
  | zero =>
      cases lower with
      | zero =>
          rcases Text.trim_eq (String.ofList body) with ⟨left, right, parts, before, after⟩
          rw [String.toList_ofList] at parts
          rw [marks_zero, List.nil_append]
          refine ⟨left, _, right, parts, fun c member => ?_, by simp⟩
          exact (List.mem_append.mp member).elim (before c) (after c)
      | succ lower =>
          apply marked
          · rw [marks_succ, toList_lowerMark]
            rfl
          · rw [marks, List.replicate_zero, List.flatten_nil, List.append_nil]
            exact Text.rdropWhile_copies lowerEnds.1 lowerEnds.2 [] lower
  | succ upper =>
      apply marked
      · cases lower with
        | zero =>
            rw [marks_zero_succ, toList_upperMark]
            rfl
        | succ lower =>
            rw [marks_succ, toList_lowerMark]
            rfl
      · exact Text.rdropWhile_copies upperEnds.1 upperEnds.2 _ upper

/-- What stands behind the marks begins with none. -/
theorem not_mark_prefix {letters : List Char} {first : Char} {mark : List Char}
    (present : ∀ c ∈ letters, isSeparator c = true ∨ Text.isAsciiHexdigit c = true)
    (other : isSeparator first = false ∧ Text.isAsciiHexdigit first = false) :
    ¬ (first :: mark) <+: letters := by
  rintro ⟨rest, rfl⟩
  rcases present first (by simp) with separates | digit
  · rw [other.1] at separates
    cases separates
  · rw [other.2] at digit
    cases digit

theorem significant_of_trim {raw : String} {lower upper : Nat} {kept : List Char}
    (trimmed : Text.trim raw = String.ofList (marks lower upper ++ kept))
    (present : ∀ c ∈ kept, isSeparator c = true ∨ Text.isAsciiHexdigit c = true) :
    significant raw = kept.filter fun c => !isSeparator c := by
  have notLower : ¬ "sha256:".toList <+:
      (List.replicate upper "SHA256:".toList).flatten ++ kept := by
    rw [toList_lowerMark]
    cases upper with
    | zero => exact not_mark_prefix present (by decide)
    | succ upper =>
        rw [List.replicate_succ, List.flatten_cons, toList_upperMark]
        rintro ⟨rest, impossible⟩
        cases impossible
  have notUpper : ¬ "SHA256:".toList <+: kept := by
    rw [toList_upperMark]
    exact not_mark_prefix present (by decide)
  have first : Text.trimStartMatches (Text.trim raw) "sha256:" =
      String.ofList ((List.replicate upper "SHA256:".toList).flatten ++ kept) := by
    apply Text.trimStartMatches_of_copies lower _ (by decide) notLower
    rw [trimmed, String.toList_ofList, marks, List.append_assoc]
  have second : Text.trimStartMatches
      (String.ofList ((List.replicate upper "SHA256:".toList).flatten ++ kept)) "SHA256:" =
        String.ofList kept :=
    Text.trimStartMatches_of_copies upper String.toList_ofList (by decide) notUpper
  rw [significant, first, second, String.toList_ofList]

/-- The characters that the normaliser looks at are those that spell the digest. -/
theorem denotes_iff {raw : String} {digest : Digest} :
    Denotes raw digest ↔ Hex.decode (significant raw) = some digest.toList := by
  constructor
  · intro denotes
    cases denotes with
    | @intro lead body trail digest lower upper before after spells =>
        have present : ∀ c ∈ body, isSeparator c = true ∨ Text.isAsciiHexdigit c = true :=
          fun c => mem_body spells
        rcases trim_marks lower upper body with ⟨left, kept, right, rfl, blank, trimmed⟩
        have lost : ∀ {c : Char}, c ∈ left ++ right → (!isSeparator c) = false := by
          intro c member
          rw [isSeparator_of_blank (present c (by simp at member ⊢; tauto)) (blank c member)]
          rfl
        have leftLost : left.filter (fun c => !isSeparator c) = [] :=
          List.filter_eq_nil_iff.mpr fun c member => by simp [lost (List.mem_append_left _ member)]
        have rightLost : right.filter (fun c => !isSeparator c) = [] :=
          List.filter_eq_nil_iff.mpr fun c member => by simp [lost (List.mem_append_right _ member)]
        rw [List.filter_append, List.filter_append, leftLost, rightLost, List.nil_append,
          List.append_nil] at spells
        rw [significant_of_trim ((Text.trim_padded before after _).trans trimmed)
          fun c member => present c (by simp [member])]
        exact spells
  · intro spells
    rcases Text.trim_eq raw with ⟨lead, trail, surrounded, before, after⟩
    rcases Text.trimStartMatches_eq (Text.trim raw) "sha256:" with ⟨lower, first⟩
    rcases Text.trimStartMatches_eq (Text.trimStartMatches (Text.trim raw) "sha256:") "SHA256:"
      with ⟨upper, second⟩
    have spelled : raw = String.ofList (lead ++ ((marks lower upper ++
        (Text.trimStartMatches (Text.trimStartMatches (Text.trim raw) "sha256:") "SHA256:").toList)
          ++ trail)) := by
      apply String.toList_inj.mp
      rw [String.toList_ofList, marks, List.append_assoc (List.flatten _), ← second, ← first]
      exact surrounded
    rw [spelled]
    exact .intro lower upper before after spells

/-! ## Exactness -/

theorem Denotes.unique {entry : String} {digest other : Digest} (denotes : Denotes entry digest)
    (denotesOther : Denotes entry other) : digest = other := by
  rw [denotes_iff] at denotes denotesOther
  exact Vector.toList_inj.mp (Option.some.inj (denotes.symm.trans denotesOther))

theorem normalizeFingerprint_iff {raw normalized : String} :
    normalizeFingerprint raw = .ok normalized ↔
      ∃ digest, Denotes raw digest ∧ normalized = pin digest := by
  rw [normalizeFingerprint_eq_ok]
  exact exists_congr fun digest => and_congr_left' denotes_iff.symm

theorem isSeparator_of_digit {c : Char} (digit : Text.isAsciiHexdigit c = true) :
    isSeparator c = false := by
  rw [← Bool.not_eq_true]
  intro separates
  simp only [isSeparator, Bool.or_eq_true, beq_iff_eq] at separates
  rcases separates with (rfl | rfl) | rfl
  · exact absurd digit (by decide)
  · exact absurd digit (by decide)
  · exact absurd digit (by decide)

/-- The written form of a digest denotes it. -/
theorem denotes_pin (digest : Digest) : Denotes (pin digest) digest := by
  have digits := Hex.digits_of_decode (Hex.decode_encode digest.toList)
  have kept : (Hex.encode digest.toList).filter (fun c => !isSeparator c) =
      Hex.encode digest.toList := by
    apply List.filter_eq_self.mpr
    intro c member
    rw [isSeparator_of_digit (digits c member)]
    rfl
  have denotes : Denotes (String.ofList ([] ++ ((marks 0 0 ++ Hex.encode digest.toList) ++ [])))
      digest := by
    apply Denotes.intro 0 0 (by simp) (by simp)
    rw [kept, Hex.decode_encode]
  rwa [marks_zero, List.nil_append, List.nil_append, List.append_nil] at denotes

/-- What was normalised is normal. -/
theorem normalizeFingerprint_idempotent {raw normalized : String}
    (normalizes : normalizeFingerprint raw = .ok normalized) :
    normalizeFingerprint normalized = .ok normalized := by
  rcases normalizeFingerprint_iff.mp normalizes with ⟨digest, -, rfl⟩
  exact normalizeFingerprint_iff.mpr ⟨digest, denotes_pin digest, rfl⟩

/-- A client is built from entries that each denote a digest, and then it admits
the certificates with one of these. -/
theorem clientConfig_pinned [Sha256] {cfg : TlsConfig} {entries : List String}
    (set : cfg.fingerprintSha256 = some entries)
    (usable : ∀ entry ∈ entries, ∃ digest, Denotes entry digest) :
    ∃ expected, clientConfig cfg = .ok (.pinned expected) ∧
      ∀ cert, verifyServerCert expected cert = .ok () ↔
        ∃ entry ∈ entries, Denotes entry (Sha256.digest cert) := by
  have normalizes : ∀ entry ∈ entries, ∃ normalized,
      normalizeFingerprint entry = .ok normalized := by
    intro entry member
    rcases usable entry member with ⟨digest, denotes⟩
    exact ⟨pin digest, normalizeFingerprint_iff.mpr ⟨digest, denotes, rfl⟩⟩
  rcases exists_mapM normalizes with ⟨expected, mapped, listed⟩
  refine ⟨expected, by simp only [clientConfig, set, mapped], fun cert => ?_⟩
  rw [verifyServerCert_eq_ok, listed]
  apply exists_congr
  intro entry
  apply and_congr_right'
  rw [normalizeFingerprint_iff]
  constructor
  · rintro ⟨digest, denotes, same⟩
    rwa [pin_injective same]
  · exact fun denotes => ⟨_, denotes, rfl⟩

end Tls

namespace Config

/-- The configuration with this list of fingerprints. -/
def withPins (cfg : Config) (entries : List String) : Config :=
  let tls := { cfg.controller.tls with fingerprintSha256 := some entries }
  { cfg with controller := { cfg.controller with tls := tls } }

/-- The client towards the controller is built with the pinned verifier. -/
def Pins (cfg : Config) : Prop :=
  ∃ expected, Tls.clientConfig cfg.controller.tls = .ok (.pinned expected)

/-- The pinned verifier of the client admits a certificate. -/
def Admits [Sha256] (cfg : Config) (cert : List UInt8) : Prop :=
  ∃ expected, Tls.clientConfig cfg.controller.tls = .ok (.pinned expected) ∧
    Tls.verifyServerCert expected cert = .ok ()

theorem Valid.denotes {cfg : Config} (valid : cfg.Valid) {entries : List String}
    (set : cfg.controller.tls.fingerprintSha256 = some entries) :
    entries ≠ [] ∧ ∀ entry ∈ entries, ∃ digest, Tls.Denotes entry digest := by
  rcases valid.pins entries set with ⟨some, usable⟩
  refine ⟨some, fun entry member => ?_⟩
  rcases usable entry member with ⟨normalized, normalizes⟩
  rcases Tls.normalizeFingerprint_iff.mp normalizes with ⟨digest, denotes, -⟩
  exact ⟨digest, denotes⟩

theorem Valid.withPins_iff {cfg : Config} (valid : cfg.Valid) {own : List String}
    (set : cfg.controller.tls.fingerprintSha256 = some own) (entries : List String) :
    (cfg.withPins entries).Valid ↔
      entries ≠ [] ∧ ∀ entry ∈ entries, ∃ digest, Tls.Denotes entry digest := by
  constructor
  · exact fun valid => valid.denotes rfl
  · rintro ⟨some, usable⟩
    refine ⟨valid.apiKey, valid.tokens, valid.token, fun insecure => ?_, valid.encrypted,
      fun fingerprints same => ?_⟩
    · have unset := valid.verification insecure
      rw [set] at unset
      cases unset
    · cases same
      refine ⟨some, fun entry member => ?_⟩
      rcases usable entry member with ⟨digest, denotes⟩
      exact ⟨_, Tls.normalizeFingerprint_iff.mpr ⟨digest, denotes, rfl⟩⟩

theorem admits_iff [Sha256] {cfg : Config} {entries : List String}
    (set : cfg.controller.tls.fingerprintSha256 = some entries)
    (usable : ∀ entry ∈ entries, ∃ digest, Tls.Denotes entry digest) :
    cfg.Pins ∧ ∀ cert, cfg.Admits cert ↔
      ∃ entry ∈ entries, Tls.Denotes entry (Sha256.digest cert) := by
  rcases Tls.clientConfig_pinned set usable with ⟨expected, built, admits⟩
  refine ⟨⟨expected, built⟩, fun cert => ?_⟩
  rw [← admits cert, Admits, built]
  constructor
  · rintro ⟨other, same, accepted⟩
    cases same
    exact accepted
  · exact fun accepted => ⟨expected, rfl, accepted⟩

/-- A configuration that was loaded with pins admits the certificates that its
entries denote. A further entry is usable when it denotes a digest, and then
adds that one. -/
theorem pins_exact [Figment] [Sha256] :
    (∀ {path file : Option String} {environment : Environment} {cfg : Config}
      {setting : OneOrMany} {entries : List String},
      load path file environment = .ok cfg →
      cfg.controller.tls.fingerprintSha256 = oneOrMany setting → oneOrMany setting = some entries →
      (entries ≠ [] ∧ ∀ entry ∈ entries, ∃! digest, Tls.Denotes entry digest) ∧
      cfg.Pins ∧
      (∀ cert, cfg.Admits cert ↔ ∃ entry ∈ entries, Tls.Denotes entry (Sha256.digest cert)) ∧
      ∀ front entry back, entries = front ++ back →
        ((cfg.withPins (front ++ entry :: back)).validate = .ok () ↔
          ∃ digest, Tls.Denotes entry digest) ∧
        ∀ digest, Tls.Denotes entry digest →
          (cfg.withPins (front ++ entry :: back)).Pins ∧
          ∀ cert, (cfg.withPins (front ++ entry :: back)).Admits cert ↔
            cfg.Admits cert ∨ Sha256.digest cert = digest) ∧
    ∀ raw normalized, Tls.normalizeFingerprint raw = .ok normalized →
      Tls.normalizeFingerprint normalized = .ok normalized := by
  refine ⟨?_, fun raw normalized => Tls.normalizeFingerprint_idempotent⟩
  intro path file environment cfg setting entries loaded set shape
  have valid := (load_eq_ok.mp loaded).2.2
  have own := set.trans shape
  rcases valid.denotes own with ⟨some, usable⟩
  rcases admits_iff own usable with ⟨pins, admits⟩
  refine ⟨⟨some, fun entry member => ?_⟩, pins, admits, fun front entry back parts => ?_⟩
  · rcases usable entry member with ⟨digest, denotes⟩
    exact ⟨digest, denotes, fun other denotesOther => denotesOther.unique denotes⟩
  have widened : (∀ other ∈ front ++ entry :: back, ∃ digest, Tls.Denotes other digest) ↔
      ∃ digest, Tls.Denotes entry digest := by
    rw [parts] at usable
    constructor
    · exact fun each => each entry (by simp)
    · intro denotes other member
      rcases List.mem_append.mp member with early | late
      · exact usable other (List.mem_append_left _ early)
      rcases List.mem_cons.mp late with rfl | late
      · exact denotes
      · exact usable other (List.mem_append_right _ late)
  refine ⟨?_, fun digest denotes => ?_⟩
  · rw [validate_eq_ok, valid.withPins_iff own, widened]
    exact and_iff_right (by simp)
  · have longer : (cfg.withPins (front ++ entry :: back)).controller.tls.fingerprintSha256 =
        Option.some (front ++ entry :: back) := rfl
    rcases admits_iff longer (widened.mpr ⟨digest, denotes⟩) with ⟨pins, admitsMore⟩
    refine ⟨pins, fun cert => ?_⟩
    have denoted : Tls.Denotes entry (Sha256.digest cert) ↔ Sha256.digest cert = digest :=
      ⟨fun other => other.unique denotes, fun same => same ▸ denotes⟩
    rw [admitsMore, admits, parts, ← denoted]
    simp only [List.mem_append, List.mem_cons, or_and_right, exists_or, exists_eq_left]
    rw [or_assoc]
    exact or_congr_right or_comm

section

open Sample

/-- The digest of one certificate. -/
local instance shown : Sha256 where
  digest cert := Vector.replicate 32 (if cert = [1] then 0xAB else 0)

def pinnedEntry : String :=
  " sha256:ABababab-ABabababABababab:ABabababABabababABababab:ABabababABabab ab"

/-- A file that pins one certificate. -/
local instance pinning : Figment where
  extract _ _ := .ok (Sample.cfg.withPins [pinnedEntry])

theorem decode_pinnedEntry :
    Hex.decode (Tls.significant pinnedEntry) = some (Vector.replicate 32 0xAB).toList := by
  decide +kernel

theorem load_pinned : load none none [] = .ok (Sample.cfg.withPins [pinnedEntry]) := by
  have validated : (Sample.cfg.withPins [pinnedEntry]).validate.isOk = true := by decide +kernel
  cases checked : (Sample.cfg.withPins [pinnedEntry]).validate with
  | error why =>
      rw [checked] at validated
      cases validated
  | ok passed =>
      exact load_eq_ok.mpr ⟨fun set => (nomatch set), rfl, validate_eq_ok.mp checked⟩

/-- The entry may be given as a text, and its certificate is admitted. -/
theorem pins_exact_pinned :
    (Sample.cfg.withPins [pinnedEntry]).Admits [1] ∧
      ¬ (Sample.cfg.withPins [pinnedEntry]).Admits [2] := by
  have denotes := Tls.denotes_iff.mpr decode_pinnedEntry
  have set : (Sample.cfg.withPins [pinnedEntry]).controller.tls.fingerprintSha256 =
      oneOrMany (.one pinnedEntry) := rfl
  rcases pins_exact.1 load_pinned set rfl with ⟨-, -, admits, -⟩
  constructor
  · exact (admits [1]).mpr ⟨pinnedEntry, by simp, denotes⟩
  · rw [admits [2]]
    rintro ⟨entry, member, other⟩
    rw [List.mem_singleton.mp member] at other
    exact absurd (other.unique denotes) (by decide)

end

end Config

end VoucherProxy
