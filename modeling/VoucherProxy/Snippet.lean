import VoucherProxy.Foundation.Toml
import VoucherProxy.Minting

namespace VoucherProxy

/-! What `hash-token` prints, and what a configuration makes of it. -/

/-! ## Reading an entry -/

/-- How `serde` reads what is neither a text nor an array. -/
class Conversions (Other : Type) extends Toml.Others Other where
  uint32 : Other → Option UInt32
  uint64 : Other → Option UInt64
  time : Toml.Value Other → Option OffsetDateTime

def Scope.parse (text : String) : Option Scope :=
  [sitesRead, vouchersRead, vouchersCreate, vouchersRevoke].find? (·.asStr == text)

namespace TokenConfig

variable {Other : Type}

def asString : Toml.Value Other → Option String
  | .string text => some text
  | _ => none

def asList {Item : Type} (item : Toml.Value Other → Option Item) :
    Toml.Value Other → Option (List Item)
  | .array items => items.mapM item
  | _ => none

def asOther {Item : Type} (item : Other → Option Item) : Toml.Value Other → Option Item
  | .other value => item value
  | _ => none

def fields : List String :=
  ["name", "hash", "sites", "scopes", "max_vouchers_per_request", "max_validity_minutes",
    "rate_limit_per_minute", "expires_at"]

/-- A field that is not there has its default, if it has one. -/
def field {Item : Type} (members : Toml.Members Other) (key : String) (default : Option Item)
    (item : Toml.Value Other → Option Item) : Option Item :=
  match members.lookup key with
  | none => default
  | some (.value value) => item value
  | some _ => none

def fromToml [Conversions Other] (members : Toml.Members Other) : Option TokenConfig := do
  guard (members.all fun member => fields.contains member.1)
  let name ← field members "name" none asString
  let hash ← field members "hash" none asString
  let sites ← field members "sites" (some ["*"]) (asList asString)
  let scopes ← field members "scopes"
    (some [.sitesRead, .vouchersRead, .vouchersCreate, .vouchersRevoke])
    (asList fun item => (asString item).bind Scope.parse)
  let maxVouchersPerRequest ← field members "max_vouchers_per_request" (some none)
    fun value => (asOther Conversions.uint32 value).map some
  let maxValidityMinutes ← field members "max_validity_minutes" (some none)
    fun value => (asOther Conversions.uint64 value).map some
  let rateLimitPerMinute ← field members "rate_limit_per_minute" (some none)
    fun value => (asOther Conversions.uint32 value).map some
  let expiresAt ← field members "expires_at" (some none)
    fun value => (Conversions.time value).map some
  return ⟨name, hash, sites, scopes, maxVouchersPerRequest, maxValidityMinutes,
    rateLimitPerMinute, expiresAt⟩

/-- The entries of a text that has nothing else in it. -/
def allFromToml [Conversions Other] (members : Toml.Members Other) : Option (List TokenConfig) :=
  match members with
  | [(key, .entries earlier last)] =>
      if key = "tokens" then (earlier ++ [last]).mapM fromToml else none
  | _ => none

/-- An entry is called what its text says. -/
theorem lookup_name_of_fromToml [Conversions Other] {members : Toml.Members Other}
    {token : TokenConfig} (read : fromToml members = some token) :
    members.lookup "name" = some (.value (.string token.name)) := by
  rcases Option.bind_eq_some_iff.mp read with ⟨-, -, named⟩
  rcases Option.bind_eq_some_iff.mp named with ⟨name, is, hashed⟩
  have same : token.name = name := by
    rcases Option.bind_eq_some_iff.mp hashed with ⟨_, -, sites⟩
    rcases Option.bind_eq_some_iff.mp sites with ⟨_, -, scopes⟩
    rcases Option.bind_eq_some_iff.mp scopes with ⟨_, -, vouchers⟩
    rcases Option.bind_eq_some_iff.mp vouchers with ⟨_, -, validity⟩
    rcases Option.bind_eq_some_iff.mp validity with ⟨_, -, rate⟩
    rcases Option.bind_eq_some_iff.mp rate with ⟨_, -, expires⟩
    rcases Option.bind_eq_some_iff.mp expires with ⟨_, -, made⟩
    cases made
    rfl
  rw [same]
  rw [field] at is
  split at is
  · cases is
  next value found =>
    rw [found]
    cases value with
    | string text =>
        cases is
        rfl
    | array items => cases is
    | other value => cases is
  · cases is

end TokenConfig

/-! ## What is printed -/

def sitesLine : String :=
  "sites = [\"*\"]              # replace with explicit site ids where you can\n"

def scopesLine : String :=
  "scopes = [\"sites:read\", \"vouchers:read\", \"vouchers:create\", \"vouchers:revoke\"]\n"

/-- The entry to be added to the configuration. -/
def snippet (name hash : String) : String :=
  "[[tokens]]\n" ++ ("name = \"" ++ name ++ "\"\n") ++ ("hash = \"" ++ hash ++ "\"\n") ++
    sitesLine ++ scopesLine

/-- All that the command prints. -/
def KeySource.print [Crates] [Hasher] (source : KeySource) (name generated : String)
    (salt : Hasher.Salt) : Except String String := do
  let minted ← source.mint generated salt
  let start := "Add this to your config.toml:\n\n" ++ snippet name minted.hash
  if source.supplied.isNone then
    return start ++ "\nGive this token to the client — it is shown once and is not recoverable:\n\n" ++
      s!"  {minted.token}\n\n"
  else
    return start ++ "\nOnly the hash is stored. Keep your key wherever you keep your other secrets;\n" ++
      "it cannot be recovered from the config.\n\n"

/-- What the printed entry is meant to say. -/
def intended (name hash : String) : TokenConfig where
  name := name
  hash := hash
  sites := ["*"]
  scopes := [.sitesRead, .vouchersRead, .vouchersCreate, .vouchersRevoke]

/-- The text says one entry, with this name and this hash, and the entry is accepted. -/
structure Faithful (Other : Type) [Conversions Other] (name hash : String) : Prop where
  entry : (Toml.parse (snippet name hash)).bind (@TokenConfig.allFromToml Other _) =
    some [intended name hash]
  accepted : Config.validateToken (intended name hash) = .ok ()
  added : ∀ cfg : Config, cfg.validate = .ok () →
    { cfg with tokens := cfg.tokens ++ [intended name hash] }.validate = .ok ()

/-! ## Hashes -/

/-- The characters of the strings that Argon2's hashes are written as. -/
def isPhc (c : Char) : Bool := Text.isAsciiAlphanumeric c || "$=,+/.-".toList.contains c

/-- What the `argon2` crate writes a hash as. -/
structure Phc (hash : String) : Prop where
  start : Text.startsWith hash "$argon2" = true
  characters : hash.toList.all isPhc = true

theorem isPlain_of_isPhc {c : Char} (phc : isPhc c = true) : Toml.isPlain c = true := by
  rw [isPhc, Bool.or_eq_true, List.contains_iff_mem] at phc
  rcases phc with letter | mark
  · have range : 48 ≤ c.val.toNat ∧ c.val.toNat ≤ 122 ∧ c.val.toNat ≠ 92 := by
      simp only [Text.isAsciiAlphanumeric, Bool.or_eq_true, Bool.and_eq_true, decide_eq_true_eq,
        Char.le_def, UInt32.le_iff_toNat_le] at letter
      change ((97 ≤ c.val.toNat ∧ c.val.toNat ≤ 122) ∨ (65 ≤ c.val.toNat ∧ c.val.toNat ≤ 90)) ∨
        (48 ≤ c.val.toNat ∧ c.val.toNat ≤ 57) at letter
      omega
    have quote : c ≠ '"' := by
      rintro rfl
      exact absurd range (by decide)
    have backslash : c ≠ '\\' := by
      rintro rfl
      exact absurd range (by decide)
    have printed : Toml.isControl c = false := by
      have code : c.toNat = c.val.toNat := rfl
      have low : decide (c.toNat < 32) = false := by simp; omega
      have delete : (c.toNat == 127) = false := by simp; omega
      rw [Toml.isControl, low, delete]
      rfl
    rw [Toml.isPlain, bne_iff_ne.mpr quote, bne_iff_ne.mpr backslash, printed]
    rfl
  · exact List.all_eq_true.mp (by decide : "$=,+/.-".toList.all Toml.isPlain = true) c mark

namespace Phc

variable {hash : String} (phc : Phc hash)

include phc

theorem plain : hash.toList.all Toml.isPlain = true := by
  rw [List.all_eq_true]
  intro c member
  exact isPlain_of_isPhc (List.all_eq_true.mp phc.characters c member)

theorem exists_toList : ∃ more, hash.toList = "$argon2".toList ++ more ∧ '"' ∉ more := by
  rcases Text.startsWith_iff.mp phc.start with ⟨more, same⟩
  apply Exists.intro more
  apply And.intro same.symm
  intro member
  apply Toml.notMem_of_plain (by decide : Toml.isPlain '"' = false) phc.plain
  rw [← same]
  exact List.mem_append_right _ member

end Phc

/-! ## The lines -/

def afterHash : List Char := sitesLine.toList ++ scopesLine.toList

def afterName (hash : List Char) : List Char :=
  "hash".toList ++ ' ' :: '=' :: ' ' :: '"' :: (hash ++ '"' :: '\n' :: afterHash)

def lines (name hash : List Char) : List Char :=
  "[[tokens]]\n".toList ++
    ("name".toList ++ ' ' :: '=' :: ' ' :: '"' :: (name ++ '"' :: '\n' :: afterName hash))

theorem toList_snippet (name hash : String) :
    (snippet name hash).toList = lines name.toList hash.toList := by
  have nameKey : "name = \"".toList = "name".toList ++ [' ', '=', ' ', '"'] := by decide
  have hashKey : "hash = \"".toList = "hash".toList ++ [' ', '=', ' ', '"'] := by decide
  have closed : "\"\n".toList = ['"', '\n'] := by decide
  simp only [snippet, String.toList_append]
  rw [nameKey, hashKey, closed]
  unfold lines afterName afterHash
  simp only [List.append_assoc, List.cons_append, List.nil_append]

/-- Between the quotes around the name and what follows, no line end is unified. -/
theorem unifyFeeds_lines (name : List Char) {hash : String} (phc : Phc hash) :
    Toml.unifyFeeds (lines name hash.toList) = lines (Toml.unifyFeeds name) hash.toList := by
  have constant : '\r' ∉ afterHash := by decide +kernel
  have rest : '\r' ∉ '"' :: '\n' :: afterName hash.toList := by
    unfold afterName
    simp only [List.mem_cons, List.mem_append, not_or]
    have own := Toml.notMem_of_plain (by decide : Toml.isPlain '\r' = false) phc.plain
    have key : '\r' ∉ "hash".toList := by decide
    exact ⟨by decide, by decide, key, by decide, by decide, by decide, by decide, own, by decide,
      by decide, constant⟩
  have start : '\r' ∉ "[[tokens]]\n".toList ++ ("name".toList ++ [' ', '=', ' ']) := by decide
  have split : ∀ name rest : List Char, "[[tokens]]\n".toList ++
      ("name".toList ++ ' ' :: '=' :: ' ' :: '"' :: (name ++ rest)) =
        ("[[tokens]]\n".toList ++ ("name".toList ++ [' ', '=', ' '])) ++ '"' :: (name ++ rest) := by
    intro name rest
    simp only [List.append_assoc, List.cons_append, List.nil_append]
  unfold lines
  rw [split, split, Toml.unifyFeeds_append _ (by decide), Toml.unifyFeeds_of_notMem start,
    Toml.unifyFeeds, if_neg fun both => absurd both.1 (by decide),
    Toml.unifyFeeds_append _ (by decide), Toml.unifyFeeds_of_notMem rest]

section

variable {Other : Type} [Toml.Others Other]

theorem readLines_header (fuel : Nat) (rest : List Char) :
    @Toml.readLines Other _ (fuel + 1) ("[[tokens]]\n".toList ++ rest) =
      (Toml.readLines fuel rest).map (.entry ["tokens"] :: ·) := by
  simp only [String.reduceToList, List.cons_append, List.nil_append, Option.map_eq_bind]
  rfl

/-- The first two statements, whatever stands between the quotes around the name. -/
theorem readLines_lines (fuel : Nat) (name hash : List Char) :
    @Toml.readLines Other _ (fuel + 2) (lines name hash) =
      ((Toml.readString (name ++ '"' :: '\n' :: afterName hash)).bind fun read =>
        (Toml.readEnd read.2).bind fun rest => (Toml.readLines fuel rest).map
          (.pair ["name"] (.string (String.ofList read.1)) :: ·)).map (.entry ["tokens"] :: ·) := by
  unfold lines
  rw [readLines_header, Toml.readLines_string (by decide) (by decide)]

theorem readLines_sitesLine (fuel : Nat) (rest : List Char) :
    @Toml.readLines Other _ (fuel + 1) (sitesLine.toList ++ rest) =
      (Toml.readLines fuel rest).map (.pair ["sites"] (.array [.string "*"]) :: ·) := by
  simp only [sitesLine, String.reduceToList, List.cons_append, List.nil_append,
    Option.map_eq_bind]
  rfl

set_option maxRecDepth 2000 in
theorem readLines_scopesLine (fuel : Nat) :
    @Toml.readLines Other _ (fuel + 2) scopesLine.toList =
      some [.pair ["scopes"] (.array [.string "sites:read", .string "vouchers:read",
        .string "vouchers:create", .string "vouchers:revoke"])] := by
  simp only [scopesLine, String.reduceToList]
  rfl

theorem exists_length_lines (name hash : List Char) :
    ∃ fuel, (lines name hash).length = fuel + 6 := by
  apply Nat.exists_eq_add_of_le'
  unfold lines
  simp only [List.length_append, List.length_cons]
  have header : "[[tokens]]\n".toList.length = 11 := by decide
  omega

def printedStatements (Other : Type) (name hash : String) : List (Toml.Statement Other) :=
  [.entry ["tokens"], .pair ["name"] (.string name), .pair ["hash"] (.string hash),
    .pair ["sites"] (.array [.string "*"]),
    .pair ["scopes"] (.array [.string "sites:read", .string "vouchers:read",
      .string "vouchers:create", .string "vouchers:revoke"])]

theorem readStatements_snippet {name hash : String} (plain : name.toList.all Toml.isPlain = true)
    (phc : Phc hash) :
    Toml.readStatements (snippet name hash) = some (printedStatements Other name hash) := by
  rcases exists_length_lines name.toList hash.toList with ⟨fuel, long⟩
  rw [Toml.readStatements, toList_snippet, unifyFeeds_lines _ phc, Toml.unifyFeeds_eq_self plain]
  simp only [long]
  rw [readLines_lines, Toml.readString_append plain (by decide)]
  simp only [Option.bind_some, Toml.readEnd_feed]
  unfold afterName
  rw [Toml.readLines_string (by decide) (by decide), Toml.readString_append phc.plain (by decide)]
  simp only [Option.bind_some, Toml.readEnd_feed]
  unfold afterHash
  rw [readLines_sitesLine, readLines_scopesLine, String.ofList_toList, String.ofList_toList]
  rfl

def printedMembers (Other : Type) (name hash : String) : Toml.Members Other :=
  [("name", .value (.string name)), ("hash", .value (.string hash)),
    ("sites", .value (.array [.string "*"])),
    ("scopes", .value (.array [.string "sites:read", .string "vouchers:read",
      .string "vouchers:create", .string "vouchers:revoke"]))]

omit [Toml.Others Other] in
/-- What the statements make is the one entry. -/
theorem build_printedStatements (name hash : String) :
    Toml.build ([], []) (printedStatements Other name hash) =
      some [("tokens", .entries [] (printedMembers Other name hash))] :=
  rfl

omit [Toml.Others Other] in
theorem tripled_afterName {hash : String} (phc : Phc hash) :
    Toml.tripled (afterName hash.toList) = false := by
  rcases phc.exists_toList with ⟨more, spelled, free⟩
  have constant : Toml.tripled ('"' :: '\n' :: afterHash) = false := by decide +kernel
  rw [← Toml.tripled_append free] at constant
  rw [← constant, afterName, spelled]
  rfl

theorem firstHolds_of_parse {name hash : String} (phc : Phc hash) {members : Toml.Members Other}
    (parsed : Toml.parse (snippet name hash) = some members) :
    ∃ value rest, Toml.readString (Toml.unifyFeeds name.toList ++ '"' :: '\n' ::
        afterName hash.toList) = some (value, rest) ∧
      Toml.Members.FirstHolds "tokens" "name" (.string (String.ofList value)) members := by
  rcases Option.bind_eq_some_iff.mp parsed with ⟨statements, read, built⟩
  rcases exists_length_lines (Toml.unifyFeeds name.toList) hash.toList with ⟨fuel, long⟩
  rw [Toml.readStatements, toList_snippet, unifyFeeds_lines _ phc] at read
  simp only [long] at read
  rw [readLines_lines] at read
  rcases Option.map_eq_some_iff.mp read with ⟨nameOn, goes, rfl⟩
  rcases Option.bind_eq_some_iff.mp goes with ⟨⟨value, rest⟩, string, ends⟩
  rcases Option.bind_eq_some_iff.mp ends with ⟨after, -, more⟩
  rcases Option.map_eq_some_iff.mp more with ⟨others, -, rfl⟩
  apply Exists.intro value
  apply Exists.intro rest
  apply And.intro string
  -- The header and the name make one entry, before the other statements.
  have behind : Toml.build ([("tokens", .entries []
      [("name", .value (.string (String.ofList value)))])], ["tokens"]) others = some members :=
    built
  apply Toml.firstHolds_build behind
  exact ⟨[], _, rfl, fun first is => by cases is; rfl⟩

end

namespace TokenConfig

variable {Other : Type} [Conversions Other]

theorem name_of_allFromToml {members : Toml.Members Other} {token : TokenConfig} {text : String}
    (read : allFromToml members = some [token])
    (holds : Toml.Members.FirstHolds "tokens" "name" (.string text) members) :
    token.name = text := by
  rcases holds with ⟨earlier, last, present, first⟩
  unfold allFromToml at read
  split at read
  next key before current =>
    rw [Option.ite_none_right_eq_some] at read
    rcases read with ⟨rfl, read⟩
    cases present
    have heads : ∃ head others, earlier ++ [last] = head :: others := by
      cases earlier with
      | nil => exact ⟨last, [], rfl⟩
      | cons head earlier => exact ⟨head, earlier ++ [last], rfl⟩
    rcases heads with ⟨head, others, same⟩
    rw [same] at read first
    rw [List.mapM_cons] at read
    rcases Option.bind_eq_some_iff.mp read with ⟨own, readOwn, rest⟩
    rcases Option.bind_eq_some_iff.mp rest with ⟨tokens, -, made⟩
    cases made
    have found := first head rfl
    rw [Toml.Members.Holds, lookup_name_of_fromToml readOwn] at found
    cases found
    rfl
  next => cases read

theorem allFromToml_printedMembers (name hash : String) :
    allFromToml [("tokens", .entries [] (printedMembers Other name hash))] =
      some [intended name hash] :=
  rfl

end TokenConfig

theorem validateToken_intended {name hash : String} (named : (Text.trim name).isEmpty = false)
    (phc : Phc hash) : Config.validateToken (intended name hash) = .ok () := by
  rw [Config.validateToken, check_eq_ok, check_eq_ok, lastCheck_eq_ok]
  have begins : (!Text.startsWith hash "$argon2") = false := by rw [phc.start]; rfl
  exact ⟨Bool.eq_false_iff.mp named, Bool.eq_false_iff.mp begins, Bool.false_ne_true⟩

/-- An entry that is accepted may stand behind the others. -/
theorem validate_append {cfg : Config} {token : TokenConfig} (valid : cfg.validate = .ok ())
    (accepted : Config.validateToken token = .ok ()) :
    { cfg with tokens := cfg.tokens ++ [token] }.validate = .ok () := by
  rw [Config.validate_eq_ok] at valid ⊢
  constructor
  case apiKey => exact valid.apiKey
  case tokens => exact List.append_ne_nil_of_right_ne_nil _ (List.cons_ne_nil _ _)
  case token =>
    intro other member
    rcases List.mem_append.mp member with old | new
    · exact valid.token other old
    · rw [List.mem_singleton.mp new]
      exact accepted
  case verification => exact valid.verification
  case encrypted => exact valid.encrypted
  case pins => exact valid.pins

theorem snippet_faithful_iff {Other : Type} [Conversions Other] {name hash : String}
    (named : (Text.trim name).isEmpty = false) (phc : Phc hash) :
    Faithful Other name hash ↔ name.toList.all Toml.isPlain = true := by
  constructor
  · intro faithful
    rcases Option.bind_eq_some_iff.mp faithful.entry with ⟨members, parsed, read⟩
    rcases firstHolds_of_parse phc parsed with ⟨value, rest, string, holds⟩
    have same : value = name.toList := by
      rw [← @String.toList_ofList value, ← TokenConfig.name_of_allFromToml read holds]
      rfl
    have whole : (Toml.unifyFeeds name.toList).length ≤ value.length := by
      rw [same]
      exact Toml.length_unifyFeeds _
    have plain := Toml.plain_of_readString (tripled_afterName phc) string whole
    rwa [Toml.unifyFeeds_of_plain plain] at plain
  · intro plain
    constructor
    · have parsed : Toml.parse (snippet name hash) =
          some [("tokens", .entries [] (printedMembers Other name hash))] := by
        rw [Toml.parse, readStatements_snippet plain phc]
        exact build_printedStatements name hash
      rw [parsed]
      exact TokenConfig.allFromToml_printedMembers name hash
    · exact validateToken_intended named phc
    · exact fun cfg valid => validate_append valid (validateToken_intended named phc)

section

variable [Crates] [Hasher]

/-- Whatever is minted, its hash is one that Argon2 made. -/
theorem KeySource.exists_of_mint {source : KeySource} {generated : String} {salt : Hasher.Salt}
    {minted : Minted} (made : source.mint generated salt = .ok minted) :
    ∃ token, Hasher.hashPassword salt token = .ok minted.hash := by
  have hashes : ∀ token, (do
      let hash ← hashToken salt token
      return Minted.mk token hash) = .ok minted →
        Hasher.hashPassword salt token = .ok minted.hash := by
    intro token rest
    rcases bind_eq_ok.mp rest with ⟨hash, hashed, same⟩
    cases same
    rw [hashToken] at hashed
    split at hashed
    next own =>
      cases hashed
      exact own
    next => cases hashed
  rw [mint] at made
  split at made
  next token supplied =>
    rcases bind_eq_ok.mp made with ⟨judged, -, rest⟩
    exact ⟨judged, hashes judged rest⟩
  next => exact ⟨generated, hashes generated made⟩

/-- The snippet for what was minted is in what is printed. -/
theorem KeySource.snippet_infix_of_print {source : KeySource} {name generated text : String}
    {salt : Hasher.Salt} (printed : source.print name generated salt = .ok text) :
    ∃ minted, source.mint generated salt = .ok minted ∧
      (snippet name minted.hash).toList <:+: text.toList := by
  rcases bind_eq_ok.mp printed with ⟨minted, made, shown⟩
  apply Exists.intro minted
  apply And.intro made
  split at shown
  · cases shown
    simp only [String.toList_append, List.append_assoc]
    exact List.infix_append' _ _ _
  · cases shown
    simp only [String.toList_append, List.append_assoc]
    exact List.infix_append' _ _ _

/-- A name stands for itself between quotes when no character of it means anything else
there. -/
theorem minted_faithful_iff {Other : Type} [Conversions Other] {source : KeySource}
    {name generated : String} {salt : Hasher.Salt} {minted : Minted}
    (written : ∀ {salt : Hasher.Salt} {token hash : String},
      Hasher.hashPassword salt token = .ok hash → Phc hash)
    (named : (Text.trim name).isEmpty = false)
    (made : source.mint generated salt = .ok minted) :
    Faithful Other name minted.hash ↔ name.toList.all Toml.isPlain = true := by
  rcases KeySource.exists_of_mint made with ⟨token, hashed⟩
  exact snippet_faithful_iff named (written hashed)

end

namespace Minting

/-- Texts and arrays are all that is read here. -/
scoped instance conversions : Conversions Unit where
  read _ := none
  uint32 _ := none
  uint64 _ := none
  time _ := none

def quotedName : String := "say \"hi\""

theorem phc_of_hashPassword {salt : Hasher.Salt} {token hash : String}
    (hashed : Hasher.hashPassword salt token = .ok hash) : Phc hash := by
  have custom : Phc customHash := ⟨by decide +kernel, by decide +kernel⟩
  have spaced : Phc spacedHash := ⟨by decide +kernel, by decide +kernel⟩
  cases found : hashes.find? (·.2 == token) with
  | none =>
      simp only [Hasher.hashPassword, found] at hashed
      cases hashed
  | some entry =>
      simp only [Hasher.hashPassword, found] at hashed
      cases hashed
      have member := List.mem_of_find?_eq_some found
      rw [hashes, List.mem_cons, List.mem_singleton] at member
      rcases member with rfl | rfl
      · exact custom
      · exact spaced

end Minting

open Minting in
theorem minted_faithful_iff_kiosk : Faithful Unit "lobby kiosk" customHash :=
  (minted_faithful_iff phc_of_hashPassword (by decide +kernel)
    (by decide +kernel : KeySource.mint ⟨some customKey, none, false⟩ "" (() : Hasher.Salt) =
      .ok ⟨customKey, customHash⟩)).mpr (by decide)

open Minting in
/-- A name with quotes in it breaks the entry that is printed for it. -/
theorem quoted_name_breaks :
    KeySource.mint ⟨some customKey, none, false⟩ "" (() : Hasher.Salt) =
        .ok ⟨customKey, customHash⟩ ∧
      (Text.trim quotedName).isEmpty = false ∧ ¬ Faithful Unit quotedName customHash := by
  have named : (Text.trim quotedName).isEmpty = false := by decide +kernel
  have phc : Phc customHash := ⟨by decide +kernel, by decide +kernel⟩
  refine ⟨by decide +kernel, named, ?_⟩
  intro faithful
  exact absurd ((snippet_faithful_iff named phc).mp faithful) (by decide)

end VoucherProxy
