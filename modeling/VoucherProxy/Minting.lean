import Mathlib.Data.List.Dedup
import VoucherProxy.AuthCache
import VoucherProxy.Foundation.Utf8

namespace VoucherProxy

/-! Which keys `hash-token` accepts, and which of them a client can present. -/

/-! ## Judging a key -/

/-- An estimate of `characters * log2 pool` bits. -/
structure Entropy where
  characters : Nat
  pool : Nat

/-- The pool is never a power of two, so the estimate is never a whole number of
bits and the comparison has no tie. -/
def Entropy.reaches (entropy : Entropy) (bits : Nat) : Prop :=
  2 ^ bits ≤ entropy.pool ^ entropy.characters

instance (entropy : Entropy) (bits : Nat) : Decidable (entropy.reaches bits) :=
  inferInstanceAs (Decidable (_ ≤ _))

/-- The estimate to the nearest bit. -/
def Entropy.rounded (entropy : Entropy) : Nat :=
  ((entropy.pool ^ (2 * entropy.characters)).log2 + 1) / 2

def minEntropyBits : Nat := 80

/-- The number of characters a key seems to choose from. -/
def poolSize (token : String) : Nat :=
  (if token.toList.any fun c => 'a' ≤ c && c ≤ 'z' then 26 else 0) +
    (if token.toList.any fun c => 'A' ≤ c && c ≤ 'Z' then 26 else 0) +
    (if token.toList.any fun c => '0' ≤ c && c ≤ '9' then 10 else 0) +
    (if token.toList.any fun c => !Text.isAsciiAlphanumeric c then 33 else 0)

/-- Judges a self-chosen key and explains itself when it says no. -/
def assessStrength (token : String) : Except String Entropy :=
  let len := token.toList.length
  let distinct := token.toList.dedup.length
  let bits : Entropy := ⟨len, poolSize token⟩
  if len < 16 then .error s!"too short: {len} characters, at least 16 are required"
  else if distinct < 8 then
    .error s!"only {distinct} distinct characters — a repetitive key is weak however long it is"
  else if bits.reaches minEntropyBits then .ok bits
  else
    .error (s!"roughly {bits.rounded} bits of entropy, {minEntropyBits} are required — " ++
      "make it longer or mix in more character classes")

theorem nonempty_of_assessStrength {token : String} {bits : Entropy}
    (accepted : assessStrength token = .ok bits) : token.toList ≠ [] := by
  intro empty
  rw [assessStrength, empty] at accepted
  cases accepted

/-! ## Presenting a key -/

def isBlankByte (byte : UInt8) : Bool := byte == 32 || byte == 9

/-- A header value as the server gets it: blanks around it are no part of it. -/
def received (value : List UInt8) : List UInt8 :=
  (value.dropWhile isBlankByte).rdropWhile isBlankByte

/-- A request whose only header carries the key. -/
inductive Presents (key : String) : HeaderMap → Prop
  | apiKey : Presents key [("x-api-key", received (Text.utf8 key.toList))]
  | bearer : Presents key [("authorization", received (Text.utf8 ("Bearer " ++ key).toList))]

def isBlank (c : Char) : Bool := c == ' ' || c == '\t'

/-- Visible ASCII, space and tab. -/
def isHeaderCharacter (c : Char) : Bool := (32 ≤ c.toNat && c.toNat < 127) || c == '\t'

/-- A text that can stand at the end of a header value. -/
structure Transmittable (key : String) : Prop where
  characters : ∀ c ∈ key.toList, isHeaderCharacter c = true
  ending : ∀ c ∈ key.toList.getLast?, isBlank c = false

theorem toNat_lt_of_isHeaderCharacter {c : Char} (allowed : isHeaderCharacter c = true) :
    c.toNat < 127 := by
  rw [isHeaderCharacter, Bool.or_eq_true, Bool.and_eq_true, decide_eq_true_eq, decide_eq_true_eq,
    beq_iff_eq] at allowed
  rcases allowed with ⟨-, last⟩ | rfl
  · exact last
  · decide

/-- The character a byte is read as. -/
def characterOf (byte : UInt8) : Char := Char.ofNat byte.toNat

theorem characterOf_ofNat {c : Char} (ascii : c.toNat < 127) :
    characterOf (UInt8.ofNat c.toNat) = c := by
  rw [characterOf, UInt8.toNat_ofNat', Nat.mod_eq_of_lt (by omega), Char.ofNat_toNat]

theorem toNat_characterOf (byte : UInt8) : (characterOf byte).toNat = byte.toNat := by
  have valid : byte.toNat.isValidChar := .inl (Nat.lt_trans byte.toNat_lt (by decide))
  rw [characterOf, Char.ofNat, dif_pos valid]
  rfl

theorem characterOf_eq_iff {byte : UInt8} {c : Char} (ascii : c.toNat < 127) :
    characterOf byte = c ↔ byte = UInt8.ofNat c.toNat := by
  constructor
  · rintro rfl
    rw [toNat_characterOf, UInt8.ofNat_toNat]
  · rintro rfl
    exact characterOf_ofNat ascii

/-- The bytes a header value is read at are those of the characters it can spell. -/
theorem isHeaderCharacter_characterOf (byte : UInt8) :
    isHeaderCharacter (characterOf byte) = ((32 ≤ byte && byte < 127) || byte == 9) := by
  have tab : (characterOf byte == '\t') = (byte == 9) := by
    rw [Bool.eq_iff_iff, beq_iff_eq, beq_iff_eq]
    exact characterOf_eq_iff (by decide)
  rw [isHeaderCharacter, toNat_characterOf, tab]
  simp [UInt8.le_iff_toNat_le, UInt8.lt_iff_toNat_lt]

theorem isBlank_characterOf (byte : UInt8) : isBlank (characterOf byte) = isBlankByte byte := by
  rw [Bool.eq_iff_iff, isBlank, isBlankByte, Bool.or_eq_true, Bool.or_eq_true, beq_iff_eq,
    beq_iff_eq, beq_iff_eq, beq_iff_eq]
  exact or_congr (characterOf_eq_iff (by decide)) (characterOf_eq_iff (by decide))

theorem headerText_eq_some {bytes : List UInt8} {text : String} :
    headerText bytes = some text ↔
      (∀ byte ∈ bytes, isHeaderCharacter (characterOf byte) = true) ∧
        text.toList = bytes.map characterOf := by
  simp only [isHeaderCharacter_characterOf]
  rw [headerText]
  split
  next allowed =>
    have spelled : some (String.ofList (bytes.map characterOf)) = some text ↔
        text.toList = bytes.map characterOf := by
      rw [Option.some.injEq, ← String.toList_inj, String.toList_ofList, eq_comm]
    rw [and_iff_right (List.all_eq_true.mp allowed)]
    exact spelled
  next refused =>
    apply iff_of_false
    · intro none
      cases none
    · exact fun read => refused (List.all_eq_true.mpr read.1)

/-- No blank ends what was received. -/
theorem received_ending {value : List UInt8} {byte : UInt8}
    (last : (received value).getLast? = some byte) : isBlankByte byte = false := by
  have some : received value ≠ [] := by
    rintro empty
    rw [empty] at last
    cases last
  rw [List.getLast?_eq_some_getLast some, Option.some.injEq] at last
  rw [← last]
  exact Bool.eq_false_iff.mpr (List.rdropWhile_last_not _ _ some)

theorem received_eq_self {first : UInt8} {rest : List UInt8} (opening : isBlankByte first = false)
    (ending : ∀ byte ∈ (first :: rest).getLast?, isBlankByte byte = false) :
    received (first :: rest) = first :: rest := by
  rw [received, List.dropWhile_cons_of_neg (Bool.eq_false_iff.mp opening),
    List.rdropWhile_eq_self_iff]
  intro some
  exact Bool.eq_false_iff.mp (ending _ (List.getLast?_eq_some_getLast some))

/-- What is read of a value as it was received is transmittable. -/
theorem transmittable_of_headerText {value : List UInt8} {text : String}
    (read : headerText (received value) = some text) : Transmittable text := by
  rcases headerText_eq_some.mp read with ⟨allowed, spelled⟩
  constructor
  · intro c member
    rw [spelled] at member
    rcases List.mem_map.mp member with ⟨byte, present, rfl⟩
    exact allowed byte present
  · intro c last
    rw [spelled, List.getLast?_map] at last
    rcases Option.map_eq_some_iff.mp last with ⟨byte, final, rfl⟩
    rw [isBlank_characterOf]
    exact received_ending final

/-- The end of something transmittable is transmittable. -/
theorem Transmittable.of_append {start text : String} (whole : Transmittable (start ++ text))
    (nonempty : text.toList ≠ []) : Transmittable text := by
  constructor
  · intro c member
    apply whole.characters c
    rw [String.toList_append]
    exact List.mem_append_right _ member
  · intro c last
    apply whole.ending c
    rw [String.toList_append, List.getLast?_append_of_ne_nil _ nonempty]
    exact last

/-- Whatever headers are received, what they present is transmittable. -/
theorem transmittable_of_found {headers : HeaderMap} {key : String}
    (delivered : ∀ entry ∈ headers, ∃ value, entry.2 = received value)
    (found : tokenFromHeaders headers = some key) : Transmittable key := by
  have lookup : ∀ {name text}, (headers.lookup name).bind headerText = some text →
      Transmittable text := by
    intro name text found
    rcases Option.bind_eq_some_iff.mp found with ⟨bytes, present, read⟩
    rcases List.lookup_eq_some_iff.mp present with ⟨before, after, rfl, -⟩
    rcases delivered (name, bytes) (by simp) with ⟨value, rfl⟩
    exact transmittable_of_headerText read
  rcases Option.or_eq_some_iff.mp found with first | ⟨-, second⟩
  · exact lookup (Option.filter_eq_some_iff.mp first).1
  · rcases Option.filter_eq_some_iff.mp second with ⟨stripped, some⟩
    rcases Option.bind_eq_some_iff.mp stripped with ⟨text, read, stripped⟩
    rw [Text.eq_append_of_stripStart stripped] at read
    apply (lookup read).of_append
    intro none
    simp [String.toList_eq_nil_iff.mp none] at some

/-- What is carried was received. -/
theorem Presents.delivered {key : String} {headers : HeaderMap} (carries : Presents key headers) :
    ∀ entry ∈ headers, ∃ value, entry.2 = received value := by
  intro entry member
  cases carries with
  | apiKey => exact ⟨_, congrArg Prod.snd (List.mem_singleton.mp member)⟩
  | bearer => exact ⟨_, congrArg Prod.snd (List.mem_singleton.mp member)⟩

/-- A transmittable key stays so behind characters of a header. -/
theorem Transmittable.append {start key : String} (transmittable : Transmittable key)
    (characters : start.toList.all isHeaderCharacter = true) (nonempty : key.toList ≠ []) :
    Transmittable (start ++ key) := by
  constructor
  · intro c member
    rw [String.toList_append, List.mem_append] at member
    rcases member with announced | own
    · exact List.all_eq_true.mp characters c announced
    · exact transmittable.characters c own
  · intro c last
    rw [String.toList_append, List.getLast?_append_of_ne_nil _ nonempty] at last
    exact transmittable.ending c last

namespace Transmittable

variable {text : String} (transmittable : Transmittable text)

include transmittable

theorem utf8_eq : Text.utf8 text.toList = text.toList.map fun c => UInt8.ofNat c.toNat := by
  apply Text.utf8_of_ascii
  intro c member
  exact Nat.lt_succ_of_lt (toNat_lt_of_isHeaderCharacter (transmittable.characters c member))

theorem characterOf_eq {c : Char} (member : c ∈ text.toList) :
    characterOf (UInt8.ofNat c.toNat) = c :=
  characterOf_ofNat (toNat_lt_of_isHeaderCharacter (transmittable.characters c member))

theorem headerText_utf8 : headerText (Text.utf8 text.toList) = some text := by
  rw [headerText_eq_some, transmittable.utf8_eq]
  constructor
  · intro byte member
    rcases List.mem_map.mp member with ⟨c, present, rfl⟩
    rw [transmittable.characterOf_eq present]
    exact transmittable.characters c present
  · have decoded : ∀ c ∈ text.toList, characterOf (UInt8.ofNat c.toNat) = c :=
      fun c member => transmittable.characterOf_eq member
    rw [List.map_map]
    exact ((List.map_congr_left decoded).trans (List.map_id _)).symm

/-- It is received as it was sent when no blank stands before it. -/
theorem received_utf8 {first : UInt8} {rest : List UInt8}
    (spelled : Text.utf8 text.toList = first :: rest) (opening : isBlankByte first = false) :
    received (Text.utf8 text.toList) = Text.utf8 text.toList := by
  have ending : ∀ byte ∈ (Text.utf8 text.toList).getLast?, isBlankByte byte = false := by
    intro byte last
    rw [transmittable.utf8_eq, List.getLast?_map] at last
    rcases Option.map_eq_some_iff.mp last with ⟨c, final, rfl⟩
    rw [← isBlank_characterOf, transmittable.characterOf_eq (List.mem_of_mem_getLast? final)]
    exact transmittable.ending c final
  rw [spelled] at ending ⊢
  exact received_eq_self opening ending

end Transmittable

/-- A transmittable key behind the word that announces it comes through unchanged. -/
theorem tokenFromHeaders_bearer {key : String} (nonempty : key.toList ≠ [])
    (transmittable : Transmittable key) :
    tokenFromHeaders [("authorization", received (Text.utf8 ("Bearer " ++ key).toList))] =
      some key := by
  have announced : Transmittable ("Bearer " ++ key) := transmittable.append (by decide) nonempty
  have opening : ∃ rest, Text.utf8 ("Bearer " ++ key).toList = 66 :: rest := by
    rw [String.toList_append, Text.utf8_append]
    exact ⟨_, rfl⟩
  rcases opening with ⟨rest, spelled⟩
  have some : key.isEmpty = false := by simpa using nonempty
  have only : ∀ bytes, tokenFromHeaders [("authorization", bytes)] =
      ((headerText bytes).bind (Text.stripStart · "Bearer ")).filter (!·.isEmpty) := fun _ => rfl
  rw [only, announced.received_utf8 spelled rfl, announced.headerText_utf8, Option.bind_some,
    Text.stripStart_append, Option.filter_some, some]
  rfl

/-! ## Minting -/

/-- How the `argon2` crate hashes a key under a salt: what it hashed, it verifies. -/
class Hasher [Credentials] where
  Salt : Type
  hashPassword : Salt → String → Except String String
  verified : ∀ {salt : Salt} {token hash : String}, hashPassword salt token = .ok hash →
    ∃ parsed, Credentials.parsePasswordHash hash = .ok parsed ∧
      Credentials.verifyPassword parsed token = true

/-- The arguments of `hash-token`; `stdin` is the text read when it was asked to
read one. -/
structure KeySource where
  custom : Option String
  stdin : Option String
  allowWeak : Bool

/-- Only line ends are stripped from what was read. -/
def KeySource.supplied (source : KeySource) : Option String :=
  source.custom.or (source.stdin.map fun text =>
    String.ofList (text.toList.rdropWhile fun c => c == '\n' || c == '\r'))

/-- The key and the line of the configuration that is printed with it. -/
structure Minted where
  token : String
  hash : String
  deriving DecidableEq

section

variable [Crates] [Hasher]

def hashToken (salt : Hasher.Salt) (token : String) : Except String String :=
  match Hasher.hashPassword salt token with
  | .ok hash => .ok hash
  | .error why => .error s!"failed to hash token: {why}"

/-- A key that was supplied is refused when it is weak, unless that was allowed. -/
def KeySource.judged (source : KeySource) (token : String) : Except String String :=
  match assessStrength token with
  | .ok _ => .ok token
  | .error why =>
      if source.allowWeak then .ok token
      else .error (s!"refusing to hash this key: {why}.\n" ++
        "This key is the only thing between a client and your controller. " ++
        "Pass --allow-weak to override, or omit --token to have one generated.")

/-- The command; `generated` is the token it makes when none is supplied. -/
def KeySource.mint (source : KeySource) (generated : String) (salt : Hasher.Salt) :
    Except String Minted := do
  let token ← match source.supplied with
    | some token => source.judged token
    | none => .ok generated
  let hash ← hashToken salt token
  return { token, hash }

/-- A key that was supplied is hashed as it is, once it was found strong enough. -/
theorem KeySource.mint_eq_ok {source : KeySource} {key generated : String} {salt : Hasher.Salt}
    {minted : Minted} (supplied : source.supplied = some key) (strict : source.allowWeak = false)
    (made : source.mint generated salt = .ok minted) :
    (∃ bits, assessStrength key = .ok bits) ∧ minted.token = key ∧
      Hasher.hashPassword salt key = .ok minted.hash := by
  rw [mint, supplied] at made
  simp only [judged, strict] at made
  cases judged : assessStrength key with
  | error why =>
      rw [judged] at made
      cases made
  | ok bits =>
      rw [judged] at made
      cases hashed : Hasher.hashPassword salt key with
      | error why =>
          simp [Bind.bind, Except.bind, hashToken, hashed] at made
      | ok hash =>
          have same : Minted.mk key hash = minted := by
            simpa [Bind.bind, Except.bind, Pure.pure, Except.pure, hashToken, hashed] using made
          subst same
          exact ⟨⟨bits, rfl⟩, rfl, rfl⟩

/-! ## Using what was minted -/

namespace Minted

/-- The entry made of the printed line, among entries that the key does not open. -/
structure Entry (minted : Minted) (tokens : List TokenConfig) (token : TokenConfig) : Prop where
  member : token ∈ tokens
  hash : token.hash = minted.hash
  alone : ∀ other ∈ tokens, other.verifies minted.token = true → other = token

/-- However calls are interleaved, one that presents the key returns the entry. -/
def Authenticates (minted : Minted) : Prop :=
  ∀ (tokens : List TokenConfig) (live : Live) (steps : List AuthStep) (index : Nat)
    (token : TokenConfig),
    minted.Entry tokens token → Authenticator.new tokens = .ok live.auth →
      Set.InjOn Credentials.sha256 (AuthStep.presented steps) →
        (AuthStep.calls steps)[index]? = some minted.token →
          ∃ rest, (AuthStep.run live steps).threads[index]? =
              some ⟨AuthStep.authenticate minted.token, rest⟩ ∧
            (3 ≤ (Pool.eventsOf index (AuthStep.run live steps).log).length →
              rest = .pure (some token))

/-- Some header carries the key, and the key in it is the minted token's. -/
def Usable (minted : Minted) : Prop :=
  ∃ headers, Presents minted.token headers ∧ tokenFromHeaders headers = some minted.token ∧
    minted.Authenticates

omit [Hasher] in
/-- What a scan finds for the key is the entry. -/
theorem Entry.eq_of_cacheless {minted : Minted} {tokens : List TokenConfig} {token : TokenConfig}
    (entry : minted.Entry tokens token) (verified : token.verifies minted.token = true)
    (nonempty : minted.token ≠ "") {found : Option TokenConfig}
    (cacheless : Cacheless tokens minted.token found) : found = some token := by
  cases found with
  | none =>
      rcases cacheless.none_iff.mp rfl with empty | fails
      · exact absurd empty nonempty
      · rw [fails token entry.member] at verified
        cases verified
  | some other =>
      rcases (cacheless.some_iff other).mp rfl with ⟨-, position, ⟨⟨first, placed, opens⟩, -⟩, found⟩
      rw [placed, Option.some.injEq] at found
      subst found
      rw [entry.alone first (List.mem_of_getElem? placed) opens]

/-- What Argon2 verifies, the authenticator finds. -/
theorem authenticates {minted : Minted} {salt : Hasher.Salt}
    (hashed : Hasher.hashPassword salt minted.token = .ok minted.hash)
    (nonempty : minted.token ≠ "") : minted.Authenticates := by
  intro tokens live steps index token entry created collisionFree called
  rcases AuthStep.returned_of_called created collisionFree called with
    ⟨rest, present, returns, cacheless⟩
  refine ⟨rest, present, fun given => ?_⟩
  rcases returns given with ⟨found, rfl⟩
  have verified : token.verifies minted.token = true := by
    rcases Hasher.verified hashed with ⟨parsed, parses, verified⟩
    rw [TokenConfig.verifies, entry.hash, parses]
    exact verified
  rw [entry.eq_of_cacheless verified nonempty (cacheless found rfl)]

end Minted

/-- A key that was found strong enough and hashed can be used exactly when it
consists of what a header value can spell, and no blank ends it. -/
theorem usable_iff {source : KeySource} {key generated : String} {salt : Hasher.Salt}
    {minted : Minted} (supplied : source.supplied = some key) (strict : source.allowWeak = false)
    (made : source.mint generated salt = .ok minted) : minted.Usable ↔ Transmittable key := by
  rcases KeySource.mint_eq_ok supplied strict made with ⟨⟨bits, strong⟩, rfl, hashed⟩
  have nonempty := nonempty_of_assessStrength strong
  constructor
  · rintro ⟨headers, carries, found, -⟩
    exact transmittable_of_found carries.delivered found
  · intro transmittable
    refine ⟨_, .bearer, tokenFromHeaders_bearer nonempty transmittable, ?_⟩
    apply Minted.authenticates hashed
    intro empty
    exact nonempty (String.toList_eq_nil_iff.mpr empty)

end

namespace Minting

def customKey : String := "Kj8#mQp2vN9xL4wR7tZ"

/-- The same with a space at its end. -/
def spacedKey : String := "Kj8#mQp2vN9xL4wR7tZ "

def customHash : String :=
  "$argon2id$v=19$m=19456,t=2,p=1$Y3VzdG9ta2V5c2FsdCEhIQ$I50A7/zQYWUagzK4M5DZfYE8OBVzukH/Tzix7tYxOm4"

def spacedHash : String :=
  "$argon2id$v=19$m=19456,t=2,p=1$Y3VzdG9ta2V5c2FsdCEhIQ$hYQv49mIyj46W+3XBSFBLKPY4ukHeIuannEjWpE3YUw"

def hashes : List (String × String) := [(customHash, customKey), (spacedHash, spacedKey)]

scoped instance crates : Crates :=
  { Sample.crates with
    PasswordHash := String
    parsePasswordHash := fun phc =>
      if hashes.any (·.1 == phc) then .ok phc else .error "password hash string invalid"
    verifyPassword := fun phc presented => hashes.contains (phc, presented)
    sha256 := fun text =>
      if text = customKey then
        ⟨#[83, 245, 15, 112, 23, 74, 211, 161, 182, 83, 17, 211, 46, 4, 172, 227, 136, 147, 114, 128,
          174, 208, 109, 234, 94, 147, 120, 116, 161, 122, 40, 20], rfl⟩
      else Vector.replicate 32 0 }

/-- Argon2 under one salt. -/
scoped instance hasher : Hasher where
  Salt := Unit
  hashPassword _ token :=
    match hashes.find? (·.2 == token) with
    | some (hash, _) => .ok hash
    | none => .error "not hashed here"
  verified := by
    intro salt token hash hashed
    cases found : hashes.find? (·.2 == token) with
    | none =>
        rw [found] at hashed
        cases hashed
    | some entry =>
        rw [found] at hashed
        cases hashed
        have member := List.mem_of_find?_eq_some found
        have own : entry.2 = token := by simpa using List.find?_some found
        have listed : (hashes.any fun other => other.1 == entry.1) = true :=
          List.any_eq_true.mpr ⟨entry, member, beq_self_eq_true _⟩
        refine ⟨entry.1, if_pos listed, ?_⟩
        rw [← own]
        exact List.contains_iff_mem.mpr member

end Minting

open Minting in
theorem usable_iff_custom : Minted.Usable ⟨customKey, customHash⟩ := by
  have source : KeySource.supplied ⟨some customKey, none, false⟩ = some customKey := rfl
  apply (usable_iff source rfl (by decide +kernel :
    KeySource.mint _ "" (() : Hasher.Salt) = .ok ⟨customKey, customHash⟩)).mpr
  constructor
  · exact List.all_eq_true.mp (by decide)
  · intro c last
    cases last
    decide

open Minting in
/-- A key that ends in a space is accepted and hashed, and no header brings it back. -/
theorem spaced_key_is_lost :
    KeySource.mint ⟨none, some (spacedKey ++ "\n"), false⟩ "" (() : Hasher.Salt) =
        .ok ⟨spacedKey, spacedHash⟩ ∧
      ∀ headers, Presents spacedKey headers → tokenFromHeaders headers ≠ some spacedKey := by
  refine ⟨by decide +kernel, fun headers carries found => ?_⟩
  have ending := (transmittable_of_found carries.delivered found).ending ' ' (by decide)
  cases ending

end VoucherProxy
