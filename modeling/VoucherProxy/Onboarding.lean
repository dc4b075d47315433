import VoucherProxy.Foundation.Base64
import VoucherProxy.Mediation
import VoucherProxy.Snippet

namespace VoucherProxy

/-! From `hash-token` to the first request: what a generated token is, and what becomes
of a configuration when the printed entry is added to it. -/

/-- A leaked token is recognisable by it. -/
def tokenPrefix : String := "uvp_"

/-- The token made of random bytes. -/
def tokenOf (bytes : Vector UInt8 32) : String :=
  tokenPrefix ++ String.ofList (Base64.encode bytes.toList)

theorem toList_tokenOf (bytes : Vector UInt8 32) :
    (tokenOf bytes).toList = "uvp_".toList ++ Base64.encode bytes.toList := by
  rw [tokenOf, String.toList_append, String.toList_ofList]
  rfl

/-- A token consists of what may stand in a URL. -/
theorem mem_alphabet_of_mem_tokenOf {bytes : Vector UInt8 32} {c : Char}
    (member : c ∈ (tokenOf bytes).toList) : c ∈ Base64.alphabet := by
  have start : "uvp_".toList.all (Base64.alphabet.contains ·) = true := by decide
  rw [toList_tokenOf, List.mem_append] at member
  rcases member with fixed | random
  · exact List.contains_iff_mem.mp (List.all_eq_true.mp start c fixed)
  · exact Base64.mem_alphabet_of_mem_encode random

theorem length_tokenOf (bytes : Vector UInt8 32) : (tokenOf bytes).toList.length = 47 := by
  rw [toList_tokenOf, List.length_append, Base64.length_encode, Vector.length_toList]
  rfl

/-- The random bytes can be read from a token again. -/
theorem decode_tokenOf (bytes : Vector UInt8 32) :
    Base64.decode ((tokenOf bytes).toList.drop 4) = some bytes.toList := by
  have split : (tokenOf bytes).toList.drop 4 = Base64.encode bytes.toList := by
    rw [toList_tokenOf]
    rfl
  rw [split, Base64.decode_encode]

theorem transmittable_tokenOf (bytes : Vector UInt8 32) : Transmittable (tokenOf bytes) := by
  have characters : Base64.alphabet.all isHeaderCharacter = true := by decide
  have printed : Base64.alphabet.all (!isBlank ·) = true := by decide
  constructor
  · intro c member
    exact List.all_eq_true.mp characters c (mem_alphabet_of_mem_tokenOf member)
  · intro c last
    have visible := List.all_eq_true.mp printed c
      (mem_alphabet_of_mem_tokenOf (List.mem_of_mem_getLast? last))
    rwa [Bool.not_eq_true'] at visible

/-- Under either header a token comes through unchanged. -/
theorem tokenFromHeaders_tokenOf {bytes : Vector UInt8 32} {headers : HeaderMap}
    (carries : Presents (tokenOf bytes) headers) :
    tokenFromHeaders headers = some (tokenOf bytes) := by
  have transmittable := transmittable_tokenOf bytes
  have spelled : ∃ rest, (tokenOf bytes).toList = 'u' :: rest := ⟨_, toList_tokenOf bytes⟩
  rcases spelled with ⟨rest, spelled⟩
  have nonempty : (tokenOf bytes).toList ≠ [] := by
    rw [spelled]
    exact List.cons_ne_nil _ _
  cases carries with
  | bearer => exact tokenFromHeaders_bearer nonempty transmittable
  | apiKey =>
      have opening : Text.utf8 (tokenOf bytes).toList =
          117 :: rest.map fun c => UInt8.ofNat c.toNat := by
        rw [transmittable.utf8_eq, spelled]
        rfl
      have some : (tokenOf bytes).isEmpty = false := by simpa using nonempty
      have first : ∀ value, tokenFromHeaders [("x-api-key", value)] =
          ((headerText value).filter (!·.isEmpty)).or none := fun _ => rfl
      rw [first, transmittable.received_utf8 opening rfl, transmittable.headerText_utf8,
        Option.filter_some, some]
      rfl

section

variable [Crates] [Hasher]

/-- Mints a fresh client token and its hash. -/
def generateToken (bytes : Vector UInt8 32) (salt : Hasher.Salt) :
    Except String (String × String) := do
  let token := tokenOf bytes
  let hash ← hashToken salt token
  return (token, hash)

/-- The command. A token that is generated is hashed again, under a salt of its own. -/
def KeySource.command (source : KeySource) (name : String) (bytes : Vector UInt8 32)
    (first second : Hasher.Salt) : Except String String := do
  let generated ← match source.supplied with
    | some _ => .ok ""
    | none => (generateToken bytes first).map Prod.fst
  source.print name generated second

theorem mint_tokenOf {source : KeySource} (none : source.supplied = none)
    {bytes : Vector UInt8 32} {salt : Hasher.Salt} {minted : Minted}
    (made : source.mint (tokenOf bytes) salt = .ok minted) :
    minted.token = tokenOf bytes ∧ Hasher.hashPassword salt (tokenOf bytes) = .ok minted.hash := by
  rw [KeySource.mint, none] at made
  rcases bind_eq_ok.mp made with ⟨token, same, rest⟩
  cases same
  rcases bind_eq_ok.mp rest with ⟨hash, hashed, last⟩
  cases last
  refine ⟨rfl, ?_⟩
  rw [hashToken] at hashed
  split at hashed
  · next own =>
      cases hashed
      exact own
  · cases hashed

/-- The configuration with an entry behind the others. -/
def Config.adding (cfg : Config) (token : TokenConfig) : Config :=
  { cfg with tokens := cfg.tokens ++ [token] }

omit [Hasher] in
theorem new_adding {tokens : List TokenConfig} {token : TokenConfig} {auth : Authenticator}
    (created : Authenticator.new tokens = .ok auth) {hash : Credentials.PasswordHash}
    (parses : Credentials.parsePasswordHash token.hash = .ok hash) :
    ∃ more, Authenticator.new (tokens ++ [token]) = .ok more := by
  have last : Authenticator.parseToken token = .ok (token, hash) :=
    Authenticator.parseToken_eq_ok.mpr ⟨rfl, parses⟩
  have parsed := (Authenticator.new_eq_ok.mp created).1
  refine ⟨⟨auth.tokens ++ [(token, hash)], ∅⟩, Authenticator.new_eq_ok.mpr ⟨?_, rfl⟩⟩
  rw [List.mapM_append, parsed, List.mapM_cons, last, List.mapM_nil]
  rfl

omit [Hasher] in
/-- What was put in force with an entry less can be put in force with it. -/
theorem build_adding {cfg : Config} {token : TokenConfig} {live : Live}
    (built : Live.build cfg = .ok live) {hash : Credentials.PasswordHash}
    (parses : Credentials.parsePasswordHash token.hash = .ok hash) :
    ∃ more, Live.build (cfg.adding token) = .ok more := by
  rcases Live.build_eq_ok.mp built with ⟨created, connected, -⟩
  rcases new_adding created parses with ⟨auth, more⟩
  exact ⟨⟨auth, live.upstream, cfg.limits, RateLimits.fromConfig (cfg.adding token),
    (cfg.adding token).tokens.length⟩, Live.build_eq_ok.mpr ⟨more, connected, rfl, rfl, rfl⟩⟩

omit [Hasher] in
/-- Whoever had an entry keeps it. -/
theorem tokenFor_adding {cfg : Config} {token own : TokenConfig} {request : HttpRequest}
    (found : cfg.tokenFor request = some own) :
    (cfg.adding token).tokenFor request = some own := by
  rcases Option.bind_eq_some_iff.mp found with ⟨presented, header, first⟩
  rw [Config.tokenFor, header, Option.bind_some, Config.adding, List.find?_append, first]
  rfl

/-- What a generated token and the entry printed for it come to. -/
structure Onboarded (Other : Type) [Conversions Other] (cfg : Config) (name : String)
    (bytes : Vector UInt8 32) (minted : Minted) : Prop where
  length : minted.token.toList.length = 47
  alphabet : ∀ c ∈ minted.token.toList, c ∈ Base64.alphabet
  recovered : Base64.decode (minted.token.toList.drop 4) = some bytes.toList
  entry : (Toml.parse (snippet name minted.hash)).bind (@TokenConfig.allFromToml Other _) =
    some [intended name minted.hash]
  valid : (cfg.adding (intended name minted.hash)).validate = .ok ()
  built : ∃ live, Live.build (cfg.adding (intended name minted.hash)) = .ok live
  recognised : ∀ request : HttpRequest, Presents minted.token request.headers →
    (cfg.adding (intended name minted.hash)).tokenFor request = some (intended name minted.hash)
  kept : ∀ request own, cfg.tokenFor request = some own →
    (cfg.adding (intended name minted.hash)).tokenFor request = some own

/-- A token that is generated can be used from wherever it is printed: the printed entry
can be added to any configuration that the proxy runs on, which then recognises the token
under either header and everyone it recognised before. -/
theorem onboarded {Other : Type} [Conversions Other] {cfg : Config} {live : Live}
    (valid : cfg.validate = .ok ()) (built : Live.build cfg = .ok live) {source : KeySource}
    (unsupplied : source.supplied = none) {name : String} {bytes : Vector UInt8 32}
    {first second : Hasher.Salt} {text : String}
    (printed : source.command name bytes first second = .ok text)
    (named : (Text.trim name).isEmpty = false) (plain : name.toList.all Toml.isPlain = true)
    (written : ∀ {salt : Hasher.Salt} {token hash : String},
      Hasher.hashPassword salt token = .ok hash → Phc hash)
    (apart : ∀ token ∈ cfg.tokens, token.verifies (tokenOf bytes) = false) :
    ∃ minted, text = "Add this to your config.toml:\n\n" ++ snippet name minted.hash ++
        "\nGive this token to the client — it is shown once and is not recoverable:\n\n" ++
        s!"  {minted.token}\n\n" ∧ Onboarded Other cfg name bytes minted := by
  have shown : source.print name (tokenOf bytes) second = .ok text := by
    rw [KeySource.command, unsupplied] at printed
    rcases bind_eq_ok.mp printed with ⟨generated, made, rest⟩
    rcases map_eq_ok.mp made with ⟨⟨token, hash⟩, fresh, rfl⟩
    rcases bind_eq_ok.mp fresh with ⟨own, -, same⟩
    cases same
    exact rest
  rcases bind_eq_ok.mp shown with ⟨minted, made, rest⟩
  rcases mint_tokenOf unsupplied made with ⟨same, hashed⟩
  rcases Hasher.verified hashed with ⟨parsed, parses, verified⟩
  have faithful : Faithful Other name minted.hash :=
    (snippet_faithful_iff named (written hashed)).mpr plain
  rw [if_pos (by rw [unsupplied]; rfl)] at rest
  refine ⟨minted, (Except.ok.inj rest).symm, ?_⟩
  constructor
  case length => rw [same, length_tokenOf]
  case alphabet =>
    intro c member
    rw [same] at member
    exact mem_alphabet_of_mem_tokenOf member
  case recovered => rw [same, decode_tokenOf]
  case entry => exact faithful.entry
  case valid => exact faithful.added cfg valid
  case built => exact build_adding built parses
  case recognised =>
    intro request carries
    rw [same] at carries
    have none : cfg.tokens.find? (fun token => token.verifies (tokenOf bytes)) = none := by
      rw [List.find?_eq_none]
      intro token member opens
      rw [apart token member] at opens
      cases opens
    have opens : (intended name minted.hash).verifies (tokenOf bytes) = true := by
      rw [TokenConfig.verifies, intended, parses]
      exact verified
    rw [Config.tokenFor, tokenFromHeaders_tokenOf carries, Option.bind_some, Config.adding,
      List.find?_append, none, Option.none_or, List.find?_singleton, opens]
    rfl
  case kept => exact fun request own found => tokenFor_adding found

end

section

open Sample

/-- The bytes from zero to thirty-one. -/
def drawn : Vector UInt8 32 := Vector.ofFn fun index => UInt8.ofNat index.val

def drawnHash : String :=
  "$argon2id$v=19$m=19456,t=2,p=1$Z2VuZXJhdGVkc2FsdDE2IQ$Si/54KIjH2do1Hwh8aOJ9WhKsjX0X2BUFYjuU8zyLJ8"

def drawnHashes : List (String × String) := (drawnHash, tokenOf drawn) :: hashes

local instance drawnCrates : Crates :=
  { Sample.crates with
    PasswordHash := String
    parsePasswordHash := fun phc =>
      if drawnHashes.any (·.1 == phc) then .ok phc else .error "password hash string invalid"
    verifyPassword := fun phc presented => drawnHashes.contains (phc, presented) }

/-- Argon2 under one salt, for one token. -/
local instance drawnHasher : Hasher where
  Salt := Unit
  hashPassword _ token :=
    if token = tokenOf drawn then .ok drawnHash else .error "not hashed here"
  verified := by
    intro salt token hash hashed
    split at hashed
    · next same =>
        cases hashed
        refine ⟨drawnHash, if_pos (by decide +kernel), ?_⟩
        rw [same]
        exact List.contains_iff_mem.mpr List.mem_cons_self
    · cases hashed

local instance drawnConversions : Conversions Unit := Minting.conversions

def drawnText : String :=
  "Add this to your config.toml:\n\n" ++ snippet "lobby kiosk" drawnHash ++
    "\nGive this token to the client — it is shown once and is not recoverable:\n\n" ++
    s!"  {tokenOf drawn}\n\n"

theorem onboarded_kiosk :
    ∃ minted : Minted, drawnText =
        "Add this to your config.toml:\n\n" ++ snippet "lobby kiosk" minted.hash ++
          "\nGive this token to the client — it is shown once and is not recoverable:\n\n" ++
          s!"  {minted.token}\n\n" ∧
      Onboarded Unit cfg "lobby kiosk" drawn minted := by
  have phc : Phc drawnHash := ⟨by decide +kernel, by decide +kernel⟩
  have written : ∀ {salt : Hasher.Salt} {token hash : String},
      Hasher.hashPassword salt token = .ok hash → Phc hash := by
    intro salt token hash hashed
    change (if token = tokenOf drawn then Except.ok drawnHash else .error _) = _ at hashed
    split at hashed
    · cases hashed
      exact phc
    · cases hashed
  have valid : cfg.validate = .ok () := by decide +kernel
  have built : ∃ live, Live.build cfg = .ok live := ⟨_, rfl⟩
  have apart : ∀ token ∈ cfg.tokens, token.verifies (tokenOf drawn) = false := by decide +kernel
  have unsupplied : KeySource.supplied ⟨none, none, false⟩ = none := rfl
  have printed : KeySource.command ⟨none, none, false⟩ "lobby kiosk" drawn (() : Hasher.Salt)
      (() : Hasher.Salt) = .ok drawnText := by decide +kernel
  rcases built with ⟨live, built⟩
  exact onboarded valid built unsupplied printed (by decide +kernel) (by decide) written apart

end

end VoucherProxy
