import Mathlib.Data.List.AList
import Mathlib.Data.Set.Function
import VoucherProxy.Config

namespace VoucherProxy

/-! Which token a request presents, and which configured entry it belongs to.
Successful verifications are memoised under a digest of the presented string. -/

abbrev Digest := Vector UInt8 32

/-- What is taken from the `argon2` and `sha2` crates. -/
class Credentials where
  PasswordHash : Type
  parsePasswordHash : String → Except String PasswordHash
  verifyPassword : PasswordHash → String → Bool
  sha256 : String → Digest

/-! ## The presented token -/

/-- Header names in lower case, each with the bytes of its value. -/
abbrev HeaderMap := List (String × List UInt8)

/-- A header value as text, when it is visible ASCII, spaces and tabs only. -/
def headerText (bytes : List UInt8) : Option String :=
  if bytes.all fun byte => (32 ≤ byte && byte < 127) || byte == 9 then
    some (String.ofList (bytes.map fun byte => Char.ofNat byte.toNat))
  else none

/-- Reads the client token from the request headers; an unusable `X-API-KEY`
falls through to `Authorization: Bearer`. -/
def tokenFromHeaders (headers : HeaderMap) : Option String :=
  let apiKey := ((headers.lookup "x-api-key").bind headerText).filter (!·.isEmpty)
  let bearer := (((headers.lookup "authorization").bind headerText).bind
    (Text.stripStart · "Bearer ")).filter (!·.isEmpty)
  apiKey.or bearer

theorem tokenFromHeaders_isEmpty {headers : HeaderMap} {presented : String}
    (found : tokenFromHeaders headers = some presented) : presented.isEmpty = false := by
  rcases Option.or_eq_some_iff.mp found with first | ⟨-, second⟩
  · simpa using (Option.filter_eq_some_iff.mp first).2
  · simpa using (Option.filter_eq_some_iff.mp second).2

section

variable [Credentials]

/-- The configured tokens, each with its hash already parsed. -/
abbrev ParsedTokens := List (TokenConfig × Credentials.PasswordHash)

abbrev AuthCache := AList fun _ : Digest => Nat

structure Authenticator where
  tokens : ParsedTokens
  cache : AuthCache

namespace Authenticator

def parseToken (token : TokenConfig) : Except String (TokenConfig × Credentials.PasswordHash) :=
  match Credentials.parsePasswordHash token.hash with
  | .ok hash => .ok (token, hash)
  | .error why => .error s!"token '{token.name}' has an unparsable hash: {why}"

def new (tokens : List TokenConfig) : Except String Authenticator := do
  let tokens ← tokens.mapM parseToken
  return { tokens, cache := ∅ }

/-- No early exit: every candidate is checked, and the first match is kept. -/
def scan (tokens : ParsedTokens) (presented : String) : Option Nat :=
  tokens.zipIdx.foldl (fun found candidate =>
    if Credentials.verifyPassword candidate.1.2 presented && found.isNone then
      some candidate.2
    else found) none

/-- The entry at a position that a scan or the cache named. -/
def entry (tokens : ParsedTokens) (position : Nat) : Option TokenConfig :=
  tokens[position]?.map Prod.fst

/-- The entry a presented string belongs to, found without the cache. -/
def recognise (tokens : ParsedTokens) (presented : String) : Option TokenConfig :=
  if presented.isEmpty then none
  else (tokens.find? fun candidate =>
    Credentials.verifyPassword candidate.2 presented).map Prod.fst

theorem new_eq_ok {tokens : List TokenConfig} {auth : Authenticator} :
    new tokens = .ok auth ↔ tokens.mapM parseToken = .ok auth.tokens ∧ auth.cache = ∅ := by
  unfold new
  cases tokens.mapM parseToken with
  | error why => simp [Bind.bind, Except.bind]
  | ok parsed =>
      rcases auth with ⟨authTokens, cache⟩
      simp only [Bind.bind, Except.bind, Pure.pure, Except.pure, Except.ok.injEq,
        Authenticator.mk.injEq]
      rw [@eq_comm _ ∅ cache]

theorem cache_new {tokens : List TokenConfig} {auth : Authenticator}
    (created : new tokens = .ok auth) : auth.cache = ∅ :=
  (new_eq_ok.mp created).2

/-! ## What the parsed tokens stand for -/

theorem parseToken_eq_ok {token : TokenConfig} {parsed : TokenConfig × Credentials.PasswordHash} :
    parseToken token = .ok parsed ↔
      parsed.1 = token ∧ Credentials.parsePasswordHash token.hash = .ok parsed.2 := by
  rcases parsed with ⟨own, hash⟩
  unfold parseToken
  cases Credentials.parsePasswordHash token.hash with
  | error why => simp
  | ok found => simp [eq_comm]

theorem mapM_parseToken_cons {token : TokenConfig} {tokens : List TokenConfig}
    {parsed : ParsedTokens} :
    (token :: tokens).mapM parseToken = .ok parsed ↔
      ∃ first rest, parseToken token = .ok first ∧ tokens.mapM parseToken = .ok rest ∧
        parsed = first :: rest := by
  rw [List.mapM_cons]
  cases parseToken token with
  | error why => simp [Bind.bind, Except.bind]
  | ok first =>
      cases tokens.mapM parseToken with
      | error why => simp [Bind.bind, Except.bind]
      | ok rest => simp [Bind.bind, Except.bind, Pure.pure, Except.pure, eq_comm]

end Authenticator

/-- Whether a string verifies against the hash of an entry. -/
def TokenConfig.verifies (token : TokenConfig) (presented : String) : Bool :=
  match Credentials.parsePasswordHash token.hash with
  | .ok hash => Credentials.verifyPassword hash presented
  | .error _ => false

theorem TokenConfig.verifies_of_parse {token : TokenConfig}
    {parsed : TokenConfig × Credentials.PasswordHash}
    (parses : Authenticator.parseToken token = .ok parsed) {presented : String} :
    token.verifies presented = Credentials.verifyPassword parsed.2 presented := by
  simp [verifies, (Authenticator.parseToken_eq_ok.mp parses).2]

namespace Authenticator

/-- Parsing the hashes once does not change which entry is found. -/
theorem recognise_mapM {tokens : List TokenConfig} {parsed : ParsedTokens}
    (parses : tokens.mapM parseToken = .ok parsed) {presented : String}
    (nonempty : presented.isEmpty = false) :
    recognise parsed presented = tokens.find? fun token => token.verifies presented := by
  rw [recognise, if_neg (by simp [nonempty])]
  induction tokens generalizing parsed with
  | nil =>
      rw [List.mapM_nil] at parses
      cases parses
      rfl
  | cons token tokens induction =>
      rcases mapM_parseToken_cons.mp parses with ⟨first, rest, parsesFirst, parsesRest, rfl⟩
      rw [List.find?_cons, List.find?_cons, TokenConfig.verifies_of_parse parsesFirst,
        ← induction parsesRest]
      cases Credentials.verifyPassword first.2 presented with
      | true => exact congrArg some (parseToken_eq_ok.mp parsesFirst).1
      | false => rfl

theorem recognise_new {tokens : List TokenConfig} {auth : Authenticator}
    (created : new tokens = .ok auth) {presented : String}
    (nonempty : presented.isEmpty = false) :
    recognise auth.tokens presented = tokens.find? fun token => token.verifies presented :=
  recognise_mapM (new_eq_ok.mp created).1 nonempty

theorem map_fst_mapM {tokens : List TokenConfig} {parsed : ParsedTokens}
    (parses : tokens.mapM parseToken = .ok parsed) : parsed.map Prod.fst = tokens := by
  induction tokens generalizing parsed with
  | nil =>
      rw [List.mapM_nil] at parses
      cases parses
      rfl
  | cons token tokens induction =>
      rcases mapM_parseToken_cons.mp parses with ⟨first, rest, parsesFirst, parsesRest, rfl⟩
      rw [List.map_cons, (parseToken_eq_ok.mp parsesFirst).1]
      exact congrArg (token :: ·) (induction parsesRest)

theorem map_fst_new {tokens : List TokenConfig} {auth : Authenticator}
    (created : new tokens = .ok auth) : auth.tokens.map Prod.fst = tokens :=
  map_fst_mapM (new_eq_ok.mp created).1

theorem mem_of_recognise {tokens : ParsedTokens} {presented : String} {token : TokenConfig}
    (recognised : recognise tokens presented = some token) : token ∈ tokens.map Prod.fst := by
  unfold recognise at recognised
  split at recognised
  · cases recognised
  · rcases Option.map_eq_some_iff.mp recognised with ⟨candidate, first, rfl⟩
    exact List.mem_map_of_mem (List.mem_of_find?_eq_some first)

/-! ## What a scan finds -/

/-- Once found, the first match is kept. -/
theorem foldl_scan_some (tokens : List ((TokenConfig × Credentials.PasswordHash) × Nat))
    (presented : String) (position : Nat) :
    tokens.foldl (fun found candidate =>
      if Credentials.verifyPassword candidate.1.2 presented && found.isNone then
        some candidate.2
      else found) (some position) = some position := by
  induction tokens with
  | nil => rfl
  | cons candidate rest induction => simpa using induction

theorem foldl_scan_zipIdx (tokens : ParsedTokens) (presented : String) (first : Nat) :
    (tokens.zipIdx first).foldl (fun found candidate =>
      if Credentials.verifyPassword candidate.1.2 presented && found.isNone then
        some candidate.2
      else found) none =
    (tokens.findIdx? fun candidate =>
      Credentials.verifyPassword candidate.2 presented).map (first + ·) := by
  induction tokens generalizing first with
  | nil => rfl
  | cons candidate rest induction =>
      rw [List.zipIdx_cons, List.foldl_cons, List.findIdx?_cons]
      cases Credentials.verifyPassword candidate.2 presented with
      | true =>
          simp only [Option.isNone_none, Bool.and_self, if_true]
          rw [foldl_scan_some]
          simp
      | false =>
          simp only [Bool.false_and, Bool.false_eq_true, if_false, induction, Option.map_map]
          congr 1
          funext position
          simp only [Function.comp]
          omega

/-- The smallest position whose hash verifies the presented string. -/
theorem scan_eq_findIdx? (tokens : ParsedTokens) (presented : String) :
    scan tokens presented =
      tokens.findIdx? fun candidate => Credentials.verifyPassword candidate.2 presented := by
  have offset : (fun position : Nat => 0 + position) = id := by
    funext position
    simp
  rw [scan, foldl_scan_zipIdx, offset, Option.map_id]
  rfl

theorem scan_eq_some_iff {tokens : ParsedTokens} {presented : String} {position : Nat} :
    scan tokens presented = some position ↔
      (∃ candidate, tokens[position]? = some candidate ∧
        Credentials.verifyPassword candidate.2 presented = true) ∧
      ∀ earlier candidate, earlier < position → tokens[earlier]? = some candidate →
        Credentials.verifyPassword candidate.2 presented = false := by
  rw [scan_eq_findIdx?, List.findIdx?_eq_some_iff_getElem]
  constructor
  · rintro ⟨within, verified, first⟩
    refine ⟨⟨tokens[position], List.getElem?_eq_getElem within, verified⟩, ?_⟩
    intro earlier candidate before found
    rcases List.getElem?_eq_some_iff.mp found with ⟨_, rfl⟩
    simpa using first earlier before
  · rintro ⟨⟨candidate, found, verified⟩, first⟩
    rcases List.getElem?_eq_some_iff.mp found with ⟨within, rfl⟩
    refine ⟨within, verified, fun earlier before => ?_⟩
    simp [first earlier _ before (List.getElem?_eq_getElem (before.trans within))]

theorem scan_eq_none_iff {tokens : ParsedTokens} {presented : String} :
    scan tokens presented = none ↔
      ∀ candidate ∈ tokens, Credentials.verifyPassword candidate.2 presented = false := by
  rw [scan_eq_findIdx?, List.findIdx?_eq_none_iff]

/-- Looking up what a scan found is finding the first match. -/
theorem scan_bind_entry (tokens : ParsedTokens) {presented : String}
    (nonempty : presented.isEmpty = false) :
    (scan tokens presented).bind (entry tokens) = recognise tokens presented := by
  rw [recognise, if_neg (by simp [nonempty]), List.find?_eq_bind_findIdx?_getElem?,
    scan_eq_findIdx?, Option.map_bind]
  rfl

theorem findIdx?_mapM {tokens : List TokenConfig} {parsed : ParsedTokens}
    (parses : tokens.mapM parseToken = .ok parsed) (presented : String) :
    (parsed.findIdx? fun candidate => Credentials.verifyPassword candidate.2 presented) =
      tokens.findIdx? fun token => token.verifies presented := by
  induction tokens generalizing parsed with
  | nil =>
      rw [List.mapM_nil] at parses
      cases parses
      rfl
  | cons token tokens induction =>
      rcases mapM_parseToken_cons.mp parses with ⟨first, rest, parsesFirst, parsesRest, rfl⟩
      rw [List.findIdx?_cons, List.findIdx?_cons, induction parsesRest,
        TokenConfig.verifies_of_parse parsesFirst]

/-- Parsing the hashes once does not change which position is found. -/
theorem scan_new {tokens : List TokenConfig} {auth : Authenticator}
    (created : new tokens = .ok auth) (presented : String) :
    scan auth.tokens presented = tokens.findIdx? fun token => token.verifies presented := by
  rw [scan_eq_findIdx?, findIdx?_mapM (new_eq_ok.mp created).1]

/-! ## What the cache may hold -/

/-- Every entry of the cache is the digest of some nonempty string that was
presented, with the smallest position it matches. -/
def Justified (presented : Set String) (tokens : ParsedTokens) (cache : AuthCache) : Prop :=
  ∀ digest position, cache.lookup digest = some position →
    ∃ text ∈ presented, text.isEmpty = false ∧ Credentials.sha256 text = digest ∧
      scan tokens text = some position

theorem justified_empty (presented : Set String) (tokens : ParsedTokens) :
    Justified presented tokens ∅ := by
  intro digest position found
  simp at found

theorem Justified.insert {presented : Set String} {tokens : ParsedTokens} {cache : AuthCache}
    (justified : Justified presented tokens cache) {text : String} {position : Nat}
    (member : text ∈ presented) (nonempty : text.isEmpty = false)
    (found : scan tokens text = some position) :
    Justified presented tokens (cache.insert (Credentials.sha256 text) position) := by
  intro digest held lookup
  by_cases same : digest = Credentials.sha256 text
  · subst same
    rw [AList.lookup_insert, Option.some.injEq] at lookup
    subst lookup
    exact ⟨text, member, nonempty, rfl, found⟩
  · rw [AList.lookup_insert_ne same] at lookup
    exact justified digest held lookup

/-- Without collisions among the presented strings, an answer of the cache is
what a scan would find. -/
theorem Justified.scan_eq {presented : Set String} {tokens : ParsedTokens} {cache : AuthCache}
    (justified : Justified presented tokens cache)
    (collisionFree : Set.InjOn Credentials.sha256 presented) {text : String} {position : Nat}
    (member : text ∈ presented)
    (found : cache.lookup (Credentials.sha256 text) = some position) :
    scan tokens text = some position := by
  rcases justified _ _ found with ⟨other, otherMember, -, sameDigest, scanned⟩
  rwa [collisionFree otherMember member sameDigest] at scanned

end Authenticator

end

end VoucherProxy
