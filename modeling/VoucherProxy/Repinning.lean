import VoucherProxy.Hosts
import VoucherProxy.Probe
import VoucherProxy.Snippet

namespace VoucherProxy

/-! From `fetch-fingerprint` to the next connection: what the printed table says, and which
certificates a configuration admits that it was put into. -/

/-! ## Reading the table -/

/-- How `serde` reads a flag. -/
class Flags (Other : Type) extends Toml.Others Other where
  bool : Other → Option Bool

variable {Other : Type}

/-- One text, or a list of texts. -/
def OneOrMany.fromToml : Toml.Value Other → Option OneOrMany
  | .string text => some (.one text)
  | .array items => (items.mapM TokenConfig.asString).map .many
  | .other _ => none

namespace TlsConfig

def fields : List String :=
  ["fingerprint_sha256", "insecure_skip_verify", "silence_insecure_warning", "allow_plaintext"]

def fromToml [Flags Other] (members : Toml.Members Other) : Option TlsConfig := do
  guard (members.all fun member => fields.contains member.1)
  let fingerprintSha256 ← TokenConfig.field members "fingerprint_sha256" (some none)
    fun value => (OneOrMany.fromToml value).map oneOrMany
  let insecureSkipVerify ← TokenConfig.field members "insecure_skip_verify" (some false)
    (TokenConfig.asOther Flags.bool)
  let silenceInsecureWarning ← TokenConfig.field members "silence_insecure_warning" (some false)
    (TokenConfig.asOther Flags.bool)
  let allowPlaintext ← TokenConfig.field members "allow_plaintext" (some false)
    (TokenConfig.asOther Flags.bool)
  return ⟨fingerprintSha256, insecureSkipVerify, silenceInsecureWarning, allowPlaintext⟩

/-- The settings of a text that has nothing else in it. -/
def onlyFromToml [Flags Other] (members : Toml.Members Other) : Option TlsConfig :=
  match members with
  | [("controller", .table _ [("tls", .table _ inner)])] => fromToml inner
  | _ => none

end TlsConfig

/-! ## What is printed -/

/-- The table to be put into the configuration. -/
def pinTable (fingerprint : String) : String :=
  "[controller.tls]\n" ++ ("fingerprint_sha256 = \"" ++ fingerprint ++ "\"\n")

/-- The command, over the requests that come of its own. -/
def fetchFingerprint [Sha256] (host : String) (built : Except String Unit)
    (journey : Tls.Journey) : Except String String := do
  let base := fetchFingerprintBase host
  let url := s!"{base}/proxy/network/integration/v1/sites"
  let fingerprint ← Tls.probeFingerprint url built journey
  return s!"Certificate fingerprint for {base}:\n\n" ++ s!"  {fingerprint}\n\n" ++
    "Put it in your config.toml:\n\n" ++ pinTable fingerprint

theorem toList_pinTable (fingerprint : String) :
    (pinTable fingerprint).toList = "[controller.tls]\n".toList ++ ("fingerprint_sha256".toList ++
      ' ' :: '=' :: ' ' :: '"' :: (fingerprint.toList ++ ['"', '\n'])) := by
  have key : "fingerprint_sha256 = \"".toList =
      "fingerprint_sha256".toList ++ [' ', '=', ' ', '"'] := by
    decide +kernel
  have closed : "\"\n".toList = ['"', '\n'] := by decide
  change ("[controller.tls]\n" ++ ("fingerprint_sha256 = \"" ++ fingerprint ++ "\"\n")).toList = _
  simp only [String.toList_append]
  rw [key, closed]
  simp only [List.append_assoc, List.cons_append, List.nil_append]

section

variable [Toml.Others Other]

theorem readLines_pinHeader (fuel : Nat) (rest : List Char) :
    @Toml.readLines Other _ (fuel + 1) ("[controller.tls]\n".toList ++ rest) =
      (Toml.readLines fuel rest).map (.table ["controller", "tls"] :: ·) := by
  simp only [String.reduceToList, List.cons_append, List.nil_append, Option.map_eq_bind]
  rfl

/-- What is printed for a fingerprint is one key in one table. -/
theorem parse_pinTable {fingerprint : String}
    (plain : fingerprint.toList.all Toml.isPlain = true) :
    Toml.parse (pinTable fingerprint) = some [("controller", .table .above [("tls",
      .table .header
        [("fingerprint_sha256", .value (.string fingerprint : Toml.Value Other))])])] := by
  have free : '\r' ∉ (pinTable fingerprint).toList := by
    have own := Toml.notMem_of_plain (by decide : Toml.isPlain '\r' = false) plain
    have header : '\r' ∉ "[controller.tls]\n".toList := by decide
    have key : '\r' ∉ "fingerprint_sha256".toList := by decide
    rw [toList_pinTable]
    simp only [List.mem_append, List.mem_cons, not_or]
    exact ⟨header, key, by decide, by decide, by decide, by decide, own, by decide, by decide,
      List.not_mem_nil⟩
  have long : ∃ fuel, (pinTable fingerprint).toList.length = fuel + 3 := by
    apply Nat.exists_eq_add_of_le'
    rw [toList_pinTable]
    simp only [List.length_append, List.length_cons]
    omega
  rcases long with ⟨fuel, long⟩
  have read : Toml.readStatements (pinTable fingerprint) = some
      [.table ["controller", "tls"],
        .pair ["fingerprint_sha256"] (.string fingerprint : Toml.Value Other)] := by
    rw [Toml.readStatements, Toml.unifyFeeds_of_notMem free]
    simp only [long]
    rw [toList_pinTable, readLines_pinHeader, Toml.readLines_string (by decide) (by decide),
      Toml.readString_append plain (by decide)]
    simp only [Option.bind_some, Toml.readEnd_feed]
    rw [String.ofList_toList]
    rfl
  rw [Toml.parse, read]
  rfl

end

theorem isAlphanumeric_of_isHexdigit {c : Char} (digit : Text.isAsciiHexdigit c = true) :
    Text.isAsciiAlphanumeric c = true := by
  have lower : 'f' ≤ 'z' := by decide
  have upper : 'F' ≤ 'Z' := by decide
  simp only [Text.isAsciiHexdigit, Text.isAsciiAlphanumeric, Bool.or_eq_true, Bool.and_eq_true,
    decide_eq_true_eq] at digit ⊢
  rcases digit with (number | small) | large
  · exact .inr number
  · exact .inl (.inl ⟨small.1, small.2.trans lower⟩)
  · exact .inl (.inr ⟨large.1, large.2.trans upper⟩)

theorem plain_pin (digest : Digest) : (Tls.pin digest).toList.all Toml.isPlain = true := by
  rw [Tls.pin, String.toList_ofList, List.all_eq_true]
  intro c member
  have digit := Hex.digits_of_decode (Hex.decode_encode digest.toList) c member
  apply isPlain_of_isPhc
  rw [isPhc, isAlphanumeric_of_isHexdigit digit]
  rfl

theorem onlyFromToml_pinTable [Flags Other] (fingerprint : String) :
    TlsConfig.onlyFromToml [("controller", .table .above [("tls",
      .table .header [("fingerprint_sha256", .value (.string fingerprint : Toml.Value Other))])])] =
        some { fingerprintSha256 := some [fingerprint] } :=
  rfl

/-! ## What it comes to -/

section

variable [Sha256]

/-- A table says nothing but how to know a certificate again. Put into a configuration it
admits that one and no other, and added to a list that one besides. -/
structure Repinned (Other : Type) [Flags Other] (cfg : Config) (table : String)
    (shown : List UInt8) : Prop where
  read : (Toml.parse table).bind (@TlsConfig.onlyFromToml Other _) =
    some { fingerprintSha256 := some [Tls.fingerprint shown] }
  valid : (cfg.withPins [Tls.fingerprint shown]).validate = .ok ()
  admits : ∀ cert, (cfg.withPins [Tls.fingerprint shown]).Admits cert ↔
    Sha256.digest cert = Sha256.digest shown
  widened : ∀ entries, cfg.controller.tls.fingerprintSha256 = some entries →
    (cfg.withPins (entries ++ [Tls.fingerprint shown])).validate = .ok () ∧
    ∀ cert, (cfg.withPins (entries ++ [Tls.fingerprint shown])).Admits cert ↔
      cfg.Admits cert ∨ Sha256.digest cert = Sha256.digest shown

namespace Config

omit [Sha256] in
/-- A configuration that verifies certificates may pin any that can be told. -/
theorem Valid.withPins {cfg : Config} (valid : cfg.Valid)
    (verifies : cfg.controller.tls.insecureSkipVerify = false) {entries : List String}
    (some : entries ≠ []) (usable : ∀ entry ∈ entries, ∃ digest, Tls.Denotes entry digest) :
    (cfg.withPins entries).Valid where
  apiKey := valid.apiKey
  tokens := valid.tokens
  token := valid.token
  verification insecure := by
    rw [Config.withPins] at insecure
    rw [verifies] at insecure
    cases insecure
  encrypted := valid.encrypted
  pins fingerprints same := by
    cases same
    refine ⟨some, fun entry member => ?_⟩
    rcases usable entry member with ⟨digest, denotes⟩
    exact ⟨_, Tls.normalizeFingerprint_iff.mpr ⟨digest, denotes, rfl⟩⟩

end Config

theorem Tls.denotes_fingerprint_iff {shown cert : List UInt8} :
    Tls.Denotes (Tls.fingerprint shown) (Sha256.digest cert) ↔
      Sha256.digest cert = Sha256.digest shown := by
  have own := Tls.denotes_pin (Sha256.digest shown)
  constructor
  · exact fun denotes => denotes.unique own
  · intro same
    rw [same]
    exact own

/-- What is printed knows the certificate again that was presented last. -/
theorem repinned {Other : Type} [Flags Other] {cfg : Config} (valid : cfg.validate = .ok ())
    (verifies : cfg.controller.tls.insecureSkipVerify = false) {host text : String}
    {built : Except String Unit} {journey : Tls.Journey}
    (printed : fetchFingerprint host built journey = .ok text) :
    ∃ shown, journey.presented.getLast? = some shown ∧
      text = s!"Certificate fingerprint for {fetchFingerprintBase host}:\n\n" ++
        s!"  {Tls.fingerprint shown.2}\n\n" ++ "Put it in your config.toml:\n\n" ++
        pinTable (Tls.fingerprint shown.2) ∧
      Repinned Other cfg (pinTable (Tls.fingerprint shown.2)) shown.2 := by
  rcases bind_eq_ok.mp printed with ⟨fingerprint, probed, made⟩
  cases made
  rcases Option.map_eq_some_iff.mp (Tls.probeFingerprint_eq_ok.mp probed).2 with
    ⟨shown, last, rfl⟩
  have valid := Config.validate_eq_ok.mp valid
  have denotes : ∃ digest, Tls.Denotes (Tls.fingerprint shown.2) digest :=
    ⟨_, Tls.denotes_fingerprint_iff.mpr rfl⟩
  refine ⟨shown, last, rfl, ?_⟩
  constructor
  case read =>
    have plain : (Tls.fingerprint shown.2).toList.all Toml.isPlain = true := plain_pin _
    rw [parse_pinTable plain, Option.bind_some]
    exact onlyFromToml_pinTable _
  case valid =>
    apply Config.validate_eq_ok.mpr
    exact valid.withPins verifies (List.cons_ne_nil _ _) (by simpa using denotes)
  case admits =>
    intro cert
    rw [(Config.admits_iff rfl (by simpa using denotes)).2 cert]
    simp only [List.mem_singleton, exists_eq_left, Tls.denotes_fingerprint_iff]
  case widened =>
    intro entries set
    rcases valid.denotes set with ⟨-, usable⟩
    have wider : ∀ entry ∈ entries ++ [Tls.fingerprint shown.2],
        ∃ digest, Tls.Denotes entry digest := by
      rw [List.forall_mem_append, List.forall_mem_singleton]
      exact ⟨usable, denotes⟩
    constructor
    · apply Config.validate_eq_ok.mpr
      exact valid.withPins verifies (by simp) wider
    · intro cert
      rw [(Config.admits_iff rfl wider).2 cert, (Config.admits_iff set usable).2 cert]
      simp only [List.mem_append, List.mem_singleton, or_and_right, exists_or, exists_eq_left,
        Tls.denotes_fingerprint_iff]

end

section

/-- A digest that tells two certificates apart. -/
local instance twoDigests : Sha256 where
  digest cert := Vector.replicate 32 (if cert = [1] then 0xA1 else 0xB2)

/-- Nothing but texts and arrays is read here. -/
local instance noFlags : Flags Unit where
  read _ := none
  bool _ := none

theorem repinned_console :
    Repinned Unit Sample.cfg (pinTable (Tls.fingerprint [1])) [1] ∧
      ¬ (Sample.cfg.withPins [Tls.fingerprint [1]]).Admits [2] := by
  have printed : ∃ text, fetchFingerprint "unifi.local" (.ok ())
      (.answered ⟨"unifi.local", some [1]⟩) = .ok text := ⟨_, rfl⟩
  have valid : Sample.cfg.validate = .ok () := by decide +kernel
  rcases printed with ⟨text, printed⟩
  rcases @repinned _ Unit _ _ valid rfl _ _ _ _ printed with ⟨shown, last, -, repinned⟩
  cases last
  refine ⟨repinned, fun admits => ?_⟩
  exact absurd ((repinned.admits [2]).mp admits) (by decide)

end

end VoucherProxy
