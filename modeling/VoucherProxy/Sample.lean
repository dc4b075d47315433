import VoucherProxy.Runs

namespace VoucherProxy

/-! A small deployment: two tokens on one controller, and what the crates make
of the strings that occur in it. -/

namespace Sample

def receptionKey : String := "uvp_reception"

def lobbyKey : String := "uvp_lobby"

def receptionHash : String :=
  "$argon2id$v=19$m=8,t=1,p=1$cmVjZXB0aW9uc2FsdA$ZVwQIUkC5S4Wq6DP+iMAXxh4MM7snL2j/KUd9ZMcqL8"

def lobbyHash : String :=
  "$argon2id$v=19$m=8,t=1,p=1$bG9iYnlzYWx0bG9iYnk$jvBD/Vqkc45B2cC5gpCx2uTXYTnU28e77W7WdB6Bohk"

def receptionDigest : Digest :=
  ⟨#[181, 218, 246, 16, 0, 56, 69, 23, 109, 185, 84, 127, 252, 175, 213, 217, 255, 203, 106, 95,
    71, 126, 193, 226, 72, 92, 93, 19, 254, 130, 239, 68], rfl⟩

def lobbyDigest : Digest :=
  ⟨#[88, 41, 128, 12, 133, 195, 121, 227, 13, 90, 194, 174, 174, 167, 103, 246, 6, 30, 29, 192,
    48, 212, 63, 26, 133, 243, 223, 31, 129, 205, 159, 190], rfl⟩

/-- The hashes, each with the string it was made from. -/
def hashes : List (String × String) := [(receptionHash, receptionKey), (lobbyHash, lobbyKey)]

/-! ## Configurations -/

def reception : TokenConfig where
  name := "reception"
  hash := receptionHash
  sites := ["main"]

def lobby : TokenConfig where
  name := "lobby"
  hash := lobbyHash
  scopes := [.vouchersRead]

def controller : ControllerConfig where
  host := "https://unifi.local"
  apiKey := ⟨"controller-key"⟩

def cfg : Config where
  controller := controller
  limits := { rateLimitPerMinute := 2 }
  tokens := [reception, lobby]

/-- The configuration once `reception` has been taken out. -/
def revoked : Config where
  controller := { controller with host := "https://other.local" }
  limits := { rateLimitPerMinute := 2 }
  tokens := [lobby]

def cfgFile : String := "[controller]
host = \"https://unifi.local\"
api_key = \"controller-key\"

[limits]
rate_limit_per_minute = 2

[[tokens]]
name = \"reception\"
hash = \"" ++ receptionHash ++ "\"
sites = [\"main\"]

[[tokens]]
name = \"lobby\"
hash = \"" ++ lobbyHash ++ "\"
scopes = [\"vouchers:read\"]
"

def revokedFile : String := "[controller]
host = \"https://other.local\"
api_key = \"controller-key\"

[limits]
rate_limit_per_minute = 2

[[tokens]]
name = \"lobby\"
hash = \"" ++ lobbyHash ++ "\"
scopes = [\"vouchers:read\"]
"

/-! ## The crates -/

def emptyList : Json := .object [("data", .array [])]

scoped instance crates : Crates where
  toGovernor := Governor.reference
  PasswordHash := String
  parsePasswordHash phc :=
    if hashes.any (·.1 == phc) then .ok phc else .error "password hash string invalid"
  verifyPassword phc presented := hashes.contains (phc, presented)
  sha256 text :=
    if text = receptionKey then receptionDigest
    else if text = lobbyKey then lobbyDigest
    else Vector.replicate 32 0
  build _ := .ok ()
  errorText _ := "invalid type"
  floatText _ := ""
  fromStr text := if text = "\x7b\"data\":[]\x7d" then some emptyList else none
  extract file _ :=
    if file = some cfgFile then .ok cfg
    else if file = some revokedFile then .ok revoked
    else .error "invalid TOML"
  rfc3339 _ := none

def ascii (text : String) : List UInt8 := text.toList.map fun c => UInt8.ofNat c.toNat

/-- Two fields under aliases of their own. -/
def aliased : String := "\x7b a: sites \x7b id \x7d b: vouchers(siteId: \"main\") \x7b id \x7d \x7d"

def aliasedBody : List UInt8 :=
  ascii "\x7b\"query\":\"\x7b a: sites \x7b id \x7d b: vouchers(siteId: \\\"main\\\") \x7b id \x7d \x7d\"\x7d"

scoped instance framework : Framework where
  pathParam segment := .ok segment
  oversized _ _ := none
  jsonBody _ _ := .error ⟨.badRequest, "Failed to parse the request body as JSON"⟩
  graphQlBody _ request :=
    if request.body = aliasedBody then .ok ⟨aliased, none, .null⟩
    else .error ⟨.badRequest, "Invalid request"⟩

scoped instance engine : GraphQlEngine where
  prepare _ _ request :=
    if request.query = aliased then .ok (.query [("a", .sites), ("b", .vouchers "main")])
    else .error ["Unknown field"]
  abandons := true
  sdl := ""
  graphiql := ""

/-! ## Requests -/

def settings : RouterSettings := ⟨65536, false⟩

def outside : Outside where
  clock := 0
  utc := 0
  reply := .answered .ok (some "\x7b\"data\":[]\x7d")

/-- A request with this token, from one address. -/
def request (method path token : String) (body : List UInt8) : HttpRequest where
  method := method
  path := path
  headers := [("x-api-key", ascii token)]
  peer := some (.v4 0x0A000007)
  body := body

/-- The state the proxy starts in. -/
def state : AppState where
  lives _ :=
    { auth := ⟨[(reception, receptionHash), (lobby, lobbyHash)], ∅⟩
      upstream := ⟨⟨.webPki, 15000, 10000, false⟩,
        "https://unifi.local/proxy/network/integration/v1", ⟨"controller-key"⟩⟩
      limits := cfg.limits
      rate := RateLimits.fromConfig cfg
      tokenCount := 2 }
  current := 0
  metrics := {}
  configPath := some "config.toml"

theorem started : AppState.withPath cfg (some "config.toml") = .ok state := rfl

/-- What a computation does that is alone on the server. -/
def alone {α : Type} (program : Call α) (count : Nat) : Pool Effect Answer AppState Reload α :=
  Pool.run server (Pool.start state) (.spawn program :: List.replicate count (.advance 0 outside))

/-- The strings presented in the samples have digests of their own. -/
theorem collisionFree {steps : List Step}
    (known : ∀ arrival ∈ Step.requests steps,
      tokenFromHeaders arrival.2.headers ∈ [some receptionKey, some lobbyKey]) :
    Set.InjOn Credentials.sha256 (Step.presented steps) := by
  have keys : ∀ text ∈ Step.presented steps, text ∈ [receptionKey, lobbyKey] := by
    rintro text ⟨arrival, member, header⟩
    simpa [header] using known arrival member
  have distinct : ∀ left ∈ [receptionKey, lobbyKey], ∀ right ∈ [receptionKey, lobbyKey],
      Credentials.sha256 left = Credentials.sha256 right → left = right := by
    decide
  exact fun left leftKnown right rightKnown =>
    distinct left (keys left leftKnown) right (keys right rightKnown)

/-- The request to the controller that an event is, as far as it can be compared. -/
def sent? (event : Event Effect Answer) : Option (Nat × Method × String) :=
  match event.effect with
  | .send slot sent => some (slot, sent.method, sent.url)
  | _ => none

theorem sent?_eq_some {found : Option (Event Effect Answer)} {slot : Nat} {method : Method}
    {url : String} (same : found.bind sent? = some (slot, method, url)) :
    ∃ sent reply, found = some ⟨.send slot sent, reply⟩ ∧ sent.method = method ∧
      sent.url = url := by
  rcases Option.bind_eq_some_iff.mp same with ⟨⟨effect, answer⟩, rfl, isSent⟩
  cases effect with
  | send own sent =>
      simp only [sent?, Option.some.injEq, Prod.mk.injEq] at isSent
      rcases isSent with ⟨rfl, rfl, rfl⟩
      exact ⟨sent, answer, rfl, rfl, rfl⟩
  | _ => simp [sent?] at isSent

/-- The slot of the `Live` that an event loads. -/
def loaded? : Event Effect Answer → Option Nat
  | ⟨.live, guard⟩ => some guard.slot
  | _ => none

theorem loaded?_eq_some {found : Option (Event Effect Answer)} {slot : Nat}
    (same : found.bind loaded? = some slot) :
    ∃ guard : Guard, found = some ⟨.live, guard⟩ ∧ guard.slot = slot := by
  rcases Option.bind_eq_some_iff.mp same with ⟨⟨effect, answer⟩, rfl, isLoad⟩
  cases effect with
  | live => exact ⟨answer, rfl, by simpa [loaded?] using isLoad⟩
  | _ => simp [loaded?] at isLoad

/-- The tokens of the `Live` that an event loads. -/
def known? : Event Effect Answer → Option (List TokenConfig)
  | ⟨.live, guard⟩ => some (guard.value.auth.tokens.map Prod.fst)
  | _ => none

/-- The slot, the token and the verdict of a charge. -/
def charged? : Event Effect Answer → Option (Nat × String × Bool)
  | ⟨.check slot token, granted⟩ => some (slot, token.name, granted)
  | _ => none

end Sample

end VoucherProxy
