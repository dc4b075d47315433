import VoucherProxy.Auth
import VoucherProxy.Foundation.Pool
import VoucherProxy.Metrics
import VoucherProxy.RateLimit
import VoucherProxy.Upstream

namespace VoucherProxy

/-! The state all requests share, and the effects by which they touch it. -/

/-- How the `time` crate writes an instant, when it can. -/
class TimeFormat where
  rfc3339 : OffsetDateTime → Option String

/-- The crates the proxy is built on. -/
class Crates extends Governor, Credentials, Reqwest, SerdeJson, Figment, TimeFormat

variable [Crates]

/-- Everything a SIGHUP can replace. -/
structure Live where
  auth : Authenticator
  upstream : Upstream
  limits : Limits
  rate : RateLimits
  tokenCount : Nat

def Live.build (cfg : Config) : Except String Live := do
  let auth ← Authenticator.new cfg.tokens
  let upstream ← Upstream.new cfg.controller cfg.server.upstreamTimeout
  return { auth, upstream
           limits := cfg.limits
           rate := RateLimits.fromConfig cfg
           tokenCount := cfg.tokens.length }

/-- Every `Live` ever put in force has a slot of its own; the newest is in
force, and a request may still hold an older one. -/
structure AppState where
  lives : Nat → Live
  current : Nat
  metrics : Metrics
  configPath : Option String

/-- A reference to the `Live` in a slot. The value is what it held when it was
loaded: its tokens, upstream and limits never change, while its cache and its
limiters are reached through the slot. -/
structure Guard where
  slot : Nat
  value : Live

/-- What a reload finds on disk and in the environment. -/
structure Reload where
  file : Option String
  environment : Config.Environment

namespace AppState

def withPath (cfg : Config) (configPath : Option String) : Except String AppState := do
  let live ← Live.build cfg
  return { lives := fun _ => live, current := 0, metrics := {}, configPath }

def live (state : AppState) : Guard := ⟨state.current, state.lives state.current⟩

def store (state : AppState) (live : Live) : AppState :=
  { state with
    lives := Function.update state.lives (state.current + 1) live
    current := state.current + 1 }

/-- The configuration a reload would put in force. -/
def load (state : AppState) (found : Reload) : Except String Config :=
  match state.configPath with
  | none => .error "no config file to reload — this proxy was configured from the environment"
  | some path =>
      match Config.load (some path) found.file found.environment with
      | .ok cfg => .ok cfg
      | .error why => .error s!"reload rejected, keeping the previous config: {why}"

/-- Re-reads the config file and swaps in the result; a bad one leaves the
running configuration untouched. -/
def reload (state : AppState) (found : Reload) : Except String Nat × AppState :=
  match state.load found with
  | .error why => (.error why, state)
  | .ok cfg =>
      match Live.build cfg with
      | .error why =>
          (.error s!"reload rejected, keeping the previous config: {why}", state)
      | .ok live => (.ok live.tokenCount, state.store live)

def recordMetrics (state : AppState) (record : Metrics → Metrics) : AppState :=
  { state with metrics := record state.metrics }

/-- What SIGHUP does: reload, and count how it ended. -/
def sighup (state : AppState) (found : Reload) : AppState :=
  let outcome := state.reload found
  outcome.2.recordMetrics fun metrics => metrics.recordReload outcome.1.isOk

/-- Change the `Live` in one slot. -/
def modify (state : AppState) (slot : Nat) (live : Live) : AppState :=
  { state with lives := Function.update state.lives slot live }

end AppState

/-! ## Audit lines -/

inductive AuditLine
  | request (token action site targetId : String) (count : UInt32) (status : Nat)
      (outcome : String) (elapsedMs : Nat)
  | rejected (action reason : String) (status : Nat)
  deriving DecidableEq, Repr

structure AuditRecord where
  token : String
  action : String
  site : Option String
  target : Option String
  count : Option UInt32
  status : Nat
  outcome : String
  /-- Nanoseconds. -/
  elapsed : Nat

def millis (nanoseconds : Nat) : Nat := nanoseconds / 1000000

def AuditRecord.line (record : AuditRecord) : AuditLine :=
  .request record.token record.action (record.site.getD "-") (record.target.getD "-")
    (record.count.getD 0) record.status record.outcome (millis record.elapsed)

/-! ## Effects -/

/-- One indivisible step of a request. The steps on a `Live` name its slot. -/
inductive Effect
  | live
  | checkIp (slot : Nat) (ip : IpAddr)
  | cacheGet (slot : Nat) (key : Digest)
  | cacheInsert (slot : Nat) (key : Digest) (position : Nat)
  | check (slot : Nat) (token : TokenConfig)
  | send (slot : Nat) (request : UpstreamRequest)
  | nowUtc
  | instant
  | audit (line : AuditLine)
  | recordRequest (token action outcome : String)
  | recordUpstream (elapsedMs : UInt64)
  | recordVouchersCreated (token : String) (count : UInt32)

abbrev Answer : Effect → Type
  | .live => Guard
  | .checkIp _ _ => Bool
  | .cacheGet _ _ => Option Nat
  | .cacheInsert _ _ _ => Unit
  | .check _ _ => Bool
  | .send _ _ => Reply
  | .nowUtc => OffsetDateTime
  | .instant => Nat
  | .audit _ => Unit
  | .recordRequest _ _ _ => Unit
  | .recordUpstream _ => Unit
  | .recordVouchersCreated _ _ => Unit

/-- What the world contributes to a step: its clocks, and the controller's
reply to a request. -/
structure Outside where
  clock : Nat
  utc : OffsetDateTime
  reply : Reply

namespace AppState

def exec (state : AppState) : (effect : Effect) → Outside → Answer effect × AppState
  | .live, _ => (state.live, state)
  | .checkIp slot ip, outside =>
      let live := state.lives slot
      let outcome := live.rate.checkIp ip outside.clock
      (outcome.1, state.modify slot { live with rate := outcome.2 })
  | .cacheGet slot key, _ => ((state.lives slot).auth.cache.lookup key, state)
  | .cacheInsert slot key position, _ =>
      let live := state.lives slot
      let cache := live.auth.cache.insert key position
      ((), state.modify slot { live with auth := { live.auth with cache } })
  | .check slot token, outside =>
      let live := state.lives slot
      let outcome := live.rate.check token outside.clock
      (outcome.1, state.modify slot { live with rate := outcome.2 })
  | .send _ _, outside => (outside.reply, state)
  | .nowUtc, outside => (outside.utc, state)
  | .instant, outside => (outside.clock, state)
  | .audit _, _ => ((), state)
  | .recordRequest token action outcome, _ =>
      ((), state.recordMetrics fun metrics => metrics.recordRequest token action outcome)
  | .recordUpstream elapsedMs, _ =>
      ((), state.recordMetrics fun metrics => metrics.recordUpstream elapsedMs)
  | .recordVouchersCreated token count, _ =>
      ((), state.recordMetrics fun metrics => metrics.recordVouchersCreated token count)

end AppState

/-- Requests and reloads acting on the shared state. -/
def server : Machine Effect Answer AppState Outside Reload where
  exec effect outside state := state.exec effect outside
  move found state := state.sighup found

/-! ## One step each -/

/-- A computation of the proxy. -/
abbrev Call := Program Effect Answer

namespace Call

def perform (effect : Effect) : Call (Answer effect) := Program.request effect

def live : Call Guard := perform .live

def instant : Call Nat := perform .instant

def nowUtc : Call OffsetDateTime := perform .nowUtc

def audit (line : AuditLine) : Call Unit := perform (.audit line)

def recordRequest (token action outcome : String) : Call Unit :=
  perform (.recordRequest token action outcome)

def recordUpstream (elapsed : Nat) : Call Unit :=
  perform (.recordUpstream (UInt64.ofNat (millis elapsed)))

def recordVouchersCreated (token : String) (count : UInt32) : Call Unit :=
  perform (.recordVouchersCreated token count)

end Call

namespace Guard

variable (guard : Guard)

def checkIp (ip : IpAddr) : Call Bool := Call.perform (.checkIp guard.slot ip)

def cacheGet (key : Digest) : Call (Option Nat) := Call.perform (.cacheGet guard.slot key)

def cacheInsert (key : Digest) (position : Nat) : Call Unit :=
  Call.perform (.cacheInsert guard.slot key position)

def check (token : TokenConfig) : Call Bool := Call.perform (.check guard.slot token)

/-- Send a request that could be formed, and read the reply. -/
def send (prepared : Except ProxyError UpstreamRequest) : Call (Except ProxyError Json) :=
  match prepared with
  | .error why => return .error why
  | .ok request => do
      let reply : Reply ← Call.perform (.send guard.slot request)
      return reply.interpret

/-- Which entry a presented string belongs to. The cache is locked twice, once
to look up and once to insert. -/
def authenticate (presented : String) : Call (Option TokenConfig) := do
  if presented.isEmpty then
    return none
  let tokens := guard.value.auth.tokens
  let key := Credentials.sha256 presented
  match ← guard.cacheGet key with
  | some position => return Authenticator.entry tokens position
  | none =>
      match Authenticator.scan tokens presented with
      | none => return none
      | some position =>
          guard.cacheInsert key position
          return Authenticator.entry tokens position

end Guard

end VoucherProxy
