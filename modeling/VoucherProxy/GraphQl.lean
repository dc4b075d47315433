import VoucherProxy.Model
import VoucherProxy.Operation

namespace VoucherProxy

/-! GraphQL surface over the same operations the REST routes expose. -/

variable [Crates]

/-! ## Types of the schema -/

structure TokenInfo where
  name : String
  sites : List String
  scopes : List String
  maxVouchersPerRequest : Int32
  maxValidityMinutes : Int64
  deriving DecidableEq

structure RevokeResult where
  id : String
  revoked : Bool
  deriving DecidableEq

structure CreateVoucherInput where
  name : String
  count : UInt32
  timeLimitMinutes : UInt64
  authorizedGuestLimit : UInt32
  dataUsageLimitMBytes : Option UInt64
  rxRateLimitKbps : Option UInt64
  txRateLimitKbps : Option UInt64
  deriving DecidableEq

/-- The input object as a document gives it, where two fields may be left out. -/
structure CreateVoucherArguments where
  name : String
  count : Option UInt32
  timeLimitMinutes : UInt64
  authorizedGuestLimit : Option UInt32
  dataUsageLimitMBytes : Option UInt64
  rxRateLimitKbps : Option UInt64
  txRateLimitKbps : Option UInt64
  deriving DecidableEq

def CreateVoucherArguments.input (arguments : CreateVoucherArguments) : CreateVoucherInput where
  name := arguments.name
  count := arguments.count.getD 1
  timeLimitMinutes := arguments.timeLimitMinutes
  authorizedGuestLimit := arguments.authorizedGuestLimit.getD 1
  dataUsageLimitMBytes := arguments.dataUsageLimitMBytes
  rxRateLimitKbps := arguments.rxRateLimitKbps
  txRateLimitKbps := arguments.txRateLimitKbps

def CreateVoucherInput.into (input : CreateVoucherInput) : CreateVoucherRequest where
  name := input.name
  count := input.count
  timeLimitMinutes := input.timeLimitMinutes
  authorizedGuestLimit := input.authorizedGuestLimit
  dataUsageLimitMBytes := input.dataUsageLimitMBytes
  rxRateLimitKbps := input.rxRateLimitKbps
  txRateLimitKbps := input.txRateLimitKbps

inductive FieldValue
  | introspection (value : Json)
  | info (value : TokenInfo)
  | sites (value : List Site)
  | vouchers (value : List Voucher)
  | revoked (value : RevokeResult)

/-! ## Errors -/

structure GqlError where
  message : String
  /-- The extensions `code` and `status`; the engine's own errors have neither. -/
  extensions : Option (String × Nat)
  deriving DecidableEq

/-- Keeps the HTTP status and the machine-readable kind for clients to branch on. -/
def toGql (error : ProxyError) : GqlError where
  message := match error with
    | .internal _ => "internal proxy error"
    | other => other.toString
  extensions := some (error.kind, error.status.code)

/-! ## Resolvers -/

namespace GraphQl

/-- An operation on the `Live` that was loaded for it. Only a successful call is
recorded. -/
def run (operation : Operation FieldValue) (caller : Caller) (guard : Guard) :
    Call (Except GqlError FieldValue) := do
  match ← caller.admission guard operation with
  | .error why => return .error (toGql why)
  | .ok () =>
      match operation.plan with
      | .error why => return .error (toGql why)
      | .ok plan =>
          let up ← Call.instant
          match ← guard.send (plan.request guard.value.upstream) with
          | .error why => return .error (toGql why)
          | .ok body =>
              let now ← Call.instant
              Call.recordUpstream (now - up)
              match plan.count with
              | some count => Call.recordVouchersCreated caller.name count
              | none => pure ()
              return .ok (operation.view body)

/-- Resolve a field by an operation. -/
def resolve (caller : Caller) (operation : Operation FieldValue) :
    Call (Except GqlError FieldValue) := do
  let guard ← Call.live
  run operation caller guard

/-- What this token may do. Needs no scope. -/
def info (caller : Caller) : TokenInfo where
  name := caller.token.name
  sites := caller.token.sites
  scopes := caller.token.scopes.map Scope.asStr
  maxVouchersPerRequest := caller.ceilings.maxVouchers.toInt32
  maxValidityMinutes := caller.ceilings.maxValidityMinutes.toInt64

def sites (caller : Caller) : Operation FieldValue where
  action := "graphql:sites"
  scope := .sitesRead
  site := none
  target := none
  plan := .ok (.call Upstream.listSites)
  view body := .sites ((Site.list body).filter fun site => caller.token.allowsSite site.id)

def vouchers (siteId : String) : Operation FieldValue where
  action := "graphql:vouchers"
  scope := .vouchersRead
  site := some siteId
  target := none
  plan := .ok (.call fun upstream => upstream.listVouchers siteId)
  view body := .vouchers (Voucher.list body)

def createVouchers (caller : Caller) (siteId : String) (input : CreateVoucherInput) :
    Operation FieldValue where
  action := "graphql:createVouchers"
  scope := .vouchersCreate
  site := some siteId
  target := none
  plan := Plan.create caller siteId (.ok input.into)
  view body := .vouchers (Voucher.list body)

def revokeVoucher (siteId voucherId : String) : Operation FieldValue where
  action := "graphql:revokeVoucher"
  scope := .vouchersRevoke
  site := some siteId
  target := some voucherId
  plan := .ok (.call fun upstream => upstream.deleteVoucher siteId voucherId)
  view _ := .revoked ⟨voucherId, true⟩

/-! ## Documents -/

inductive QueryField
  /-- A field the engine answers by itself, such as `__typename`. -/
  | introspection (value : Json)
  | info
  | sites
  | vouchers (siteId : String)

inductive MutationField
  | introspection (value : Json)
  | createVouchers (siteId : String) (input : CreateVoucherArguments)
  | revokeVoucher (siteId voucherId : String)

/-- The operation a document selects, each field under its response key. -/
inductive Document
  | query (fields : List (String × QueryField))
  | mutation (fields : List (String × MutationField))

def QueryField.resolver (caller : Caller) : QueryField → Call (Except GqlError FieldValue)
  | .introspection value => return .ok (.introspection value)
  | .info => return .ok (.info (GraphQl.info caller))
  | .sites => resolve caller (GraphQl.sites caller)
  | .vouchers siteId => resolve caller (GraphQl.vouchers siteId)

def MutationField.resolver (caller : Caller) : MutationField → Call (Except GqlError FieldValue)
  | .introspection value => return .ok (.introspection value)
  | .createVouchers siteId input =>
      resolve caller (GraphQl.createVouchers caller siteId input.input)
  | .revokeVoucher siteId voucherId => resolve caller (GraphQl.revokeVoucher siteId voucherId)

/-- Query depth beyond this is refused. -/
def maxDepth : Nat := 8

/-- Rough ceiling on total fields resolved in one document. -/
def maxComplexity : Nat := 256

end GraphQl

/-- What is taken from `async-graphql`: turning a request into the operation to
run, refusing documents past the limits, and whether the first field to fail
abandons the fields beside it. -/
class GraphQlEngine where
  prepare : Nat → Nat → GraphQlRequest → Except (List String) GraphQl.Document
  abandons : Bool
  sdl : String
  graphiql : String

structure GraphQlResponse where
  data : Option (List (String × FieldValue))
  errors : List GqlError

def GraphQlResponse.isOk (response : GraphQlResponse) : Bool := response.errors.isEmpty

namespace GraphQl

abbrev FieldResult := String × Except GqlError FieldValue

def named (key : String) (resolver : Call (Except GqlError FieldValue)) : Call FieldResult := do
  let result ← resolver
  return (key, result)

/-- Every field is of non-null type, so one error leaves no data. -/
def assemble (results : List FieldResult) : GraphQlResponse :=
  let errors := results.filterMap fun result => match result.2 with
    | .error why => some why
    | .ok _ => none
  let values := results.filterMap fun result => match result.2 with
    | .error _ => none
    | .ok value => some (result.1, value)
  if errors.isEmpty then ⟨some values, []⟩ else ⟨none, errors⟩

variable [GraphQlEngine]

/-- Whether a field's result abandons the others. -/
def stops (result : FieldResult) : Bool :=
  GraphQlEngine.abandons && !result.2.isOk

/-- Mutation fields run one after the other. -/
def executeMutation (caller : Caller) (fields : List (String × MutationField)) :
    Call GraphQlResponse := do
  let results ← Program.sequence stops
    (fields.map fun field => named field.1 (field.2.resolver caller))
  return assemble results

def halted (programs : List (Call FieldResult)) : Bool :=
  programs.any fun program => program.value?.any stops

/-- What is left of the fields of a query when its turns are used up. -/
def settle (programs : List (Call FieldResult)) : Call GraphQlResponse :=
  if halted programs then return assemble (programs.filterMap Program.value?)
  else do
    let results ← Program.sequence stops programs
    return assemble results

/-- Query fields run concurrently, in any interleaving. -/
def executeQuery (turns : List Nat) (caller : Caller) (fields : List (String × QueryField)) :
    Call GraphQlResponse :=
  Program.interleave halted settle turns
    (fields.map fun field => named field.1 (field.2.resolver caller))

def execute (turns : List Nat) (caller : Caller) (request : GraphQlRequest) :
    Call GraphQlResponse :=
  match GraphQlEngine.prepare maxDepth maxComplexity request with
  | .error messages => return ⟨none, messages.map fun message => ⟨message, none⟩⟩
  | .ok (.query fields) => executeQuery turns caller fields
  | .ok (.mutation fields) => executeMutation caller fields

/-- Describes a document in one field for the log line, without recording it. -/
def describe (query : String) : String :=
  let trimmed := String.ofList (query.toList.dropWhile Text.isWhitespace)
  let kind := if Text.startsWith trimmed "mutation" then "mutation" else "query"
  "\x7b\"bytes\":" ++ toString query.utf8ByteSize ++ ",\"kind\":\"" ++ kind ++ "\"\x7d"

end GraphQl

end VoucherProxy
