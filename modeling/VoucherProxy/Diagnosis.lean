import VoucherProxy.Foundation.Occurrence
import VoucherProxy.Sample

namespace VoucherProxy

/-! What a failed call to the controller is diagnosed as, and whether the ids in its
URL have a say in it. -/

/-- A failure of the HTTP client whatever the URL: its own text shows the URL of the
request in parentheses, those of its causes do not. -/
structure Failure where
  lead : String
  tail : String
  causes : List String
  isTimeout : Bool
  isConnect : Bool

/-- The error of a request for this URL. -/
def Failure.error (failure : Failure) (url : String) : TransportError where
  texts := (failure.lead ++ "(" ++ url ++ ")" ++ failure.tail) :: failure.causes
  isTimeout := failure.isTimeout
  isConnect := failure.isConnect

/-- The text that is searched when the request was for this URL. -/
def Failure.text (failure : Failure) (url : String) : String :=
  String.intercalate ": " (failure.error url).texts

namespace UpstreamCall

/-- The call with its ids left out. -/
def blank : UpstreamCall → UpstreamCall
  | .listSites => .listSites
  | .listVouchers _ => .listVouchers ""
  | .createVouchers _ request => .createVouchers "" request
  | .deleteVoucher _ _ => .deleteVoucher "" ""

/-- One of the ids has the word in it. -/
def Mentions (call : UpstreamCall) (word : String) : Prop :=
  ∃ id ∈ call.ids, Text.contains id word = true

/-- The two calls differ in their ids, and in the vouchers they ask for. -/
def SameKind (call other : UpstreamCall) : Prop := call.blank.path = other.blank.path

end UpstreamCall

/-! ## Where a marker can come from -/

/-- A word that no delimiter of a URL cuts. -/
structure Uncut (word : String) : Prop where
  nonempty : word.toList ≠ []
  slash : '/' ∉ word.toList
  opening : '(' ∉ word.toList
  closing : ')' ∉ word.toList
  question : '?' ∉ word.toList

theorem Failure.exists_text (failure : Failure) :
    ∃ before after, ∀ url, (failure.text url).toList =
      before ++ '(' :: (url.toList ++ ')' :: after) := by
  have joined : ∃ rest, ∀ own : String,
      (String.intercalate ": " (own :: failure.causes)).toList = own.toList ++ rest := by
    cases causes : failure.causes with
    | nil => exact ⟨[], fun own => by rw [List.append_nil]; simp⟩
    | cons cause more =>
        refine ⟨(": " ++ String.intercalate ": " (cause :: more)).toList, fun own => ?_⟩
        rw [String.intercalate_cons_cons, String.append_assoc, String.toList_append]
  rcases joined with ⟨rest, joined⟩
  refine ⟨failure.lead.toList, failure.tail.toList ++ rest, fun url => ?_⟩
  rw [text, error, joined]
  simp [String.toList_append]

theorem Failure.occurs_iff (failure : Failure) {word : String} (uncut : Uncut word) :
    ∃ fixed : Prop, ∀ url, Text.contains (failure.text url) word = true ↔
      fixed ∨ Text.contains url word = true := by
  rcases failure.exists_text with ⟨before, after, spelled⟩
  refine ⟨word.toList <:+: before ∨ word.toList <:+: after, fun url => ?_⟩
  rw [Text.contains_iff, Text.contains_iff, spelled, infix_append_cons_iff uncut.opening,
    infix_append_cons_iff uncut.closing]
  tauto

theorem infix_between_iff {word : String} (uncut : Uncut word) (left right id : List Char) :
    word.toList <:+: left ++ '/' :: (id ++ '/' :: right) ↔
      (word.toList <:+: left ∨ word.toList <:+: right) ∨ word.toList <:+: id := by
  rw [infix_append_cons_iff uncut.slash, infix_append_cons_iff uncut.slash, or_comm (b := _ <:+: right),
    or_assoc]

theorem not_contains_empty {word : String} (uncut : Uncut word) :
    ¬ Text.contains "" word = true := by
  rw [Text.contains_iff]
  intro occurs
  exact uncut.nonempty (List.eq_nil_of_infix_nil occurs)

/-- A word in a text with an id between slashes is in the text without the id, or
in the id. -/
theorem occurs_between {word : String} (uncut : Uncut word) {text : String → String}
    {left right : List Char}
    (spelled : ∀ id, (text id).toList = left ++ '/' :: (id.toList ++ '/' :: right)) (id : String) :
    Text.contains (text id) word = true ↔
      Text.contains (text "") word = true ∨ Text.contains id word = true := by
  have absent : ¬ word.toList <:+: "".toList := by
    rw [← Text.contains_iff]
    exact not_contains_empty uncut
  rw [Text.contains_iff, Text.contains_iff, Text.contains_iff, spelled, spelled,
    infix_between_iff uncut, infix_between_iff uncut, or_iff_left absent]

/-- The same for an id behind the last slash. -/
theorem occurs_last {word : String} (uncut : Uncut word) {text : String → String}
    {left : List Char} (spelled : ∀ id, (text id).toList = left ++ '/' :: id.toList) (id : String) :
    Text.contains (text id) word = true ↔
      Text.contains (text "") word = true ∨ Text.contains id word = true := by
  have absent : ¬ word.toList <:+: "".toList := by
    rw [← Text.contains_iff]
    exact not_contains_empty uncut
  rw [Text.contains_iff, Text.contains_iff, Text.contains_iff, spelled, spelled,
    infix_append_cons_iff uncut.slash, infix_append_cons_iff uncut.slash, or_iff_left absent]

/-- A word in the path of a call is in its fixed part or in an id. -/
theorem UpstreamCall.occurs_iff {word : String} (uncut : Uncut word) (base : String)
    (call : UpstreamCall) :
    Text.contains (base ++ call.path) word = true ↔
      Text.contains (base ++ call.blank.path) word = true ∨ call.Mentions word := by
  cases call with
  | listSites => simp [blank, Mentions, ids]
  | listVouchers site =>
      have spelled : ∀ id, (base ++ (listVouchers id).path).toList =
          (base.toList ++ "/sites".toList) ++ '/' ::
            (id.toList ++ '/' ::
              ("hotspot/vouchers?limit=" ++ toString Upstream.voucherPageLimit).toList) := by
        intro id
        have path : (listVouchers id).path = "/sites/" ++ id ++ "/hotspot/vouchers?limit=" ++
            toString Upstream.voucherPageLimit := rfl
        simp [path, String.toList_append]
      have named : (listVouchers site).Mentions word ↔ Text.contains site word = true := by
        simp [Mentions, ids]
      rw [named]
      exact occurs_between uncut spelled site
  | createVouchers site request =>
      have spelled : ∀ id, (base ++ (createVouchers id request).path).toList =
          (base.toList ++ "/sites".toList) ++ '/' ::
            (id.toList ++ '/' :: "hotspot/vouchers".toList) := by
        intro id
        have path : (createVouchers id request).path = "/sites/" ++ id ++ "/hotspot/vouchers" := rfl
        simp [path, String.toList_append]
      have named : (createVouchers site request).Mentions word ↔ Text.contains site word = true := by
        simp [Mentions, ids]
      rw [named]
      exact occurs_between uncut spelled site
  | deleteVoucher site voucher =>
      have path : ∀ id own, (base ++ (deleteVoucher id own).path).toList =
          base.toList ++ ("/sites/".toList ++ (id.toList ++
            ("/hotspot/vouchers/".toList ++ own.toList))) := by
        intro id own
        have path : (deleteVoucher id own).path =
            "/sites/" ++ id ++ "/hotspot/vouchers/" ++ own := rfl
        simp [path, String.toList_append]
      have sites : ∀ id, (base ++ (deleteVoucher id "").path).toList =
          (base.toList ++ "/sites".toList) ++ '/' ::
            (id.toList ++ '/' :: "hotspot/vouchers/".toList) := by
        intro id
        rw [path]
        simp
      have vouchers : ∀ own, (base ++ (deleteVoucher site own).path).toList =
          (base.toList ++ "/sites/".toList ++ site.toList ++ "/hotspot/vouchers".toList) ++ '/' ::
            own.toList := by
        intro own
        rw [path]
        simp
      have named : (deleteVoucher site voucher).Mentions word ↔
          Text.contains site word = true ∨ Text.contains voucher word = true := by
        simp [Mentions, ids]
      rw [named, ← or_assoc]
      exact (occurs_last uncut vouchers voucher).trans
        (or_congr_left (occurs_between uncut sites site))

/-- A word with a space in it is in no id. -/
theorem not_mentions_of_space {call : UpstreamCall} (valid : ∀ id ∈ call.ids, IsId id)
    {word : String} (space : ' ' ∈ word.toList) : ¬ call.Mentions word := by
  rintro ⟨id, member, occurs⟩
  apply not_infix_of_mem space _ (Text.contains_iff.mp occurs)
  intro present
  exact absurd ((valid id member).characters ' ' present) (by decide)

/-! ## The diagnosis -/

section

variable (failure : Failure) (base : String) {call : UpstreamCall}

theorem Failure.contains_iff {word : String} (uncut : Uncut word) (call : UpstreamCall) :
    Text.contains (failure.text (base ++ call.path)) word = true ↔
      Text.contains (failure.text (base ++ call.blank.path)) word = true ∨ call.Mentions word := by
  rcases failure.occurs_iff uncut with ⟨fixed, occurs⟩
  rw [occurs, occurs, UpstreamCall.occurs_iff uncut base call, or_assoc]

/-- A word with a space in it does not depend on the ids. -/
theorem Failure.contains_of_space (valid : ∀ id ∈ call.ids, IsId id) {word : String}
    (uncut : Uncut word) (space : ' ' ∈ word.toList) :
    Text.contains (failure.text (base ++ call.path)) word =
      Text.contains (failure.text (base ++ call.blank.path)) word := by
  rw [Bool.eq_iff_iff, failure.contains_iff base uncut call,
    or_iff_left (not_mentions_of_space valid space)]

end

/-- The failure settles its diagnosis by itself: it is a timeout, or one of the
markers stands in the text around the ids. -/
def Failure.Settled (failure : Failure) (url : String) : Prop :=
  failure.isTimeout = true ∨
    Text.contains (failure.text url) "fingerprint mismatch" = true ∨
    Text.contains (failure.text url) "invalid peer certificate" = true ∨
    Text.contains (failure.text url) "UnknownIssuer" = true

/-- The diagnosis from what was found in the text. -/
def diagnosis (mismatch timeout certificate issuer connect : Bool) : String :=
  if mismatch then
    "certificate fingerprint mismatch — the controller is not the one this proxy is pinned to"
  else if timeout then "timed out"
  else if certificate || issuer then
    "the controller's certificate is not trusted — pin its fingerprint with `fetch-fingerprint`"
  else if connect then "connection refused or host unreachable"
  else "request failed"

theorem diagnosis_eq_iff {mismatch timeout certificate issuer other connect : Bool} :
    diagnosis mismatch timeout certificate issuer connect =
        diagnosis mismatch timeout certificate other connect ↔
      mismatch = true ∨ timeout = true ∨ certificate = true ∨
        (issuer = true ↔ other = true) := by
  revert mismatch timeout certificate issuer other connect
  decide

/-- Who is known to be named when a marker is looked for in two calls. -/
theorem or_iff_or_of_fixed {mismatch timeout certificate fixed own other : Prop} :
    (mismatch ∨ timeout ∨ certificate ∨ (fixed ∨ own ↔ fixed ∨ other)) ↔
      (timeout ∨ mismatch ∨ certificate ∨ fixed) ∨ (own ↔ other) := by
  tauto

theorem uncut_of_letters {word : String}
    (letters : (word.toList.all fun c => Text.isAsciiAlphanumeric c || c == ' ') = true)
    (nonempty : word.toList ≠ []) : Uncut word := by
  have absent : ∀ {c : Char}, (Text.isAsciiAlphanumeric c || c == ' ') = false →
      c ∉ word.toList := by
    intro c other member
    rw [List.all_eq_true.mp letters c member] at other
    cases other
  exact ⟨nonempty, absent rfl, absent rfl, absent rfl, absent rfl⟩

section

variable (failure : Failure) (base : String) {call : UpstreamCall}

/-- Only one of the markers can be brought in by an id. -/
theorem shortReqwestError_eq (valid : ∀ id ∈ call.ids, IsId id) :
    shortReqwestError (failure.error (base ++ call.path)) =
      diagnosis (Text.contains (failure.text (base ++ call.blank.path)) "fingerprint mismatch")
        failure.isTimeout
        (Text.contains (failure.text (base ++ call.blank.path)) "invalid peer certificate")
        (Text.contains (failure.text (base ++ call.path)) "UnknownIssuer") failure.isConnect := by
  have mismatch : Uncut "fingerprint mismatch" := uncut_of_letters (by decide) (by decide)
  have certificate : Uncut "invalid peer certificate" := uncut_of_letters (by decide) (by decide)
  rw [← failure.contains_of_space base valid mismatch (by decide),
    ← failure.contains_of_space base valid certificate (by decide)]
  rfl

variable [SerdeJson]

/-- What the proxy reports of a call that failed. -/
def reported (url : String) : Except ProxyError Json := (Reply.failed (failure.error url)).interpret

theorem reported_eq_iff {url other : String} :
    reported failure url = reported failure other ↔
      shortReqwestError (failure.error url) = shortReqwestError (failure.error other) := by
  simp [reported, Reply.interpret]

/-- What the proxy reports when a call fails does not depend on its ids exactly
when the failure settles it, or both calls have the marker of an untrusted
certificate in an id, or neither does. -/
theorem diagnosis_iff {upstream : Upstream} {call other : UpstreamCall}
    {sent otherSent : UpstreamRequest} (prepared : call.prepare upstream = .ok sent)
    (otherPrepared : other.prepare upstream = .ok otherSent) (sameKind : call.SameKind other) :
    reported failure sent.url = reported failure otherSent.url ↔
      failure.Settled (upstream.base ++ call.blank.path) ∨
        (call.Mentions "UnknownIssuer" ↔ other.Mentions "UnknownIssuer") := by
  rcases UpstreamCall.prepare_eq_ok.mp prepared with ⟨valid, rfl⟩
  rcases UpstreamCall.prepare_eq_ok.mp otherPrepared with ⟨otherValid, rfl⟩
  have issuer : Uncut "UnknownIssuer" := uncut_of_letters (by decide) (by decide)
  have marked := failure.contains_iff upstream.base issuer call
  have otherMarked := failure.contains_iff upstream.base issuer other
  have urls : ∀ call : UpstreamCall,
      (upstream.prepare call.method call.path call.body).url = upstream.base ++ call.path :=
    fun _ => rfl
  rw [reported_eq_iff, urls, urls, shortReqwestError_eq failure upstream.base valid,
    shortReqwestError_eq failure upstream.base otherValid, ← sameKind, diagnosis_eq_iff,
    marked, otherMarked, ← sameKind]
  exact or_iff_or_of_fixed

end

section

open Sample

/-- The console's address answers with a refusal. -/
def refused : Failure where
  lead := "error sending request for url "
  tail := ""
  causes := ["client error (Connect)", "tcp connect error", "Connection refused (os error 111)"]
  isTimeout := false
  isConnect := true

def console : Upstream where
  client := ⟨.webPki, 15000, 10000, false⟩
  base := "https://unifi.local/proxy/network/integration/v1"
  apiKey := ⟨"controller-key"⟩

/-- The URL of a site's voucher listing. -/
def vouchersUrl (site : String) : String := console.base ++ (UpstreamCall.listVouchers site).path

theorem isId_of_all {id : String} (nonempty : id ≠ "") (short : id.toList.length ≤ 128)
    (characters : id.toList.all isIdCharacter = true) : IsId id :=
  ⟨nonempty, short, List.all_eq_true.mp characters⟩

theorem prepare_listVouchers {site : String} (valid : IsId site) :
    (UpstreamCall.listVouchers site).prepare console =
      .ok (console.prepare .get (UpstreamCall.listVouchers site).path none) := by
  apply UpstreamCall.prepare_eq_ok.mpr
  refine ⟨?_, rfl⟩
  intro id member
  rwa [List.mem_singleton.mp member]

theorem diagnosis_iff_refused :
    reported refused (vouchersUrl "main") = reported refused (vouchersUrl "default") := by
  have main : IsId "main" := isId_of_all (by decide) (by decide) (by decide)
  have default : IsId "default" := isId_of_all (by decide) (by decide) (by decide)
  have unmarked : ∀ {site : String}, Text.contains site "UnknownIssuer" = false →
      ¬ (UpstreamCall.listVouchers site).Mentions "UnknownIssuer" := by
    rintro site absent ⟨id, member, occurs⟩
    rw [List.mem_singleton.mp member, absent] at occurs
    cases occurs
  exact (diagnosis_iff refused (prepare_listVouchers main) (prepare_listVouchers default) rfl).mpr
    (.inr (iff_of_false (unmarked (by decide)) (unmarked (by decide))))

/-- A site id makes a refused connection look like an untrusted certificate. -/
theorem site_steers_diagnosis :
    IsId "UnknownIssuer" ∧ IsId "main" ∧
      reported refused (vouchersUrl "main") =
        .error (.upstreamUnreachable "connection refused or host unreachable") ∧
      reported refused (vouchersUrl "UnknownIssuer") =
        .error (.upstreamUnreachable ("the controller's certificate is not trusted — " ++
          "pin its fingerprint with `fetch-fingerprint`")) := by
  refine ⟨isId_of_all (by decide) (by decide) (by decide),
    isId_of_all (by decide) (by decide) (by decide), ?_, ?_⟩
  · rw [reported, Reply.interpret]
    exact congrArg _ (congrArg _ (by decide +kernel))
  · rw [reported, Reply.interpret]
    exact congrArg _ (congrArg _ (by decide +kernel))

end

end VoucherProxy
