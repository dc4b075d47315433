import Mathlib.Data.Int.Log
import Mathlib.Data.Rat.Floor
import VoucherProxy.Foundation.Exposition
import VoucherProxy.Metrics

namespace VoucherProxy

/-! The text in which the counters are exposed, and that it is read back. -/

/-- Every occurrence of a character gives way to a text. -/
def replace (text : String) (c : Char) (replacement : String) : String :=
  String.ofList (text.toList.flatMap fun other => if other = c then replacement.toList else [other])

theorem toList_replace (text : String) (c : Char) (replacement : String) :
    (replace text c replacement).toList =
      text.toList.flatMap fun other => if other = c then replacement.toList else [other] :=
  String.toList_ofList

/-- Label values escape backslash, quote and newline, and nothing else. -/
def escape (value : String) : String :=
  replace (replace (replace value '\\' "\\\\") '"' "\\\"") '\n' "\\n"

/-! ## Binary floating point -/

namespace Double

/-- The integer next to a number that is not negative, the even one of two. -/
def roundEven (value : ℚ) : Nat :=
  let whole := value.floor.toNat
  if 2 * (value - whole) < 1 ∨ (2 * (value - whole) = 1 ∧ whole % 2 = 0) then whole else whole + 1

/-- The double next to a number in the range of the normal ones. -/
def nearest (value : ℚ) : ℚ :=
  let unit := (2 : ℚ) ^ (Int.log 2 value - 52)
  if value = 0 then 0 else roundEven (value / unit) * unit

end Double

namespace Metrics

/-- A count of thousandths, as it is printed with three digits behind the point. -/
def fixed (thousandths : Nat) : String :=
  let whole := thousandths / 1000
  let fraction := String.ofList (List.leftpad 3 '0' (Decimal.digits (thousandths % 1000)))
  s!"{whole}.{fraction}"

/-- Milliseconds in seconds, to three digits. -/
def thousandths (totalMs : UInt64) : Nat :=
  Double.roundEven (1000 * Double.nearest (Double.nearest totalMs.toNat / 1000))

example : fixed (thousandths 2000) = "2.000" := by decide +kernel

def requestLine (entry : RequestKey × UInt64) : String :=
  let token := escape (ofLex entry.1).1
  let action := escape (ofLex (ofLex entry.1).2).1
  let outcome := escape (ofLex (ofLex entry.1).2).2
  let n := entry.2.toNat
  s!"uvp_requests_total\x7btoken=\"{token}\",action=\"{action}\",outcome=\"{outcome}\"\x7d {n}\n"

def vouchersLine (entry : String × UInt64) : String :=
  let token := escape entry.1
  let n := entry.2.toNat
  s!"uvp_vouchers_created_total\x7btoken=\"{token}\"\x7d {n}\n"

/-- Renders the Prometheus exposition format. -/
def render (metrics : Metrics) (version : String) (tokensConfigured : Nat) : String :=
  let totalSeconds := fixed (thousandths metrics.upstreamLatencyMsTotal)
  let calls := metrics.upstreamCalls.toNat
  let reloads := metrics.reloads.toNat
  let reloadFailures := metrics.reloadFailures.toNat
  String.join (
    ["# HELP uvp_build_info Version of the running proxy.\n",
      "# TYPE uvp_build_info gauge\n",
      s!"uvp_build_info\x7bversion=\"{version}\"\x7d 1\n",
      "# HELP uvp_tokens_configured Number of client tokens in the active config.\n",
      "# TYPE uvp_tokens_configured gauge\n",
      s!"uvp_tokens_configured {tokensConfigured}\n",
      "# HELP uvp_requests_total Requests by token, action and outcome.\n",
      "# TYPE uvp_requests_total counter\n"] ++
    metrics.requests.map requestLine ++
    ["# HELP uvp_vouchers_created_total Vouchers issued through the proxy.\n",
      "# TYPE uvp_vouchers_created_total counter\n"] ++
    metrics.vouchersCreated.map vouchersLine ++
    ["# HELP uvp_upstream_seconds_total Time spent waiting on the controller.\n",
      "# TYPE uvp_upstream_seconds_total counter\n",
      s!"uvp_upstream_seconds_total {totalSeconds}\n",
      "# HELP uvp_upstream_calls_total Calls made to the controller.\n",
      "# TYPE uvp_upstream_calls_total counter\n",
      s!"uvp_upstream_calls_total {calls}\n",
      "# HELP uvp_config_reloads_total Successful SIGHUP reloads.\n",
      "# TYPE uvp_config_reloads_total counter\n",
      s!"uvp_config_reloads_total {reloads}\n",
      "# HELP uvp_config_reload_failures_total Reloads rejected for a bad config.\n",
      "# TYPE uvp_config_reload_failures_total counter\n",
      s!"uvp_config_reload_failures_total {reloadFailures}\n"])

end Metrics

/-! ## Escaping -/

/-- Backslashes are replaced first, so that none of the later ones is taken for one of
the value's own. -/
theorem toList_escape (value : String) :
    (escape value).toList = Exposition.escape value.toList := by
  rw [escape, toList_replace, toList_replace, toList_replace, List.flatMap_assoc,
    List.flatMap_assoc, Exposition.escape]
  apply List.flatMap_congr
  intro c _
  rw [Exposition.escapeLetter]
  by_cases backslash : c = '\\'
  · rw [if_pos backslash, if_pos backslash]
    decide
  by_cases quote : c = '"'
  · rw [if_neg backslash, if_neg backslash, if_pos quote, quote]
    decide
  rw [if_neg backslash, if_neg backslash, if_neg quote, List.flatMap_singleton, if_neg quote,
    List.flatMap_singleton]
  by_cases feed : c = '\n'
  · rw [if_pos feed, if_pos feed]
    decide
  · rw [if_neg feed, if_neg feed]

/-- No two values are escaped alike. -/
theorem escape_injective : Function.Injective escape := by
  intro left right same
  apply String.toList_inj.mp
  apply Exposition.escape_injective
  rw [← toList_escape, ← toList_escape, same]

namespace Metrics

open Exposition (Family Reading isName isLabelLetter)

/-! ## The metrics and their samples -/

/-- A counter's value. -/
def counted (labels : List (String × String))
    (labelled : ∀ label ∈ labels, isName isLabelLetter label.1 = true) (n : Nat) : Reading where
  labels := labels
  numeral := Decimal.digits n
  value := n
  labelled := labelled
  writes := Exposition.writes_digits n

def requestLabels (key : RequestKey) : List (String × String) :=
  [("token", (ofLex key).1), ("action", (ofLex (ofLex key).2).1),
    ("outcome", (ofLex (ofLex key).2).2)]

theorem labelled_requestLabels (key : RequestKey) :
    ∀ label ∈ requestLabels key, isName isLabelLetter label.1 = true := by
  have token : isName isLabelLetter "token" = true := by decide
  have action : isName isLabelLetter "action" = true := by decide
  have outcome : isName isLabelLetter "outcome" = true := by decide
  simp [requestLabels, token, action, outcome]

theorem labelled_one {name : String} (named : isName isLabelLetter name = true) (value : String) :
    ∀ label ∈ [(name, value)], isName isLabelLetter label.1 = true := by
  simpa using named

def buildInfo (version : String) : Family where
  name := "uvp_build_info"
  doc := "Version of the running proxy."
  kind := .gauge
  readings := [counted [("version", version)] (labelled_one (by decide) version) 1]
  named := by decide
  described := by decide

/-- A metric with one counter and no labels. -/
def single (name doc : String) (kind : Exposition.Kind)
    (named : isName Exposition.isMetricLetter name = true)
    (described : Exposition.isDoc doc = true) (n : Nat) : Family where
  name := name
  doc := doc
  kind := kind
  readings := [counted [] (by simp) n]
  named := named
  described := described

def tokensFamily (tokensConfigured : Nat) : Family :=
  single "uvp_tokens_configured" "Number of client tokens in the active config." .gauge
    (by decide) (by decide) tokensConfigured

def callsFamily (metrics : Metrics) : Family :=
  single "uvp_upstream_calls_total" "Calls made to the controller." .counter
    (by decide) (by decide) metrics.upstreamCalls.toNat

def reloadsFamily (metrics : Metrics) : Family :=
  single "uvp_config_reloads_total" "Successful SIGHUP reloads." .counter
    (by decide) (by decide) metrics.reloads.toNat

def reloadFailuresFamily (metrics : Metrics) : Family :=
  single "uvp_config_reload_failures_total" "Reloads rejected for a bad config." .counter
    (by decide) (by decide) metrics.reloadFailures.toNat

def requestsFamily (metrics : Metrics) : Family where
  name := "uvp_requests_total"
  doc := "Requests by token, action and outcome."
  kind := .counter
  readings := metrics.requests.map fun entry =>
    counted (requestLabels entry.1) (labelled_requestLabels entry.1) entry.2.toNat
  named := by decide
  described := by decide

def vouchersFamily (metrics : Metrics) : Family where
  name := "uvp_vouchers_created_total"
  doc := "Vouchers issued through the proxy."
  kind := .counter
  readings := metrics.vouchersCreated.map fun entry =>
    counted [("token", entry.1)] (labelled_one (by decide) entry.1) entry.2.toNat
  named := by decide
  described := by decide

def fraction (thousandths : Nat) : List Char :=
  List.leftpad 3 '0' (Decimal.digits (thousandths % 1000))

theorem isDigit_fraction (thousandths : Nat) : (fraction thousandths).all Char.isDigit = true := by
  rw [fraction, List.leftpad, List.all_append, Decimal.isDigit_digits, Bool.and_true,
    List.all_replicate]
  simp

theorem length_fraction (thousandths : Nat) : (fraction thousandths).length = 3 := by
  have short : (Decimal.digits (thousandths % 1000)).length ≤ 3 := by
    apply (Nat.length_toDigits_le_iff (by decide) (by decide)).mpr
    omega
  rw [fraction, List.leftpad, List.length_append, List.length_replicate, Nat.sub_add_cancel short]

theorem read_fraction (thousandths : Nat) :
    Decimal.read (fraction thousandths) = thousandths % 1000 := by
  rw [fraction, List.leftpad, Decimal.read_append, Decimal.read_digits, Decimal.read,
    Nat.ofDigitChars_replicate_zero, Nat.mul_zero, Nat.mul_zero, Nat.zero_add]

theorem toList_fixed (thousandths : Nat) :
    (fixed thousandths).toList =
      Decimal.digits (thousandths / 1000) ++ '.' :: fraction thousandths := by
  have point : (toString ".").toList = ['.'] := by decide
  rw [fixed, String.toList_append, String.toList_append, Decimal.toList_toString, point]
  change _ ++ ['.'] ++ (String.ofList _).toList = _
  rw [String.toList_ofList, List.append_assoc, List.singleton_append]
  rfl

theorem writes_fixed (thousandths : Nat) :
    Exposition.Writes (fixed thousandths).toList (thousandths / 1000) := by
  have writes := Exposition.writes_fixed (thousandths / 1000) (isDigit_fraction thousandths)
  have value : ((thousandths / 1000 : Nat) : ℚ) + (thousandths % 1000 : Nat) / 10 ^ 3 =
      thousandths / 1000 := by
    have parts : (thousandths : ℚ) = (1000 * (thousandths / 1000) + thousandths % 1000 : Nat) := by
      rw [Nat.div_add_mod]
    rw [parts]
    push_cast
    ring
  rw [length_fraction, read_fraction, value] at writes
  rw [toList_fixed]
  exact writes

def secondsFamily (metrics : Metrics) : Family where
  name := "uvp_upstream_seconds_total"
  doc := "Time spent waiting on the controller."
  kind := .counter
  readings := [⟨[], (fixed (thousandths metrics.upstreamLatencyMsTotal)).toList,
    thousandths metrics.upstreamLatencyMsTotal / 1000, by simp, writes_fixed _⟩]
  named := by decide
  described := by decide

/-- All that is exposed, in the order in which it is. -/
def families (metrics : Metrics) (version : String) (tokensConfigured : Nat) : List Family :=
  [buildInfo version, tokensFamily tokensConfigured, requestsFamily metrics,
    vouchersFamily metrics, secondsFamily metrics, callsFamily metrics, reloadsFamily metrics,
    reloadFailuresFamily metrics]

/-! ## What is rendered -/

/-- The lines of a metric, when its samples are written so. -/
theorem texts_feed {family : Family} {help type : String} {samples : List Char}
    (helps : help = "# HELP " ++ family.name ++ " " ++ family.doc ++ "\n")
    (types : type = "# TYPE " ++ family.name ++ " " ++ family.kind.word ++ "\n")
    (rest : (family.readings.map family.sampleText).flatMap (· ++ ['\n']) = samples) :
    family.texts.flatMap (· ++ ['\n']) = help.toList ++ (type.toList ++ samples) := by
  rw [helps, types, ← rest]
  simp [Family.texts, Family.helpText, Family.typeText, String.toList_append]

/-- A metric with one sample, which has no labels. -/
theorem texts_plain {family : Family} {reading : Reading} {help type line numeral : String}
    (only : family.readings = [reading]) (unlabelled : reading.labels = [])
    (spelled : reading.numeral = numeral.toList)
    (helps : help = "# HELP " ++ family.name ++ " " ++ family.doc ++ "\n")
    (types : type = "# TYPE " ++ family.name ++ " " ++ family.kind.word ++ "\n")
    (same : line = family.name ++ " " ++ numeral ++ "\n") :
    family.texts.flatMap (· ++ ['\n']) = help.toList ++ (type.toList ++ line.toList) := by
  apply texts_feed helps types
  rw [only, same, List.map_singleton, List.flatMap_singleton, Family.sampleText, unlabelled, spelled]
  simp [String.toList_append, Exposition.labelsText]

theorem texts_tokens (tokensConfigured : Nat) :
    (tokensFamily tokensConfigured).texts.flatMap (· ++ ['\n']) =
      "# HELP uvp_tokens_configured Number of client tokens in the active config.\n".toList ++
        ("# TYPE uvp_tokens_configured gauge\n".toList ++
          (s!"uvp_tokens_configured {tokensConfigured}\n").toList) :=
  texts_plain rfl rfl (Decimal.toList_toString _).symm rfl rfl rfl

theorem texts_seconds (metrics : Metrics) :
    let totalSeconds := fixed (thousandths metrics.upstreamLatencyMsTotal)
    (secondsFamily metrics).texts.flatMap (· ++ ['\n']) =
      "# HELP uvp_upstream_seconds_total Time spent waiting on the controller.\n".toList ++
        ("# TYPE uvp_upstream_seconds_total counter\n".toList ++
          (s!"uvp_upstream_seconds_total {totalSeconds}\n").toList) :=
  texts_plain rfl rfl rfl rfl rfl rfl

theorem texts_calls (metrics : Metrics) :
    let calls := metrics.upstreamCalls.toNat
    (callsFamily metrics).texts.flatMap (· ++ ['\n']) =
      "# HELP uvp_upstream_calls_total Calls made to the controller.\n".toList ++
        ("# TYPE uvp_upstream_calls_total counter\n".toList ++
          (s!"uvp_upstream_calls_total {calls}\n").toList) :=
  texts_plain rfl rfl (Decimal.toList_toString _).symm rfl rfl rfl

theorem texts_reloads (metrics : Metrics) :
    let reloads := metrics.reloads.toNat
    (reloadsFamily metrics).texts.flatMap (· ++ ['\n']) =
      "# HELP uvp_config_reloads_total Successful SIGHUP reloads.\n".toList ++
        ("# TYPE uvp_config_reloads_total counter\n".toList ++
          (s!"uvp_config_reloads_total {reloads}\n").toList) :=
  texts_plain rfl rfl (Decimal.toList_toString _).symm rfl rfl rfl

theorem texts_reloadFailures (metrics : Metrics) :
    let reloadFailures := metrics.reloadFailures.toNat
    (reloadFailuresFamily metrics).texts.flatMap (· ++ ['\n']) =
      "# HELP uvp_config_reload_failures_total Reloads rejected for a bad config.\n".toList ++
        ("# TYPE uvp_config_reload_failures_total counter\n".toList ++
          (s!"uvp_config_reload_failures_total {reloadFailures}\n").toList) :=
  texts_plain rfl rfl (Decimal.toList_toString _).symm rfl rfl rfl

theorem toList_requestLine (metrics : Metrics) (entry : RequestKey × UInt64) :
    (requestLine entry).toList = (requestsFamily metrics).sampleText
      (counted (requestLabels entry.1) (labelled_requestLabels entry.1) entry.2.toNat) ++ ['\n'] := by
  have spelled : requestLine entry =
      "uvp_requests_total\x7btoken=\"" ++ escape (ofLex entry.1).1 ++ "\",action=\"" ++
        escape (ofLex (ofLex entry.1).2).1 ++ "\",outcome=\"" ++ escape (ofLex (ofLex entry.1).2).2 ++
        "\"\x7d " ++ toString entry.2.toNat ++ "\n" := rfl
  have token : "uvp_requests_total\x7btoken=\"".toList =
      "uvp_requests_total".toList ++ '{' :: ("token".toList ++ ['=', '"']) := by decide
  have action : "\",action=\"".toList = '"' :: ',' :: ("action".toList ++ ['=', '"']) := by decide
  have outcome : "\",outcome=\"".toList = '"' :: ',' :: ("outcome".toList ++ ['=', '"']) := by
    decide
  have closes : "\"\x7d ".toList = ['"', '}', ' '] := by decide
  have feed : "\n".toList = ['\n'] := by decide
  rw [spelled]
  simp only [String.toList_append]
  simp only [token, action, outcome, closes, feed, toList_escape, Decimal.toList_toString]
  simp only [Family.sampleText, requestsFamily, counted, requestLabels, Exposition.labelsText,
    Exposition.labelText, Exposition.moreLabels, List.append_assoc, List.cons_append,
    List.nil_append]

theorem toList_vouchersLine (metrics : Metrics) (entry : String × UInt64) :
    (vouchersLine entry).toList = (vouchersFamily metrics).sampleText
      (counted [("token", entry.1)] (labelled_one (by decide) entry.1) entry.2.toNat) ++ ['\n'] := by
  have spelled : vouchersLine entry =
      "uvp_vouchers_created_total\x7btoken=\"" ++ escape entry.1 ++ "\"\x7d " ++
        toString entry.2.toNat ++ "\n" := rfl
  have token : "uvp_vouchers_created_total\x7btoken=\"".toList =
      "uvp_vouchers_created_total".toList ++ '{' :: ("token".toList ++ ['=', '"']) := by decide
  have closes : "\"\x7d ".toList = ['"', '}', ' '] := by decide
  have feed : "\n".toList = ['\n'] := by decide
  rw [spelled]
  simp only [String.toList_append]
  simp only [token, closes, feed, toList_escape, Decimal.toList_toString]
  simp only [Family.sampleText, vouchersFamily, counted, Exposition.labelsText,
    Exposition.labelText, Exposition.moreLabels, List.append_assoc, List.cons_append,
    List.nil_append]

/-- A text in which nothing is to be escaped. -/
def Plain (text : String) : Prop := ∀ c ∈ text.toList, c ≠ '\\' ∧ c ≠ '"' ∧ c ≠ '\n'

theorem escape_of_plain {text : String} (plain : Plain text) :
    Exposition.escape text.toList = text.toList := by
  rw [Exposition.escape]
  refine (List.flatMap_congr fun c member => ?_).trans (List.flatMap_singleton' _)
  rcases plain c member with ⟨backslash, quote, feed⟩
  rw [Exposition.escapeLetter, if_neg backslash, if_neg quote, if_neg feed]

theorem toList_versionLine {version : String} (plain : Plain version) :
    (s!"uvp_build_info\x7bversion=\"{version}\"\x7d 1\n").toList =
      (buildInfo version).sampleText
        (counted [("version", version)] (labelled_one (by decide) version) 1) ++ ['\n'] := by
  have spelled : s!"uvp_build_info\x7bversion=\"{version}\"\x7d 1\n" =
      "uvp_build_info\x7bversion=\"" ++ version ++ "\"\x7d 1\n" := rfl
  have opens : "uvp_build_info\x7bversion=\"".toList =
      "uvp_build_info".toList ++ '{' :: ("version".toList ++ ['=', '"']) := by decide
  have closes : "\"\x7d 1\n".toList = ['"', '}', ' ', '1', '\n'] := by decide
  have one : Decimal.digits 1 = ['1'] := by decide
  rw [spelled]
  simp only [String.toList_append]
  simp only [opens, closes]
  simp only [Family.sampleText, buildInfo, counted, Exposition.labelsText, Exposition.labelText,
    Exposition.moreLabels, escape_of_plain plain, one, List.append_assoc, List.cons_append,
    List.nil_append]

theorem texts_buildInfo {version : String} (plain : Plain version) :
    (buildInfo version).texts.flatMap (· ++ ['\n']) =
      "# HELP uvp_build_info Version of the running proxy.\n".toList ++
        ("# TYPE uvp_build_info gauge\n".toList ++
          (s!"uvp_build_info\x7bversion=\"{version}\"\x7d 1\n").toList) := by
  apply texts_feed rfl rfl
  rw [toList_versionLine plain]
  exact List.append_nil _

theorem texts_requests (metrics : Metrics) :
    (requestsFamily metrics).texts.flatMap (· ++ ['\n']) =
      "# HELP uvp_requests_total Requests by token, action and outcome.\n".toList ++
        ("# TYPE uvp_requests_total counter\n".toList ++
          (metrics.requests.map requestLine).flatMap String.toList) := by
  apply texts_feed rfl rfl
  rw [requestsFamily, List.map_map, List.flatMap_map, List.flatMap_map]
  exact List.flatMap_congr fun entry _ => (toList_requestLine metrics entry).symm

theorem texts_vouchers (metrics : Metrics) :
    (vouchersFamily metrics).texts.flatMap (· ++ ['\n']) =
      "# HELP uvp_vouchers_created_total Vouchers issued through the proxy.\n".toList ++
        ("# TYPE uvp_vouchers_created_total counter\n".toList ++
          (metrics.vouchersCreated.map vouchersLine).flatMap String.toList) := by
  apply texts_feed rfl rfl
  rw [vouchersFamily, List.map_map, List.flatMap_map, List.flatMap_map]
  exact List.flatMap_congr fun entry _ => (toList_vouchersLine metrics entry).symm

/-- The lines of the metrics, and nothing else, are what is rendered. -/
theorem toList_render (metrics : Metrics) {version : String} (plain : Plain version)
    (tokensConfigured : Nat) :
    (metrics.render version tokensConfigured).toList =
      ((metrics.families version tokensConfigured).flatMap Family.texts).flatMap
        (· ++ ['\n']) := by
  rw [render, String.toList_join]
  simp only [families, List.flatMap_append, List.flatMap_cons, List.flatMap_nil,
    texts_buildInfo plain, texts_tokens, texts_requests, texts_vouchers, texts_seconds, texts_calls,
    texts_reloads, texts_reloadFailures, List.append_nil, List.append_assoc]

/-! ## What was recorded -/

inductive Recording
  | request (token action outcome : String)
  | vouchersCreated (token : String) (count : UInt32)
  | upstream (elapsedMs : UInt64)
  | reload (ok : Bool)

def record (metrics : Metrics) : Recording → Metrics
  | .request token action outcome => metrics.recordRequest token action outcome
  | .vouchersCreated token count => metrics.recordVouchersCreated token count
  | .upstream elapsedMs => metrics.recordUpstream elapsedMs
  | .reload ok => metrics.recordReload ok

/-- The counters after some calls, the first one first. -/
def recorded (recordings : List Recording) : Metrics := recordings.foldl record {}

def requestsOf (recordings : List Recording) : List (RequestKey × UInt64) :=
  recordings.filterMap fun recording =>
    match recording with
    | .request token action outcome => some (requestKey token action outcome, 1)
    | _ => none

def vouchersOf (recordings : List Recording) : List (String × UInt64) :=
  recordings.filterMap fun recording =>
    match recording with
    | .vouchersCreated token count => some (token, count.toUInt64)
    | _ => none

section

variable {κ : Type} [LinearOrder κ]

/-- What is added under a key in all. -/
def total (key : κ) (additions : List (κ × UInt64)) : UInt64 :=
  additions.foldl (fun sum addition => if addition.1 = key then sum + addition.2 else sum) 0

def added (additions : List (κ × UInt64)) : List (κ × UInt64) :=
  additions.foldl (fun counts addition => addTo addition.1 addition.2 counts) []

theorem added_snoc (additions : List (κ × UInt64)) (last : κ × UInt64) :
    added (additions ++ [last]) = addTo last.1 last.2 (added additions) := by
  simp [added]

theorem pairwise_keys_added (additions : List (κ × UInt64)) :
    ((added additions).map Prod.fst).Pairwise (· < ·) := by
  induction additions using List.reverseRecOn with
  | nil => exact .nil
  | append_singleton additions last induction =>
      rw [added_snoc]
      exact pairwise_keys_addTo induction

theorem lookup_added [BEq κ] [LawfulBEq κ] (key : κ) (additions : List (κ × UInt64)) :
    (((added additions).lookup key).isSome ↔ key ∈ additions.map Prod.fst) ∧
      ((added additions).lookup key).getD 0 = total key additions := by
  induction additions using List.reverseRecOn with
  | nil => exact ⟨iff_of_false (by simp [added]) (by simp), rfl⟩
  | append_singleton additions last induction =>
      have totals : total key (additions ++ [last]) =
          if last.1 = key then total key additions + last.2 else total key additions := by
        simp [total]
      rw [added_snoc, totals, List.map_append, List.mem_append, ← induction.1, ← induction.2]
      by_cases own : key = last.1
      · rw [addTo, lookup_insertMember, if_pos own, if_pos own.symm, own, lookup_eq_lookup]
        exact ⟨iff_of_true rfl (.inr (by simp)), rfl⟩
      · rw [addTo, lookup_insertMember, if_neg own, if_neg (Ne.symm own)]
        exact ⟨(or_iff_left (by simpa using own)).symm, rfl⟩

end

theorem recorded_eq (recordings : List Recording) :
    (recorded recordings).requests = added (requestsOf recordings) ∧
      (recorded recordings).vouchersCreated = added (vouchersOf recordings) := by
  induction recordings using List.reverseRecOn with
  | nil => exact ⟨rfl, rfl⟩
  | append_singleton recordings last induction =>
      have step : recorded (recordings ++ [last]) = (recorded recordings).record last :=
        List.foldl_append ..
      have kept : ∀ {κ : Type} [LinearOrder κ] (additions : List (κ × UInt64)),
          added additions = added (additions ++ []) := fun additions => by rw [List.append_nil]
      rw [step, requestsOf, vouchersOf, List.filterMap_append, List.filterMap_append]
      cases last with
      | request token action outcome =>
          have next := added_snoc (requestsOf recordings) (requestKey token action outcome, 1)
          exact ⟨(congrArg (addTo _ 1) induction.1).trans next.symm, induction.2.trans (kept _)⟩
      | vouchersCreated token count =>
          have next := added_snoc (vouchersOf recordings) (token, count.toUInt64)
          exact ⟨induction.1.trans (kept _), (congrArg (addTo token _) induction.2).trans next.symm⟩
      | upstream elapsedMs => exact ⟨induction.1.trans (kept _), induction.2.trans (kept _)⟩
      | reload ok =>
          rw [record, recordReload]
          split
          · exact ⟨induction.1.trans (kept _), induction.2.trans (kept _)⟩
          · exact ⟨induction.1.trans (kept _), induction.2.trans (kept _)⟩

/-! ## What is read back -/

def requestSample (entry : RequestKey × UInt64) : Exposition.Sample :=
  ⟨"uvp_requests_total", requestLabels entry.1, .number entry.2.toNat, none⟩

def vouchersSample (entry : String × UInt64) : Exposition.Sample :=
  ⟨"uvp_vouchers_created_total", [("token", entry.1)], .number entry.2.toNat, none⟩

/-- A sample for each counter, and for each entry of the two maps. -/
def exposed (metrics : Metrics) (version : String) (tokensConfigured : Nat) :
    List Exposition.Sample :=
  [⟨"uvp_build_info", [("version", version)], .number 1, none⟩,
    ⟨"uvp_tokens_configured", [], .number tokensConfigured, none⟩] ++
  metrics.requests.map requestSample ++
  metrics.vouchersCreated.map vouchersSample ++
  [⟨"uvp_upstream_seconds_total", [],
      .number (thousandths metrics.upstreamLatencyMsTotal / 1000), none⟩,
    ⟨"uvp_upstream_calls_total", [], .number metrics.upstreamCalls.toNat, none⟩,
    ⟨"uvp_config_reloads_total", [], .number metrics.reloads.toNat, none⟩,
    ⟨"uvp_config_reload_failures_total", [], .number metrics.reloadFailures.toNat, none⟩]

theorem exposed_eq (metrics : Metrics) (version : String) (tokensConfigured : Nat) :
    metrics.exposed version tokensConfigured =
      (metrics.families version tokensConfigured).flatMap fun family =>
        family.readings.map family.sample := by
  have requests : metrics.requests.map requestSample =
      (requestsFamily metrics).readings.map (requestsFamily metrics).sample := by
    rw [requestsFamily, List.map_map]
    rfl
  have vouchers : metrics.vouchersCreated.map vouchersSample =
      (vouchersFamily metrics).readings.map (vouchersFamily metrics).sample := by
    rw [vouchersFamily, List.map_map]
    rfl
  rw [exposed, requests, vouchers]
  simp only [families, List.flatMap_cons, List.flatMap_nil, List.append_assoc]
  rfl

theorem requestLabels_injective : Function.Injective requestLabels := by
  intro left right same
  simp only [requestLabels, List.cons.injEq, Prod.mk.injEq, true_and, and_true] at same
  exact ofLex.injective (Prod.ext same.1 (ofLex.injective (Prod.ext same.2.1 same.2.2)))

/-- No two samples are of one name with one set of labels. -/
theorem nodup_exposed {metrics : Metrics}
    (requests : (metrics.requests.map Prod.fst).Pairwise (· < ·))
    (vouchers : (metrics.vouchersCreated.map Prod.fst).Pairwise (· < ·)) (version : String)
    (tokensConfigured : Nat) :
    ((metrics.exposed version tokensConfigured).map fun sample =>
      (sample.name, sample.labels)).Nodup := by
  have requestKeys : (metrics.requests.map Prod.fst).Nodup := requests.imp fun less => less.ne
  have voucherKeys : (metrics.vouchersCreated.map Prod.fst).Nodup :=
    vouchers.imp fun less => less.ne
  have names : ((metrics.families version tokensConfigured).map Family.name).Nodup := by
    change ["uvp_build_info", "uvp_tokens_configured", "uvp_requests_total",
      "uvp_vouchers_created_total", "uvp_upstream_seconds_total", "uvp_upstream_calls_total",
      "uvp_config_reloads_total", "uvp_config_reload_failures_total"].Nodup
    decide
  have keyed : ((requestsFamily metrics).readings.map Reading.labels).Nodup := by
    have labels := requestKeys.map requestLabels_injective
    rw [List.map_map] at labels
    rw [requestsFamily, List.map_map]
    exact labels
  have named : ((vouchersFamily metrics).readings.map Reading.labels).Nodup := by
    have labels := voucherKeys.map fun left right (same : [("token", left)] = [("token", right)]) =>
      (Prod.ext_iff.mp (List.cons.inj same).1).2
    rw [List.map_map] at labels
    rw [vouchersFamily, List.map_map]
    exact labels
  rw [exposed_eq]
  apply Exposition.nodup_families names
  intro family member
  simp only [families, List.mem_cons, List.not_mem_nil, or_false] at member
  rcases member with rfl | rfl | rfl | rfl | rfl | rfl | rfl | rfl
  · exact List.nodup_singleton _
  · exact List.nodup_singleton _
  · exact keyed
  · exact named
  · exact List.nodup_singleton _
  · exact List.nodup_singleton _
  · exact List.nodup_singleton _
  · exact List.nodup_singleton _

/-- What is rendered reads as one sample for each counter and each entry of the maps,
in which every key stands that was recorded, with what was recorded under it. -/
theorem render_reads_back (recordings : List Recording) {version : String} (plain : Plain version)
    (tokensConfigured : Nat) :
    (Exposition.parse ((recorded recordings).render version tokensConfigured)).map
        Exposition.samples = some ((recorded recordings).exposed version tokensConfigured) ∧
      (((recorded recordings).exposed version tokensConfigured).map fun sample =>
        (sample.name, sample.labels)).Nodup ∧
      (∀ key, (((recorded recordings).requests.lookup key).isSome ↔
          key ∈ (requestsOf recordings).map Prod.fst) ∧
        ((recorded recordings).requests.lookup key).getD 0 = total key (requestsOf recordings)) ∧
      ∀ token, (((recorded recordings).vouchersCreated.lookup token).isSome ↔
          token ∈ (vouchersOf recordings).map Prod.fst) ∧
        ((recorded recordings).vouchersCreated.lookup token).getD 0 =
          total token (vouchersOf recordings) := by
  rcases recorded_eq recordings with ⟨requests, vouchers⟩
  refine ⟨?_, ?_, fun key => ?_, fun token => ?_⟩
  · rw [Exposition.parse_families (toList_render _ plain tokensConfigured), Option.map_some,
      Exposition.samples_families, ← exposed_eq]
  · apply nodup_exposed
    · rw [requests]
      exact pairwise_keys_added _
    · rw [vouchers]
      exact pairwise_keys_added _
  · rw [requests]
    exact lookup_added key _
  · rw [vouchers]
    exact lookup_added token _

/-- A name that is itself a sample, with a quote and a line feed in it. -/
theorem render_reads_back_weird :
    (Exposition.parse ((recorded [.request "we\"\x7d 1\nuvp 2" "a" "ok"]).render "0.1.1" 1)).map
        (fun lines => (Exposition.samples lines).length) = some 7 ∧
      ∀ samples, (Exposition.parse
          ((recorded [.request "we\"\x7d 1\nuvp 2" "a" "ok"]).render "0.1.1" 1)).map
            Exposition.samples = some samples →
        requestSample (requestKey "we\"\x7d 1\nuvp 2" "a" "ok", 1) ∈ samples := by
  have plain : Plain "0.1.1" := by simp [Plain]
  have read := (render_reads_back [.request "we\"\x7d 1\nuvp 2" "a" "ok"] plain 1).1
  constructor
  · have counted := congrArg (Option.map List.length) read
    rw [Option.map_map] at counted
    exact counted
  · intro samples others
    rw [read] at others
    cases others
    simp [exposed, recorded, record, recordRequest, addTo, insertMember]

end Metrics

end VoucherProxy
