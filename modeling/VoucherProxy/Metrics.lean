import Mathlib.Data.List.Induction
import Mathlib.Data.Prod.Lex
import VoucherProxy.Foundation.SortedMap

namespace VoucherProxy

/-! The counters a monitoring system reads. -/

/-- Token, action and outcome, in the order the keys are kept. -/
abbrev RequestKey := String ×ₗ String ×ₗ String

def requestKey (token action outcome : String) : RequestKey :=
  toLex (token, toLex (action, outcome))

/-- Add to the count under a key, which starts at zero. -/
def addTo {κ : Type} [LinearOrder κ] (key : κ) (amount : UInt64)
    (counts : List (κ × UInt64)) : List (κ × UInt64) :=
  insertMember key ((counts.lookup key).getD 0 + amount) counts

/-- Only the count under the key grows. -/
theorem lookup_addTo {κ : Type} [LinearOrder κ] [BEq κ] [LawfulBEq κ] (key other : κ)
    (amount : UInt64) (counts : List (κ × UInt64)) :
    ((addTo key amount counts).lookup other).getD 0 =
      (counts.lookup other).getD 0 + if other = key then amount else 0 := by
  rw [addTo, lookup_insertMember]
  by_cases own : other = key
  · subst own
    rw [if_pos rfl, if_pos rfl, Option.getD_some, lookup_eq_lookup]
  · rw [if_neg own, if_neg own, UInt64.add_zero]

theorem pairwise_keys_addTo {κ : Type} [LinearOrder κ] {key : κ} {amount : UInt64}
    {counts : List (κ × UInt64)} (sorted : (counts.map Prod.fst).Pairwise (· < ·)) :
    ((addTo key amount counts).map Prod.fst).Pairwise (· < ·) :=
  pairwise_keys_insertMember sorted

/-- The order of two additions makes no difference. -/
theorem addTo_comm {κ : Type} [LinearOrder κ] (first second : κ) (amount other : UInt64)
    {counts : List (κ × UInt64)} (sorted : (counts.map Prod.fst).Pairwise (· < ·)) :
    addTo first amount (addTo second other counts) =
      addTo second other (addTo first amount counts) := by
  apply eq_of_lookup (pairwise_keys_addTo (pairwise_keys_addTo sorted))
    (pairwise_keys_addTo (pairwise_keys_addTo sorted))
  intro key
  simp only [addTo, lookup_insertMember]
  by_cases same : first = second
  · subst same
    by_cases own : key = first
    · simp only [own, if_true, Option.getD_some, Option.some.injEq]
      rw [UInt64.add_assoc, UInt64.add_comm other, ← UInt64.add_assoc]
    · simp [own]
  · by_cases own : key = first
    · subst own
      simp [same]
    · by_cases isOther : key = second
      · subst isOther
        simp [own]
      · simp [own, isOther]

/-- Count every key of a list. -/
def tally {κ : Type} [LinearOrder κ] (keys : List κ) : List (κ × UInt64) :=
  keys.foldl (fun counts key => addTo key 1 counts) []

section

variable {κ : Type} [LinearOrder κ]

@[simp] theorem tally_append_singleton (keys : List κ) (key : κ) :
    tally (keys ++ [key]) = addTo key 1 (tally keys) := by
  simp [tally]

theorem pairwise_keys_tally (keys : List κ) : ((tally keys).map Prod.fst).Pairwise (· < ·) := by
  induction keys using List.reverseRecOn with
  | nil => exact .nil
  | append_singleton keys key induction =>
      rw [tally_append_singleton]
      exact pairwise_keys_addTo induction

theorem mem_of_mem_keys_tally {keys : List κ} {key : κ}
    (member : key ∈ (tally keys).map Prod.fst) : key ∈ keys := by
  induction keys using List.reverseRecOn with
  | nil => cases member
  | append_singleton keys last induction =>
      rw [tally_append_singleton] at member
      rcases mem_keys_insertMember member with rfl | earlier
      · simp
      · exact List.mem_append_left _ (induction earlier)

/-- The order in which keys are counted makes no difference. -/
theorem tally_perm {keys others : List κ} (same : keys.Perm others) : tally keys = tally others := by
  have folds : ∀ counts : List (κ × UInt64), (counts.map Prod.fst).Pairwise (· < ·) →
      keys.foldl (fun counts key => addTo key 1 counts) counts =
        others.foldl (fun counts key => addTo key 1 counts) counts := by
    induction same with
    | nil => exact fun _ _ => rfl
    | cons key _ induction => exact fun counts sorted => induction _ (pairwise_keys_addTo sorted)
    | swap first second rest =>
        intro counts sorted
        simp only [List.foldl_cons, addTo_comm first second 1 1 sorted]
    | trans _ _ first second =>
        exact fun counts sorted => (first counts sorted).trans (second counts sorted)
  exact folds [] .nil

end

structure Metrics where
  requests : List (RequestKey × UInt64) := []
  vouchersCreated : List (String × UInt64) := []
  upstreamLatencyMsTotal : UInt64 := 0
  upstreamCalls : UInt64 := 0
  reloads : UInt64 := 0
  reloadFailures : UInt64 := 0

namespace Metrics

def recordRequest (metrics : Metrics) (token action outcome : String) : Metrics :=
  { metrics with requests := addTo (requestKey token action outcome) 1 metrics.requests }

/-- Vouchers actually issued. -/
def recordVouchersCreated (metrics : Metrics) (token : String) (count : UInt32) : Metrics :=
  { metrics with vouchersCreated := addTo token count.toUInt64 metrics.vouchersCreated }

def recordUpstream (metrics : Metrics) (elapsedMs : UInt64) : Metrics :=
  { metrics with
    upstreamLatencyMsTotal := metrics.upstreamLatencyMsTotal + elapsedMs
    upstreamCalls := metrics.upstreamCalls + 1 }

def recordReload (metrics : Metrics) (ok : Bool) : Metrics :=
  if ok then { metrics with reloads := metrics.reloads + 1 }
  else { metrics with reloadFailures := metrics.reloadFailures + 1 }

end Metrics

end VoucherProxy
