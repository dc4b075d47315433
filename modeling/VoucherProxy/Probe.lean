import VoucherProxy.Pinning

namespace VoucherProxy.Tls

/-! What `fetch-fingerprint` reports, over the chains of requests that its client
may go through. -/

/-- The redirect policies of `reqwest` that the program has. -/
inductive Policy
  | limited (max : Nat)
  | none

inductive Action
  | follow
  | stop
  | error (why : String)

namespace Policy

/-- What a client has whose builder was given no policy. -/
def default : Policy := .limited 10

/-- What becomes of a redirect. The number of requests made before counts the one
that was asked for. -/
def redirect (policy : Policy) (previous : Nat) : Action :=
  match policy with
  | .limited max => if max < previous then .error "too many redirects" else .follow
  | .none => .stop

end Policy

/-- One request: the host it goes to, and the certificate that host presents when the
request takes a TLS handshake. -/
structure Visit where
  host : String
  presented : Option (List UInt8)

/-- The requests that come of one, told by what is returned. Along a chain of redirects
each request goes where the last reply sends it. -/
inductive Journey
  | answered (visit : Visit)
  | failed (visit : Visit) (why : String)
  | redirected (visit : Visit) (next : Journey)

namespace Journey

def first : Journey → Visit
  | .answered visit => visit
  | .failed visit _ => visit
  | .redirected visit _ => visit

/-- The host that was asked about. -/
def named (journey : Journey) : String := journey.first.host

/-- The certificates that are presented on the way, each with the host that does. -/
def presented : Journey → List (String × List UInt8)
  | .answered visit => visit.presented.toList.map (visit.host, ·)
  | .failed visit _ => visit.presented.toList.map (visit.host, ·)
  | .redirected visit next => visit.presented.toList.map (visit.host, ·) ++ next.presented

theorem mem_presented_first (journey : Journey) {cert : List UInt8}
    (shown : journey.first.presented = some cert) :
    (journey.named, cert) ∈ journey.presented := by
  have own : ∀ visit : Visit, visit.presented = some cert →
      (visit.host, cert) ∈ visit.presented.toList.map (visit.host, ·) := by
    intro visit shown
    rw [shown]
    exact List.mem_singleton.mpr rfl
  cases journey with
  | answered visit => exact own visit shown
  | failed visit why => exact own visit shown
  | redirected visit next => exact List.mem_append_left _ (own visit shown)

/-- There is an answer after no more than this number of redirects. -/
def Answered : Journey → Nat → Prop
  | .answered _, _ => True
  | .failed _ _, _ => False
  | .redirected _ _, 0 => False
  | .redirected _ next, more + 1 => next.Answered more

end Journey

section

variable [Sha256]

/-- Accepts everything and records what it saw. -/
structure CapturingVerifier where
  seen : Option String

namespace CapturingVerifier

def verifyServerCert (_ : CapturingVerifier) (endEntity : List UInt8) :
    Except String Unit × CapturingVerifier :=
  (.ok (), ⟨some (fingerprint endEntity)⟩)

def connect (verifier : CapturingVerifier) (visit : Visit) :
    Except String Unit × CapturingVerifier :=
  match visit.presented with
  | some cert => verifier.verifyServerCert cert
  | none => (.ok (), verifier)

/-- The exchange of a client for one request, and what its verifier has seen then. -/
def send (policy : Policy) (verifier : CapturingVerifier) (previous : Nat) :
    Journey → Except String Unit × CapturingVerifier
  | .answered visit => verifier.connect visit
  | .failed visit why =>
      match verifier.connect visit with
      | (.error refused, verifier) => (.error refused, verifier)
      | (.ok (), verifier) => (.error why, verifier)
  | .redirected visit next =>
      match verifier.connect visit with
      | (.error refused, verifier) => (.error refused, verifier)
      | (.ok (), verifier) =>
          match policy.redirect previous with
          | .follow => verifier.send policy (previous + 1) next
          | .stop => (.ok (), verifier)
          | .error why => (.error why, verifier)

end CapturingVerifier

/-- Opens a throwaway TLS connection and returns what the verifier has seen. -/
def probe (policy : Policy) (url : String) (built : Except String Unit) (journey : Journey) :
    Except String String :=
  match built with
  | .error why => .error s!"failed to build probe client: {why}"
  | .ok () =>
      match CapturingVerifier.send policy ⟨none⟩ 1 journey with
      | (.error why, _) => .error s!"could not open a TLS connection to {url}: {why}"
      | (.ok (), verifier) =>
          match verifier.seen with
          | some captured => .ok captured
          | none => .error "connection succeeded but no certificate was presented"

/-- The client of the probe is built with no redirect policy of its own. -/
def probeFingerprint (url : String) (built : Except String Unit) (journey : Journey) :
    Except String String :=
  probe .default url built journey

/-! ## What the verifier has seen -/

namespace CapturingVerifier

variable (verifier : CapturingVerifier)

theorem connect_eq (visit : Visit) :
    verifier.connect visit =
      (.ok (), ⟨(visit.presented.map fingerprint).or verifier.seen⟩) := by
  rw [connect]
  cases visit.presented with
  | none => rfl
  | some cert => rfl

/-- The fingerprint of the certificate that was presented last. -/
def latest (presented : List (String × List UInt8)) : Option String :=
  presented.getLast?.map fun shown => fingerprint shown.2

theorem latest_append (early late : List (String × List UInt8)) :
    latest (early ++ late) = (latest late).or (latest early) := by
  rw [latest, latest, latest, List.getLast?_append, Option.map_or]

theorem latest_visit (visit : Visit) :
    latest (visit.presented.toList.map (visit.host, ·)) = visit.presented.map fingerprint := by
  cases visit.presented with
  | none => rfl
  | some cert => rfl

/-- Each handshake takes the place of the one before. -/
theorem send_limited (max : Nat) (journey : Journey) (previous : Nat) :
    ((verifier.send (.limited max) previous journey).1 = .ok () ↔
      journey.Answered (max + 1 - previous)) ∧
    (journey.Answered (max + 1 - previous) →
      (verifier.send (.limited max) previous journey).2.seen =
        (latest journey.presented).or verifier.seen) := by
  induction journey generalizing verifier previous with
  | answered visit =>
      rw [send, connect_eq, Journey.presented, latest_visit]
      exact ⟨iff_of_true rfl trivial, fun _ => rfl⟩
  | failed visit why =>
      rw [send, connect_eq]
      exact ⟨iff_of_false (by simp) not_false, False.elim⟩
  | redirected visit next induction =>
      rw [send, connect_eq, Journey.presented, latest_append, latest_visit, Option.or_assoc]
      by_cases many : max < previous
      · have none : max + 1 - previous = 0 := by omega
        rw [none]
        simp only [Policy.redirect, if_pos many]
        exact ⟨iff_of_false (by simp) not_false, False.elim⟩
      · have one : max + 1 - previous = (max + 1 - (previous + 1)) + 1 := by omega
        rw [one]
        simp only [Policy.redirect, if_neg many]
        exact induction _ (previous + 1)

/-- Without redirects there is one handshake to see. -/
theorem send_none (journey : Journey) (previous : Nat) :
    (verifier.send .none previous journey).2.seen =
      (journey.first.presented.map fingerprint).or verifier.seen := by
  cases journey with
  | answered visit => rw [send, connect_eq, Journey.first]
  | failed visit why => rw [send, connect_eq, Journey.first]
  | redirected visit next => rw [send, connect_eq, Journey.first, Policy.redirect]

end CapturingVerifier

open CapturingVerifier (latest)

variable {url : String} {built : Except String Unit} {journey : Journey} {reported : String}

/-- What is reported is the certificate presented last. -/
theorem probeFingerprint_eq_ok :
    probeFingerprint url built journey = .ok reported ↔
      (built = .ok () ∧ journey.Answered 10) ∧ latest journey.presented = some reported := by
  rcases CapturingVerifier.send_limited ⟨none⟩ 10 journey 1 with ⟨answers, sees⟩
  rcases built with why | ⟨⟩
  · exact iff_of_false (fun reports => nomatch reports) (by simp)
  rw [probeFingerprint, Policy.default]
  rcases sent : CapturingVerifier.send (.limited 10) ⟨none⟩ 1 journey with ⟨outcome, ⟨seen⟩⟩
  rw [sent] at answers sees
  simp only [probe, sent]
  rcases outcome with why | ⟨⟩
  · exact iff_of_false (by simp) fun both => nomatch answers.mpr both.1.2
  · have answered := answers.mp rfl
    have last : seen = latest journey.presented := (sees answered).trans Option.or_none
    rw [← last, and_iff_right ⟨trivial, answered⟩]
    cases seen with
    | none => exact iff_of_false (by simp) (by simp)
    | some captured => rw [Except.ok.injEq, Option.some.injEq]

/-- A fingerprint of a certificate that the named host presented. -/
def Journey.Presents (journey : Journey) (reported : String) : Prop :=
  ∃ shown ∈ journey.presented, shown.1 = journey.named ∧ fingerprint shown.2 = reported

/-- A report is about the named host exactly when no other host's certificate comes
last on the way to an answer. -/
theorem reports_named_iff (url : String) (built : Except String Unit) (journey : Journey) :
    (∀ reported, probeFingerprint url built journey = .ok reported →
        journey.Presents reported) ↔
      (built = .ok () → journey.Answered 10 →
        ∀ last ∈ journey.presented.getLast?, journey.Presents (fingerprint last.2)) := by
  simp only [probeFingerprint_eq_ok, latest, Option.map_eq_some_iff, Option.mem_def]
  constructor
  · exact fun reports isBuilt answered last is => reports _ ⟨⟨isBuilt, answered⟩, last, is, rfl⟩
  · rintro stays reported ⟨⟨isBuilt, answered⟩, last, is, rfl⟩
    exact stays isBuilt answered last is

/-- A client that follows no redirect, as the one towards the controller, sees no
certificate but the named host's. -/
theorem probe_none_presents (reports : probe .none url built journey = .ok reported) :
    journey.Presents reported := by
  have sees := CapturingVerifier.send_none ⟨none⟩ journey 1
  rcases built with why | ⟨⟩
  · cases reports
  rcases sent : CapturingVerifier.send .none ⟨none⟩ 1 journey with ⟨outcome, ⟨seen⟩⟩
  rw [sent, Option.or_none] at sees
  simp only [probe, sent] at reports
  rcases outcome with why | ⟨⟩
  · cases reports
  cases seen with
  | none => cases reports
  | some captured =>
      cases reports
      rcases Option.map_eq_some_iff.mp sees.symm with ⟨cert, shown, same⟩
      exact ⟨(journey.named, cert), journey.mem_presented_first shown, rfl, same⟩

end

section

/-- A digest that tells two certificates apart. -/
local instance told : Sha256 where
  digest cert := Vector.replicate 32 (if cert = [1] then 0xA1 else 0xB2)

/-- The console sends the client on to another host, which answers. -/
def bounced : Journey :=
  .redirected ⟨"192.168.1.1", some [1]⟩ (.answered ⟨"unifi.ui.com", some [2]⟩)

theorem bounced_misreports :
    ¬ ∀ reported, probeFingerprint "https://192.168.1.1/" (.ok ()) bounced = .ok reported →
      bounced.Presents reported := by
  intro reports
  rcases reports (pin (Vector.replicate 32 0xB2)) (by decide +kernel) with
    ⟨shown, member, own, same⟩
  rcases List.mem_cons.mp member with rfl | member
  · exact absurd same (by decide +kernel)
  · rw [List.mem_singleton.mp member] at own
    exact absurd own (by decide)

end

end VoucherProxy.Tls
