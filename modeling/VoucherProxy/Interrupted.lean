import VoucherProxy.SiteFilter

namespace VoucherProxy

/-! What a caller is told when the exchange with the controller breaks off. -/

/-- How far an exchange with the controller comes. -/
inductive Exchange
  /-- It breaks before there is a status. -/
  | unanswered (error : TransportError)
  /-- It breaks behind these bytes of the body. -/
  | broken (status : StatusCode) (arrived : List UInt8)
  | whole (status : StatusCode) (text : String)

namespace Exchange

/-- What the HTTP client makes of it: a body that breaks off cannot be read. -/
def reply : Exchange → Reply
  | .unanswered error => .failed error
  | .broken status _ => .answered status none
  | .whole status text => .answered status (some text)

def Interrupted : Exchange → Prop
  | .unanswered _ | .broken _ _ => True
  | .whole _ _ => False

/-- A success status and the complete body were received. -/
def Succeeded : Exchange → Prop
  | .whole status _ => status.isSuccess = true
  | .unanswered _ | .broken _ _ => False

/-- Behind a success status, the body breaks off. -/
def LosesBody : Exchange → Prop
  | .broken status _ => status.isSuccess = true
  | .unanswered _ | .whole _ _ => False

end Exchange

/-- A result that reports an exchange for what it was. -/
structure Honest {ε α : Type} (exchange : Exchange) (result : Except ε α) : Prop where
  failed : exchange.Interrupted → ∃ why, result = .error why
  succeeded : ∀ value, result = .ok value → exchange.Succeeded

theorem honest_of_error {ε α : Type} (exchange : Exchange) (why : ε) :
    Honest exchange (.error why : Except ε α) where
  failed := fun _ => ⟨why, rfl⟩
  succeeded := by
    intro value same
    cases same

theorem honest_ok_iff {ε α : Type} {exchange : Exchange} {value : α} :
    Honest exchange (.ok value : Except ε α) ↔ exchange.Succeeded := by
  constructor
  · exact fun honest => honest.succeeded value rfl
  · intro succeeded
    refine ⟨fun interrupted => ?_, fun _ _ => succeeded⟩
    cases exchange with
    | whole status text => exact interrupted.elim
    | _ => exact succeeded.elim

/-- How an error is shown makes no difference. -/
theorem honest_mapError_iff {ε δ α : Type} {exchange : Exchange} {result : Except ε α}
    {shown : ε → δ} : Honest exchange (result.mapError shown) ↔ Honest exchange result := by
  cases result with
  | error why => exact iff_of_true (honest_of_error exchange _) (honest_of_error exchange why)
  | ok value => exact honest_ok_iff.trans honest_ok_iff.symm

section

variable [Crates]

/-- Whether an answer is a success is read off its status alone. -/
theorem interpret_answered_cases (status : StatusCode) (read : Option String) :
    (status.isSuccess = true ∧ ∃ json, (Reply.answered status read).interpret = .ok json) ∨
      (status.isSuccess = false ∧ ∃ why, (Reply.answered status read).interpret = .error why) := by
  cases success : status.isSuccess with
  | true => exact .inl ⟨rfl, _, if_pos success⟩
  | false => exact .inr ⟨rfl, _, if_neg (Bool.eq_false_iff.mp success)⟩

/-- The reading of an exchange reports it for what it was, unless a body was lost
behind a success status. -/
theorem honest_answer_iff {α : Type} (operation : Operation α) (exchange : Exchange) :
    Honest exchange (operation.answer exchange.reply.interpret) ↔ ¬ exchange.LosesBody := by
  cases exchange with
  | unanswered error => exact iff_of_true (honest_of_error _ _) not_false
  | broken status arrived =>
      rcases interpret_answered_cases status none with
        ⟨success, json, read⟩ | ⟨failure, why, read⟩
      · rw [Exchange.reply, read]
        exact honest_ok_iff.trans (iff_of_false not_false (not_not_intro success))
      · rw [Exchange.reply, read]
        exact iff_of_true (honest_of_error _ _) (Bool.eq_false_iff.mp failure)
  | whole status text =>
      rcases interpret_answered_cases status (some text) with
        ⟨success, json, read⟩ | ⟨failure, why, read⟩
      · rw [Exchange.reply, read]
        exact honest_ok_iff.trans (iff_of_true success not_false)
      · rw [Exchange.reply, read]
        exact iff_of_true (honest_of_error _ _) not_false

/-- A finished call of the controller, on either surface, is reported for what it
was exactly when no body was lost behind a success status. -/
theorem honest_iff (exchange : Exchange) :
    (∀ (operation : Operation Json) (caller : Caller) (events : History)
      (result : Except ProxyError Json) (sent : UpstreamRequest),
      (operation.handle caller).Trace events (.pure result) →
        exchanges events = [(sent, exchange.reply)] →
          (Honest exchange result ↔ ¬ exchange.LosesBody)) ∧
    ∀ (operation : Operation FieldValue) (caller : Caller) (events : History)
      (result : Except GqlError FieldValue) (sent : UpstreamRequest),
      (GraphQl.resolve caller operation).Trace events (.pure result) →
        exchanges events = [(sent, exchange.reply)] →
          (Honest exchange result ↔ ¬ exchange.LosesBody) := by
  have answered : ∀ {α : Type} {operation : Operation α} {events : History}
      {result : Except ProxyError α} {sent : UpstreamRequest},
      Answered operation events result → exchanges events = [(sent, exchange.reply)] →
        (Honest exchange result ↔ ¬ exchange.LosesBody) := by
    rintro α operation events result sent (⟨nothing, -⟩ | ⟨own, reply, only, rfl⟩) exchanged
    · rw [nothing] at exchanged
      cases exchanged
    · rw [only] at exchanged
      cases exchanged
      exact honest_answer_iff operation exchange
  constructor
  · intro operation caller events result sent trace exchanged
    exact answered (handled_of_trace trace).answered exchanged
  · intro operation caller events result sent trace exchanged
    rcases (GraphQl.ended_of_trace trace).answered with ⟨own, ended, rfl⟩
    rw [honest_mapError_iff]
    exact answered ended exchanged

end

section

open Sample Surfaces

/-- A success whose body breaks off behind its first byte. -/
def cutShort : Exchange := .broken .ok [0x7B]

/-- What a call by the reception does when its answer is cut short. -/
def cutCall {α : Type} (call : Call α) : Completed Effect Answer AppState α :=
  alone call (fun _ => { outside with reply := cutShort.reply }) state

def lostListing : Call (Except ProxyError Json) :=
  (Routes.listVouchers "main").handle receptionCaller

def lostCreate : Call (Except GqlError FieldValue) :=
  GraphQl.resolve receptionCaller
    (GraphQl.createVouchers receptionCaller "main" guestArguments.input)

/-- The JSON of a lost body is `null`. -/
theorem interpret_cutShort : cutShort.reply.interpret = .ok .null := rfl

theorem answer_of_cutShort {α : Type} {operation : Operation α} {events : History}
    {result : Except ProxyError α} (answered : Answered operation events result)
    (replies : (exchanges events).map Prod.snd = [cutShort.reply]) :
    result = .ok (operation.view .null) := by
  rcases answered with ⟨nothing, -⟩ | ⟨sent, reply, only, rfl⟩
  · rw [nothing] at replies
    cases replies
  · have own : reply = cutShort.reply := by
      rw [only] at replies
      exact (List.cons.inj replies).1
    rw [own, interpret_cutShort]
    rfl

theorem replies_lostListing :
    (exchanges (cutCall lostListing).events).map Prod.snd = [cutShort.reply] := by
  decide +kernel

theorem replies_lostCreate :
    (exchanges (cutCall lostCreate).events).map Prod.snd = [cutShort.reply] := by
  decide +kernel

theorem lostListing_trace :
    lostListing.Trace (cutCall lostListing).events (.pure (.ok .null)) := by
  have listed := Program.complete_trace (fun effect state => AppState.exec state effect
    { outside with reply := cutShort.reply }) lostListing state
  rwa [answer_of_cutShort (handled_of_trace listed).answered replies_lostListing] at listed

theorem lostCreate_trace :
    lostCreate.Trace (cutCall lostCreate).events (.pure (.ok (.vouchers []))) := by
  have issued := Program.complete_trace (fun effect state => AppState.exec state effect
    { outside with reply := cutShort.reply }) lostCreate state
  rcases (GraphQl.ended_of_trace issued).answered with ⟨own, answered, shown⟩
  rwa [shown, answer_of_cutShort answered replies_lostCreate] at issued

theorem honest_iff_lost : ¬ Honest cutShort (.ok .null : Except ProxyError Json) := by
  rcases List.map_eq_singleton_iff.mp replies_lostListing with ⟨⟨sent, reply⟩, only, rfl⟩
  have honest := (honest_iff cutShort).1 _ _ _ _ sent lostListing_trace only
  exact fun reported => honest.mp reported rfl

/-- A listing that is cut short is answered with `null`, and vouchers that were
created with an empty list. -/
theorem lost_answers_succeed :
    (lostListing.Trace (cutCall lostListing).events (.pure (.ok .null)) ∧
      (exchanges (cutCall lostListing).events).map Prod.snd = [cutShort.reply]) ∧
    (lostCreate.Trace (cutCall lostCreate).events (.pure (.ok (.vouchers []))) ∧
      (exchanges (cutCall lostCreate).events).map Prod.snd = [cutShort.reply]) ∧
    cutShort.Interrupted :=
  ⟨⟨lostListing_trace, replies_lostListing⟩, ⟨lostCreate_trace, replies_lostCreate⟩, trivial⟩

end

end VoucherProxy
