import EvalSession.Proofs.Kernel.Notes
import EvalSession.Proofs.Object

/-!
# Payloads of terminal messages

A reply whose fields have the types of the messaging protocol gives a payload, unless it holds the result of a query that nests
deeper than the readers go (`replyPayload_fits`). No payload touches the envelope.
-/
namespace EvalSession.Kernel

def outcome? (reply : Object) : Option Object :=
  ((reply.get? "user_expressions").getD (.object [])).object?.bind fun expressions =>
    ((expressions.get? resultKey).getD (.object [])).object?

def written? (outcome : Object) : Option String :=
  (outcome.get? "data").bind fun data => data.object?.bind fun data => (data.get? "text/plain").bind Value.text?

def resultOverrun? (depths : Depths) (outcome : Object) : Option Overrun :=
  (written? outcome).bind fun written =>
    match Literal.readJson depths written.toList with
    | .ok _ => none
    | .error f => f.overrun?

/-- What a reader was about to go into when it could go no deeper in the reply to a query. -/
def overrun? (depths : Depths) (action : Action) (reply : Object) : Option Overrun :=
  if action ≠ .run ∧ isStatus reply "ok" = true then
    (outcome? reply).bind fun outcome => if isStatus outcome "ok" then resultOverrun? depths outcome else none
  else none

/-- The payload of a terminal message says nothing of its envelope. -/
def Bare (payload : Object) : Prop := ∀ f ∈ payload, f.1 ≠ "id" ∧ f.1 ≠ "end"

variable {depths : Depths} {action : Action} {mime payload reply result o : Object} {overrun : Overrun}

lemma isStatus_ok_ne_aborted (h : isStatus o "ok" = true) : isStatus o "aborted" = false := by
  simp only [isStatus, beq_iff_eq] at h
  simp [isStatus, h]

lemma replyPayload_object (depths : Depths) (action : Action) (mime reply : Object) :
    replyPayload depths action mime (.object reply) =
      if isStatus reply "aborted" then .ok (namedError "Aborted" "Execution was aborted")
      else if isStatus reply "ok" then
        if action = .run then .ok [("mime", .object mime)] else queryReply depths action reply
      else Fault.expected (describedError reply) := by
  have hobject : (if (Value.object reply).isVacant then Value.object [] else .object reply).object? = some reply := by
    cases reply <;> rfl
  rw [replyPayload, hobject]
  rfl

lemma queryReply_eq (depths : Depths) (action : Action) (reply : Object) :
    queryReply depths action reply = (Fault.expected (outcome? reply)).bind fun outcome =>
      if isStatus outcome "ok" then
        match readResult depths outcome with
        | .ok v => .ok (queryPayload action v)
        | .error (.answered payload) => .ok payload
        | .error (.overrun o) => .error (.tooDeep o)
      else Fault.expected (describedError outcome) := rfl

lemma expected_eq_ok {α : Type} {x : Option α} {a : α} (h : Fault.expected x = .ok a) : x = some a := by
  cases x with
  | none => cases h
  | some b =>
    cases h
    rfl

lemma bind_eq_ok {α β : Type} {x : Except Fault α} {f : α → Except Fault β} {b : β} (h : x.bind f = .ok b) :
    ∃ a, x = .ok a ∧ f a = .ok b := by
  cases x with
  | error e => cases h
  | ok a => exact ⟨a, rfl, h⟩

lemma expected_ordinary {α : Type} {x : Option α} {f : Fault} (h : Fault.expected x = .error f) : f.ordinary = true := by
  cases x with
  | none =>
    cases h
    rfl
  | some a => cases h

lemma bind_ordinary {α β : Type} {x : Except Fault α} {k : α → Except Fault β}
    (hx : ∀ f, x = .error f → f.ordinary = true) (hk : ∀ a f, k a = .error f → f.ordinary = true) :
    ∀ f, x.bind k = .error f → f.ordinary = true := by
  cases x with
  | error e =>
    intro f h
    cases h
    exact hx _ rfl
  | ok a => exact hk a

lemma queryReply_ordinary (f : Fault) : queryReply depths action reply = .error f → f.ordinary = true := by
  rw [queryReply_eq]
  refine bind_ordinary (fun _ => expected_ordinary) (fun outcome f h => ?_) f
  split at h
  · split at h
    · cases h
    · cases h
    · cases h
      rfl
  · exact expected_ordinary h

/-- No payload fails with a fault that is never contained. -/
lemma replyPayload_ordinary {reply : Value} (f : Fault) :
    replyPayload depths action mime reply = .error f → f.ordinary = true := by
  refine bind_ordinary (fun _ => expected_ordinary) (fun fields f h => ?_) f
  split at h
  · cases h
  split at h
  · split at h
    · cases h
    · exact queryReply_ordinary f h
  · exact expected_ordinary h

lemma describedError_bare (h : describedError o = some payload) : Bare payload := by
  obtain ⟨traceback, -, rfl⟩ := Option.map_eq_some_iff.mp h
  simp [Bare, errorPayload]

lemma readResult_bare (h : readResult depths result = .error (.answered payload)) : Bare payload := by
  unfold readResult at h
  repeat' split at h
  all_goals
    cases h
    try simp [Bare, unreadable, namedError, errorPayload]

lemma queryPayload_bare (action : Action) (v : Value) : Bare (queryPayload action v) := by
  unfold queryPayload
  repeat' split
  all_goals simp [Bare, namedError, errorPayload]

lemma queryReply_bare (h : queryReply depths action reply = .ok payload) : Bare payload := by
  rw [queryReply_eq] at h
  obtain ⟨outcome, -, h⟩ := bind_eq_ok h
  split at h
  · split at h
    · cases h
      exact queryPayload_bare _ _
    · rename_i hread
      cases h
      exact readResult_bare hread
    · cases h
  · exact describedError_bare (expected_eq_ok h)

lemma replyPayload_bare {reply : Value} (h : replyPayload depths action mime reply = .ok payload) : Bare payload := by
  obtain ⟨fields, -, h⟩ := bind_eq_ok h
  split at h
  · cases h
    simp [Bare, namedError, errorPayload]
  split at h
  · split at h
    · cases h
      simp [Bare]
    · exact queryReply_bare h
  · exact describedError_bare (expected_eq_ok h)

lemma describedError_fits (h : describes o = true) : ∃ payload, describedError o = some payload := by
  simp only [describes, Bool.and_eq_true, allows] at h
  unfold describedError
  cases ht : o.get? "traceback" with
  | none => exact ⟨_, rfl⟩
  | some v =>
    have hv := h.2
    rw [ht, Option.all_some] at hv
    cases v with
    | list items => exact ⟨_, rfl⟩
    | _ => simp [isTexts] at hv

lemma outcome_fits (h : allows reply "user_expressions" isOutcomes = true) :
    ∃ o, outcome? reply = some o ∧ describes o = true := by
  unfold outcome?
  cases he : reply.get? "user_expressions" with
  | none => exact ⟨[], rfl, rfl⟩
  | some v =>
    rw [allows, he, Option.all_some] at h
    cases v with
    | object expressions =>
      cases hr : Object.get? expressions resultKey with
      | none => exact ⟨[], by simp [Value.object?, hr], rfl⟩
      | some outcome =>
        obtain ⟨f, hf, rfl⟩ := Option.map_eq_some_iff.mp hr
        have hout := List.all_eq_true.mp h f (List.mem_of_find?_eq_some hf)
        cases hv : f.2 with
        | object o =>
          rw [hv] at hout hr
          simp only [isOutcome, Bool.and_eq_true] at hout
          exact ⟨o, by simp [Value.object?, hr], hout.1⟩
        | _ => simp [hv, isOutcome] at hout
    | _ => simp [isOutcomes] at h

lemma readResult_overrun (depths : Depths) (outcome : Object) (overrun : Overrun) :
    readResult depths outcome = .error (.overrun overrun) ↔ resultOverrun? depths outcome = some overrun := by
  unfold readResult resultOverrun? written?
  cases outcome.get? "data" with
  | none => simp
  | some data =>
    cases data with
    | object data =>
      cases ht : Object.get? data "text/plain" with
      | none => simp [Value.object?, ht]
      | some text =>
        cases text with
        | string written =>
          simp only [Value.object?, Option.bind_some, ht, Value.text?]
          cases Literal.readJson depths written.toList with
          | ok v => simp
          | error f => cases hf : f.overrun? <;> simp [hf]
        | _ => simp [Value.object?, ht, Value.text?]
    | _ => simp [Value.object?]

lemma queryReply_fits {outcome : Object} (ho : outcome? reply = some outcome) (hd : describes outcome = true)
    (depths : Depths) (action : Action) :
    match (if isStatus outcome "ok" then resultOverrun? depths outcome else none) with
    | none => ∃ payload, queryReply depths action reply = .ok payload
    | some o => queryReply depths action reply = .error (.tooDeep o) := by
  have hreply : queryReply depths action reply = _ := queryReply_eq depths action reply
  have hread := readResult_overrun depths outcome
  simp only [ho, Fault.expected, Except.bind] at hreply
  cases hs : isStatus outcome "ok" with
  | false =>
    obtain ⟨payload, hpayload⟩ := describedError_fits hd
    exact ⟨payload, by simp [hreply, hs, hpayload]⟩
  | true =>
    simp only [hs, if_true] at hreply ⊢
    cases hover : resultOverrun? depths outcome with
    | some o => simp [hreply, (hread o).mpr hover]
    | none =>
      cases hr : readResult depths outcome with
      | ok v => exact ⟨_, by rw [hreply, hr]⟩
      | error e =>
        cases e with
        | answered payload => exact ⟨payload, by rw [hreply, hr]⟩
        | overrun o => simp [(hread o).mp hr] at hover

/-- A reply whose fields have the right types gives a payload, unless the result in it nests too deep. -/
lemma replyPayload_fits (h : contentFits "execute_reply" reply = true) (depths : Depths) (action : Action) (mime : Object) :
    match overrun? depths action reply with
    | none => ∃ payload, replyPayload depths action mime (.object reply) = .ok payload
    | some o => replyPayload depths action mime (.object reply) = .error (.tooDeep o) := by
  obtain ⟨hdescribes, houtcomes⟩ : describes reply = true ∧ allows reply "user_expressions" isOutcomes = true := by
    simpa [contentFits] using h
  rw [replyPayload_object, overrun?]
  cases hok : isStatus reply "ok" with
  | false =>
    obtain ⟨error, herror⟩ := describedError_fits hdescribes
    cases isStatus reply "aborted" <;> simp [herror, Fault.expected]
  | true =>
    by_cases hrun : action = .run
    · simp [hrun, isStatus_ok_ne_aborted hok]
    · obtain ⟨outcome, houtcome, hd⟩ := outcome_fits houtcomes
      simpa [hrun, isStatus_ok_ne_aborted hok, houtcome] using queryReply_fits houtcome hd depths action

lemma replyPayload_overrun (h : contentFits "execute_reply" reply = true) (mime : Object)
    (ho : overrun? depths action reply = some overrun) :
    replyPayload depths action mime (.object reply) = .error (.tooDeep overrun) := by
  have hpayload := replyPayload_fits h depths action mime
  rwa [ho] at hpayload

end EvalSession.Kernel
