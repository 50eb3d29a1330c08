import Mathlib
import EvalSession.Coordinator.Machine

/-!
# What a coordinator can do in one move

`Stage` lists every move of the machine with the state before and after it; `step_stage` is the only place where the
frames are run. What a message asks for is a `Notice`, so that the router is described without its variants.
-/
namespace EvalSession.Coordinator

variable {H X : Type}

section Fields

variable (c : Coordinator H X) (id : Option Int)

@[simp] lemma closeContext_killed : (c.closeContext id).killed = c.killed := by cases id <;> rfl
@[simp] lemma closeContext_draining : (c.closeContext id).draining = c.draining := by cases id <;> rfl
@[simp] lemma closeContext_tasks : (c.closeContext id).tasks = c.tasks := by cases id <;> rfl
@[simp] lemma closeContext_pending : (c.closeContext id).pending = c.pending := by cases id <;> rfl
@[simp] lemma closeContext_inFlight : (c.closeContext id).inFlight = c.inFlight := by cases id <;> rfl
@[simp] lemma closeContext_lastContext : (c.closeContext id).lastContext = c.lastContext := by cases id <;> rfl
@[simp] lemma closeContext_lastTask : (c.closeContext id).lastTask = c.lastTask := by cases id <;> rfl
@[simp] lemma closeContext_transform : (c.closeContext id).transform = c.transform := by cases id <;> rfl
@[simp] lemma closeContext_loopback : (c.closeContext id).loopback = c.loopback := by cases id <;> rfl

variable (t : Nat) (v : Value)

@[simp] lemma setCode_killed : (c.setCode t v).killed = c.killed := rfl
@[simp] lemma setCode_draining : (c.setCode t v).draining = c.draining := rfl
@[simp] lemma setCode_pending : (c.setCode t v).pending = c.pending := rfl
@[simp] lemma setCode_inFlight : (c.setCode t v).inFlight = c.inFlight := rfl
@[simp] lemma setCode_contexts : (c.setCode t v).contexts = c.contexts := rfl
@[simp] lemma setCode_lastContext : (c.setCode t v).lastContext = c.lastContext := rfl
@[simp] lemma setCode_lastTask : (c.setCode t v).lastTask = c.lastTask := rfl
@[simp] lemma setCode_transform : (c.setCode t v).transform = c.transform := rfl
@[simp] lemma setCode_loopback : (c.setCode t v).loopback = c.loopback := rfl

end Fields

/-- What a message has to tell the task it belongs to. -/
structure Notice where
  id : Option Int
  moment : Moment
  argument : Argument
  /-- It answers the request, and is no output on the way. -/
  reply : Bool
  /-- It ends the context. -/
  last : Bool
  deriving DecidableEq

def streamMoment : Channel → Moment
  | .stdout => .stdout
  | .stderr => .stderr

def replyMoment (variant : Variant) : Moment := if variant = .error then .error else .success

def noticeOf? : Message → Option Notice
  | .log _ => none
  | .stream id channel text => some ⟨id, streamMoment channel, .chunk text, false, false⟩
  | .reply variant id last payload => some ⟨id, replyMoment variant, .payload payload, true, last⟩

/-- The notice of a message that is decodable and no log entry. -/
def notice? (message : Value) : Option Notice :=
  match Message.decode message with
  | .ok m => noticeOf? m
  | .error _ => none

lemma reply_of_last {v : Value} {nt : Notice} (h : notice? v = some nt) (hl : nt.last = true) : nt.reply = true := by
  unfold notice? at h
  split at h
  · rename_i m _
    cases m <;> simp only [noticeOf?, Option.some.injEq, reduceCtorEq] at h <;> subst h <;> simp_all
  · simp at h

lemma last_of_output {v : Value} {nt : Notice} (h : notice? v = some nt) (hr : nt.reply = false) : nt.last = false := by
  by_contra hl
  simp [reply_of_last h (by simpa using hl)] at hr

def logs (entries : List Diagnostic) : List (Event H X) := entries.map .log

/-- No task is told anything by the message: it says nothing, finds no task, or is output that nobody listens to. -/
def Unheard (c : Coordinator H X) (message : Value) : Prop :=
  ∀ nt, notice? message = some nt → ∀ t, c.resolve nt.id = some t → nt.reply = false ∧ c.hookOf t nt.moment = none

def closing (nt : Notice) (t : Nat) : List (Frame H X) := if nt.last then [.close nt.id t] else []

/-- A fault reaches the top frame, from above or as the answer it waits for. -/
def Hit (fault : Option Fault) (move : Move H X) (f : Fault) : Prop :=
  fault = some f ∧ move = .tick ∨ fault = none ∧ move = .answer (.raised f)

/-- The moves that take the top frame off and leave the state as it is, with the fault and the events they leave. -/
inductive Leaves (c : Coordinator H X) :
    Option Fault → Move H X → Frame H X → Option Fault → List (Event H X) → Prop
  | nested (h : c.draining = true) : Leaves c none .tick .drain none []
  | refused {t id ps} (h : Request.make (c.actionOf t) (c.codeOf t) id = .error ps) :
      Leaves c none .tick (.send t id) (some (.badRequest ps)) (logs [.dispatching (c.actionOf t)])
  | undelivered {v} (h : c.loopback = .dropped) : Leaves c none .tick (.loop v) none (logs [.noLocalRoute])
  | observed {v} (h : c.loopback = .observer) : Leaves c none .tick (.loop v) none [.looped v]
  | stale {t} (h : c.inFlight ≠ some t) : Leaves c none .tick (.advance t) none []
  | unset {t moment argument} (h : c.hookOf t moment = none) :
      Leaves c none .tick (.call t moment argument) none []
  | returned {h argument} : Leaves c none (.answer .done) (.awaitHook h argument) none []
  | accepted {r} : Leaves c none (.answer .done) (.awaitSend r) none []
  | contained {fault move f h argument} (hf : Hit fault move f) (ho : f.ordinary = true) :
      Leaves c fault move (.awaitHook h argument) none [.raised h]
  | escaped {fault move f h argument} (hf : Hit fault move f) (ho : f.ordinary = false) :
      Leaves c fault move (.awaitHook h argument) (some f) [.escaped h f]
  | aborted {fault move f t id x code} (hf : Hit fault move f) (ho : f.ordinary = false) :
      Leaves c fault move (.awaitTransform t id x code) (some f) []
  | unsent {fault move f r} (hf : Hit fault move f) : Leaves c fault move (.awaitSend r) (some f) []
  | unwound {f g} (hg : g.waits = false) (hl : g ≠ .drainLoop) : Leaves c (some f) .tick g (some f) []

/-- Every move of a machine. -/
inductive Stage : Machine H X → Move H X → Machine H X → Prop
  | ignored {c : Coordinator H X} {task r es} (hk : c.killed = true) :
      Stage ⟨c, .submit task :: r, none, es⟩ .tick
        ⟨{ c with tasks := c.tasks ++ [task] }, r, none, logs [.ignored] ++ es⟩
  | taken {c : Coordinator H X} {task r es} (hk : c.killed = false) (hi : c.inFlight = none) :
      Stage ⟨c, .submit task :: r, none, es⟩ .tick
        ⟨{ c with tasks := c.tasks ++ [task], pending := c.pending ++ [c.tasks.length] }, .drain :: r, none,
          .submitted c.tasks.length task :: es⟩
  | queued {c : Coordinator H X} {task r es entry} (hk : c.killed = false) (hi : c.inFlight ≠ none) :
      Stage ⟨c, .submit task :: r, none, es⟩ .tick
        ⟨{ c with tasks := c.tasks ++ [task], pending := c.pending ++ [c.tasks.length] }, r, none,
          logs [entry] ++ .submitted c.tasks.length task :: es⟩
  | draining {c : Coordinator H X} {r es} (hd : c.draining = false) :
      Stage ⟨c, .drain :: r, none, es⟩ .tick ⟨{ c with draining := true }, .drainLoop :: r, none, es⟩
  | next {c : Coordinator H X} {t p r es} (hk : c.killed = false) (hi : c.inFlight = none) (hp : c.pending = t :: p) :
      Stage ⟨c, .drainLoop :: r, none, es⟩ .tick
        ⟨{ c with pending := p }, .dispatch t :: .drainLoop :: r, none, es⟩
  | drained {c : Coordinator H X} {r es} (h : c.killed = true ∨ c.inFlight ≠ none ∨ c.pending = []) :
      Stage ⟨c, .drainLoop :: r, none, es⟩ .tick ⟨{ c with draining := false }, r, none, es⟩
  | opened {c : Coordinator H X} {t r es} :
      Stage ⟨c, .dispatch t :: r, none, es⟩ .tick
        ⟨c.openContext t, .call t .beforeRun .nothing :: .prepare t (c.lastContext + 1) :: r, none,
          .opened t (c.lastContext + 1) :: es⟩
  | asked {c : Coordinator H X} {t id x r es} (ha : c.actionOf t = .run) (hx : c.transform = some x) :
      Stage ⟨c, .prepare t id :: r, none, es⟩ .tick
        ⟨c, .awaitTransform t id x (c.codeOf t) :: r, none,
          .transforming x (c.codeOf t) :: .ready id (some x) :: es⟩
  | verbatim {c : Coordinator H X} {t id r es} (h : c.actionOf t = .run → c.transform = none) :
      Stage ⟨c, .prepare t id :: r, none, es⟩ .tick ⟨c, .send t id :: r, none, .ready id c.transform :: es⟩
  | transformed {c : Coordinator H X} {t id x code v r es} :
      Stage ⟨c, .awaitTransform t id x code :: r, none, es⟩ (.answer (.code v))
        ⟨c.setCode t v, .send t id :: r, none, logs [.transformed] ++ .transformed id v :: es⟩
  | failed {c : Coordinator H X} {fault move f t id x code r es} (hf : Hit fault move f) (ho : f.ordinary = true) :
      Stage ⟨c, .awaitTransform t id x code :: r, fault, es⟩ move
        ⟨c, .loop (errorReply id f) :: r, none, logs [.transformFailed id f.form] ++ es⟩
  | sent {c : Coordinator H X} {t id request r es}
      (h : Request.make (c.actionOf t) (c.codeOf t) id = .ok request) :
      Stage ⟨c, .send t id :: r, none, es⟩ .tick
        ⟨c, .awaitSend request :: r, none, .sent request :: (logs [.dispatching (c.actionOf t)] ++ es)⟩
  | looped {c : Coordinator H X} {v r es} (h : c.loopback = .router) :
      Stage ⟨c, .loop v :: r, none, es⟩ .tick ⟨c, .route v :: r, none, es⟩
  | unheard {c : Coordinator H X} {v r es entries} (h : Unheard c v) :
      Stage ⟨c, .route v :: r, none, es⟩ .tick ⟨c, r, none, logs entries ++ .routed v :: es⟩
  | output {c : Coordinator H X} {v nt t r es entries} (hn : notice? v = some nt) (ht : c.resolve nt.id = some t)
      (hr : nt.reply = false) (hh : c.hookOf t nt.moment ≠ none) :
      Stage ⟨c, .route v :: r, none, es⟩ .tick
        ⟨c, .call t nt.moment nt.argument :: r, none, logs entries ++ .routed v :: es⟩
  | answered {c : Coordinator H X} {v nt t r es entries} (hn : notice? v = some nt) (ht : c.resolve nt.id = some t)
      (hr : nt.reply = true) :
      Stage ⟨c, .route v :: r, none, es⟩ .tick
        ⟨c, .call t nt.moment nt.argument :: (closing nt t ++ .advance t :: r), none,
          logs entries ++ .routed v :: es⟩
  | closed {c : Coordinator H X} {id t r es} :
      Stage ⟨c, .close id t :: r, none, es⟩ .tick
        ⟨c.closeContext id, .call t .afterRun .nothing :: r, none, .closed t id :: (logs [.contextEnded] ++ es)⟩
  | freed {c : Coordinator H X} {t r es} (hi : c.inFlight = some t) :
      Stage ⟨c, .advance t :: r, none, es⟩ .tick ⟨{ c with inFlight := none }, .drain :: r, none, es⟩
  | called {c : Coordinator H X} {t moment argument h r es} (hh : c.hookOf t moment = some h) :
      Stage ⟨c, .call t moment argument :: r, none, es⟩ .tick
        ⟨c, .awaitHook h argument :: r, none, .called h argument :: .told t moment argument :: es⟩
  | killed {c : Coordinator H X} {r es entries} :
      Stage ⟨c, .kill :: r, none, es⟩ .tick ⟨{ c with killed := true, pending := [] }, r, none, logs entries ++ es⟩
  | assigned {c : Coordinator H X} {x r es} :
      Stage ⟨c, .assign x :: r, none, es⟩ .tick ⟨{ c with transform := x }, r, none, .assigned x :: es⟩
  | broken {c : Coordinator H X} {f r es} :
      Stage ⟨c, .drainLoop :: r, some f, es⟩ .tick ⟨{ c with draining := false }, r, some f, es⟩
  | left {c : Coordinator H X} {fault move f fault' quiet r es} (h : Leaves c fault move f fault' quiet) :
      Stage ⟨c, f :: r, fault, es⟩ move ⟨c, r, fault', quiet ++ es⟩
  | started {m : Machine H X} {operation : Operation H X} (h : m.open? = true) :
      Stage m (.start operation) (m.push operation.frame)
  | recovered {m : Machine H X} (h : m.suspended = true) : Stage m .recover { m with fault := none }

lemma resolveEvents_logs (c : Coordinator H X) (id : Option Int) :
    ∃ entries, (c.resolveEvents id : List (Event H X)) = logs entries := by
  unfold resolveEvents
  split
  · exact ⟨[], rfl⟩
  · exact ⟨[.missingContext id], rfl⟩

def heard (c : Coordinator H X) (message : Value) : List (Frame H X) :=
  match notice? message with
  | none => []
  | some nt =>
    match c.resolve nt.id with
    | none => []
    | some t =>
      if nt.reply then .call t nt.moment nt.argument :: (closing nt t ++ [.advance t])
      else if (c.hookOf t nt.moment).isSome then [.call t nt.moment nt.argument] else []

lemma routeTurn_eq (c : Coordinator H X) (v : Value) :
    ∃ entries, routeTurn c v = { state := c, frames := heard c v, events := .routed v :: logs entries } := by
  cases hd : Message.decode v with
  | error e => exact ⟨[.undecodable e], by simp [routeTurn, heard, notice?, hd, logs]⟩
  | ok m =>
    cases m with
    | log text => exact ⟨[.workerLog], by simp [routeTurn, heard, notice?, noticeOf?, hd, logs]⟩
    | stream id channel text =>
      obtain ⟨entries, he⟩ := resolveEvents_logs c id
      cases ht : c.resolve id with
      | none =>
        refine ⟨entries ++ [.noTask], ?_⟩
        simp [routeTurn, heard, notice?, noticeOf?, hd, ht, he, logs]
      | some t =>
        cases hh : c.hookOf t (streamMoment channel) with
        | none =>
          refine ⟨entries ++ [.missingStream channel], ?_⟩
          cases channel <;> simp_all [routeTurn, streamTurn, heard, notice?, noticeOf?, streamMoment, logs]
        | some h =>
          refine ⟨entries, ?_⟩
          cases channel <;> simp_all [routeTurn, streamTurn, heard, notice?, noticeOf?, streamMoment]
    | reply variant id last payload =>
      obtain ⟨entries, he⟩ := resolveEvents_logs c id
      cases ht : c.resolve id with
      | none =>
        refine ⟨entries ++ [.noTask], ?_⟩
        simp [routeTurn, heard, notice?, noticeOf?, hd, ht, he, logs]
      | some t =>
        cases hh : c.hookOf t (replyMoment variant) with
        | none =>
          refine ⟨entries ++ [.missingHook (replyMoment variant)], ?_⟩
          simp_all [routeTurn, replyTurn, heard, notice?, noticeOf?, replyMoment, closing, logs]
        | some h =>
          refine ⟨entries, ?_⟩
          simp_all [routeTurn, replyTurn, heard, notice?, noticeOf?, replyMoment, closing]

lemma route_stage (c : Coordinator H X) (v : Value) (r : List (Frame H X)) (entries : List Diagnostic)
    (es : List (Event H X)) :
    Stage ⟨c, .route v :: r, none, es⟩ .tick ⟨c, heard c v ++ r, none, logs entries ++ .routed v :: es⟩ := by
  cases hn : notice? v with
  | none => simpa [heard, hn] using Stage.unheard (by simp [Unheard, hn])
  | some nt =>
    cases ht : c.resolve nt.id with
    | none => simpa [heard, hn, ht] using Stage.unheard (by simp [Unheard, hn, ht])
    | some t =>
      cases hr : nt.reply with
      | true => simpa [heard, hn, ht, hr] using Stage.answered hn ht hr
      | false =>
        cases hh : c.hookOf t nt.moment with
        | none => simpa [heard, hn, ht, hr, hh] using Stage.unheard (by simp [Unheard, hn, ht, hr, hh])
        | some h => simpa [heard, hn, ht, hr, hh] using Stage.output hn ht hr (by simp [hh])

lemma tick_stage {c : Coordinator H X} {f : Frame H X} {r : List (Frame H X)} {es : List (Event H X)} {t : Turn H X}
    (h : f.tick c = some t) :
    Stage ⟨c, f :: r, none, es⟩ .tick ⟨t.state, t.frames ++ r, t.fault, t.events.reverse ++ es⟩ := by
  cases f with
  | awaitTransform => simp [Frame.tick] at h
  | awaitSend => simp [Frame.tick] at h
  | awaitHook => simp [Frame.tick] at h
  | submit task =>
    simp only [Frame.tick, Option.some.injEq, submitTurn] at h
    subst h
    cases hk : c.killed with
    | true => simpa [hk, logs] using Stage.ignored hk
    | false =>
      cases hi : c.inFlight with
      | none => simpa [hk, hi] using Stage.taken hk hi
      | some u => simpa [hk, hi, logs] using Stage.queued hk (by simp [hi])
  | drain =>
    simp only [Frame.tick, Option.some.injEq] at h
    subst h
    cases hd : c.draining with
    | true => simpa [hd] using Stage.left (.nested hd)
    | false => simpa [hd] using Stage.draining hd
  | drainLoop =>
    simp only [Frame.tick, Option.some.injEq, drainLoopTurn] at h
    subst h
    split
    · rename_i hi hp hk
      simpa using Stage.next hk hi hp
    · rename_i hn
      refine Stage.drained ?_
      by_contra hc
      simp only [not_or, ne_eq, not_not, Bool.not_eq_true] at hc
      obtain ⟨hk, hi, hp⟩ := hc
      obtain ⟨u, rest, hu⟩ := List.exists_cons_of_ne_nil hp
      exact hn u rest hi hu hk
  | dispatch t =>
    simp only [Frame.tick, Option.some.injEq, dispatchTurn] at h
    subst h
    simpa [openContext] using Stage.opened
  | prepare t id =>
    simp only [Frame.tick, Option.some.injEq, prepareTurn] at h
    subst h
    split
    · rename_i x ha hx
      simpa using Stage.asked ha hx
    · rename_i hn
      simpa using Stage.verbatim fun ha => Option.eq_none_iff_forall_ne_some.mpr fun x hx => hn x ha hx
  | send t id =>
    simp only [Frame.tick, Option.some.injEq, sendTurn] at h
    subst h
    split
    · rename_i ps hp
      simpa [logs] using Stage.left (.refused hp)
    · rename_i request hr
      simpa [logs] using Stage.sent hr
  | loop v =>
    simp only [Frame.tick, Option.some.injEq, loopTurn] at h
    subst h
    split
    · rename_i hl
      simpa [logs] using Stage.left (.undelivered hl)
    · rename_i hl
      simpa using Stage.looped hl
    · rename_i hl
      simpa using Stage.left (.observed hl)
  | route v =>
    simp only [Frame.tick, Option.some.injEq] at h
    subst h
    obtain ⟨entries, he⟩ := routeTurn_eq c v
    have := route_stage c v r entries.reverse es
    simpa [he, logs] using this
  | close id t =>
    simp only [Frame.tick, Option.some.injEq, closeTurn] at h
    subst h
    simpa [logs] using Stage.closed
  | advance t =>
    simp only [Frame.tick, Option.some.injEq, advanceTurn] at h
    subst h
    by_cases hi : c.inFlight = some t
    · simpa [hi] using Stage.freed hi
    · simpa [hi] using Stage.left (.stale hi)
  | call t moment argument =>
    simp only [Frame.tick, Option.some.injEq, callTurn] at h
    subst h
    cases hh : c.hookOf t moment with
    | none => simpa [hh] using Stage.left (.unset hh)
    | some h => simpa [hh] using Stage.called hh
  | kill =>
    simp only [Frame.tick, Option.some.injEq, killTurn] at h
    subst h
    have hstage : ∀ entries, Stage ⟨c, .kill :: r, none, es⟩ .tick
        ⟨{ c with killed := true, pending := [] }, r, none, logs entries ++ es⟩ := fun _ => .killed
    by_cases hp : c.pending = []
    · simpa [hp, logs] using hstage []
    · simpa [hp, logs] using hstage [.discarded c.pending.length]
  | assign x =>
    simp only [Frame.tick, Option.some.injEq] at h
    subst h
    simpa using Stage.assigned

lemma unwind_stage (c : Coordinator H X) (e : Fault) (f : Frame H X) (r : List (Frame H X)) (es : List (Event H X)) :
    Stage ⟨c, f :: r, some e, es⟩ .tick
      ⟨(f.unwind c e).state, (f.unwind c e).frames ++ r, (f.unwind c e).fault, (f.unwind c e).events.reverse ++ es⟩ := by
  have hit : Hit (some e) (.tick : Move H X) e := .inl ⟨rfl, rfl⟩
  cases f with
  | drainLoop => simpa [Frame.unwind] using Stage.broken
  | awaitHook h argument =>
    cases ho : e.ordinary with
    | true => simpa [Frame.unwind, Frame.hookFailed, ho] using Stage.left (.contained hit ho)
    | false => simpa [Frame.unwind, Frame.hookFailed, ho] using Stage.left (.escaped hit ho)
  | awaitTransform t id x code =>
    cases ho : e.ordinary with
    | true => simpa [Frame.unwind, Frame.transformFailed, ho, logs] using Stage.failed hit ho
    | false => simpa [Frame.unwind, Frame.transformFailed, ho] using Stage.left (.aborted hit ho)
  | awaitSend request => simpa [Frame.unwind] using Stage.left (.unsent hit)
  | _ => exact Stage.left (.unwound rfl (by simp))

lemma answer_stage {c : Coordinator H X} {f : Frame H X} {a : Answer} {r : List (Frame H X)} {es : List (Event H X)}
    {t : Turn H X} (h : f.answer c a = some t) :
    Stage ⟨c, f :: r, none, es⟩ (.answer a) ⟨t.state, t.frames ++ r, t.fault, t.events.reverse ++ es⟩ := by
  have hit : ∀ e, Hit none (.answer (.raised e) : Move H X) e := fun e => .inr ⟨rfl, rfl⟩
  unfold Frame.answer at h
  split at h <;> simp only [Option.some.injEq, reduceCtorEq] at h <;> subst h
  · exact Stage.left .returned
  · exact Stage.left .accepted
  · simpa [logs] using Stage.transformed
  · rename_i e
    cases ho : e.ordinary with
    | true => simpa [Frame.hookFailed, ho] using Stage.left (.contained (hit e) ho)
    | false => simpa [Frame.hookFailed, ho] using Stage.left (.escaped (hit e) ho)
  · rename_i e
    exact Stage.left (.unsent (hit e))
  · rename_i e
    cases ho : e.ordinary with
    | true => simpa [Frame.transformFailed, ho, logs] using Stage.failed (hit e) ho
    | false => simpa [Frame.transformFailed, ho] using Stage.left (.aborted (hit e) ho)

theorem step_stage {m n : Machine H X} {move : Move H X} (h : m.step move = some n) : Stage m move n := by
  obtain ⟨c, stack, fault, es⟩ := m
  cases move with
  | start operation =>
    simp only [Machine.step, Option.ite_none_right_eq_some, Option.some.injEq] at h
    obtain ⟨ho, rfl⟩ := h
    exact .started ho
  | recover =>
    simp only [Machine.step, Bool.and_eq_true, Option.ite_none_right_eq_some, Option.some.injEq] at h
    obtain ⟨⟨hs, _⟩, rfl⟩ := h
    exact .recovered hs
  | tick =>
    cases stack with
    | nil => simp [Machine.step, Machine.tick] at h
    | cons f r =>
      cases fault with
      | none =>
        simp only [Machine.step, Machine.tick, Option.map_eq_some_iff] at h
        obtain ⟨t, ht, rfl⟩ := h
        exact tick_stage ht
      | some e =>
        simp only [Machine.step, Machine.tick, Option.some.injEq] at h
        subst h
        exact unwind_stage c e f r es
  | answer a =>
    cases stack with
    | nil => simp [Machine.step, Machine.answer] at h
    | cons f r =>
      cases fault with
      | none =>
        simp only [Machine.step, Machine.answer, Option.map_eq_some_iff] at h
        obtain ⟨t, ht, rfl⟩ := h
        exact answer_stage ht
      | some e => simp [Machine.step, Machine.answer] at h

end EvalSession.Coordinator
