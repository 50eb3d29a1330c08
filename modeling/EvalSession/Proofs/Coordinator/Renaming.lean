import EvalSession.Coordinator.Frame
import Mathlib.Tactic.Lemma

/-!
# Hooks under other names

The coordinator hands hooks on and never looks into them, so it does the same whatever the hooks are called.
-/
namespace EvalSession

variable {H K X : Type}

def Task.map (ρ : H → K) (task : Task H) : Task K where
  action := task.action
  code := task.code
  hooks := task.hooks.map ρ

lemma modify_map {α β : Type} (φ : α → β) {g : α → α} {g' : β → β} (h : ∀ a, g' (φ a) = φ (g a)) (l : List α)
    (i : Nat) : (l.map φ).modify i g' = (l.modify i g).map φ := by
  induction l generalizing i with
  | nil => simp
  | cons a l ih =>
    cases i with
    | zero => simp [h]
    | succ i => simp [ih]

lemma Hooks.get_map (ρ : H → K) (hooks : Hooks H) (moment : Moment) :
    (hooks.map ρ).get moment = (hooks.get moment).map ρ := by
  cases moment <;> rfl

lemma Hooks.set_map (ρ : H → K) (hooks : Hooks H) (hook : Option H) (moment : Moment) :
    (hooks.set hook moment).map ρ = (hooks.map ρ).set (hook.map ρ) moment := by
  cases moment <;> rfl

lemma Hooks.override_map (ρ : H → K) (hooks : Hooks H) (changes : List (Moment × Option H)) :
    (hooks.override changes).map ρ = (hooks.map ρ).override (changes.map fun c => (c.1, c.2.map ρ)) := by
  induction changes generalizing hooks with
  | nil => rfl
  | cons c changes ih => exact (ih (hooks.set c.2 c.1)).trans (by rw [Hooks.set_map]; rfl)

lemma Task.build_map (ρ : H → K) (action : Action) (code : String) (hooks : Option (Hooks H))
    (changes : List (Moment × Option H)) :
    (Task.build action code hooks changes).map ρ =
      Task.build action code (hooks.map (Hooks.map ρ)) (changes.map fun c => (c.1, c.2.map ρ)) := by
  simp only [Task.map, Task.build, Hooks.override_map]
  cases hooks <;> rfl

namespace Coordinator

def map (ρ : H → K) (c : Coordinator H X) : Coordinator K X where
  killed := c.killed
  draining := c.draining
  tasks := c.tasks.map (Task.map ρ)
  pending := c.pending
  inFlight := c.inFlight
  contexts := c.contexts
  lastContext := c.lastContext
  lastTask := c.lastTask
  transform := c.transform
  loopback := c.loopback

def Frame.map (ρ : H → K) : Frame H X → Frame K X
  | .submit task => .submit (task.map ρ)
  | .drain => .drain
  | .drainLoop => .drainLoop
  | .dispatch t => .dispatch t
  | .prepare t id => .prepare t id
  | .awaitTransform t id x code => .awaitTransform t id x code
  | .send t id => .send t id
  | .awaitSend r => .awaitSend r
  | .loop message => .loop message
  | .route message => .route message
  | .close id t => .close id t
  | .advance t => .advance t
  | .call t moment argument => .call t moment argument
  | .awaitHook hook argument => .awaitHook (ρ hook) argument
  | .kill => .kill
  | .assign x => .assign x

def Event.map (ρ : H → K) : Event H X → Event K X
  | .submitted number task => .submitted number (task.map ρ)
  | .opened t id => .opened t id
  | .ready id x => .ready id x
  | .closed t id => .closed t id
  | .routed message => .routed message
  | .told t moment argument => .told t moment argument
  | .called hook argument => .called (ρ hook) argument
  | .raised hook => .raised (ρ hook)
  | .escaped hook f => .escaped (ρ hook) f
  | .transforming x code => .transforming x code
  | .transformed id code => .transformed id code
  | .sent r => .sent r
  | .looped message => .looped message
  | .assigned x => .assigned x
  | .log entry => .log entry

def Turn.map (ρ : H → K) (t : Turn H X) : Turn K X where
  state := t.state.map ρ
  frames := t.frames.map (Frame.map ρ)
  events := t.events.map (Event.map ρ)
  fault := t.fault

variable (ρ : H → K) (c : Coordinator H X)

lemma hookOf_map (t : Nat) (moment : Moment) : (c.map ρ).hookOf t moment = (c.hookOf t moment).map ρ := by
  cases h : c.tasks[t]? with
  | none => simp [hookOf, map, h]
  | some task => simp [hookOf, map, h, Task.map, Hooks.get_map]

lemma actionOf_map (t : Nat) : (c.map ρ).actionOf t = c.actionOf t := by
  cases h : c.tasks[t]? <;> simp [actionOf, map, h, Task.map]

lemma codeOf_map (t : Nat) : (c.map ρ).codeOf t = c.codeOf t := by
  cases h : c.tasks[t]? <;> simp [codeOf, map, h, Task.map]

lemma setCode_map (t : Nat) (code : Value) : (c.map ρ).setCode t code = (c.setCode t code).map ρ := by
  simp only [setCode, map, mk.injEq, true_and, and_true]
  exact modify_map (Task.map ρ) (fun _ => rfl) c.tasks t

lemma closeContext_map (id : Option Int) : (c.map ρ).closeContext id = (c.closeContext id).map ρ := by
  cases id <;> rfl

lemma resolve_map (id : Option Int) : (c.map ρ).resolve id = c.resolve id := by
  cases id <;> rfl

lemma resolveEvents_map (id : Option Int) : (c.map ρ).resolveEvents id = (c.resolveEvents id).map (Event.map ρ) := by
  have howner : (c.map ρ).owner? id = c.owner? id := by cases id <;> rfl
  cases h : c.owner? id <;> simp [resolveEvents, howner, h, Event.map]

lemma submitTurn_map (task : Task H) : submitTurn (c.map ρ) (task.map ρ) = (submitTurn c task).map ρ := by
  have hlength : (c.map ρ).tasks.length = c.tasks.length := by simp [map]
  have htasks : (c.map ρ).tasks ++ [task.map ρ] = (c.tasks ++ [task]).map (Task.map ρ) := by simp [map]
  simp only [submitTurn, hlength, htasks]
  cases hk : c.killed with
  | true => simp [map, hk, Turn.map, Event.map]
  | false => cases hf : c.inFlight <;> simp [map, hk, hf, Turn.map, Event.map, Frame.map, Task.map]

lemma drainLoopTurn_map : drainLoopTurn (c.map ρ) = (drainLoopTurn c).map ρ := by
  obtain ⟨killed, _, _, pending, inFlight, _, _, _, _, _⟩ := c
  cases killed <;> cases pending <;> cases inFlight <;> rfl

lemma prepareTurn_map (t id : Nat) : prepareTurn (c.map ρ) t id = (prepareTurn c t id).map ρ := by
  have hx : (c.map ρ).transform = c.transform := rfl
  simp only [prepareTurn, actionOf_map, codeOf_map, hx]
  cases c.actionOf t <;> cases c.transform <;> rfl

lemma sendTurn_map (t id : Nat) : sendTurn (c.map ρ) t id = (sendTurn c t id).map ρ := by
  simp only [sendTurn, actionOf_map, codeOf_map]
  cases Request.make (c.actionOf t) (c.codeOf t) id <;> rfl

lemma loopTurn_map (message : Value) : loopTurn (c.map ρ) message = (loopTurn c message).map ρ := by
  have hl : (c.map ρ).loopback = c.loopback := rfl
  simp only [loopTurn, hl]
  cases c.loopback <;> rfl

lemma streamTurn_map (t : Nat) (channel : Channel) (text : String) (events : List (Event H X)) :
    streamTurn (c.map ρ) t channel text (events.map (Event.map ρ)) = (streamTurn c t channel text events).map ρ := by
  cases channel <;> simp only [streamTurn, hookOf_map]
  · cases c.hookOf t .stdout <;> simp [Turn.map, Frame.map, Event.map]
  · cases c.hookOf t .stderr <;> simp [Turn.map, Frame.map, Event.map]

lemma replyTurn_map (t : Nat) (variant : Variant) (id : Option Int) (last : Bool) (payload : Object)
    (events : List (Event H X)) :
    replyTurn (c.map ρ) t variant id last payload (events.map (Event.map ρ)) =
      (replyTurn c t variant id last payload events).map ρ := by
  simp only [replyTurn, hookOf_map, Option.isNone_map]
  generalize (if variant = .error then Moment.error else .success) = moment
  cases last <;> cases c.hookOf t moment <;> simp [Turn.map, Frame.map, Event.map]

lemma routeTurn_map (message : Value) : routeTurn (c.map ρ) message = (routeTurn c message).map ρ := by
  unfold routeTurn
  simp only [resolve_map, resolveEvents_map]
  split
  · rfl
  · rfl
  · rename_i id channel text _
    cases c.resolve id with
    | none => simp [Turn.map, Event.map]
    | some t => exact streamTurn_map ρ c t channel text (.routed message :: c.resolveEvents id)
  · rename_i variant id last payload _
    cases c.resolve id with
    | none => simp [Turn.map, Event.map]
    | some t => exact replyTurn_map ρ c t variant id last payload (.routed message :: c.resolveEvents id)

lemma advanceTurn_map (t : Nat) : advanceTurn (c.map ρ) t = (advanceTurn c t).map ρ := by
  have hf : (c.map ρ).inFlight = c.inFlight := rfl
  simp only [advanceTurn, hf]
  split <;> rfl

lemma callTurn_map (t : Nat) (moment : Moment) (argument : Argument) :
    callTurn (c.map ρ) t moment argument = (callTurn c t moment argument).map ρ := by
  simp only [callTurn, hookOf_map]
  cases c.hookOf t moment <;> rfl

lemma killTurn_map : killTurn (c.map ρ) = (killTurn c).map ρ := by
  cases h : c.pending <;> simp [killTurn, h, Turn.map, map, Event.map]

lemma hookFailed_map (hook : H) (f : Fault) :
    Frame.hookFailed (c.map ρ) (ρ hook) f = (Frame.hookFailed c hook f).map ρ := by
  unfold Frame.hookFailed
  split <;> rfl

lemma transformFailed_map (id : Nat) (f : Fault) :
    Frame.transformFailed (c.map ρ) id f = (Frame.transformFailed c id f).map ρ := by
  unfold Frame.transformFailed
  split <;> rfl

theorem tick_map (f : Frame H X) : (f.map ρ).tick (c.map ρ) = (f.tick c).map (Turn.map ρ) := by
  cases f with
  | submit task => exact congrArg some (submitTurn_map ρ c task)
  | drain =>
    have hd : (c.map ρ).draining = c.draining := rfl
    simp only [Frame.map, Frame.tick, hd]
    cases c.draining <;> rfl
  | drainLoop => exact congrArg some (drainLoopTurn_map ρ c)
  | dispatch t => rfl
  | prepare t id => exact congrArg some (prepareTurn_map ρ c t id)
  | send t id => exact congrArg some (sendTurn_map ρ c t id)
  | loop message => exact congrArg some (loopTurn_map ρ c message)
  | route message => exact congrArg some (routeTurn_map ρ c message)
  | close id t =>
    simp only [Frame.map, Frame.tick, closeTurn, closeContext_map]
    rfl
  | advance t => exact congrArg some (advanceTurn_map ρ c t)
  | call t moment argument => exact congrArg some (callTurn_map ρ c t moment argument)
  | kill => exact congrArg some (killTurn_map ρ c)
  | assign x => rfl
  | awaitTransform => rfl
  | awaitSend => rfl
  | awaitHook => rfl

theorem unwind_map (e : Fault) (f : Frame H X) : (f.map ρ).unwind (c.map ρ) e = (f.unwind c e).map ρ := by
  cases f with
  | awaitHook hook argument => exact hookFailed_map ρ c hook e
  | awaitTransform t id x code => exact transformFailed_map ρ c id e
  | _ => rfl

theorem answer_map (f : Frame H X) (a : Answer) :
    (f.map ρ).answer (c.map ρ) a = (f.answer c a).map (Turn.map ρ) := by
  cases f with
  | awaitHook hook argument =>
    cases a with
    | done => rfl
    | code v => rfl
    | raised e => exact congrArg some (hookFailed_map ρ c hook e)
  | awaitTransform t id x code =>
    cases a with
    | done => rfl
    | code v =>
      simp only [Frame.map, Frame.answer, setCode_map]
      rfl
    | raised e => exact congrArg some (transformFailed_map ρ c id e)
  | awaitSend r => cases a <;> rfl
  | _ => cases a <;> rfl

end Coordinator

end EvalSession
