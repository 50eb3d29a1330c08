import EvalSession.Proofs.Coordinator.Reference

/-!
# The task in the slot

`Phase` follows the task in the slot through its episode: which frames still work for it, which messages the worker has
still to deliver, and what is left to be seen. `Serial` puts this next to what has been seen so far.
-/
namespace EvalSession.Coordinator

variable {H X : Type}

/-- Frames that work for the task in the slot. -/
def Frame.labours : Frame H X → Bool
  | .prepare .. | .awaitTransform .. | .send .. | .loop _ | .route _ | .call .. | .close .. | .advance _ => true
  | _ => false

def work (stack : List (Frame H X)) : List (Frame H X) := stack.filter Frame.labours

@[simp] lemma work_nil : work ([] : List (Frame H X)) = [] := rfl

lemma work_labours {f : Frame H X} (h : f.labours = true) (stack : List (Frame H X)) :
    work (f :: stack) = f :: work stack := by simp [work, h]

lemma work_idles {f : Frame H X} (h : f.labours = false) (stack : List (Frame H X)) :
    work (f :: stack) = work stack := by simp [work, h]

def Frame.operates : Frame H X → Bool
  | .submit _ | .kill | .assign _ => true
  | _ => false

lemma Frame.not_operates {f : Frame H X} (h : f.resumes = true) : f.operates = false := by
  cases f <;> first | rfl | cases h

/-- How far the task in the slot has got: the number of tasks that are kept as settled, the open contexts, the frames
that work, the messages to be delivered, and what is left to be seen. -/
inductive Phase (s : Scenario H X) (t : Nat) (task : Task H) :
    Nat → List (Nat × Nat) → List (Frame H X) → List Value → List (Event H X) → Prop
  | prepare : Phase s t task t [(t + 1, t)] [.prepare t (t + 1)] [] (s.body task t)
  | asked {x} (ha : task.action = .run) (hx : s.transform = some x) :
      Phase s t task t [(t + 1, t)] [.awaitTransform t (t + 1) x task.code] [] (s.verdict task t x)
  | send :
      Phase s t task (t + 1) [(t + 1, t)] [.send t (t + 1)] [] (s.exchange task t (s.settle task).code)
  | failed {f} :
      Phase s t task (t + 1) [(t + 1, t)] [.loop (errorReply (t + 1) f)] []
        (reaction task.hooks t (errorReply (t + 1) f))
  | excused {f} :
      Phase s t task (t + 1) [(t + 1, t)] [.route (errorReply (t + 1) f)] []
        (reaction task.hooks t (errorReply (t + 1) f))
  | waiting {vs} (h : Complete (t + 1) vs) :
      Phase s t task (t + 1) [(t + 1, t)] [] vs (vs.flatMap (reaction task.hooks t))
  | arrived {v vs} (h : Complete (t + 1) (v :: vs)) :
      Phase s t task (t + 1) [(t + 1, t)] [.route v] (v :: vs) ((v :: vs).flatMap (reaction task.hooks t))
  | answered :
      Phase s t task (t + 1) [(t + 1, t)] [.close (some ((t + 1 : Nat) : Int)) t, .advance t] []
        (calls task.hooks t .afterRun .nothing)
  | over : Phase s t task (t + 1) [] [.advance t] [] []
  | call {k contexts frames vs rest} (moment : Moment) (argument : Argument)
      (h : Phase s t task k contexts frames vs rest) :
      Phase s t task k contexts (.call t moment argument :: frames) vs (calls task.hooks t moment argument ++ rest)

def undelivered (s : Scenario H X) (es : List (Event H X)) (r : Request) : List Value :=
  (s.worker r).drop (tagged es r.contextId).length

/-- The first of the tasks are kept as settled, the others as they were handed in. -/
def Settled (s : Scenario H X) (c : Coordinator H X) (es : List (Event H X)) (k : Nat) : Prop :=
  c.tasks = ((given es).take k).map s.settle ++ (given es).drop k

/-- The slot is free, and nobody works. -/
structure Free (s : Scenario H X) (m : Machine H X) : Prop where
  slot : m.state.inFlight = none
  contexts : m.state.contexts = []
  idle : work m.stack = []
  settled : Settled s m.state m.events m.state.lastContext
  delivered : ∀ r ∈ requests m.events, undelivered s m.events r = []
  seen : visible m.events = s.played m.state.lastContext

structure Busy (s : Scenario H X) (m : Machine H X) (t : Nat) (task : Task H) (k : Nat) (vs : List Value)
    (rest : List (Event H X)) : Prop where
  slot : m.state.inFlight = some t
  own : (given m.events)[t]? = some task
  phase : Phase s t task k m.state.contexts (work m.stack) vs rest
  settled : Settled s m.state m.events k
  delivered : ∀ r ∈ requests m.events, undelivered s m.events r = if r.contextId = t + 1 then vs else []
  awaited : vs ≠ [] → Sent m.events (t + 1) ∧ ¬ Ended m.events (t + 1)
  seen : visible m.events ++ rest = s.played (t + 1)

structure Serial (s : Scenario H X) (m : Machine H X) : Prop where
  killed : m.state.killed = false
  transform : m.state.transform = s.transform
  fault : m.fault = none
  taken : given m.events <+: s.tasks
  entries : ∀ f ∈ m.stack, f.operates = true →
    ∃ task, f = .submit task ∧ s.tasks[(given m.events).length]? = some task
  /-- Somebody will dispatch the tasks in the queue. -/
  live : m.state.inFlight = none → m.state.pending ≠ [] → .drain ∈ m.stack ∨ .drainLoop ∈ m.stack
  turn : Free s m ∨ ∃ t task k vs rest, Busy s m t task k vs rest

variable {s : Scenario H X}

section Phases

variable {t k : Nat} {task : Task H} {contexts : List (Nat × Nat)} {w : List (Frame H X)} {vs : List Value}
  {rest : List (Event H X)}

lemma Phase.settled_le (h : Phase s t task k contexts w vs rest) : k ≤ t + 1 := by
  induction h with
  | prepare | asked => exact Nat.le_succ t
  | call _ _ _ ih => exact ih
  | _ => exact Nat.le_refl _

/-- Messages that are still to be delivered make up the rest of an answer. -/
lemma Phase.complete (h : Phase s t task k contexts w vs rest) (hv : vs ≠ []) : Complete (t + 1) vs := by
  induction h with
  | waiting hc | arrived hc => exact hc
  | call _ _ _ ih => exact ih hv
  | _ => exact absurd rfl hv

/-- Where outside code has control, a task that waits for a message has no frames at work. -/
lemma Phase.waits (h : Phase s t task k contexts w vs rest) (hv : vs ≠ []) (hw : ∀ f ∈ w, f.resumes = true) :
    w = [] ∧ k = t + 1 ∧ contexts = [(t + 1, t)] ∧ rest = vs.flatMap (reaction task.hooks t) := by
  cases h with
  | waiting => exact ⟨rfl, rfl, rfl, rfl⟩
  | arrived | call =>
    have := hw _ (List.mem_cons_self ..)
    simp [Frame.resumes, Frame.waits] at this
  | _ => exact absurd rfl hv

lemma Phase.route {v : Value} (h : Phase s t task k contexts (.route v :: w) vs rest) :
    w = [] ∧ k = t + 1 ∧ contexts = [(t + 1, t)] ∧ ∃ nt left, notice? v = some nt ∧
      nt.id = some ((t + 1 : Nat) : Int) ∧ (vs = v :: left ∨ vs = [] ∧ left = []) ∧
      rest = reaction task.hooks t v ++ left.flatMap (reaction task.hooks t) ∧
      (nt.last = true ∧ left = [] ∨ nt.reply = false ∧ Complete (t + 1) left) := by
  cases h with
  | excused =>
    rename_i f
    exact ⟨rfl, rfl, rfl, _, [], errorReply_notice (t + 1) f, rfl, .inr ⟨rfl, rfl⟩, by simp, .inl ⟨rfl, rfl⟩⟩
  | arrived hc =>
    rename_i left
    obtain ⟨nt, hn, hid, hend⟩ := hc.notice
    exact ⟨rfl, rfl, rfl, nt, left, hn, hid, .inl rfl, by simp, hend⟩

end Phases

/-- Events that take in neither a task nor a message, and send nothing. -/
structure Tacit (es es' : List (Event H X)) : Prop where
  given : given es' = given es
  requests : requests es' = requests es
  tagged : ∀ k, tagged es' k = tagged es k

lemma tacit_silent {quiet : List (Event H X)} (hq : ∀ e ∈ quiet, e.silent = true) (es : List (Event H X)) :
    Tacit es (quiet ++ es) :=
  ⟨given_silent hq es, requests_silent hq es, fun k => by simp only [tagged, notices_silent hq]⟩

lemma Tacit.undelivered {es es' : List (Event H X)} (h : Tacit es es') (r : Request) :
    undelivered s es' r = undelivered s es r := by
  rw [Coordinator.undelivered, h.tagged, Coordinator.undelivered]

lemma Tacit.settled {c c' : Coordinator H X} {es es' : List (Event H X)} {k : Nat} (h : Tacit es es')
    (ht : c'.tasks = c.tasks) (hs : Settled s c es k) : Settled s c' es' k := by
  rw [Settled, ht, h.given]
  exact hs

lemma Settled.get {c : Coordinator H X} {es : List (Event H X)} {k t : Nat} {task : Task H} (h : Settled s c es k)
    (ht : (given es)[t]? = some task) : c.tasks[t]? = some (if t < k then s.settle task else task) := by
  obtain ⟨hlt, -⟩ := List.getElem?_eq_some_iff.mp ht
  have hlen : (((given es).take k).map s.settle).length = min k (given es).length := by simp
  rw [h]
  by_cases htk : t < k
  · rw [List.getElem?_append_left (by omega), List.getElem?_map, List.getElem?_take_of_lt htk, ht]
    simp [htk]
  · rw [List.getElem?_append_right (by omega), List.getElem?_drop, hlen]
    rw [show k + (t - min k (given es).length) = t by omega, ht]
    simp [htk]

lemma Settled.succ {c : Coordinator H X} {es : List (Event H X)} {t : Nat} {task : Task H} (h : Settled s c es t)
    (ht : (given es)[t]? = some task) (hk : s.settle task = task) : Settled s c es (t + 1) := by
  rw [Settled, h, List.take_add_one, ht, Option.toList_some, List.map_append, List.map_singleton, hk, List.append_assoc]
  obtain ⟨hlt, hget⟩ := List.getElem?_eq_some_iff.mp ht
  rw [List.drop_eq_getElem_cons hlt, hget]
  rfl

lemma Settled.take {c c' : Coordinator H X} {es es' : List (Event H X)} {k : Nat} {task : Task H}
    (h : Settled s c es k) (hk : k ≤ (given es).length) (hg : given es' = given es ++ [task])
    (ht : c'.tasks = c.tasks ++ [task]) : Settled s c' es' k := by
  rw [Settled, ht, h, hg, List.take_append_of_le_length hk, List.drop_append_of_le_length hk, List.append_assoc]

lemma Settled.setCode {c : Coordinator H X} {es : List (Event H X)} {t : Nat} {task : Task H} {v : Value}
    (h : Settled s c es t) (ht : (given es)[t]? = some task) (hk : s.settle task = { task with code := v }) :
    Settled s (c.setCode t v) es (t + 1) := by
  obtain ⟨hlt, hget⟩ := List.getElem?_eq_some_iff.mp ht
  have hlen : (((given es).take t).map s.settle).length = t := by simp [hlt.le]
  have hdrop : (given es).drop t = task :: (given es).drop (t + 1) := by rw [List.drop_eq_getElem_cons hlt, hget]
  have hmap : ((given es).take (t + 1)).map s.settle =
      ((given es).take t).map s.settle ++ [{ task with code := v }] := by
    rw [List.take_add_one, ht, Option.toList_some, List.map_append, List.map_singleton, hk]
  rw [Settled, Coordinator.setCode, h, List.modify_eq_take_drop, List.take_left' hlen, List.drop_left' hlen, hdrop,
    hmap]
  simp [List.modifyHead]

lemma Busy.next {m n : Machine H X} {t k k' : Nat} {task : Task H} {contexts : List (Nat × Nat)} {w : List (Frame H X)}
    {vs : List Value} {rest rest' : List (Event H X)} (hb : Busy s m t task k vs rest) (he : Tacit m.events n.events)
    (hslot : n.state.inFlight = m.state.inFlight) (hctx : n.state.contexts = contexts) (hw : work n.stack = w)
    (hp : Phase s t task k' contexts w vs rest') (hset : Settled s n.state n.events k')
    (hseen : visible n.events ++ rest' = visible m.events ++ rest) : Busy s n t task k' vs rest' where
  slot := hslot.trans hb.slot
  own := he.given ▸ hb.own
  phase := hctx ▸ hw ▸ hp
  settled := hset
  delivered := fun r hr => (he.undelivered r).trans (hb.delivered r (he.requests ▸ hr))
  awaited := fun hv => by
    rw [Sent, he.requests, Ended, he.tagged]
    exact hb.awaited hv
  seen := hseen.trans hb.seen

lemma Busy.kept {m : Machine H X} {t k : Nat} {task : Task H} {vs : List Value} {rest : List (Event H X)}
    (hb : Busy s m t task k vs rest) :
    m.state.actionOf t = task.action ∧ m.state.codeOf t = (if t < k then s.settle task else task).code ∧
      ∀ moment, m.state.hookOf t moment = task.hooks.get moment := by
  have hget := hb.settled.get hb.own
  refine ⟨?_, ?_, fun moment => ?_⟩
  · rw [actionOf, hget]
    split <;> simp
  · rw [codeOf, hget]
    rfl
  · rw [hookOf, hget]
    split <;> simp

lemma Busy.hear {c : Coordinator H X} {v : Value} {r r' : List (Frame H X)} {es : List (Event H X)} {t k : Nat}
    {task : Task H} {nt : Notice} {vs left : List Value} {rest : List (Event H X)}
    (hb : Busy s ⟨c, .route v :: r, none, es⟩ t task k vs rest) (entries : List Diagnostic)
    (hn : notice? v = some nt) (hid : nt.id = some ((t + 1 : Nat) : Int)) (hvs : vs = v :: left ∨ vs = [] ∧ left = [])
    (hend : left ≠ [] → nt.last = false) (hp : Phase s t task k c.contexts (work r') left rest) :
    Busy s ⟨c, r', none, logs entries ++ .routed v :: es⟩ t task k left rest := by
  have hgiven : given (logs entries ++ .routed v :: es) = given es := by simp [given]
  have hown : tagged (logs entries ++ .routed v :: es) (t + 1) = tagged es (t + 1) ++ [nt] := tagged_own hn hid
  refine ⟨hb.slot, hgiven ▸ hb.own, hp, ?_, fun q hq => ?_, fun hl => ?_, ?_⟩
  · have := hb.settled
    simp only [Settled] at this ⊢
    rw [hgiven, this]
  · have hdel := hb.delivered q (requests_routed v entries es ▸ hq)
    simp only [undelivered] at hdel ⊢
    by_cases hqt : q.contextId = t + 1
    · simp only [hqt, if_true] at hdel ⊢
      rw [hown, List.length_append, ← List.drop_drop, hdel]
      rcases hvs with rfl | ⟨rfl, rfl⟩ <;> rfl
    · have hother : ∀ nt', notice? v = some nt' → nt'.id ≠ some (q.contextId : Int) := by
        intro nt' hn'
        obtain rfl : nt = nt' := by simpa [hn] using hn'
        rw [hid]
        intro h
        exact hqt (by exact_mod_cast (Option.some.inj h).symm)
      rw [tagged_other hother]
      simpa [hqt] using hdel
  · have hne : vs ≠ [] := by
      rcases hvs with rfl | ⟨-, rfl⟩
      · simp
      · exact absurd rfl hl
    obtain ⟨hsent, hopen⟩ := hb.awaited hne
    refine ⟨by simpa only [Sent, requests_routed] using hsent, ?_⟩
    rintro ⟨nt', hm, hlast⟩
    rw [hown, List.mem_append, List.mem_singleton] at hm
    rcases hm with hm | rfl
    · exact hopen ⟨nt', hm, hlast⟩
    · simp [hend hl] at hlast
  · simpa [visible] using hb.seen

structure Idle (m n : Machine H X) : Prop where
  events : Tacit m.events n.events
  seen : visible n.events = visible m.events
  work : work n.stack = work m.stack
  slot : n.state.inFlight = m.state.inFlight
  contexts : n.state.contexts = m.state.contexts
  tasks : n.state.tasks = m.state.tasks
  lastContext : n.state.lastContext = m.state.lastContext

lemma Idle.turn {m n : Machine H X} (hi : Idle m n) (h : Free s m ∨ ∃ t task k vs rest, Busy s m t task k vs rest) :
    Free s n ∨ ∃ t task k vs rest, Busy s n t task k vs rest := by
  rcases h with hf | ⟨t, task, k, vs, rest, hb⟩
  · refine .inl ⟨hi.slot.trans hf.slot, hi.contexts.trans hf.contexts, hi.work.trans hf.idle, ?_, fun r hr => ?_, ?_⟩
    · rw [hi.lastContext]
      exact hi.events.settled hi.tasks hf.settled
    · exact (hi.events.undelivered r).trans (hf.delivered r (hi.events.requests ▸ hr))
    · rw [hi.seen, hi.lastContext]
      exact hf.seen
  · refine .inr ⟨t, task, k, vs, rest, hb.next hi.events hi.slot hi.contexts hi.work hb.phase ?_ ?_⟩
    · exact hi.events.settled hi.tasks hb.settled
    · rw [hi.seen]

lemma Serial.pass {m n : Machine H X} (h : Serial s m) (hi : Idle m n) (hk : n.state.killed = m.state.killed)
    (hx : n.state.transform = m.state.transform) (hf : n.fault = none)
    (hs : ∀ f ∈ n.stack, f ∈ m.stack ∨ f.operates = false)
    (hl : n.state.inFlight = none → n.state.pending ≠ [] → .drain ∈ n.stack ∨ .drainLoop ∈ n.stack) : Serial s n where
  killed := hk.trans h.killed
  transform := hx.trans h.transform
  fault := hf
  taken := hi.events.given ▸ h.taken
  entries := fun f hm ho => by
    rw [hi.events.given]
    exact h.entries f ((hs f hm).resolve_right (by simp [ho])) ho
  live := hl
  turn := hi.turn h.turn

lemma Serial.go {m n : Machine H X} {t k : Nat} {task : Task H} {vs : List Value} {rest : List (Event H X)}
    (h : Serial s m) (hb : Busy s n t task k vs rest) (hk : n.state.killed = m.state.killed)
    (hx : n.state.transform = m.state.transform) (hf : n.fault = none) (hg : given n.events = given m.events)
    (hs : ∀ f ∈ n.stack, f ∈ m.stack ∨ f.operates = false) : Serial s n where
  killed := hk.trans h.killed
  transform := hx.trans h.transform
  fault := hf
  taken := hg ▸ h.taken
  entries := fun f hm ho => by
    rw [hg]
    exact h.entries f ((hs f hm).resolve_right (by simp [ho])) ho
  live := fun hn => by simp [hb.slot] at hn
  turn := .inr ⟨t, task, k, vs, rest, hb⟩

/-- A frame that works on top of the stack works for the task in the slot. -/
lemma Serial.busy {c : Coordinator H X} {fault : Option Fault} {f : Frame H X} {r : List (Frame H X)}
    {es : List (Event H X)} (h : Serial s ⟨c, f :: r, fault, es⟩) (hf : f.labours = true) :
    ∃ t task k contexts w vs rest, Busy s ⟨c, f :: r, fault, es⟩ t task k vs rest ∧ c.contexts = contexts ∧ work r = w ∧
      Phase s t task k contexts (f :: w) vs rest := by
  rcases h.turn with hfree | ⟨t, task, k, vs, rest, hb⟩
  · have := hfree.idle
    simp [work_labours hf] at this
  · exact ⟨t, task, k, _, _, vs, rest, hb, rfl, rfl, work_labours hf r ▸ hb.phase⟩

lemma Serial.textual {m : Machine H X} (h : Serial s m) {t : Nat} {task : Task H}
    (ht : (given m.events)[t]? = some task) : ∃ text, (s.settle task).code = .string text :=
  s.settle_textual (h.taken.subset (List.mem_of_getElem? ht))

lemma Serial.next {m : Machine H X} (h : Serial s m) {v : Value} (ha : s.Allows m (.start (.route v))) :
    ∃ t task k left rest, Busy s m t task k (v :: left) rest ∧ Complete (t + 1) (v :: left) := by
  obtain ⟨r, hr, hget⟩ := ha
  have hdrop : undelivered s m.events r = v :: (s.worker r).drop ((tagged m.events r.contextId).length + 1) := by
    obtain ⟨hlt, hv⟩ := List.getElem?_eq_some_iff.mp hget
    rw [undelivered, List.drop_eq_getElem_cons hlt, hv]
  rcases h.turn with hfree | ⟨t, task, k, vs, rest, hb⟩
  · rw [hfree.delivered r hr] at hdrop
    cases hdrop
  · have hvs := hb.delivered r hr
    rw [hdrop] at hvs
    split at hvs
    · subst hvs
      exact ⟨t, task, k, _, rest, hb, hb.phase.complete (by simp)⟩
    · cases hvs

/-- The schedules of a scenario keep to the contract of the worker. -/
lemma Serial.honest {m : Machine H X} (h : Serial s m) {move : Move H X} (ha : s.Allows m move) : Honest m move := by
  unfold Honest
  split
  · rename_i v
    obtain ⟨t, task, k, left, rest, hb, hc⟩ := h.next ha
    obtain ⟨⟨r, hr, hid⟩, hopen⟩ := hb.awaited (by simp)
    obtain ⟨nt, hn, hnid, -⟩ := hc.notice
    intro nt' hn'
    obtain rfl : nt = nt' := by simpa [hn] using hn'
    exact ⟨r, hr, by rw [hnid, hid], by rwa [hid]⟩
  · trivial

end EvalSession.Coordinator
