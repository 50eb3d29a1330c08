import EvalSession.Proofs.Coordinator.Telling

/-!
# The queue is not left alone with work

A run is `Tame` when nothing raises out of a dispatch: codes are text, sending goes well, and hooks and the transform let
out ordinary faults only. Messages may be anything. Then no fault passes a frame of the coordinator, so what a frame on
the stack has still to do is done: a drain loop that is owed empties the queue or fills the slot (`lively_step`), and a
dispatched task is sent or told of its failure (`Provided`).
-/
namespace EvalSession.Coordinator

variable {H X : Type}

def Textual (v : Value) : Prop := ∃ text, v = .string text

instance : DecidablePred Textual := fun v =>
  decidable_of_iff (v.text?.isSome = true) (by cases v <;> simp [Textual, Value.text?])

/-- The fault goes no further than this frame, if it reaches it. -/
def Frame.bears (e : Fault) : Frame H X → Bool
  | .awaitHook .. | .awaitTransform .. => e.ordinary
  | .awaitSend _ => false
  | _ => true

def Tame (m : Machine H X) : Move H X → Prop
  | .start (.submit task) => Textual task.code
  | .answer (.code v) => Textual v
  | .answer (.raised e) => ∀ f ∈ m.stack.head?, f.bears e = true
  | _ => True

structure Lively (m : Machine H X) : Prop where
  fault : m.fault = none
  entries : ∀ task, .submit task ∈ m.stack → Textual task.code
  codes : ∀ task ∈ m.state.tasks, Textual task.code
  /-- Tasks wait behind a free slot only while a drain is still to come. -/
  live : m.state.killed = false → m.state.inFlight = none → m.state.pending ≠ [] →
    .drain ∈ m.stack ∨ .drainLoop ∈ m.stack

lemma Textual.request {v : Value} (h : Textual v) (action : Action) (id : Nat) :
    ∃ request, Request.make action v id = .ok request := by
  obtain ⟨text, rfl⟩ := h
  exact ⟨⟨action, text, id⟩, rfl⟩

lemma Sound.code_mem {m : Machine H X} (hs : Sound m) {f : Frame H X} (hf : f ∈ m.stack) {t id : Nat}
    (hr : f.running? = some (t, id)) : ∃ task ∈ m.state.tasks, m.state.codeOf t = task.code := by
  obtain ⟨-, -, task, -, -, ht, -⟩ := hs.ledger.running f hf t id hr
  obtain ⟨kept, hk, -⟩ := hs.kept.same t task ht
  exact ⟨kept, List.mem_of_getElem? hk, by simp [codeOf, hk]⟩

lemma Shape.loop_of_draining {m : Machine H X} (h : Shape m) (hd : m.state.draining = true) : .drainLoop ∈ m.stack := by
  have hloops := h.loops
  rw [hd] at hloops
  obtain ⟨g, hm, hloop⟩ := List.countP_pos_iff.mp (by rw [hloops]; exact Nat.one_pos)
  cases g <;> simp_all [Frame.isLoop]

lemma Leaves.tame {c : Coordinator H X} {move : Move H X} {f : Frame H X} {fault' : Option Fault} {quiet es : List (Event H X)}
    {r : List (Frame H X)} (h : Leaves c none move f fault' quiet) (hs : Sound ⟨c, f :: r, none, es⟩)
    (ha : Tame ⟨c, f :: r, none, es⟩ move) (hl : Lively ⟨c, f :: r, none, es⟩) : fault' = none := by
  have hbears : ∀ e, Hit none move e → f.bears e = true := by
    rintro e (⟨hn, -⟩ | ⟨-, rfl⟩)
    · cases hn
    · exact ha f rfl
  cases h with
  | refused hm =>
    rename_i t id ps
    have hrun : (Frame.send t id : Frame H X).running? = some (t, id) := rfl
    obtain ⟨task, hmem, hcode⟩ := hs.code_mem (List.mem_cons_self ..) hrun
    obtain ⟨request, hr⟩ := (hl.codes task hmem).request (c.actionOf t) id
    simp only at hcode
    rw [← hcode, hm] at hr
    cases hr
  | escaped hf ho | aborted hf ho =>
    have := hbears _ hf
    simp [Frame.bears, ho] at this
  | unsent hf =>
    have := hbears _ hf
    simp [Frame.bears] at this
  | _ => rfl

lemma mem_closing {nt : Notice} {t : Nat} {f : Frame H X} (h : f ∈ closing nt t) : f = .close nt.id t := by
  unfold closing at h
  split at h <;> simp_all

lemma mem_setCode {c : Coordinator H X} {t : Nat} {v : Value} {task : Task H} (h : task ∈ (c.setCode t v).tasks) :
    task ∈ c.tasks ∨ task.code = v := by
  obtain ⟨i, hi, rfl⟩ := List.mem_iff_getElem.mp h
  simp only [setCode, List.length_modify] at hi
  simp only [setCode, List.getElem_modify]
  split
  · exact .inr rfl
  · exact .inl (List.getElem_mem hi)

/-- The top frame gives way to others; if it was a drain, so is one of them. -/
lemma Lively.pass {c c' : Coordinator H X} {f : Frame H X} {r : List (Frame H X)} {es es' : List (Event H X)}
    (new : List (Frame H X)) (hl : Lively ⟨c, f :: r, none, es⟩) (ht : c'.tasks = c.tasks)
    (hlive : c'.killed = false → c'.inFlight = none → c'.pending ≠ [] →
      c.killed = false ∧ c.inFlight = none ∧ c.pending ≠ [])
    (hnew : ∀ task, .submit task ∉ new) (hdrain : f = .drain ∨ f = .drainLoop → .drainLoop ∈ new) :
    Lively ⟨c', new ++ r, none, es'⟩ := by
  refine ⟨rfl, fun task hm => ?_, fun task hm => hl.codes task (ht ▸ hm), fun hk hi hp => ?_⟩
  · have hm := (List.mem_append.mp hm).resolve_left (hnew task)
    exact hl.entries task (List.mem_cons_of_mem _ hm)
  · obtain ⟨hk, hi, hp⟩ := hlive hk hi hp
    rcases hl.live hk hi hp with hm | hm
    · rcases List.mem_cons.mp hm with hm | hm
      · exact .inr (List.mem_append_left _ (hdrain (.inl hm.symm)))
      · exact .inl (List.mem_append_right _ hm)
    · rcases List.mem_cons.mp hm with hm | hm
      · exact .inr (List.mem_append_left _ (hdrain (.inr hm.symm)))
      · exact .inr (List.mem_append_right _ hm)

theorem lively_step {m n : Machine H X} {move : Move H X} (h : Stage m move n) (hs : Sound m) (ha : Tame m move)
    (hl : Lively m) : Lively n := by
  have hfault := hl.fault
  obtain ⟨-, hentries, hcodes, hlive⟩ := id hl
  cases h with
  | left h =>
    obtain rfl := hfault
    refine ⟨h.tame hs ha hl, fun task hm => hentries task (List.mem_cons_of_mem _ hm), hcodes, fun hk hi hp => ?_⟩
    have hsome := hlive hk hi hp
    cases h with
    | nested hd => exact .inr (by simpa using hs.shape.loop_of_draining hd)
    | _ => simpa using hsome
  | ignored hk | taken hk | queued hk =>
    have hcode := hentries _ (List.mem_cons_self ..)
    refine ⟨rfl, by simp_all, fun task hm => ?_, by simp_all⟩
    rcases List.mem_append.mp hm with hm | hm
    · exact hcodes task hm
    · obtain rfl := List.mem_singleton.mp hm
      exact hcode
  | opened => exact ⟨rfl, by simpa using hentries, hcodes, by simp [openContext]⟩
  | transformed =>
    refine ⟨rfl, by simpa using hentries, fun task hm => ?_, by simpa using hlive⟩
    rcases mem_setCode hm with hm | hv
    · exact hcodes task hm
    · exact hv ▸ ha
  | answered =>
    refine ⟨rfl, fun task hm => hentries task ?_, hcodes, fun hk hi hp => ?_⟩
    · simp only [List.mem_cons, List.mem_append, reduceCtorEq, false_or] at hm ⊢
      refine hm.resolve_left fun hm => ?_
      cases mem_closing hm
    · have hsome := hlive hk hi hp
      simp only [List.mem_cons, reduceCtorEq, false_or, List.mem_append] at hsome ⊢
      exact hsome.imp .inr .inr
  | drained hd =>
    refine ⟨rfl, by simpa using hentries, hcodes, fun hk hi hp => ?_⟩
    rcases hd with hd | hd | hd
    · exact absurd (hk.symm.trans hd) (by simp)
    · exact absurd hi hd
    · exact absurd hd hp
  | freed => exact ⟨rfl, by simpa using hentries, hcodes, fun _ _ _ => .inl (List.mem_cons_self ..)⟩
  | started =>
    rename_i operation _
    refine ⟨rfl, fun task hm => ?_, hcodes, fun hk hi hp => ?_⟩
    · rcases List.mem_cons.mp hm with hm | hm
      · cases operation with
        | submit task' =>
          obtain rfl : task = task' := by simpa [Operation.frame] using hm
          exact ha
        | _ => cases hm
      · exact hentries task hm
    · exact (hlive hk hi hp).imp (List.mem_cons_of_mem _) (List.mem_cons_of_mem _)
  | recovered => exact ⟨rfl, hentries, hcodes, hlive⟩
  | broken => cases hfault
  | draining => exact hl.pass [.drainLoop] rfl (fun hk hi hp => ⟨hk, hi, hp⟩) (by simp) (by simp)
  | next hk' hi' hp' =>
    exact hl.pass [.dispatch _, .drainLoop] rfl (fun _ _ _ => ⟨hk', hi', by simp [hp']⟩) (by simp) (by simp)
  | asked => exact hl.pass [.awaitTransform ..] rfl (fun hk hi hp => ⟨hk, hi, hp⟩) (by simp) (by simp)
  | verbatim => exact hl.pass [.send ..] rfl (fun hk hi hp => ⟨hk, hi, hp⟩) (by simp) (by simp)
  | sent => exact hl.pass [.awaitSend _] rfl (fun hk hi hp => ⟨hk, hi, hp⟩) (by simp) (by simp)
  | looped => exact hl.pass [.route _] rfl (fun hk hi hp => ⟨hk, hi, hp⟩) (by simp) (by simp)
  | unheard | assigned => exact hl.pass [] rfl (fun hk hi hp => ⟨hk, hi, hp⟩) (by simp) (by simp)
  | output => exact hl.pass [.call ..] rfl (fun hk hi hp => ⟨hk, hi, hp⟩) (by simp) (by simp)
  | closed => exact hl.pass [.call ..] (by simp) (by simp +contextual) (by simp) (by simp)
  | called => exact hl.pass [.awaitHook ..] rfl (fun hk hi hp => ⟨hk, hi, hp⟩) (by simp) (by simp)
  | killed => exact hl.pass [] rfl (by simp) (by simp) (by simp)
  | failed =>
    obtain rfl := hfault
    exact hl.pass [.loop _] rfl (fun hk hi hp => ⟨hk, hi, hp⟩) (by simp) (by simp)

lemma Stage.keeps {m n : Machine H X} {move : Move H X} (h : Stage m move n) : ∀ f ∈ m.stack.tail, f ∈ n.stack := by
  intro f hf
  cases h with
  | started => exact List.mem_cons_of_mem _ (List.mem_of_mem_tail hf)
  | recovered => exact List.mem_of_mem_tail hf
  | _ =>
    simp only [List.tail_cons] at hf
    simp [hf]

lemma Stage.grows {m n : Machine H X} {move : Move H X} (h : Stage m move n) : m.events <:+ n.events := by
  cases h with
  | left h => exact List.suffix_append _ _
  | started => exact List.suffix_refl _
  | recovered => exact List.suffix_refl _
  | _ =>
    simp only [List.suffix_cons, List.suffix_refl, List.suffix_append, List.suffix_append_of_suffix, List.suffix_cons_iff,
      or_true]

lemma sent_iff {es : List (Event H X)} {k : Nat} : Sent es k ↔ ∃ r, .sent r ∈ es ∧ r.contextId = k := by
  simp only [Sent, requests, gather, List.mem_filterMap, List.mem_reverse]
  constructor
  · rintro ⟨r, ⟨e, he, hr⟩, rfl⟩
    cases e <;> simp at hr
    exact ⟨r, hr ▸ he, rfl⟩
  · rintro ⟨r, hr, rfl⟩
    exact ⟨r, ⟨_, hr, rfl⟩, rfl⟩

lemma Stage.given_prefix {m n : Machine H X} {move : Move H X} (h : Stage m move n) :
    given m.events <+: given n.events := by
  obtain ⟨new, hnew⟩ := h.grows
  rw [← hnew]
  simp [given, gather]

@[simp] def Frame.target? : Frame H X → Option Nat
  | .call t .. | .close _ t | .advance t => some t
  | _ => none

/-- Entries are numbered after their tasks, and replies made up by the coordinator go to the router. -/
structure Tabled (m : Machine H X) : Prop where
  router : m.state.loopback = .router
  entries : ∀ e ∈ m.state.contexts, e.1 = e.2 + 1 ∧ e.1 ≤ m.state.lastContext
  targets : ∀ t ∈ m.stack.filterMap Frame.target?, t < m.state.lastContext

lemma Tabled.resolve_lt {m : Machine H X} (ht : Tabled m) (hq : Queued m) {id : Option Int} {t : Nat}
    (h : m.state.resolve id = some t) : t < m.state.lastContext := by
  rw [resolve, Option.or_eq_some_iff] at h
  rcases h with h | ⟨-, h⟩
  · cases id with
    | none => cases h
    | some id =>
      obtain ⟨e, he, rfl⟩ := Option.map_eq_some_iff.mp h
      have := ht.entries e (List.mem_of_find?_eq_some he)
      omega
  · have := (hq.last t).mp h
    omega

lemma Tabled.pass {c c' : Coordinator H X} {fault fault' : Option Fault} {f : Frame H X} {r : List (Frame H X)}
    {es es' : List (Event H X)} (new : List (Frame H X)) (ht : Tabled ⟨c, f :: r, fault, es⟩)
    (hr : c'.loopback = c.loopback) (hc : c'.contexts ⊆ c.contexts) (hl : c'.lastContext = c.lastContext)
    (hn : ∀ t ∈ new.filterMap Frame.target?, t < c.lastContext) : Tabled ⟨c', new ++ r, fault', es'⟩ := by
  refine ⟨hr.trans ht.router, fun e he => hl ▸ ht.entries e (hc he), fun t hm => hl ▸ ?_⟩
  rw [List.filterMap_append, List.mem_append] at hm
  rcases hm with hm | hm
  · exact hn t hm
  · exact ht.targets t (((List.sublist_cons_self f r).filterMap _).subset hm)

theorem tabled_step {m n : Machine H X} {move : Move H X} (h : Stage m move n) (hs : Sound m) (ht : Tabled m) :
    Tabled n := by
  have hresolve : ∀ {id t}, m.state.resolve id = some t → t < m.state.lastContext := ht.resolve_lt hs.queued
  cases h with
  | opened =>
    obtain ⟨rfl, -⟩ := hs.queued.dispatching
    refine ⟨ht.router, fun e he => ?_, fun t hm => ?_⟩
    · simp only [openContext, List.mem_append, List.mem_singleton] at he ⊢
      rcases he with he | rfl
      · have := ht.entries e he
        simp only at this
        omega
      · exact ⟨rfl, Nat.le_refl _⟩
    · rcases List.mem_cons.mp hm with rfl | hm
      · exact Nat.lt_succ_self _
      · exact (ht.targets t hm).trans (Nat.lt_succ_self _)
  | closed =>
    rename_i c id t r es
    refine ht.pass [.call t .afterRun .nothing] (by simp) (fun e he => ?_) (by simp) fun u hu => ?_
    · cases id with
      | none => exact he
      | some id => exact (List.mem_filter.mp he).1
    · obtain rfl := List.mem_singleton.mp hu
      exact ht.targets u (List.mem_cons_self ..)
  | answered hn hres hr =>
    rename_i c v nt t r es entries
    have hnew : ∀ u ∈ (.call t nt.moment nt.argument :: (closing nt t ++ [.advance t]) : List (Frame H X)).filterMap
        Frame.target?, u < c.lastContext := by
      have := hresolve hres
      unfold closing
      split <;> simpa using this
    have hstack : Frame.call t nt.moment nt.argument :: (closing nt t ++ .advance t :: r) =
        .call t nt.moment nt.argument :: (closing nt t ++ [.advance t]) ++ r := by simp
    rw [hstack]
    exact ht.pass _ rfl (List.Subset.refl _) rfl hnew
  | output hn hres hr hh =>
    refine ht.pass [.call ..] rfl (List.Subset.refl _) rfl fun u hu => ?_
    obtain rfl := List.mem_singleton.mp hu
    exact hresolve hres
  | started =>
    rename_i operation _
    refine ⟨ht.router, ht.entries, fun t hm => ht.targets t ?_⟩
    cases operation <;> exact hm
  | recovered => exact ⟨ht.router, ht.entries, ht.targets⟩
  | left | ignored | queued | drained | killed | assigned | broken | unheard =>
    exact ht.pass [] rfl (List.Subset.refl _) rfl (by simp)
  | taken | freed => exact ht.pass [.drain] rfl (List.Subset.refl _) rfl (by simp)
  | draining => exact ht.pass [.drainLoop] rfl (List.Subset.refl _) rfl (by simp)
  | next => exact ht.pass [.dispatch _, .drainLoop] rfl (List.Subset.refl _) rfl (by simp)
  | asked => exact ht.pass [.awaitTransform ..] rfl (List.Subset.refl _) rfl (by simp)
  | verbatim | transformed => exact ht.pass [.send ..] rfl (List.Subset.refl _) rfl (by simp)
  | failed => exact ht.pass [.loop _] rfl (List.Subset.refl _) rfl (by simp)
  | sent => exact ht.pass [.awaitSend _] rfl (List.Subset.refl _) rfl (by simp)
  | looped => exact ht.pass [.route _] rfl (List.Subset.refl _) rfl (by simp)
  | called => exact ht.pass [.awaitHook ..] rfl (List.Subset.refl _) rfl (by simp)

/-- The context of the task dispatched last is its own, open or not. -/
lemma Tabled.latest {m : Machine H X} (ht : Tabled m) (hq : Queued m) {t : Nat} (h : t + 1 = m.state.lastContext) :
    m.state.resolve (some ((t + 1 : Nat) : Int)) = some t := by
  unfold resolve owner?
  cases hf : m.state.contexts.find? fun e => ((e.1 : Int) = ((t + 1 : Nat) : Int)) with
  | none => simp only [hf, Option.map_none, Option.none_or, (hq.last t).mpr h]
  | some e =>
    have hid := List.find?_some hf
    have := (ht.entries e (List.mem_of_find?_eq_some hf)).1
    simp only [decide_eq_true_eq] at hid
    have heq : e.2 = t := by omega
    simp only [hf, Option.map_some, heq, Option.some_or]

/-- The hook of a task for a moment has been called, will be called by a frame on the stack, or is not set. -/
def Arranged (m : Machine H X) (t : Nat) (hooks : Hooks H) (moment : Moment) (argument : Argument) : Prop :=
  hooks.get moment = none ∨ .told t moment argument ∈ m.events ∨ .call t moment argument ∈ m.stack ∨
    (moment = .afterRun ∧ argument = .nothing) ∧ ∃ id, .close id t ∈ m.stack

/-- What has become of the dispatch of a task. -/
inductive Fate (m : Machine H X) (t : Nat) (hooks : Hooks H) : Prop
  | underWay {f} (hf : f ∈ m.stack) (hr : f.running? = some (t, t + 1))
  | sent (h : Sent m.events (t + 1))
  /-- The reply made up for its failed transform is on its way. -/
  | failing {f} (hl : t + 1 = m.state.lastContext)
      (h : m.stack.head? = some (.loop (errorReply (t + 1) f)) ∨ m.stack.head? = some (.route (errorReply (t + 1) f)))
  | failed {f} (he : Arranged m t hooks .error (failure f)) (ha : Arranged m t hooks .afterRun .nothing)
      (hs : m.state.inFlight ≠ some t ∨ .advance t ∈ m.stack)

structure Provided (m : Machine H X) : Prop extends Tabled m where
  fates : ∀ t task, t < m.state.lastContext → (given m.events)[t]? = some task → Fate m t task.hooks

lemma Stage.stays {m n : Machine H X} {move : Move H X} (h : Stage m move n) {f : Frame H X} (hf : f ∈ m.stack) :
    f ∈ n.stack ∨ ∃ r, m.stack = f :: r := by
  have hkeep := h.keeps
  cases hst : m.stack with
  | nil => simp [hst] at hf
  | cons g r =>
    rw [hst] at hf hkeep
    rcases List.mem_cons.mp hf with rfl | hf
    · exact .inr ⟨r, rfl⟩
    · exact .inl (hkeep f hf)

lemma Arranged.step {m n : Machine H X} {move : Move H X} {t : Nat} {task : Task H} {moment : Moment}
    {argument : Argument} (h : Stage m move n)
    (hf : ∀ f, m.stack.head? = some f → f.target? = some t → m.fault = none) (hs : Sound m)
    (ht : (given m.events)[t]? = some task) (ha : Arranged m t task.hooks moment argument) :
    Arranged n t task.hooks moment argument := by
  rcases ha with hn | htold | hcall | ⟨⟨rfl, rfl⟩, id, hclose⟩
  · exact .inl hn
  · exact .inr (.inl (h.grows.subset htold))
  · rcases h.stays hcall with hcall | ⟨r, hst⟩
    · exact .inr (.inr (.inl hcall))
    · have hhook := hs.kept.hookOf ht moment
      obtain ⟨c, stack, fault, es⟩ := m
      obtain rfl := hst
      obtain rfl : fault = none := hf _ rfl rfl
      cases h with
      | called => exact .inr (.inl (by simp))
      | left h =>
        cases h with
        | unset hu => exact .inl (hhook ▸ hu)
      | started => exact .inr (.inr (.inl (by simp [Machine.push])))
      | recovered => exact .inr (.inr (.inl (by simp)))
  · rcases h.stays hclose with hclose | ⟨r, hst⟩
    · exact .inr (.inr (.inr ⟨⟨rfl, rfl⟩, id, hclose⟩))
    · obtain ⟨c, stack, fault, es⟩ := m
      obtain rfl := hst
      obtain rfl : fault = none := hf _ rfl rfl
      cases h with
      | closed => exact .inr (.inr (.inl (by simp)))
      | left h => cases h
      | started => exact .inr (.inr (.inr ⟨⟨rfl, rfl⟩, id, by simp [Machine.push]⟩))
      | recovered => exact .inr (.inr (.inr ⟨⟨rfl, rfl⟩, id, by simp⟩))

lemma Sound.slot_step {m n : Machine H X} {move : Move H X} {t : Nat} (h : Stage m move n)
    (hf : ∀ f, m.stack.head? = some f → f.target? = some t → m.fault = none) (hs : Sound m)
    (ht : t < m.state.lastContext) (ha : m.state.inFlight ≠ some t ∨ .advance t ∈ m.stack) :
    n.state.inFlight ≠ some t ∨ .advance t ∈ n.stack := by
  by_cases hadv : .advance t ∈ m.stack
  · rcases h.stays hadv with hadv | ⟨r, hst⟩
    · exact .inr hadv
    · obtain ⟨c, stack, fault, es⟩ := m
      obtain rfl := hst
      obtain rfl : fault = none := hf _ rfl rfl
      cases h with
      | freed => exact .inl (by simp)
      | left h =>
        cases h with
        | stale hi => exact .inl hi
      | started => exact .inr (by simp [Machine.push])
      | recovered => exact .inr (by simp)
  · have hi := ha.resolve_right hadv
    cases h with
    | opened =>
      obtain ⟨rfl, -⟩ := hs.queued.dispatching
      refine .inl ?_
      simp only [openContext, ne_eq, Option.some.injEq]
      exact ht.ne'
    | freed => exact .inl (by simp)
    | started => exact .inl hi
    | _ => exact .inl (by simpa using hi)

lemma Fate.of_running {m n : Machine H X} {move : Move H X} {t : Nat} {hooks : Hooks H} {f : Frame H X} (h : Stage m move n)
    (hs : Sound m) (ha : Tame m move) (hl : Lively m) (hf : f ∈ m.stack) (hr : f.running? = some (t, t + 1)) :
    Fate n t hooks := by
  have hfault := hl.fault
  rcases h.stays hf with hf | ⟨r, hst⟩
  · exact .underWay hf hr
  · obtain ⟨c, stack, fault, es⟩ := m
    obtain rfl := hst
    obtain rfl := hfault
    have hlast := (hs.ledger.running f (List.mem_cons_self ..) t (t + 1) hr).2.1
    cases f with
    | prepare u id =>
      obtain ⟨rfl, rfl⟩ : u = t ∧ id = t + 1 := by simpa using hr
      cases h with
      | asked | verbatim => exact .underWay (List.mem_cons_self ..) rfl
      | left h => cases h
      | started => exact .underWay (List.mem_cons_of_mem _ (List.mem_cons_self ..)) rfl
      | recovered => exact .underWay (List.mem_cons_self ..) rfl
    | awaitTransform u id x code =>
      obtain ⟨rfl, rfl⟩ : u = t ∧ id = t + 1 := by simpa using hr
      cases h with
      | transformed => exact .underWay (List.mem_cons_self ..) rfl
      | failed => exact .failing hlast (.inl rfl)
      | left h => exact absurd (h.tame hs ha hl) (by cases h; simp)
      | started => exact .underWay (List.mem_cons_of_mem _ (List.mem_cons_self ..)) rfl
      | recovered => exact .underWay (List.mem_cons_self ..) rfl
    | send u id =>
      obtain ⟨rfl, rfl⟩ : u = t ∧ id = t + 1 := by simpa using hr
      cases h with
      | sent hr =>
        obtain ⟨text, -, rfl⟩ := request_code hr
        exact .sent (sent_iff.mpr ⟨_, List.mem_cons_self .., rfl⟩)
      | left h => exact absurd (h.tame hs ha hl) (by cases h; simp)
      | started => exact .underWay (List.mem_cons_of_mem _ (List.mem_cons_self ..)) rfl
      | recovered => exact .underWay (List.mem_cons_self ..) rfl
    | _ => cases hr

lemma Fate.of_failing {m n : Machine H X} {move : Move H X} {t : Nat} {hooks : Hooks H} {f : Fault} (h : Stage m move n)
    (hs : Sound m) (hl : Lively m) (hp : Tabled m) (hlast : t + 1 = m.state.lastContext)
    (htop : m.stack.head? = some (.loop (errorReply (t + 1) f)) ∨ m.stack.head? = some (.route (errorReply (t + 1) f))) :
    Fate n t hooks := by
  have hfault := hl.fault
  have hres := hp.latest hs.queued hlast
  obtain ⟨c, stack, fault, es⟩ := m
  obtain rfl := hfault
  rcases htop with htop | htop
  · obtain ⟨r, rfl⟩ := List.head?_eq_some_iff.mp htop
    cases h with
    | looped => exact .failing hlast (.inr rfl)
    | left h =>
      have hrouter := hp.router
      cases h <;> simp_all
    | started hopen => simp [Machine.open?, Frame.waits] at hopen
    | recovered hsus => simp [Machine.suspended, Frame.waits] at hsus
  · obtain ⟨r, rfl⟩ := List.head?_eq_some_iff.mp htop
    have hn := errorReply_notice (t + 1) f
    cases h with
    | unheard hu =>
      have := (hu _ hn t hres).1
      cases this
    | output hn' hres' hr' =>
      rw [hn, Option.some.injEq] at hn'
      subst hn'
      cases hr'
    | answered hn' hres' hr' =>
      rw [hn, Option.some.injEq] at hn'
      subst hn'
      rw [hres, Option.some.injEq] at hres'
      subst hres'
      have hclose : .close (some ((t + 1 : Nat) : Int)) t ∈
          closing ⟨some ((t + 1 : Nat) : Int), .error, failure f, true, true⟩ t ++ .advance t :: r := by simp [closing]
      exact .failed (.inr (.inr (.inl (List.mem_cons_self ..))))
        (.inr (.inr (.inr ⟨⟨rfl, rfl⟩, _, List.mem_cons_of_mem _ hclose⟩))) (.inr (by simp))
    | left h => cases h
    | started hopen => simp [Machine.open?, Frame.waits] at hopen
    | recovered hsus => simp [Machine.suspended, Frame.waits] at hsus

lemma Fate.step {m n : Machine H X} {move : Move H X} {t : Nat} {task : Task H} (h : Stage m move n) (hs : Sound m)
    (ha : Tame m move) (hl : Lively m) (hp : Tabled m) (hlt : t < m.state.lastContext)
    (ht : (given m.events)[t]? = some task) (hfate : Fate m t task.hooks) : Fate n t task.hooks := by
  have hfault := hl.fault
  cases hfate with
  | sent hsent =>
    obtain ⟨r, hr, hid⟩ := sent_iff.mp hsent
    exact .sent (sent_iff.mpr ⟨r, h.grows.subset hr, hid⟩)
  | failed he ha' hslot =>
    have hcalm : ∀ f, m.stack.head? = some f → f.target? = some t → m.fault = none := fun _ _ _ => hfault
    exact .failed (he.step h hcalm hs ht) (ha'.step h hcalm hs ht) (hs.slot_step h hcalm hlt hslot)
  | underWay hf hr => exact .of_running h hs ha hl hf hr
  | failing hlast htop => exact .of_failing h hs hl hp hlast htop

theorem provided_step {m n : Machine H X} {move : Move H X} (h : Stage m move n) (hs : Sound m) (ha : Tame m move)
    (hl : Lively m) (hp : Provided m) : Provided n := by
  have htabled := tabled_step h hs hp.toTabled
  have hstep : ∀ t task, t < m.state.lastContext → (given n.events)[t]? = some task → Fate n t task.hooks := by
    intro t task hlt hg
    have hlen : t < (given m.events).length := hlt.trans_le hs.queued.lastContext_le
    have hold : (given m.events)[t]? = some task := by
      obtain ⟨more, hmore⟩ := h.given_prefix
      rwa [← hmore, List.getElem?_append_left hlen] at hg
    exact (hp.fates t task hlt hold).step h hs ha hl hp.toTabled hlt hold
  refine ⟨htabled, fun t task hlt hg => ?_⟩
  cases h with
  | opened =>
    rename_i c u r es
    obtain ⟨rfl, -⟩ := hs.queued.dispatching
    rcases Nat.lt_or_ge t c.lastContext with hold | hge
    · exact hstep t task hold hg
    · obtain rfl : t = c.lastContext := by
        simp only [openContext] at hlt
        omega
      exact .underWay (List.mem_cons_of_mem _ (List.mem_cons_self ..)) rfl
  | started => exact hstep t task hlt hg
  | _ => exact hstep t task (by simpa using hlt) hg

theorem lively_fresh (x : Option X) : Lively (Machine.fresh (H := H) x) := by
  constructor <;> simp [Machine.fresh]

theorem provided_fresh (x : Option X) : Provided (Machine.fresh (H := H) x) :=
  ⟨⟨rfl, by simp [Machine.fresh], by simp [Machine.fresh]⟩, by simp [Machine.fresh]⟩

/-- The task has been told of a moment of its life, if it has a hook for it. -/
def Informed (es : List (Event H X)) (t : Nat) (hooks : Hooks H) (moment : Moment) (argument : Argument) : Prop :=
  hooks.get moment = none ∨ .told t moment argument ∈ es

/-- The request of the task has been sent, or the task has been told of its failure and has left the slot. -/
def Accounted (m : Machine H X) (t : Nat) (hooks : Hooks H) : Prop :=
  Sent m.events (t + 1) ∨ ∃ f, Informed m.events t hooks .error (failure f) ∧ Informed m.events t hooks .afterRun .nothing ∧
    m.state.inFlight ≠ some t

/-- When outside code has control again where it had it before, what was dispatched in between is accounted for. -/
theorem Provided.accounted {m n : Machine H X} (hp : Provided n) (hs : Sound m) (hm : Tabled m)
    (hout : Frame.Outside m.stack.head?) (hback : n.stack = m.stack) {t : Nat} {task : Task H}
    (hge : m.state.lastContext ≤ t) (hlt : t < n.state.lastContext) (ht : (given n.events)[t]? = some task) :
    Accounted n t task.hooks := by
  -- what stands below the operation speaks of earlier tasks only
  have hold : ∀ f ∈ n.stack, f.target? ≠ some t := by
    intro f hf htarget
    have := hm.targets t (List.mem_filterMap.mpr ⟨f, hback ▸ hf, htarget⟩)
    omega
  have hinformed : ∀ {moment argument}, Arranged n t task.hooks moment argument →
      Informed n.events t task.hooks moment argument := by
    rintro moment argument (h | h | h | ⟨-, id, h⟩)
    · exact .inl h
    · exact .inr h
    · exact absurd rfl (hold _ h)
    · exact absurd rfl (hold _ h)
  cases hp.fates t task hlt ht with
  | sent h => exact .inl h
  | underWay hf hr =>
    have := (hs.ledger.running _ (hback ▸ hf) t (t + 1) hr).2.1
    omega
  | failing hl h =>
    rw [hback] at h
    rcases h with h | h <;> simp [h, Frame.Outside, Frame.waits] at hout
  | failed he ha hi => exact .inr ⟨_, hinformed he, hinformed ha, hi.resolve_right fun h => hold _ h rfl⟩

end EvalSession.Coordinator
