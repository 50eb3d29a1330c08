import EvalSession.Proofs.Coordinator.Attendance

/-!
# The table of contexts

A reply that ends a context carries its id, or no id at all and is meant for the task in the slot. The table is kept by id.
Main statement: an entry is made when its task is dispatched, and goes when a reply that carries its id ends it. A reply
without an id lets its task be told that the run is over, but leaves the entry where it is.
-/
namespace EvalSession.Coordinator

variable {H X : Type}

/-- A reply carries the id of an open context, or no id while a task is in the slot. -/
def Documented (m : Machine H X) : Move H X → Prop
  | .start (.route v) => ∀ nt ∈ notice? v, nt.reply = true →
      (∃ e ∈ m.state.contexts, nt.id = some (e.1 : Int)) ∨ nt.id = none ∧ m.state.inFlight ≠ none
  | _ => True

instance (m : Machine H X) (move : Move H X) : Decidable (Documented m move) :=
  match move with
  | .start (.route v) => inferInstanceAs (Decidable (∀ nt ∈ notice? v, nt.reply = true →
      (∃ e ∈ m.state.contexts, nt.id = some (e.1 : Int)) ∨ nt.id = none ∧ m.state.inFlight ≠ none))
  | .start (.submit _) | .start .kill | .start (.assign _) | .tick | .answer _ | .recover => isTrue trivial

/-- A last reply without an id was routed when the task was the one dispatched last. -/
def EndedUnnamed (es : List (Event H X)) (t : Nat) : Prop :=
  ∃ v nt older, .routed v :: older <:+ es ∧ notice? v = some nt ∧ nt.last = true ∧ nt.id = none ∧
    (latestDispatch older).map Prod.fst = some t

/-- A last reply with this id has been routed for the task. -/
def Ends (es : List (Event H X)) (t : Nat) : Option Int → Prop
  | some id => id = ((t + 1 : Nat) : Int) ∧ Ended es (t + 1)
  | none => EndedUnnamed es t

/-- How the table of contexts stands to what has happened. -/
structure Tracked (c : Coordinator H X) (es : List (Event H X)) : Prop where
  ascending : (c.contexts.map Prod.fst).Pairwise (· < ·)
  mem_iff : ∀ k t, (k, t) ∈ c.contexts ↔ .opened t k ∈ es ∧ .closed t (some (k : Int)) ∉ es
  /-- What is closed has been ended by a reply. -/
  ends : ∀ t id, .closed t id ∈ es → Ends es t id
  /-- A task is only told that its run is over when its context is closed. -/
  told : ∀ t argument, .told t .afterRun argument ∈ es → ∃ id, .closed t id ∈ es

structure Tracking (m : Machine H X) : Prop extends Tracked m.state m.events where
  /-- A reply on its way to the router finds the task that its id belongs to. -/
  incoming : ∀ v, m.stack.head? = some (.loop v) ∨ m.stack.head? = some (.route v) → ∀ nt ∈ notice? v, nt.reply = true →
    nt.id = none ∨ ∃ t : Nat, nt.id = some ((t + 1 : Nat) : Int) ∧ m.state.resolve nt.id = some t
  started : ∀ t id, .closed t id ∈ m.events → t < m.state.lastContext
  closes : ∀ id t, .close id t ∈ m.stack → Ends m.events t id
  calls : ∀ t argument, .call t .afterRun argument ∈ m.stack → ∃ id, .closed t id ∈ m.events

/-- The event leaves the table as it is; that a run is over is told of closed contexts only. -/
@[simp] def Event.Untabled (es : List (Event H X)) : Event H X → Prop
  | .opened .. | .closed .. => False
  | .told t .afterRun _ => ∃ id, .closed t id ∈ es
  | _ => True

@[simp] def Frame.settled : Frame H X → Bool
  | .loop _ | .route _ | .close .. | .call _ .afterRun _ => false
  | _ => true

lemma Frame.not_incoming_of_settled {f : Frame H X} (h : f.settled = true) : f.incoming = false := by
  cases f <;> first | rfl | cases h

lemma Ended.grow {es es' : List (Event H X)} {k : Nat} (h : Ended es k) (hs : es <:+ es') : Ended es' k := by
  obtain ⟨nt, hm, hl⟩ := h
  obtain ⟨more, rfl⟩ := hs
  refine ⟨nt, ?_, hl⟩
  have hgather : notices (more ++ es) = notices es ++ more.reverse.filterMap Event.news? := by
    simp [notices, gather]
  rw [tagged, hgather, List.filter_append]
  exact List.mem_append_left _ hm

lemma EndedUnnamed.grow {es es' : List (Event H X)} {t : Nat} (h : EndedUnnamed es t) (hs : es <:+ es') :
    EndedUnnamed es' t := by
  obtain ⟨v, nt, older, hm, hrest⟩ := h
  exact ⟨v, nt, older, hm.trans hs, hrest⟩

lemma Ends.grow {es es' : List (Event H X)} {t : Nat} {id : Option Int} (h : Ends es t id) (hs : es <:+ es') :
    Ends es' t id := by
  cases id with
  | none => exact EndedUnnamed.grow h hs
  | some id => exact ⟨h.1, h.2.grow hs⟩

/-- A message never asks for the hook after the run itself. -/
lemma notice_moment {v : Value} {nt : Notice} (h : notice? v = some nt) : nt.moment ≠ .afterRun := by
  obtain ⟨message, -, hm⟩ := notice_decoded h
  cases message with
  | log text => cases hm
  | stream id channel text =>
    cases hm
    cases channel <;> simp [streamMoment]
  | reply variant id last payload =>
    cases hm
    simp only [replyMoment]
    split <;> simp

lemma Event.Untabled.of_silent {e : Event H X} {es : List (Event H X)} (h : e.silent = true) : e.Untabled es := by
  cases e <;> simp_all

lemma Tracked.grow {c c' : Coordinator H X} {es more : List (Event H X)} (ht : Tracked c es)
    (hc : c'.contexts = c.contexts) (hm : ∀ e ∈ more, e.Untabled es) : Tracked c' (more ++ es) := by
  have hopened : ∀ t k, .opened t k ∈ more ++ es ↔ .opened t k ∈ es := by
    intro t k
    have hnot : .opened t k ∉ more := fun h => hm _ h
    simp [hnot]
  have hclosed : ∀ t id, .closed t id ∈ more ++ es ↔ .closed t id ∈ es := by
    intro t id
    have hnot : .closed t id ∉ more := fun h => hm _ h
    simp [hnot]
  constructor
  · rw [hc]
    exact ht.ascending
  · intro k t
    rw [hc, hopened, hclosed]
    exact ht.mem_iff k t
  · intro t id h
    exact (ht.ends t id ((hclosed t id).mp h)).grow (List.suffix_append ..)
  · intro t argument h
    simp only [hclosed]
    rcases List.mem_append.mp h with h | h
    · exact hm _ h
    · exact ht.told t argument h

lemma Tracking.keep {m n : Machine H X} (ht : Tracking m) (more : List (Event H X)) (he : n.events = more ++ m.events)
    (hm : ∀ e ∈ more, e.Untabled m.events) (hc : n.state.contexts = m.state.contexts)
    (hl : n.state.lastContext = m.state.lastContext)
    (hs : ∀ f ∈ n.stack, f ∈ m.stack ∨ f.settled = true ∨ f.incoming = true ∨
      ∃ id t, f = .close id t ∧ Ends n.events t id)
    (hv : ∀ v, n.stack.head? = some (.loop v) ∨ n.stack.head? = some (.route v) → ∀ nt ∈ notice? v, nt.reply = true →
      nt.id = none ∨ ∃ t : Nat, nt.id = some ((t + 1 : Nat) : Int) ∧ n.state.resolve nt.id = some t) : Tracking n := by
  refine ⟨he ▸ ht.toTracked.grow hc hm, hv, ?_, ?_, ?_⟩
  · intro t id h
    rw [he, List.mem_append] at h
    rw [hl]
    exact ht.started t id (h.resolve_left fun h => hm _ h)
  · intro id t hf
    rcases hs _ hf with hf | hf | hf | ⟨id', t', hf, hends⟩
    · exact (ht.closes id t hf).grow (he ▸ List.suffix_append ..)
    · cases hf
    · cases hf
    · cases hf
      exact hends
  · intro t argument hf
    rcases hs _ hf with hf | hf | hf | ⟨id', t', hf, -⟩
    · obtain ⟨id, hid⟩ := ht.calls t argument hf
      exact ⟨id, he ▸ List.mem_append_right _ hid⟩
    · cases hf
    · cases hf
    · cases hf

lemma Tracking.pass {c c' : Coordinator H X} {fault fault' : Option Fault} {f : Frame H X} {r : List (Frame H X)}
    {es es' : List (Event H X)} (new : List (Frame H X)) (more : List (Event H X)) (ht : Tracking ⟨c, f :: r, fault, es⟩)
    (hseat : Seated (f :: r)) (he : es' = more ++ es) (hc : c'.contexts = c.contexts)
    (hl : c'.lastContext = c.lastContext) (hm : ∀ e ∈ more, e.Untabled es) (hnew : ∀ g ∈ new, g.settled = true) :
    Tracking ⟨c', new ++ r, fault', es'⟩ := by
  have hquiet : ∀ g, (new ++ r).head? = some g → g.incoming = false := by
    intro g hg
    cases new with
    | nil => exact Frame.not_incoming (hseat.head_resumes g hg)
    | cons a new =>
      obtain rfl : a = g := by simpa using hg
      exact Frame.not_incoming_of_settled (hnew a (by simp))
  apply ht.keep more he hm hc hl
  · intro g hg
    rcases List.mem_append.mp hg with hg | hg
    · exact .inr (.inl (hnew g hg))
    · exact .inl (List.mem_cons_of_mem _ hg)
  · intro v hv
    rcases hv with hv | hv <;> simpa [Frame.incoming] using hquiet _ hv

lemma Tabled.resolve_entry {m : Machine H X} (ht : Tabled m) {e : Nat × Nat} (he : e ∈ m.state.contexts) :
    e.1 = e.2 + 1 ∧ m.state.resolve (some (e.1 : Int)) = some e.2 := by
  have hown := ht.entries e he
  refine ⟨hown.1, ?_⟩
  cases hf : m.state.contexts.find? fun e' => ((e'.1 : Int) = (e.1 : Int)) with
  | none =>
    have := List.find?_eq_none.mp hf e he
    simp at this
  | some e' =>
    have hid := List.find?_some hf
    have hother := (ht.entries e' (List.mem_of_find?_eq_some hf)).1
    simp only [decide_eq_true_eq] at hid
    have heq : e'.2 = e.2 := by omega
    simp only [resolve, owner?, hf, Option.map_some, heq, Option.some_or]

lemma Tracking.ends_answered {c : Coordinator H X} {v : Value} {r : List (Frame H X)} {es : List (Event H X)}
    {entries : List Diagnostic} {nt : Notice} {t : Nat} (ht : Tracking ⟨c, .route v :: r, none, es⟩)
    (hs : Sound ⟨c, .route v :: r, none, es⟩) (hn : notice? v = some nt) (hres : c.resolve nt.id = some t)
    (hr : nt.reply = true) (hl : nt.last = true) : Ends (logs entries ++ .routed v :: es) t nt.id := by
  rcases ht.incoming v (.inr rfl) nt hn hr with hid | ⟨u, hid, hu⟩
  · rw [hid] at hres ⊢
    have hlast := (hs.queued.last t).mp (by simpa [resolve, owner?] using hres)
    refine ⟨v, nt, es, List.suffix_append .., hn, hl, hid, ?_⟩
    rw [hs.latestDispatch hlast]
    rfl
  · simp only at hu
    rw [hres, Option.some.injEq] at hu
    subst hu
    rw [hid]
    exact ⟨rfl, nt, mem_tagged_routed.mpr (.inr ⟨hn, hid⟩), hl⟩

lemma Tracked.open {c : Coordinator H X} {es : List (Event H X)} (ht : Tracked c es)
    (he : ∀ e ∈ c.contexts, e.1 ≤ c.lastContext) (hnew : ∀ id, .closed c.lastContext id ∉ es) :
    Tracked (c.openContext c.lastContext) (.opened c.lastContext (c.lastContext + 1) :: es) := by
  have hgrow : es <:+ .opened c.lastContext (c.lastContext + 1) :: es := List.suffix_cons ..
  constructor
  · have hlt : ∀ k ∈ c.contexts.map Prod.fst, k < c.lastContext + 1 := by
      intro k hk
      obtain ⟨e, hm, rfl⟩ := List.mem_map.mp hk
      exact Nat.lt_succ_of_le (he e hm)
    simpa [openContext, List.pairwise_append, ht.ascending] using hlt
  · intro k t
    simp only [openContext, List.mem_append, List.mem_cons, List.not_mem_nil, or_false, Prod.mk.injEq,
      Event.opened.injEq, reduceCtorEq, false_or, ht.mem_iff k t]
    constructor
    · rintro (⟨hopen, hclosed⟩ | ⟨rfl, rfl⟩)
      · exact ⟨.inr hopen, hclosed⟩
      · exact ⟨.inl ⟨rfl, rfl⟩, hnew _⟩
    · rintro ⟨⟨rfl, rfl⟩ | hopen, hclosed⟩
      · exact .inr ⟨rfl, rfl⟩
      · exact .inl ⟨hopen, hclosed⟩
  · intro t id h
    exact (ht.ends t id (by simpa using h)).grow hgrow
  · intro t argument h
    obtain ⟨id, hid⟩ := ht.told t argument (by simpa using h)
    exact ⟨id, List.mem_cons_of_mem _ hid⟩

/-- Closing a context takes its entry away if it is closed by its id. -/
lemma Tracked.close {c : Coordinator H X} {es : List (Event H X)} {t : Nat} {id : Option Int} (ht : Tracked c es)
    (hopened : ∀ k u, .opened u k ∈ es → k = u + 1) (hend : Ends es t id) :
    Tracked (c.closeContext id) (.closed t id :: (logs [.contextEnded] ++ es)) := by
  have hgrow : es <:+ .closed t id :: (logs [.contextEnded] ++ es) :=
    (List.suffix_append ..).trans (List.suffix_cons ..)
  constructor
  · cases id with
    | none => exact ht.ascending
    | some id => exact ht.ascending.sublist (List.filter_sublist.map _)
  · intro k u
    cases id with
    | none => simpa [closeContext, logs] using ht.mem_iff k u
    | some id =>
      obtain ⟨rfl, -⟩ := hend
      simp only [closeContext, List.mem_filter, ht.mem_iff k u, logs, List.map_cons, List.map_nil, List.cons_append,
        List.nil_append, List.mem_cons, reduceCtorEq, false_or, Event.closed.injEq, Option.some.injEq, not_or,
        decide_eq_true_eq, ne_eq, Nat.cast_inj]
      constructor
      · rintro ⟨⟨hopen, hclosed⟩, hne⟩
        exact ⟨hopen, fun h => hne h.2, hclosed⟩
      · rintro ⟨hopen, hne, hclosed⟩
        refine ⟨⟨hopen, hclosed⟩, fun hk => hne ⟨?_, hk⟩⟩
        have := hopened k u hopen
        omega
  · intro u id' h
    simp only [logs, List.map_cons, List.map_nil, List.cons_append, List.nil_append, List.mem_cons, reduceCtorEq,
      false_or, Event.closed.injEq] at h
    rcases h with ⟨rfl, rfl⟩ | h
    · exact hend.grow hgrow
    · exact (ht.ends u id' h).grow hgrow
  · intro u argument h
    obtain ⟨id', hid⟩ := ht.told u argument (by simpa [logs] using h)
    exact ⟨id', hgrow.subset hid⟩

section Cases

variable {m : Machine H X} {c : Coordinator H X} {v : Value} {nt : Notice} {t : Nat} {r : List (Frame H X)}
  {es : List (Event H X)} {entries : List Diagnostic}

lemma Tracking.output (hk : Tracking ⟨c, .route v :: r, none, es⟩) (hn : notice? v = some nt) :
    Tracking ⟨c, .call t nt.moment nt.argument :: r, none, logs entries ++ .routed v :: es⟩ := by
  have hmoment := notice_moment hn
  refine hk.keep (logs entries ++ [.routed v]) (by simp) (by simp [logs, or_imp, forall_and]) rfl rfl ?_ (by simp)
  intro f hf
  rcases List.mem_cons.mp hf with rfl | hf
  · refine .inr (.inl ?_)
    cases hm : nt.moment <;> simp_all
  · exact .inl (List.mem_cons_of_mem _ hf)

lemma Tracking.answered (hk : Tracking ⟨c, .route v :: r, none, es⟩) (hs : Sound ⟨c, .route v :: r, none, es⟩)
    (hn : notice? v = some nt) (hres : c.resolve nt.id = some t) (hr : nt.reply = true) :
    Tracking ⟨c, .call t nt.moment nt.argument :: (closing nt t ++ .advance t :: r), none,
      logs entries ++ .routed v :: es⟩ := by
  have hmoment := notice_moment hn
  refine hk.keep (logs entries ++ [.routed v]) (by simp) (by simp [logs, or_imp, forall_and]) rfl rfl ?_ (by simp)
  intro f hf
  rcases List.mem_cons.mp hf with rfl | hf
  · refine .inr (.inl ?_)
    cases hm : nt.moment <;> simp_all
  rcases List.mem_append.mp hf with hf | hf
  · obtain ⟨hl, rfl⟩ : nt.last = true ∧ f = .close nt.id t := by simpa [closing] using hf
    exact .inr (.inr (.inr ⟨_, _, rfl, hk.ends_answered hs hn hres hr hl⟩))
  rcases List.mem_cons.mp hf with rfl | hf
  · exact .inr (.inl rfl)
  · exact .inl (List.mem_cons_of_mem _ hf)

lemma Tracking.opened (hk : Tracking ⟨c, .dispatch t :: r, none, es⟩) (hs : Sound ⟨c, .dispatch t :: r, none, es⟩)
    (ht : Tabled ⟨c, .dispatch t :: r, none, es⟩) :
    Tracking ⟨c.openContext t, .call t .beforeRun .nothing :: .prepare t (c.lastContext + 1) :: r, none,
      .opened t (c.lastContext + 1) :: es⟩ := by
  obtain ⟨rfl, -⟩ := hs.queued.dispatching
  have hle : ∀ e ∈ c.contexts, e.1 ≤ c.lastContext := fun e he => (ht.entries e he).2
  have hnew : ∀ id, .closed c.lastContext id ∉ es := fun id h => Nat.lt_irrefl _ (hk.started _ id h)
  refine ⟨hk.toTracked.open hle hnew, by simp, ?_, ?_, ?_⟩
  · intro t id h
    exact (hk.started t id (by simpa using h)).trans (Nat.lt_succ_self _)
  · intro id t h
    exact (hk.closes id t (by simpa using h)).grow (List.suffix_cons ..)
  · intro t argument h
    obtain ⟨id, hid⟩ := hk.calls t argument (by simpa using h)
    exact ⟨id, List.mem_cons_of_mem _ hid⟩

lemma Tracking.closed {id : Option Int} (hk : Tracking ⟨c, .close id t :: r, none, es⟩)
    (hs : Sound ⟨c, .close id t :: r, none, es⟩) (ht : Tabled ⟨c, .close id t :: r, none, es⟩) :
    Tracking ⟨c.closeContext id, .call t .afterRun .nothing :: r, none, .closed t id :: (logs [.contextEnded] ++ es)⟩ := by
  have hend := hk.closes id t (List.mem_cons_self ..)
  have hgrow : es <:+ .closed t id :: (logs [.contextEnded] ++ es) :=
    (List.suffix_append ..).trans (List.suffix_cons ..)
  refine ⟨hk.toTracked.close (fun k u h => hs.opened_id h) hend, by simp, ?_, ?_, ?_⟩
  · intro u id' h
    rw [closeContext_lastContext]
    simp only [logs, List.map_cons, List.map_nil, List.cons_append, List.nil_append, List.mem_cons, reduceCtorEq,
      false_or, Event.closed.injEq] at h
    rcases h with ⟨rfl, -⟩ | h
    · exact ht.targets u (by simp [Frame.target?])
    · exact hk.started u id' h
  · intro id' u h
    exact (hk.closes id' u (List.mem_cons_of_mem _ (by simpa using h))).grow hgrow
  · intro u argument h
    rcases List.mem_cons.mp h with h | h
    · cases h
      exact ⟨id, List.mem_cons_self ..⟩
    · obtain ⟨id', hid⟩ := hk.calls u argument (List.mem_cons_of_mem _ h)
      exact ⟨id', hgrow.subset hid⟩

/-- The transform has failed, and the task is sent an error reply with the id of its own context. -/
lemma Tracking.failed {fault : Option Fault} {f : Fault} {id : Nat} {x : X} {code : Value}
    (hk : Tracking ⟨c, .awaitTransform t id x code :: r, fault, es⟩)
    (hs : Sound ⟨c, .awaitTransform t id x code :: r, fault, es⟩)
    (ht : Tabled ⟨c, .awaitTransform t id x code :: r, fault, es⟩) :
    Tracking ⟨c, .loop (errorReply id f) :: r, none, logs [.transformFailed id f.form] ++ es⟩ := by
  have hrun := hs.ledger.running _ (List.mem_cons_self ..) t id rfl
  refine hk.keep (logs [.transformFailed id f.form]) rfl (by simp [logs]) rfl rfl ?_ ?_
  · intro g hg
    rcases List.mem_cons.mp hg with rfl | hg
    · exact .inr (.inr (.inl rfl))
    · exact .inl (List.mem_cons_of_mem _ hg)
  · intro v hv nt hn _
    obtain rfl : errorReply id f = v := by simpa using hv
    rw [errorReply_notice, Option.mem_def, Option.some.injEq] at hn
    subst hn
    obtain ⟨rfl, hlast, -⟩ := hrun
    exact .inr ⟨t, rfl, ht.latest hs.queued hlast⟩

/-- A reply that outside code delivers finds the task that its id belongs to. -/
lemma Tracking.start {operation : Operation H X} (hk : Tracking m) (ht : Tabled m)
    (hd : Documented m (.start operation)) : Tracking (m.push operation.frame) := by
  refine hk.keep [] rfl (by simp) rfl rfl ?_ ?_
  · intro g hg
    rcases List.mem_cons.mp hg with rfl | hg
    · cases operation
      · exact .inr (.inl rfl)
      · exact .inr (.inr (.inl rfl))
      · exact .inr (.inl rfl)
      · exact .inr (.inl rfl)
    · exact .inl hg
  · intro v hv nt hn hr
    obtain rfl : operation = .route v := by cases operation <;> simp_all [Machine.push, Operation.frame]
    rcases hd nt hn hr with ⟨e, he, hid⟩ | ⟨hid, -⟩
    · obtain ⟨hown, hres⟩ := ht.resolve_entry he
      rw [hown] at hid hres
      exact .inr ⟨e.2, hid, hid ▸ hres⟩
    · exact .inl hid

end Cases

theorem tracking_step {m n : Machine H X} {move : Move H X} (h : Stage m move n) (hs : Sound m) (ht : Tabled m)
    (hd : Documented m move) (hk : Tracking m) : Tracking n := by
  have hseat := hs.shape.seated
  cases h with
  | left h =>
    exact hk.pass [] _ hseat rfl rfl rfl (fun e he => .of_silent (h.silent e he)) (by simp)
  | ignored => exact hk.pass [] (logs [.ignored]) hseat (by simp) rfl rfl (by simp [logs]) (by simp)
  | taken => exact hk.pass [.drain] [_] hseat rfl rfl rfl (by simp) (by simp)
  | queued =>
    rename_i c task r es entry _ _
    exact hk.pass [] (logs [entry] ++ [.submitted c.tasks.length task]) hseat (by simp) rfl rfl (by simp [logs])
      (by simp)
  | draining => exact hk.pass [.drainLoop] [] hseat rfl rfl rfl (by simp) (by simp)
  | next => exact hk.pass [.dispatch _, .drainLoop] [] hseat rfl rfl rfl (by simp) (by simp)
  | drained | broken => exact hk.pass [] [] hseat rfl rfl rfl (by simp) (by simp)
  | asked => exact hk.pass [.awaitTransform ..] [_, _] hseat rfl rfl rfl (by simp) (by simp)
  | verbatim => exact hk.pass [.send ..] [_] hseat rfl rfl rfl (by simp) (by simp)
  | transformed =>
    rename_i c t id x code v r es
    exact hk.pass [.send ..] (logs [.transformed] ++ [.transformed id v]) hseat (by simp) rfl rfl (by simp [logs])
      (by simp)
  | sent =>
    rename_i c t id request r es _
    exact hk.pass [.awaitSend _] (.sent request :: logs [.dispatching (c.actionOf t)]) hseat (by simp) rfl rfl (by simp [logs])
      (by simp)
  | killed =>
    rename_i c r es entries
    exact hk.pass [] (logs entries) hseat rfl rfl rfl (by simp [logs]) (by simp)
  | assigned => exact hk.pass [] [_] hseat rfl rfl rfl (by simp) (by simp)
  | freed => exact hk.pass [.drain] [] hseat rfl rfl rfl (by simp) (by simp)
  | unheard =>
    rename_i c v r es entries _
    exact hk.pass [] (logs entries ++ [.routed v]) hseat (by simp) rfl rfl (by simp [logs, or_imp, forall_and]) (by simp)
  | output hn => exact hk.output hn
  | answered hn hres hr => exact hk.answered hs hn hres hr
  | called hh =>
    rename_i c t moment argument h r es
    refine hk.pass [.awaitHook h argument] [.called h argument, .told t moment argument] hseat rfl rfl rfl ?_ (by simp)
    have hclosed := hk.calls t argument
    cases moment <;> simp_all
  | opened => exact hk.opened hs ht
  | closed => exact hk.closed hs ht
  | failed => exact hk.failed hs ht
  | looped =>
    refine hk.keep [] rfl (by simp) rfl rfl ?_ ?_
    · intro g hg
      rcases List.mem_cons.mp hg with rfl | hg
      · exact .inr (.inr (.inl rfl))
      · exact .inl (List.mem_cons_of_mem _ hg)
    · intro v hv
      obtain rfl : _ = v := by simpa using hv
      exact hk.incoming _ (.inl rfl)
  | started => exact hk.start ht hd
  | recovered => exact hk.keep [] rfl (by simp) rfl rfl (fun g hg => .inl hg) hk.incoming

theorem tracking_fresh (x : Option X) : Tracking (Machine.fresh (H := H) x) := by
  refine ⟨⟨?_, ?_, ?_, ?_⟩, ?_, ?_, ?_, ?_⟩ <;> simp [Machine.fresh]

/-- How the table of contexts stands to the replies that have been taken in. -/
structure Tabulated (c : Coordinator H X) (es : List (Event H X)) : Prop where
  /-- No id stands in the table twice. -/
  ascending : (c.contexts.map Prod.fst).Pairwise (· < ·)
  /-- Only dispatched tasks have entries, under their own ids. -/
  entered : ∀ e ∈ c.contexts, .opened e.2 e.1 ∈ es
  /-- A dispatched task has its entry as long as no last reply with its id has come. -/
  unfinished : ∀ t k, .opened t k ∈ es → ¬ Ended es k → (k, t) ∈ c.contexts
  /-- That its run is over is told to a task when its context is closed. -/
  told : ∀ t argument, .told t .afterRun argument ∈ es → ∃ id, .closed t id ∈ es
  /-- A task whose context is closed has no entry, unless the last reply to it had no id. -/
  finished : ∀ t id, .closed t id ∈ es → Ended es (t + 1) ∧ (∀ k, (k, t) ∉ c.contexts) ∨ id = none ∧ EndedUnnamed es t

lemma Tracked.tabulated {c : Coordinator H X} {es : List (Event H X)} (ht : Tracked c es)
    (hopened : ∀ k t, .opened t k ∈ es → k = t + 1) : Tabulated c es := by
  refine ⟨ht.ascending, ?_, ?_, ht.told, ?_⟩
  · intro e he
    exact ((ht.mem_iff e.1 e.2).mp he).1
  · intro t k hopen hended
    refine (ht.mem_iff k t).mpr ⟨hopen, fun hclosed => hended ?_⟩
    obtain rfl := hopened k t hopen
    exact (ht.ends t _ hclosed).2
  · intro t id hclosed
    have hends := ht.ends t id hclosed
    cases id with
    | none => exact .inr ⟨rfl, hends⟩
    | some id =>
      obtain ⟨rfl, hended⟩ := hends
      refine .inl ⟨hended, fun k hk => ?_⟩
      obtain ⟨hopen, hnot⟩ := (ht.mem_iff k t).mp hk
      obtain rfl := hopened k t hopen
      exact hnot hclosed

/-- Hooks may start operations and raise as they like: over a worker that replies to open contexts, or without an id while
a task is in the slot, only the last replies without an id leave entries of finished tasks behind. -/
theorem run_tabulated {x : Option X} {moves : List (Move H X)} {m : Machine H X}
    (hf : Follows Machine.step Documented (Machine.fresh x) moves) (hr : (Machine.fresh x).run moves = some m) :
    Tabulated m.state m.events := by
  rw [Machine.run_eq] at hr
  obtain ⟨hs, -, hk⟩ : Sound m ∧ Tabled m ∧ Tracking m := by
    refine run_invariant (I := fun m => Sound m ∧ Tabled m ∧ Tracking m) ?_ hf hr
      ⟨sound_fresh x, (provided_fresh x).toTabled, tracking_fresh x⟩
    intro m move n hd hst hi
    obtain ⟨hs, ht, hk⟩ := hi
    have h := step_stage hst
    exact ⟨sound_step h hs, tabled_step h hs ht, tracking_step h hs ht hd hk⟩
  exact hk.toTracked.tabulated fun k t h => hs.opened_id h

/-- Two tasks are sent one after the other; the first reply has the id of its task and ends its context. -/
def oneEnded : List (Move Nat Nat) :=
  List.flatten [[.start (.submit ⟨.run, .string "a", { afterRun := some 1 }⟩)], List.replicate 7 .tick,
    [.answer .done, .tick, .start (.route (.object [("id", .int 1), ("end", .bool true), ("mime", .object [])])),
      .tick, .tick, .tick, .tick, .answer .done],
    List.replicate 3 .tick, [.start (.submit ⟨.inspect, .string "b", {}⟩)], List.replicate 7 .tick, [.answer .done, .tick]]

theorem oneEnded_tabulated :
    ∃ m, (Machine.fresh none).run oneEnded = some m ∧ Tabulated m.state m.events ∧ m.stack = [] ∧
      m.state.contexts = [(2, 1)] ∧ .told 0 .afterRun .nothing ∈ m.events := by
  have h : ((Machine.fresh none).run oneEnded).isSome = true := by decide +kernel
  have hm := (Option.some_get h).symm
  exact ⟨_, hm, run_tabulated (by decide +kernel) hm, rfl, rfl, List.mem_of_elem_eq_true rfl⟩

/-- The last reply to the task in the slot has no id. -/
def endedUnnamed : List (Move Nat Nat) :=
  List.flatten [[.start (.submit ⟨.run, .string "a", { afterRun := some 1 }⟩)], List.replicate 7 .tick,
    [.answer .done, .tick, .start (.route (.object [("end", .bool true), ("mime", .object [])])), .tick, .tick, .tick,
      .tick, .answer .done], List.replicate 3 .tick]

/-- Then the task is told that its run is over, and keeps its entry. -/
theorem endedUnnamed_kept :
    ∃ m, Follows Machine.step Documented (Machine.fresh none) endedUnnamed ∧
      (Machine.fresh none).run endedUnnamed = some m ∧ m.stack = [] ∧ m.state.inFlight = none ∧
      EndedUnnamed m.events 0 ∧ .told 0 .afterRun .nothing ∈ m.events ∧ (1, 0) ∈ m.state.contexts := by
  have h : ((Machine.fresh none).run endedUnnamed).isSome = true := by decide +kernel
  have hm := (Option.some_get h).symm
  set m := ((Machine.fresh none).run endedUnnamed).get h
  have hended : EndedUnnamed m.events 0 := ⟨_, _, m.events.drop 7, List.drop_suffix 6 m.events, rfl, rfl, rfl, rfl⟩
  exact ⟨m, by decide +kernel, hm, rfl, rfl, hended, List.mem_of_elem_eq_true rfl, List.mem_of_elem_eq_true rfl⟩

end EvalSession.Coordinator
