import EvalSession.Proofs.Coordinator.Phase

/-!
# Every schedule plays the tasks one after the other

Each move keeps `Serial`: it takes the task in the slot from one phase to the next, or concerns nobody who works. Main
statement: a run that keeps to a scenario is `Serialized`, whatever its schedule.
-/
namespace EvalSession.Coordinator

variable {H X : Type} {s : Scenario H X}

lemma resolve_open {c : Coordinator H X} {t : Nat} (h : c.contexts = [(t + 1, t)]) :
    c.resolve (some ((t + 1 : Nat) : Int)) = some t := by
  simp [resolve, owner?, h]

lemma Serial.hear {c : Coordinator H X} {v : Value} {r : List (Frame H X)} {es : List (Event H X)}
    (new : List (Frame H X)) (h : Serial s ⟨c, .route v :: r, none, es⟩) (entries : List Diagnostic)
    (hnew : ∀ f ∈ new, f.operates = false)
    (hp : ∀ t task left nt, notice? v = some nt → c.resolve nt.id = some t →
      (∀ moment, c.hookOf t moment = task.hooks.get moment) → c.contexts = [(t + 1, t)] →
      nt.id = some ((t + 1 : Nat) : Int) → work r = [] →
      (nt.last = true ∧ left = [] ∨ nt.reply = false ∧ Complete (t + 1) left) →
      Phase s t task (t + 1) c.contexts (work (new ++ r)) left
        (reaction task.hooks t v ++ left.flatMap (reaction task.hooks t))) :
    Serial s ⟨c, new ++ r, none, logs entries ++ .routed v :: es⟩ := by
  obtain ⟨t, task, k, _, _, vs, rest, hb, hopen, hw, hph⟩ := h.busy rfl
  obtain ⟨rfl, rfl, rfl, nt, left, hn, hid, hvs, rfl, hend⟩ := hph.route
  have hres : c.resolve nt.id = some t := by rw [hid, resolve_open hopen]
  have hlast : left ≠ [] → nt.last = false := by
    intro hl
    rcases hend with ⟨-, rfl⟩ | ⟨hr, -⟩
    · exact absurd rfl hl
    · exact last_of_output hn hr
  have hbusy : Busy s ⟨c, new ++ r, none, logs entries ++ .routed v :: es⟩ t task (t + 1) left _ :=
    hb.hear entries hn hid hvs hlast (hp t task left nt hn hres hb.kept.2.2 hopen hid hw hend)
  refine h.go hbusy rfl rfl rfl (by simp [given]) fun f hf => ?_
  rcases List.mem_append.mp hf with hf | hf
  · exact .inr (hnew f hf)
  · exact .inl (List.mem_cons_of_mem _ hf)

lemma Serial.hit {c : Coordinator H X} {fault : Option Fault} {move : Move H X} {f : Frame H X} {e : Fault}
    {r : List (Frame H X)} {es : List (Event H X)} (h : Serial s ⟨c, f :: r, fault, es⟩)
    (ha : s.Allows ⟨c, f :: r, fault, es⟩ move) (hit : Hit fault move e) :
    (∃ hook argument, f = .awaitHook hook argument) ∧ e.ordinary = true ∨
      ∃ t id x code, f = .awaitTransform t id x code ∧ s.rewrite x code = .error e := by
  obtain rfl : fault = none := h.fault
  rcases hit with ⟨hn, -⟩ | ⟨-, rfl⟩
  · cases hn
  · exact s.permits_raised ha

lemma Serial.leave {c : Coordinator H X} {fault fault' : Option Fault} {move : Move H X} {f : Frame H X}
    {quiet es : List (Event H X)} {r : List (Frame H X)} (hl : Leaves c fault move f fault' quiet)
    (hs : Sound ⟨c, f :: r, fault, es⟩) (ha : Addressed ⟨c, f :: r, fault, es⟩)
    (hg : s.Allows ⟨c, f :: r, fault, es⟩ move) (h : Serial s ⟨c, f :: r, fault, es⟩) :
    Serial s ⟨c, r, fault', quiet ++ es⟩ := by
  have he : Tacit es (quiet ++ es) := tacit_silent hl.silent es
  have hv : visible (quiet ++ es) = visible es := gather_silent _ hl.silent es
  have hmem : ∀ g ∈ r, g ∈ f :: r ∨ g.operates = false := fun g hm => .inl (List.mem_cons_of_mem _ hm)
  have hpass : f.labours = false → fault' = none → f ≠ .drain → f ≠ .drainLoop →
      Serial s ⟨c, r, fault', quiet ++ es⟩ := by
    intro hw hf hd hdl
    refine h.pass ⟨he, hv, (work_idles hw r).symm, rfl, rfl, rfl, rfl⟩ rfl rfl hf hmem fun hi hp => ?_
    have := h.live hi hp
    simpa [hd.symm, hdl.symm] using this
  cases hl with
  | nested hd =>
    refine h.pass ⟨he, hv, rfl, rfl, rfl, rfl, rfl⟩ rfl rfl rfl hmem fun _ _ => .inr ?_
    have hloops : List.countP Frame.isLoop (.drain :: r) = 1 := by simpa [hd] using hs.shape.loops
    obtain ⟨g, hm, hloop⟩ := List.countP_pos_iff.mp (by rw [hloops]; exact Nat.one_pos)
    cases g <;> simp_all [Frame.isLoop]
  | refused hm =>
    obtain ⟨t, task, k, _, _, vs, rest, hb, -, -, hph⟩ := h.busy rfl
    obtain ⟨-, hcode, -⟩ := hb.kept
    obtain ⟨text, htext⟩ := h.textual hb.own
    cases hph
    simp only [Nat.lt_succ_self, if_true, htext] at hcode
    simp [Request.make, hcode, Field.within, Field.string, Except.map] at hm
  | undelivered hr | observed hr =>
    have := ha.router
    simp only at this
    rw [hr] at this
    cases this
  | stale hne =>
    obtain ⟨t, task, k, _, _, vs, rest, hb, -, -, hph⟩ := h.busy rfl
    cases hph
    exact absurd hb.slot hne
  | unset hh =>
    rename_i u moment argument
    obtain ⟨t, task, k, contexts, w, vs, rest, hb, hctx, hw, hph⟩ := h.busy rfl
    cases hph with
    | call _ _ hph =>
      have hnone : task.hooks.get moment = none := (hb.kept.2.2 moment).symm.trans hh
      refine h.go (hb.next he rfl hctx hw hph (he.settled rfl hb.settled) ?_) rfl rfl rfl he.given hmem
      simp [calls, hnone]
  | returned | accepted => exact hpass rfl rfl (by simp) (by simp)
  | contained => exact hpass rfl rfl (by simp) (by simp)
  | escaped hit ho =>
    rcases h.hit hg hit with ⟨-, hord⟩ | ⟨_, _, _, _, hf, -⟩
    · simp [hord] at ho
    · cases hf
  | aborted hit ho =>
    rcases h.hit hg hit with ⟨⟨_, _, hf⟩, -⟩ | ⟨_, _, _, _, hf, herr⟩
    · cases hf
    · simp [s.ordinary _ _ _ herr] at ho
  | unsent hit =>
    rcases h.hit hg hit with ⟨⟨_, _, hf⟩, -⟩ | ⟨_, _, _, _, hf, -⟩ <;> cases hf
  | unwound => cases h.fault

lemma prefix_concat {α : Type} {l tasks : List α} {a : α} (h : l <+: tasks) (ha : tasks[l.length]? = some a) :
    l ++ [a] <+: tasks := by
  obtain ⟨rest, rfl⟩ := h
  rw [List.getElem?_append_right (Nat.le_refl _), Nat.sub_self] at ha
  obtain ⟨rest, rfl⟩ := List.head?_eq_some_iff.mp (List.head?_eq_getElem? ▸ ha)
  exact ⟨rest, by simp⟩

lemma Serial.take {c : Coordinator H X} {es es' : List (Event H X)} {r : List (Frame H X)} {task : Task H}
    (new : List (Frame H X)) (h : Serial s ⟨c, .submit task :: r, none, es⟩)
    (hs : Sound ⟨c, .submit task :: r, none, es⟩)
    (hg : given es' = given es ++ [task]) (hr : requests es' = requests es) (ht : ∀ k, tagged es' k = tagged es k)
    (hv : visible es' = visible es) (hw : work new = []) (hnew : ∀ f ∈ new, f.operates = false)
    (hl : c.inFlight = none → .drain ∈ new) :
    Serial s ⟨{ c with tasks := c.tasks ++ [task], pending := c.pending ++ [c.tasks.length] }, new ++ r, none,
      es'⟩ := by
  have hle : c.lastContext ≤ (given es).length := hs.queued.lastContext_le
  have hwork : work (new ++ r) = work (.submit task :: r) := by
    rw [work, List.filter_append, ← work, hw]
    rfl
  have hund : ∀ q, undelivered s es' q = undelivered s es q := fun q => by rw [undelivered, ht, undelivered]
  refine ⟨h.killed, h.transform, rfl, ?_, fun f hf ho => ?_, fun hi _ => .inl (List.mem_append_left _ (hl hi)), ?_⟩
  · obtain ⟨task', he, hnext⟩ := h.entries _ (List.mem_cons_self ..) rfl
    obtain rfl : task = task' := by simpa using he
    simp only [hg]
    exact prefix_concat h.taken hnext
  · rcases List.mem_append.mp hf with hf | hf
    · simp [hnew f hf] at ho
    · rw [Frame.not_operates (hs.shape.seated.resumes f hf)] at ho
      cases ho
  · rcases h.turn with hfree | ⟨t, task', k, vs, rest, hb⟩
    · refine .inl ⟨hfree.slot, hfree.contexts, hwork.trans hfree.idle, hfree.settled.take hle hg rfl, fun q hq => ?_,
        ?_⟩
      · exact (hund q).trans (hfree.delivered q (hr ▸ hq))
      · exact hv.trans hfree.seen
    · have hlt : t < (given es).length := (List.getElem?_eq_some_iff.mp hb.own).1
      have hk : k ≤ (given es).length := hb.phase.settled_le.trans hlt
      refine .inr ⟨t, task', k, vs, rest, hb.slot, ?_, hwork ▸ hb.phase, hb.settled.take hk hg rfl, fun q hq => ?_,
        fun hne => ?_, ?_⟩
      · simp only [hg]
        rw [List.getElem?_append_left hlt]
        exact hb.own
      · exact (hund q).trans (hb.delivered q (hr ▸ hq))
      · simpa only [Sent, Ended, hr, ht] using hb.awaited hne
      · simp only [hv]
        exact hb.seen

lemma Serial.dispatch {c : Coordinator H X} {t : Nat} {r : List (Frame H X)} {es : List (Event H X)}
    (h : Serial s ⟨c, .dispatch t :: r, none, es⟩) (hs : Sound ⟨c, .dispatch t :: r, none, es⟩)
    (ha : Addressed ⟨c, .dispatch t :: r, none, es⟩) :
    Serial s ⟨c.openContext t, .call t .beforeRun .nothing :: .prepare t (c.lastContext + 1) :: r, none,
      .opened t (c.lastContext + 1) :: es⟩ := by
  obtain ⟨rfl, task, htask⟩ := hs.queued.dispatching
  have hlt : c.lastContext < (given es).length := (List.getElem?_eq_some_iff.mp htask).1
  have he : Tacit es (.opened c.lastContext (c.lastContext + 1) :: es) :=
    ⟨by simp [given], by simp [requests], fun k => by simp [tagged, notices]⟩
  have hfree : Free s ⟨c, .dispatch c.lastContext :: r, none, es⟩ := by
    rcases h.turn with hfree | ⟨u, _, _, _, _, hb⟩
    · exact hfree
    · have hnone := hs.queued.free.resolve_left (by simp)
      rw [hb.slot] at hnone
      cases hnone
  have hidle : work r = [] := (work_idles rfl r).symm.trans hfree.idle
  have hb : Busy s ⟨c.openContext c.lastContext,
      .call c.lastContext .beforeRun .nothing :: .prepare c.lastContext (c.lastContext + 1) :: r, none,
      .opened c.lastContext (c.lastContext + 1) :: es⟩ c.lastContext task c.lastContext []
      (s.episode c.lastContext task) := by
    refine ⟨rfl, he.given ▸ htask, ?_, he.settled rfl hfree.settled, fun q hq => ?_, by simp, ?_⟩
    · have hctx : (c.openContext c.lastContext).contexts = [(c.lastContext + 1, c.lastContext)] := by
        simpa [openContext] using hfree.contexts
      rw [work_labours rfl, work_labours rfl, hidle, hctx]
      exact .call _ _ .prepare
    · rw [he.undelivered, hfree.delivered q (he.requests ▸ hq), if_neg]
      have := (ha.sent q.contextId ⟨q, he.requests ▸ hq, rfl⟩).2
      simp only at this
      omega
    · have hget : s.tasks[c.lastContext]? = some task := by
        obtain ⟨more, hmore⟩ := h.taken
        rw [← hmore, List.getElem?_append_left hlt, htask]
      have hseen : visible es = s.played c.lastContext := hfree.seen
      rw [s.played_succ hget, ← hseen]
      simp [visible]
  refine h.go hb rfl rfl rfl he.given fun f hf => ?_
  simp only [List.mem_cons] at hf ⊢
  rcases hf with rfl | rfl | hf
  · exact .inr rfl
  · exact .inr rfl
  · exact .inl (.inr hf)

lemma Sound.resumes {m : Machine H X} (hs : Sound m) (ho : m.open? = true) : ∀ f ∈ m.stack, f.resumes = true := by
  have hseat := hs.shape.seated
  have hout := Machine.outside_of_open ho
  intro f hf
  obtain ⟨g, r, hstack⟩ := List.exists_cons_of_ne_nil (List.ne_nil_of_mem hf)
  rw [hstack] at hseat hout hf
  rcases List.mem_cons.mp hf with rfl | hf
  · have hwaits : f.waits = true := hout
    cases f <;> simp_all [Frame.resumes, Frame.waits]
  · exact hseat.resumes f hf

lemma Serial.start {m : Machine H X} {operation : Operation H X} (h : Serial s m) (hs : Sound m)
    (ho : m.open? = true) (ha : s.Allows m (.start operation)) : Serial s (m.push operation.frame) := by
  cases operation with
  | kill | assign => exact ha.elim
  | submit task =>
    have hi : Idle m (m.push (.submit task)) := ⟨⟨rfl, rfl, fun _ => rfl⟩, rfl, rfl, rfl, rfl, rfl, rfl⟩
    refine ⟨h.killed, h.transform, rfl, h.taken, fun f hf hop => ?_, fun hn hp => ?_, hi.turn h.turn⟩
    · rcases List.mem_cons.mp hf with rfl | hf
      · exact ⟨task, rfl, ha⟩
      · exact h.entries f hf hop
    · exact (h.live hn hp).imp (List.mem_cons_of_mem _) (List.mem_cons_of_mem _)
  | route v =>
    obtain ⟨t, task, k, left, rest, hb, hc⟩ := h.next ha
    have hres : ∀ f ∈ work m.stack, f.resumes = true := fun f hf => hs.resumes ho f (List.mem_filter.mp hf).1
    obtain ⟨hw, rfl, hctx, rfl⟩ := hb.phase.waits (by simp) hres
    have hb' : Busy s (m.push (.route v)) t task (t + 1) (v :: left) ((v :: left).flatMap (reaction task.hooks t)) := by
      refine ⟨hb.slot, hb.own, ?_, hb.settled, hb.delivered, hb.awaited, hb.seen⟩
      have hwork : work (m.push (.route v)).stack = [.route v] := by
        rw [Machine.push, work_labours rfl, hw]
      rw [hwork]
      exact hctx ▸ .arrived hc
    refine h.go hb' rfl rfl rfl rfl fun f hf => ?_
    rcases List.mem_cons.mp hf with rfl | hf
    · exact .inr rfl
    · exact .inl hf

lemma Serial.send {c : Coordinator H X} {t id : Nat} {request : Request} {r : List (Frame H X)} {es : List (Event H X)}
    (h : Serial s ⟨c, .send t id :: r, none, es⟩) (hs : Sound ⟨c, .send t id :: r, none, es⟩)
    (ha : Addressed ⟨c, .send t id :: r, none, es⟩)
    (hm : Request.make (c.actionOf t) (c.codeOf t) id = .ok request) :
    Serial s ⟨c, .awaitSend request :: r, none, .sent request :: (logs [.dispatching (c.actionOf t)] ++ es)⟩ := by
  obtain ⟨u, task, k, contexts, w, vs, rest, hb, hctx, hw, hph⟩ := h.busy rfl
  obtain ⟨hact, hcode, -⟩ := hb.kept
  obtain ⟨hnew, htag⟩ := ha.running _ (List.mem_cons_self ..) t id rfl
  obtain ⟨text, htext, rfl⟩ := request_code hm
  cases hph
  simp only [Nat.lt_succ_self, if_true] at hact hcode hnew htag
  rw [htext] at hcode
  rw [hact]
  set es' : List (Event H X) := .sent ⟨task.action, text, t + 1⟩ :: (logs [.dispatching task.action] ++ es)
  have hgiven : given es' = given es := by simp [given, es']
  have htags : ∀ j, tagged es' j = tagged es j := fun j => by simp [tagged, notices, es']
  have hreq : requests es' = requests es ++ [⟨task.action, text, t + 1⟩] := by simp [requests, es']
  have hseen : visible es' = visible es ++ [.sent ⟨task.action, text, t + 1⟩] := by simp [visible, es']
  have hsent : Sent es' (t + 1) := by
    rw [Sent, hreq]
    exact ⟨_, List.mem_append_right _ (List.mem_singleton_self _), rfl⟩
  have hb' : Busy s ⟨c, .awaitSend ⟨task.action, text, t + 1⟩ :: r, none, es'⟩ t task (t + 1)
      (s.worker ⟨task.action, text, t + 1⟩)
      ((s.worker ⟨task.action, text, t + 1⟩).flatMap (reaction task.hooks t)) := by
    refine ⟨hb.slot, hgiven ▸ hb.own, ?_, ?_, fun q hq => ?_, fun _ => ⟨hsent, ?_⟩, ?_⟩
    · rw [work_idles rfl, hw, hctx]
      exact .waiting (s.complete ⟨task.action, text, t + 1⟩)
    · rw [Settled, hgiven]
      exact hb.settled
    · rw [undelivered, htags]
      rcases List.mem_append.mp (hreq ▸ hq) with hq | hq
      · have hne : q.contextId ≠ t + 1 := fun hne => hnew ⟨q, hq, hne⟩
        have hold := hb.delivered q hq
        simp only [hne, if_false] at hold ⊢
        exact hold
      · obtain rfl := List.mem_singleton.mp hq
        simp [htag]
    · rintro ⟨nt, hm, -⟩
      simp [htags, htag] at hm
    · have hstory := hb.seen
      rw [← hcode] at hstory
      rw [hseen, ← hstory]
      simp [Scenario.exchange]
  refine h.go hb' rfl rfl rfl hgiven fun f hf => ?_
  rcases List.mem_cons.mp hf with rfl | hf
  · exact .inr rfl
  · exact .inl (List.mem_cons_of_mem _ hf)

section Cases

variable {c : Coordinator H X} {t id : Nat} {v : Value} {nt : Notice} {r : List (Frame H X)} {es : List (Event H X)}
  {entries : List Diagnostic}

lemma Serial.call {moment : Moment} {argument : Argument} {hook : H}
    (h : Serial s ⟨c, .call t moment argument :: r, none, es⟩) (hh : c.hookOf t moment = some hook) :
    Serial s ⟨c, .awaitHook hook argument :: r, none, .called hook argument :: .told t moment argument :: es⟩ := by
  obtain ⟨u, task, k, contexts, w, vs, rest, hb, hctx, hw, hph⟩ := h.busy rfl
  have he : Tacit es (.called hook argument :: .told t moment argument :: es) :=
    ⟨by simp [given], by simp [requests], fun k => by simp [tagged, notices]⟩
  cases hph with
  | call _ _ hph =>
    have hget : task.hooks.get moment = some hook := (hb.kept.2.2 moment).symm.trans hh
    refine h.go (hb.next he rfl hctx ((work_idles rfl r).trans hw) hph (he.settled rfl hb.settled) ?_) rfl rfl rfl
      he.given (by simp +contextual [Frame.operates])
    simp [visible, calls, hget]

/-- Only output can go unheard. -/
lemma Serial.unheard (h : Serial s ⟨c, .route v :: r, none, es⟩) (hu : Unheard c v) :
    Serial s ⟨c, r, none, logs entries ++ .routed v :: es⟩ := by
  refine h.hear [] entries (by simp) fun t task left nt hn hres hhook hctx hid hw hend => ?_
  obtain ⟨hr, hnone⟩ := hu nt hn t hres
  rw [List.nil_append, hw, hctx, reaction_of_output hn hr]
  rcases hend with ⟨hl, -⟩ | ⟨-, hc⟩
  · simp [reply_of_last hn hl] at hr
  · have hget : task.hooks.get nt.moment = none := (hhook _).symm.trans hnone
    simpa [calls, hget] using Phase.waiting hc

lemma Serial.output (h : Serial s ⟨c, .route v :: r, none, es⟩) (hn : notice? v = some nt)
    (hres : c.resolve nt.id = some t) (hr : nt.reply = false) :
    Serial s ⟨c, .call t nt.moment nt.argument :: r, none, logs entries ++ .routed v :: es⟩ := by
  refine h.hear [.call t nt.moment nt.argument] entries (by simp [Frame.operates])
    fun u task left nt' hn' hres' hhook hctx hid hw hend => ?_
  obtain rfl : nt = nt' := by simpa [hn] using hn'
  obtain rfl : t = u := by simpa [hres] using hres'
  rw [List.singleton_append, work_labours rfl, hw, hctx, reaction_of_output hn hr]
  rcases hend with ⟨hl, -⟩ | ⟨-, hc⟩
  · simp [reply_of_last hn hl] at hr
  · exact .call _ _ (.waiting hc)

/-- The only reply of an answer ends it, so the context is closed before the slot is freed. -/
lemma Serial.answered (h : Serial s ⟨c, .route v :: r, none, es⟩) (hn : notice? v = some nt)
    (hres : c.resolve nt.id = some t) (hr : nt.reply = true) :
    Serial s ⟨c, .call t nt.moment nt.argument :: (closing nt t ++ .advance t :: r), none,
      logs entries ++ .routed v :: es⟩ := by
  have := h.hear (.call t nt.moment nt.argument :: (closing nt t ++ [.advance t])) entries ?_
    fun u task left nt' hn' hres' hhook hctx hid hw hend => ?_
  · simpa using this
  · unfold closing
    split <;> simp [Frame.operates]
  · obtain rfl : nt = nt' := by simpa [hn] using hn'
    obtain rfl : t = u := by simpa [hres] using hres'
    rcases hend with ⟨hl, rfl⟩ | ⟨hr', -⟩
    · have hwork : work (.call t nt.moment nt.argument :: (closing nt t ++ [.advance t]) ++ r) =
          [.call t nt.moment nt.argument, .close nt.id t, .advance t] := by
        have hclosing : (closing nt t : List (Frame H X)) = [.close nt.id t] := by simp [closing, hl]
        rw [hclosing]
        exact congrArg (_ :: _ :: _ :: ·) hw
      rw [hwork, hctx, hid, reaction_of_last hn hl]
      simpa using Phase.call nt.moment nt.argument Phase.answered
    · simp [hr'] at hr

lemma Serial.close {id : Option Int} (h : Serial s ⟨c, .close id t :: r, none, es⟩) :
    Serial s ⟨c.closeContext id, .call t .afterRun .nothing :: r, none, .closed t id :: (logs [.contextEnded] ++ es)⟩ := by
  obtain ⟨u, task, k, contexts, w, vs, rest, hb, hctx, hw, hph⟩ := h.busy rfl
  have he : Tacit es (.closed t id :: (logs [.contextEnded] ++ es)) :=
    ⟨by simp [given], by simp [requests], fun k => by simp [tagged, notices]⟩
  cases hph
  refine h.go (hb.next he (by simp) (by simp [closeContext, hctx]) (by rw [work_labours rfl, hw]) (.call _ _ .over)
    (he.settled (by simp) hb.settled) ?_) (by simp) (by simp) rfl he.given (by simp +contextual [Frame.operates])
  simp [visible]

lemma Serial.ask {x : X} (h : Serial s ⟨c, .prepare t id :: r, none, es⟩) (hrun : c.actionOf t = .run)
    (hx : c.transform = some x) :
    Serial s ⟨c, .awaitTransform t id x (c.codeOf t) :: r, none,
      .transforming x (c.codeOf t) :: .ready id (some x) :: es⟩ := by
  obtain ⟨u, task, k, contexts, w, vs, rest, hb, hctx, hw, hph⟩ := h.busy rfl
  obtain ⟨hact, hcode, -⟩ := hb.kept
  have he : Tacit es (.transforming x (c.codeOf t) :: .ready id (some x) :: es) :=
    ⟨by simp [given], by simp [requests], fun k => by simp [tagged, notices]⟩
  cases hph
  simp only [Nat.lt_irrefl, if_false] at hact hcode
  have ha : task.action = .run := hact.symm.trans hrun
  have hx' : s.transform = some x := h.transform.symm.trans hx
  refine h.go (hb.next he rfl hctx (by rw [work_labours rfl, hw, hcode]) (.asked ha hx')
    (he.settled rfl hb.settled) ?_) rfl rfl rfl he.given (by simp +contextual [Frame.operates])
  simp [visible, s.body_run ha hx', hcode]

lemma Serial.verbatim (h : Serial s ⟨c, .prepare t id :: r, none, es⟩) (hx : c.actionOf t = .run → c.transform = none) :
    Serial s ⟨c, .send t id :: r, none, .ready id c.transform :: es⟩ := by
  obtain ⟨u, task, k, contexts, w, vs, rest, hb, hctx, hw, hph⟩ := h.busy rfl
  have hact := hb.kept.1
  have he : Tacit es (.ready id c.transform :: es) :=
    ⟨by simp [given], by simp [requests], fun k => by simp [tagged, notices]⟩
  cases hph
  obtain ⟨hbody, hsame⟩ := s.body_verbatim (t := t) fun ha => h.transform.symm.trans (hx (hact.trans ha))
  refine h.go (hb.next he rfl hctx (by rw [work_labours rfl, hw]) .send
    ((he.settled rfl hb.settled).succ (he.given ▸ hb.own) hsame) ?_) rfl rfl rfl he.given
    (by simp +contextual [Frame.operates])
  rw [hsame, hbody]
  simp [visible]

lemma Serial.transformed {x : X} {code : Value} (h : Serial s ⟨c, .awaitTransform t id x code :: r, none, es⟩)
    (hg : s.Allows ⟨c, .awaitTransform t id x code :: r, none, es⟩ (.answer (.code v))) :
    Serial s ⟨c.setCode t v, .send t id :: r, none, logs [.transformed] ++ .transformed id v :: es⟩ := by
  obtain ⟨u, task, k, contexts, w, vs, rest, hb, hctx, hw, hph⟩ := h.busy rfl
  have he : Tacit es (logs [.transformed] ++ .transformed id v :: es) :=
    ⟨by simp [given], by simp [requests], fun k => by simp [tagged, notices]⟩
  cases hph with
  | asked hrun hx =>
    obtain ⟨text, hr, rfl⟩ := s.permits_code t (t + 1) hg
    obtain ⟨hset, hver⟩ := s.verdict_ok (t := t) hrun hx hr
    refine h.go (hb.next he rfl hctx (by rw [work_labours rfl, hw]) .send
      ((he.settled rfl hb.settled).setCode (he.given ▸ hb.own) hset) ?_) rfl rfl rfl he.given
      (by simp +contextual [Frame.operates])
    rw [hver]
    simp [visible]

lemma Serial.failed {fault : Option Fault} {f : Fault} {x : X} {code : Value} {move : Move H X}
    (h : Serial s ⟨c, .awaitTransform t id x code :: r, fault, es⟩)
    (hg : s.Allows ⟨c, .awaitTransform t id x code :: r, fault, es⟩ move) (hit : Hit fault move f) :
    Serial s ⟨c, .loop (errorReply id f) :: r, none, logs [.transformFailed id f.form] ++ es⟩ := by
  obtain rfl : fault = none := h.fault
  obtain ⟨u, task, k, contexts, w, vs, rest, hb, hctx, hw, hph⟩ := h.busy rfl
  have he : Tacit es (logs [.transformFailed id f.form] ++ es) := tacit_silent (silent_logs _) es
  cases hph with
  | asked hrun hx =>
    have hr : s.rewrite x task.code = .error f := by
      rcases h.hit hg hit with ⟨⟨_, _, hf⟩, -⟩ | ⟨_, _, _, _, hf, hr⟩
      · cases hf
      · cases hf
        exact hr
    obtain ⟨hset, hver⟩ := s.verdict_error (t := t) hrun hx hr
    refine h.go (hb.next he rfl hctx (by rw [work_labours rfl, hw]) .failed
      ((he.settled rfl hb.settled).succ (he.given ▸ hb.own) hset) ?_) rfl rfl rfl he.given
      (by simp +contextual [Frame.operates])
    rw [hver]
    simp [visible]

lemma Serial.loop (h : Serial s ⟨c, .loop v :: r, none, es⟩) : Serial s ⟨c, .route v :: r, none, es⟩ := by
  obtain ⟨t, task, k, contexts, w, vs, rest, hb, hctx, hw, hph⟩ := h.busy rfl
  cases hph
  exact h.go (hb.next ⟨rfl, rfl, fun _ => rfl⟩ rfl hctx (by rw [work_labours rfl, hw]) .excused hb.settled rfl) rfl rfl
    rfl rfl (by simp +contextual [Frame.operates])

lemma Serial.advance (h : Serial s ⟨c, .advance t :: r, none, es⟩) (hs : Sound ⟨c, .advance t :: r, none, es⟩)
    (hslot : c.inFlight = some t) : Serial s ⟨{ c with inFlight := none }, .drain :: r, none, es⟩ := by
  obtain ⟨u, task, k, contexts, w, vs, rest, hb, hctx, hw, hph⟩ := h.busy rfl
  have hlast : t + 1 = c.lastContext := hs.queued.slot t hslot
  cases hph
  refine ⟨h.killed, h.transform, rfl, h.taken, fun f hf ho => ?_, fun _ _ => .inl (List.mem_cons_self ..), .inl ?_⟩
  · rcases List.mem_cons.mp hf with rfl | hf
    · cases ho
    · exact h.entries f (List.mem_cons_of_mem _ hf) ho
  · refine ⟨rfl, hctx, (work_idles rfl r).trans hw, ?_, fun q hq => ?_, ?_⟩
    · exact hlast ▸ hb.settled
    · simpa using hb.delivered q hq
    · have hseen := hb.seen
      rw [List.append_nil, hlast] at hseen
      exact hseen

end Cases

theorem serial_step {m n : Machine H X} {move : Move H X} (h : Stage m move n) (hs : Sound m) (ha : Addressed m)
    (hg : s.Allows m move) (hi : Serial s m) : Serial s n := by
  cases h with
  | left h => exact hi.leave h hs ha hg
  | ignored hk => exact absurd (hi.killed.symm.trans hk) Bool.false_ne_true
  | taken =>
    exact hi.take [.drain] hs (by simp [given]) (by simp [requests]) (fun k => by simp [tagged, notices])
      (by simp [visible]) rfl (by simp [Frame.operates]) (by simp)
  | queued hk hne =>
    exact hi.take [] hs (by simp [given]) (by simp [requests]) (fun k => by simp [tagged, notices]) (by simp [visible])
      rfl (by simp) fun hn => absurd hn hne
  | opened => exact hi.dispatch hs ha
  | called hh => exact hi.call hh
  | unheard hu => exact hi.unheard hu
  | output hn hres hr => exact hi.output hn hres hr
  | answered hn hres hr => exact hi.answered hn hres hr
  | closed => exact hi.close
  | draining | next =>
    exact hi.pass ⟨⟨rfl, rfl, fun _ => rfl⟩, rfl, rfl, rfl, rfl, rfl, rfl⟩ rfl rfl rfl
      (by simp +contextual [Frame.operates]) (by simp)
  | drained hend =>
    refine hi.pass ⟨⟨rfl, rfl, fun _ => rfl⟩, rfl, rfl, rfl, rfl, rfl, rfl⟩ rfl rfl rfl (by simp +contextual)
      fun hn hp => ?_
    rcases hend with hk | hne | he
    · exact absurd (hi.killed.symm.trans hk) Bool.false_ne_true
    · exact absurd hn hne
    · exact absurd he hp
  | asked hrun hx => exact hi.ask hrun hx
  | verbatim hx => exact hi.verbatim hx
  | transformed => exact hi.transformed hg
  | failed hit => exact hi.failed hg hit
  | sent hm => exact hi.send hs ha hm
  | looped => exact hi.loop
  | freed hslot => exact hi.advance hs hslot
  | killed | assigned =>
    obtain ⟨task, he, -⟩ := hi.entries _ (List.mem_cons_self ..) rfl
    cases he
  | broken => cases hi.fault
  | started hopen => exact hi.start hs hopen hg
  | recovered =>
    refine hi.pass ⟨⟨rfl, rfl, fun _ => rfl⟩, rfl, rfl, rfl, rfl, rfl, rfl⟩ rfl rfl rfl (fun f hf => .inl hf) hi.live

theorem serial_fresh (s : Scenario H X) : Serial s (Machine.fresh s.transform) := by
  refine ⟨rfl, rfl, rfl, List.nil_prefix, by simp [Machine.fresh], by simp [Machine.fresh], .inl ⟨rfl, rfl, rfl, ?_,
    ?_, ?_⟩⟩
  · simp [Settled, Machine.fresh, given]
  · simp [Machine.fresh, requests]
  · simp [visible, Machine.fresh, Scenario.played]

structure Serialized (s : Scenario H X) (m : Machine H X) : Prop where
  /-- What has been seen so far is the beginning of the sequence. -/
  seen : visible m.events <+: s.sequence
  finished : s.Done m → visible m.events = s.sequence ∧ m.state = s.settled
  /-- A run that is not done can go on. -/
  live : ¬ s.Done m → ∃ move n, s.Allows m move ∧ m.step move = some n

lemma Serial.seen {m : Machine H X} (h : Serial s m) : visible m.events <+: s.sequence := by
  rcases h.turn with hfree | ⟨t, task, k, vs, rest, hb⟩
  · exact hfree.seen ▸ s.played_prefix _
  · exact (List.prefix_append _ rest).trans (hb.seen ▸ s.played_prefix _)

/-- When everything has been delivered, no task is left in the slot. -/
lemma Serial.free {m : Machine H X} (h : Serial s m) (hd : s.Done m) : Free s m := by
  obtain ⟨hstack, -, hdel⟩ := hd
  rcases h.turn with hfree | ⟨t, task, k, vs, rest, hb⟩
  · exact hfree
  · -- with no frame at work the task can only wait for messages, and one of them is left
    have hph := hb.phase
    have hnone : work m.stack = [] := by rw [hstack, work_nil]
    have hne : vs ≠ [] := by
      rw [hnone] at hph
      generalize m.state.contexts = contexts at hph
      cases hph with
      | waiting hc => cases hc <;> simp
    obtain ⟨⟨r, hr, hid⟩, -⟩ := hb.awaited hne
    have hleft := hb.delivered r hr
    rw [if_pos hid, undelivered, List.drop_of_length_le (hdel r hr)] at hleft
    exact absurd hleft.symm hne

lemma Serial.finished {m : Machine H X} (h : Serial s m) (hs : Sound m) (ha : Addressed m) (hd : s.Done m) :
    visible m.events = s.sequence ∧ m.state = s.settled := by
  have hfree := h.free hd
  obtain ⟨hstack, hlen, -⟩ := hd
  have hgiven : given m.events = s.tasks := h.taken.eq_of_length_le hlen
  have hpending : m.state.pending = [] := by
    by_contra hne
    simpa [hstack] using h.live hfree.slot hne
  have hlast : m.state.lastContext = s.tasks.length := by
    have hc := congrArg List.length (hs.queued.complete h.killed)
    simpa [hstack, begun, hpending, hgiven] using hc
  have htasks : m.state.tasks = s.tasks.map s.settle := by
    have hset := hfree.settled
    rwa [Settled, hgiven, hlast, List.take_length, List.drop_length, List.append_nil] at hset
  have hdraining : m.state.draining = false := by
    have hloops := hs.shape.loops
    rw [hstack] at hloops
    cases hdr : m.state.draining <;> simp_all
  have hlastTask : m.state.lastTask = (List.range s.tasks.length).getLast? := by
    refine Option.ext fun t => ?_
    rw [hs.queued.last t, hlast, List.getLast?_range]
    split <;> simp <;> omega
  refine ⟨?_, ?_⟩
  · rw [hfree.seen, hlast, s.played_all (Nat.le_refl _)]
  · have heta : m.state = ⟨m.state.killed, m.state.draining, m.state.tasks, m.state.pending, m.state.inFlight,
        m.state.contexts, m.state.lastContext, m.state.lastTask, m.state.transform, m.state.loopback⟩ := rfl
    rw [heta, h.killed, hdraining, htasks, hpending, hfree.slot, hfree.contexts, hlast, hlastTask, h.transform,
      ha.router]
    rfl

lemma Serial.progress {m : Machine H X} (h : Serial s m) (hd : ¬ s.Done m) :
    ∃ move n, s.Allows m move ∧ m.step move = some n := by
  obtain ⟨c, stack, fault, es⟩ := m
  obtain rfl : fault = none := h.fault
  cases stack with
  | cons f r => exact s.resumable c f r es
  | nil =>
    rcases Nat.lt_or_ge (given es).length s.tasks.length with hlt | hge
    · exact ⟨.start (.submit s.tasks[(given es).length]), _, List.getElem?_eq_getElem hlt, rfl⟩
    · have hleft : ¬ ∀ r ∈ requests es, (s.worker r).length ≤ (tagged es r.contextId).length := by
        intro hall
        exact hd ⟨rfl, hge, hall⟩
      simp only [not_forall, not_le] at hleft
      obtain ⟨r, hr, hlt⟩ := hleft
      exact ⟨.start (.route (s.worker r)[(tagged es r.contextId).length]), _, ⟨r, hr, List.getElem?_eq_getElem hlt⟩,
        rfl⟩

/-- Submits and deliveries may come in any order, also while hooks, the transform or sending are under way: what is seen
is what is seen when the tasks are played one after the other, and so is the state in the end. -/
theorem run_serialized (s : Scenario H X) {moves : List (Move H X)} {m : Machine H X}
    (hf : Follows Machine.step s.Allows (Machine.fresh s.transform) moves)
    (hr : (Machine.fresh s.transform).run moves = some m) : Serialized s m := by
  rw [Machine.run_eq] at hr
  obtain ⟨hs, ha, hi⟩ : Sound m ∧ Addressed m ∧ Serial s m := by
    refine run_invariant (I := fun m => Sound m ∧ Addressed m ∧ Serial s m) ?_ hf hr
      ⟨sound_fresh _, addressed_fresh _, serial_fresh s⟩
    rintro m move n hg hst ⟨hs, ha, hi⟩
    have h := step_stage hst
    exact ⟨sound_step h hs, addressed_step h hs (hi.honest hg) ha, serial_step h hs ha hg hi⟩
  exact ⟨hi.seen, hi.finished hs ha, hi.progress⟩

def chunkOf (k : Nat) (text : String) : Value := .object [("id", .int k), ("stdout", .string text)]

def resultOf (k : Nat) : Value := .object [("id", .int k), ("end", .bool true), ("mime", .object [])]

def valueError : Fault := .thrown ⟨"ValueError", "b", "ValueError('b')", [], true⟩

def listeners : Hooks Nat := { success := some 0, error := some 1, stdout := some 2 }

/-- The worker puts a code out again, and the transform fails for the second task. -/
def echo : Scenario Nat Nat where
  tasks := [⟨.run, .string "a", listeners⟩, ⟨.run, .string "b", listeners⟩, ⟨.inspect, .string "c", listeners⟩]
  transform := some 7
  rewrite _ code := if code = .string "b" then .error valueError else .ok "z"
  worker r := [chunkOf r.contextId r.code, resultOf r.contextId]
  textual := by simp
  ordinary x code f h := by
    split at h <;> cases h
    rfl
  complete r := .chunk rfl rfl rfl (.last rfl rfl rfl)

/-- While the first task is being sent, the others are handed in and its answer is delivered. -/
def withinSend : List (Move Nat Nat) :=
  List.flatten [[.start (.submit ⟨.run, .string "a", listeners⟩)], List.replicate 6 .tick,
    [.answer (.code (.string "z")), .tick, .start (.submit ⟨.run, .string "b", listeners⟩), .tick,
      .start (.submit ⟨.inspect, .string "c", listeners⟩), .tick, .start (.route (chunkOf 1 "z")), .tick, .tick,
      .answer .done, .start (.route (resultOf 1)), .tick, .tick, .answer (.raised valueError)],
    List.replicate 4 .tick, [.answer .done], List.replicate 4 .tick, [.answer (.raised valueError)],
    List.replicate 3 .tick, [.answer .done], List.replicate 9 .tick,
    [.answer .done, .tick, .start (.route (chunkOf 3 "c")), .tick, .tick, .answer .done, .start (.route (resultOf 3)),
      .tick, .tick, .answer .done], List.replicate 5 .tick]

theorem withinSend_serialized :
    ∃ m, (Machine.fresh echo.transform).run withinSend = some m ∧ echo.Done m ∧ visible m.events = echo.sequence ∧
      m.state = echo.settled := by
  have h : ((Machine.fresh echo.transform).run withinSend).isSome = true := by decide +kernel
  obtain ⟨m, hm⟩ := Option.isSome_iff_exists.mp h
  have hd : ∀ m ∈ (Machine.fresh echo.transform).run withinSend, echo.Done m := by decide +kernel
  have hs := run_serialized echo (by decide +kernel) hm
  exact ⟨m, hm, hd m hm, hs.finished (hd m hm)⟩

end EvalSession.Coordinator
