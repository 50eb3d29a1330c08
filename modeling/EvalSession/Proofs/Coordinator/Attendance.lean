import EvalSession.Proofs.Coordinator.Progress

/-!
# The slot belongs to a task that waits for a reply

A worker is `Civil` when its replies carry ids of requests that it got. Then a reply to the task in the slot frees the
slot, so a task that is still there has not been replied to.
-/
namespace EvalSession.Coordinator

variable {H X : Type}

lemma notice_decoded {v : Value} {nt : Notice} (h : notice? v = some nt) :
    ∃ message, Message.decode v = .ok message ∧ noticeOf? message = some nt := by
  unfold notice? at h
  split at h
  · rename_i message hd
    exact ⟨message, hd, h⟩
  · cases h

/-- A reply carries the id of a request that has been sent. -/
def Addresses (es : List (Event H X)) (v : Value) : Prop :=
  ∀ nt ∈ notice? v, nt.reply = true → ∃ r ∈ requests es, nt.id = some (r.contextId : Int)

instance (es : List (Event H X)) (v : Value) : Decidable (Addresses es v) :=
  inferInstanceAs (Decidable (∀ nt ∈ notice? v, nt.reply = true → ∃ r ∈ requests es, nt.id = some (r.contextId : Int)))

/-- The worker replies to requests that it has got; its output may carry any id. -/
def Civil (m : Machine H X) : Move H X → Prop
  | .start (.route v) => Addresses m.events v
  | _ => True

/-- A reply belongs to a context that has been opened. -/
def Notice.Known (nt : Notice) (last : Nat) : Prop := nt.reply = true → ∃ k : Nat, nt.id = some (k : Int) ∧ k ≤ last

structure Attended (m : Machine H X) : Prop where
  known : ∀ nt ∈ notices m.events, nt.Known m.state.lastContext
  incoming : ∀ v, m.stack.head? = some (.loop v) ∨ m.stack.head? = some (.route v) →
    ∀ nt ∈ notice? v, nt.Known m.state.lastContext
  /-- A reply to the task in the slot frees it. -/
  slot : ∀ t, m.state.inFlight = some t → Replied m.events (t + 1) → .advance t ∈ m.stack

lemma Sound.request_le {m : Machine H X} (hs : Sound m) {r : Request} (hr : r ∈ requests m.events) :
    r.contextId ≤ m.state.lastContext := by
  have hle := hs.ledger.story.contextIds.2 r.contextId
  rw [← requests_eq] at hle
  have := hle (List.mem_map_of_mem hr)
  rw [List.length_take] at this
  omega

lemma Sound.request {m : Machine H X} (hs : Sound m) {r : Request} (hr : r ∈ requests m.events) :
    ∃ t task, r.contextId = t + 1 ∧ (given m.events)[t]? = some task ∧ r.action = task.action := by
  have hsent : .sent r ∈ dispatchEvents m.events := by
    obtain ⟨e, he, hq⟩ := List.mem_filterMap.mp (requests_eq m.events ▸ hr)
    cases e <;> simp_all
  obtain ⟨t, task, hid, ht, ha⟩ := hs.ledger.story.request hsent
  have hlt := (List.getElem?_eq_some_iff.mp ht).1
  rw [List.getElem?_take_of_lt (hlt.trans_le (List.length_take_le ..))] at ht
  exact ⟨t, task, hid, ht, ha⟩

lemma replied_routed {v : Value} {entries : List Diagnostic} {es : List (Event H X)} {k : Nat}
    (h : Replied (logs entries ++ .routed v :: es) k) :
    Replied es k ∨ ∃ nt, notice? v = some nt ∧ nt.id = some (k : Int) ∧ nt.reply = true := by
  obtain ⟨nt, hm, hr⟩ := h
  rcases mem_tagged_routed.mp hm with hm | ⟨hn, hid⟩
  · exact .inl ⟨nt, hm, hr⟩
  · exact .inr ⟨nt, hn, hid, hr⟩

lemma Attended.hear {c : Coordinator H X} {v : Value} {r r' : List (Frame H X)} {es : List (Event H X)}
    (ha : Attended ⟨c, .route v :: r, none, es⟩) (ht : Tabled ⟨c, .route v :: r, none, es⟩)
    (hq : Queued ⟨c, .route v :: r, none, es⟩) (entries : List Diagnostic) (hkeep : ∀ f ∈ r, f ∈ r')
    (hnew : ∀ f, r'.head? = some f → f.incoming = false)
    (hreply : ∀ nt t, notice? v = some nt → c.resolve nt.id = some t → nt.reply = true → .advance t ∈ r') :
    Attended ⟨c, r', none, logs entries ++ .routed v :: es⟩ := by
  refine ⟨fun nt hm => ?_, fun u hu => absurd hu ?_, fun t hi hrep => ?_⟩
  · rw [notices_routed, List.mem_append, Option.mem_toList] at hm
    rcases hm with hm | hm
    · exact ha.known nt hm
    · exact ha.incoming v (.inr rfl) nt hm
  · rintro (hv | hv) <;> simpa [Frame.incoming] using hnew _ hv
  · rcases replied_routed hrep with hrep | ⟨nt, hn, hid, hr⟩
    · have := ha.slot t hi hrep
      simp only [List.mem_cons, reduceCtorEq, false_or] at this
      exact hkeep _ this
    · have hres := ht.latest hq (hq.slot t hi)
      exact hreply nt t hn (hid ▸ hres) hr

lemma Attended.pass {c c' : Coordinator H X} {fault fault' : Option Fault} {f : Frame H X} {r : List (Frame H X)}
    {es es' : List (Event H X)} (new : List (Frame H X)) (ha : Attended ⟨c, f :: r, fault, es⟩) (hseat : Seated (f :: r))
    (hn : notices es' = notices es) (hl : c'.lastContext = c.lastContext)
    (hi : ∀ t, c'.inFlight = some t → c.inFlight = some t ∧ f ≠ .advance t)
    (hnew : ∀ g ∈ new, g.incoming = false) : Attended ⟨c', new ++ r, fault', es'⟩ := by
  have hhead : ∀ g, (new ++ r).head? = some g → g.incoming = false := by
    intro g hg
    cases new with
    | nil => exact Frame.not_incoming (hseat.head_resumes g hg)
    | cons a new =>
      obtain rfl : a = g := by simpa using hg
      exact hnew a (by simp)
  refine ⟨fun nt hm => ?_, fun v hv => ?_, fun t ht hrep => ?_⟩
  · rw [hl]
    exact ha.known nt (hn ▸ hm)
  · rcases hv with hv | hv <;> simpa [Frame.incoming] using hhead _ hv
  · obtain ⟨ht, hne⟩ := hi t ht
    have hadv := ha.slot t ht (by simpa [Replied, tagged, hn] using hrep)
    refine List.mem_append_right _ ?_
    exact (List.mem_cons.mp hadv).resolve_left (Ne.symm hne)

lemma Attended.dispatch {c : Coordinator H X} {t : Nat} {r : List (Frame H X)} {es : List (Event H X)}
    (ha : Attended ⟨c, .dispatch t :: r, none, es⟩) (hq : Queued ⟨c, .dispatch t :: r, none, es⟩) :
    Attended ⟨c.openContext t, .call t .beforeRun .nothing :: .prepare t (c.lastContext + 1) :: r, none,
      .opened t (c.lastContext + 1) :: es⟩ := by
  obtain ⟨rfl, -⟩ := hq.dispatching
  refine ⟨fun nt hm hr => ?_, by simp, fun t hi hrep => ?_⟩
  · obtain ⟨k, hid, hk⟩ := ha.known nt (by simpa [notices] using hm) hr
    exact ⟨k, hid, hk.trans (Nat.le_succ _)⟩
  · -- no reply can have come before the context is open
    obtain rfl : c.lastContext = t := by simpa [openContext] using hi
    obtain ⟨nt, hm, hr⟩ := hrep
    have hm' := List.mem_filter.mp hm
    obtain ⟨k, hid, hk⟩ := ha.known nt (by simpa [notices] using hm'.1) hr
    have heq : ((k : Nat) : Int) = ((c.lastContext + 1 : Nat) : Int) := by simpa [hid] using hm'.2
    simp only at hk
    omega

lemma Attended.fail {c : Coordinator H X} {fault : Option Fault} {f : Fault} {t id : Nat} {x : X} {code : Value}
    {r : List (Frame H X)} {es : List (Event H X)} (ha : Attended ⟨c, .awaitTransform t id x code :: r, fault, es⟩)
    (hid : id ≤ c.lastContext) :
    Attended ⟨c, .loop (errorReply id f) :: r, none, logs [.transformFailed id f.form] ++ es⟩ := by
  refine ⟨fun nt hm => ha.known nt (by simpa [notices] using hm), fun v hv nt hn _ => ?_, fun u hi hrep => ?_⟩
  · obtain rfl : errorReply id f = v := by simpa using hv
    rw [errorReply_notice, Option.mem_def, Option.some.injEq] at hn
    subst hn
    exact ⟨id, rfl, hid⟩
  · have hadv := ha.slot u hi (by simpa [Replied, tagged, notices] using hrep)
    simpa using hadv

theorem attended_step {m n : Machine H X} {move : Move H X} (h : Stage m move n) (hs : Sound m) (hf : m.fault = none)
    (ht : Tabled m) (hc : Civil m move) (ha : Attended m) : Attended n := by
  have hseat := hs.shape.seated
  cases h with
  | unheard hu =>
    refine ha.hear ht hs.queued _ (fun _ hf => hf) (fun f hf => Frame.not_incoming (hseat.head_resumes f hf)) ?_
    intro nt t hn hres hr
    have := (hu nt hn t hres).1
    rw [hr] at this
    cases this
  | output hn hres hr hh =>
    refine ha.hear ht hs.queued _ (fun _ hf => List.mem_cons_of_mem _ hf) (by simp [Frame.incoming]) ?_
    intro nt t hn' _ hr'
    obtain rfl : _ = nt := by simpa [hn] using hn'
    rw [hr] at hr'
    cases hr'
  | answered hn hres hr =>
    refine ha.hear ht hs.queued _ (fun _ hf => by simp [hf]) (by simp [Frame.incoming]) ?_
    intro nt t hn' hres' _
    obtain rfl : _ = nt := by simpa [hn] using hn'
    obtain rfl : _ = t := by simpa [hres] using hres'
    simp
  | opened => exact ha.dispatch hs.queued
  | failed hit ho => exact ha.fail (hs.ledger.running _ (List.mem_cons_self ..) _ _ rfl).2.1.le
  | looped =>
    refine ⟨ha.known, fun v hv => ?_, fun t hi hrep => by simpa using ha.slot t hi hrep⟩
    obtain rfl : _ = v := by simpa using hv
    exact ha.incoming _ (.inl rfl)
  | freed hi =>
    exact ha.pass [.drain] hseat (by simp [notices]) rfl (by simp) (by simp [Frame.incoming])
  | left h =>
    have hq := notices_silent h.silent
    obtain rfl := hf
    cases h with
    | stale hi =>
      refine ha.pass [] hseat (hq _) rfl (fun t ht => ⟨ht, ?_⟩) (by simp)
      rintro ⟨⟩
      exact hi ht
    | _ => exact ha.pass [] hseat (hq _) rfl (fun t ht => ⟨ht, by simp⟩) (by simp)
  | started hopen =>
    rename_i operation
    refine ⟨ha.known, fun v hv nt hn hr => ?_, fun t hi hrep => List.mem_cons_of_mem _ (ha.slot t hi hrep)⟩
    obtain rfl : operation = .route v := by cases operation <;> simp_all [Machine.push, Operation.frame]
    obtain ⟨request, hm, hid⟩ := hc nt hn hr
    exact ⟨_, hid, hs.request_le hm⟩
  | recovered hsus =>
    refine ⟨ha.known, fun v hv => ?_, ha.slot⟩
    exact ha.incoming v hv
  | ignored | queued | drained | killed | assigned | broken =>
    exact ha.pass [] hseat (by simp [notices]) rfl (fun t ht => ⟨ht, by simp⟩) (by simp)
  | taken =>
    exact ha.pass [.drain] hseat (by simp [notices]) rfl (fun t ht => ⟨ht, by simp⟩) (by simp [Frame.incoming])
  | draining =>
    exact ha.pass [.drainLoop] hseat (by simp [notices]) rfl (fun t ht => ⟨ht, by simp⟩) (by simp [Frame.incoming])
  | next =>
    rename_i c t p r es _ _ _
    exact ha.pass [.dispatch t, .drainLoop] hseat (by simp [notices]) rfl (fun t ht => ⟨ht, by simp⟩)
      (by simp [Frame.incoming])
  | asked =>
    rename_i c t id x r es _ _
    exact ha.pass [.awaitTransform t id x (c.codeOf t)] hseat (by simp [notices]) rfl (fun t ht => ⟨ht, by simp⟩)
      (by simp [Frame.incoming])
  | verbatim | transformed =>
    exact ha.pass [.send _ _] hseat (by simp [notices]) rfl (fun t ht => ⟨ht, by simp⟩) (by simp [Frame.incoming])
  | sent =>
    exact ha.pass [.awaitSend _] hseat (by simp [notices]) rfl (fun t ht => ⟨ht, by simp⟩) (by simp [Frame.incoming])
  | closed =>
    exact ha.pass [.call _ .afterRun .nothing] hseat (by simp [notices]) (by simp) (fun t ht => ⟨by simpa using ht, by simp⟩)
      (by simp [Frame.incoming])
  | called =>
    exact ha.pass [.awaitHook _ _] hseat (by simp [notices]) rfl (fun t ht => ⟨ht, by simp⟩) (by simp [Frame.incoming])

@[simp] def Event.dispatch? : Event H X → Option (Nat × Nat)
  | .opened t id => some (t, id)
  | _ => none

def latestDispatch (es : List (Event H X)) : Option (Nat × Nat) := es.findSome? Event.dispatch?

lemma Sound.latestDispatch {m : Machine H X} (hs : Sound m) {t : Nat} (h : t + 1 = m.state.lastContext) :
    latestDispatch m.events = some (t, t + 1) := by
  have hids : m.events.filterMap Event.dispatch? = (m.events.filterMap Event.opened?).map fun u => (u, u + 1) := by
    rw [List.map_filterMap]
    refine List.filterMap_congr fun e he => ?_
    cases e with
    | opened u id =>
      have hmem : Event.opened u id ∈ dispatchEvents m.events := by
        rw [dispatchEvents, gather, List.mem_filterMap]
        exact ⟨_, List.mem_reverse.mpr he, rfl⟩
      simp [hs.ledger.story.opened_id hmem]
    | _ => rfl
  have hopened : m.events.filterMap Event.opened? = (List.range (t + 1)).reverse := by
    rw [h, ← hs.queued.opened, gather, List.filterMap_reverse, List.reverse_reverse]
  rw [Coordinator.latestDispatch, ← List.head?_filterMap, hids, hopened, List.range_succ, List.reverse_append]
  rfl

/-- The task was dispatched last, and a reply to its request is still to come. -/
def Awaited (es : List (Event H X)) (t : Nat) : Prop :=
  ∃ id, latestDispatch es = some (t, id) ∧ Sent es id ∧ ¬ Replied es id

/-- Where the coordinator has nothing left to do, the task in the slot waits for the worker. -/
theorem Attended.awaited {m : Machine H X} (ha : Attended m) (hs : Sound m) (hp : Provided m) (hst : m.stack = [])
    {t : Nat} (hi : m.state.inFlight = some t) : Awaited m.events t := by
  have hlast := hs.queued.slot t hi
  obtain ⟨task, htask⟩ : ∃ task, (given m.events)[t]? = some task := by
    have := hs.queued.lastContext_le
    exact ⟨_, List.getElem?_eq_getElem (by omega)⟩
  refine ⟨t + 1, hs.latestDispatch hlast, ?_, fun hr => ?_⟩
  · cases hp.fates t task (by omega) htask with
    | sent h => exact h
    | underWay hf => simp [hst] at hf
    | failing _ h => simp [hst] at h
    | failed _ _ h => simp [hst, hi] at h
  · simpa [hst] using ha.slot t hi hr

theorem attended_fresh (x : Option X) : Attended (Machine.fresh (H := H) x) := by
  constructor <;> simp [Machine.fresh, notices]

end EvalSession.Coordinator
