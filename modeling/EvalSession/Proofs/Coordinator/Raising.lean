import EvalSession.Proofs.Coordinator.Conclusion

/-!
# Transforms that raise

The reply made up for a transform that raised is taken in like one of the worker. `Rejected` says how far it has come, and every
honest move keeps that: the reply gets to its task, and what is then left to do for the task is arranged on the stack
(`Parting`), where only a fault that has come out of a hook in the meantime can disturb it. `Dismissed` is what follows for the
task.
-/
namespace EvalSession.Coordinator

variable {H X : Type}

/-- Later than these events, a hook has let out a fault that is not contained. -/
def EscapeSince (base es : List (Event H X)) : Prop := ∃ new, es = new ++ base ∧ Escape new

/-- A fault on its way through frames that do not wait has come out of a hook later than these events. -/
def Shaken (base : List (Event H X)) (m : Machine H X) : Prop :=
  m.fault ≠ none → ∀ f, m.stack.head? = some f → f.waits = true ∨ f.isLoop = true ∨ EscapeSince base m.events

/-- What is left to do for a task whose transform raised has been done, or is arranged on the stack. -/
structure Parting (m : Machine H X) (t : Nat) (hooks : Hooks H) : Prop where
  afterRun : Arranged m t hooks .afterRun .nothing
  context : (∀ u, (t + 1, u) ∉ m.state.contexts) ∨ .close (some ((t + 1 : Nat) : Int)) t ∈ m.stack
  slot : m.state.inFlight ≠ some t ∨ .advance t ∈ m.stack

/-- What the reply made up for a transform that raised has to tell. -/
def rejection (t : Nat) (e : Fault) : Notice := ⟨some ((t + 1 : Nat) : Int), .error, failure e, true, true⟩

lemma errorReply_rejection (t : Nat) (e : Fault) : notice? (errorReply (t + 1) e) = some (rejection t e) :=
  errorReply_notice (t + 1) e

/-- The reply made up for the task is the next thing to be worked on. -/
def Impending (m : Machine H X) (t : Nat) (e : Fault) : Prop :=
  m.stack.head? = some (.loop (errorReply (t + 1) e)) ∨ m.stack.head? = some (.route (errorReply (t + 1) e))

/-- The transform of a task has raised, which left these events: nothing is sent for it, and the made-up reply is on its way to
the router or the only message for the task. -/
structure Rejected (base : List (Event H X)) (m : Machine H X) (t : Nat) (task : Task H) (e : Fault) : Prop where
  found : (given m.events)[t]? = some task
  started : t + 1 ≤ m.state.lastContext
  unsent : ¬ Sent m.events (t + 1)
  stopped : ∀ g ∈ m.stack, ∀ u, g.running? ≠ some (u, t + 1)
  reply : Impending m t e ∧ m.fault = none ∧ tagged m.events (t + 1) = [] ∨
    tagged m.events (t + 1) = [rejection t e] ∧ (Parting m t task.hooks ∨ EscapeSince base m.events)

section Steps

variable {c : Coordinator H X} {f : Frame H X} {r : List (Frame H X)} {fault : Option Fault}
  {base es es' : List (Event H X)} {m n : Machine H X} {move : Move H X} {t k : Nat} {task : Task H} {e : Fault}

lemma EscapeSince.grow (h : EscapeSince base es) (hs : es <:+ es') : EscapeSince base es' := by
  obtain ⟨new, rfl, hesc⟩ := h
  obtain ⟨more, rfl⟩ := hs
  exact ⟨more ++ new, by rw [List.append_assoc], hesc.mono (List.subset_append_right ..)⟩

theorem shaken_step (h : Stage m move n) (hs : Sound m) (hb : base <:+ m.events) (hk : Shaken base m) : Shaken base n := by
  have hseat := hs.shape.seated
  have hloop : ∀ {f : Frame H X} {r : List (Frame H X)}, m.stack = f :: r → f.dispatches = true →
      ∀ g, r.head? = some g → g.isLoop = true := by
    intro f r hst hd g hg
    rw [hst] at hseat
    obtain rfl : .drainLoop = g := by simpa [hseat.1.loop hd] using hg
    rfl
  intro hf g hg
  cases h with
  | left h =>
    cases h with
    | refused | aborted | unsent => exact .inr (.inl (hloop rfl rfl g hg))
    | escaped hit ho =>
      obtain ⟨new, rfl⟩ := hb
      exact .inr (.inr ⟨_ :: new, rfl, _, _, List.mem_cons_self .., ho⟩)
    | unwound hw hl =>
      rename_i f r es
      refine .inr (.inr (((hk (by simp) _ rfl).resolve_left (by simp [hw])).resolve_left ?_))
      cases f <;> simp_all [Frame.isLoop]
    | _ => exact absurd rfl hf
  | broken =>
    refine .inl ?_
    have hout : Frame.Outside _ := hseat.1
    rw [hg] at hout
    exact hout
  | _ => exact absurd rfl hf

/-- Only a fault keeps the frame that closes the context of a task from doing so. -/
lemma context_step (h : Stage m move n) (hf : ∀ f, m.stack.head? = some f → f.target? = some t → m.fault = none)
    (hk : t + 1 ≤ m.state.lastContext)
    (hc : (∀ u, (t + 1, u) ∉ m.state.contexts) ∨ .close (some ((t + 1 : Nat) : Int)) t ∈ m.stack) :
    (∀ u, (t + 1, u) ∉ n.state.contexts) ∨ .close (some ((t + 1 : Nat) : Int)) t ∈ n.stack := by
  rcases hc with hc | hc
  · exact .inl ((contexts_step h hk).2 hc)
  rcases h.stays hc with hc | ⟨r, hst⟩
  · exact .inr hc
  obtain ⟨c, stack, fault, es⟩ := m
  obtain rfl := hst
  obtain rfl : fault = none := hf _ rfl rfl
  cases h with
  | closed => exact .inl fun u hm => by simp [closeContext] at hm
  | left h => cases h
  | started => exact .inr (by simp [Machine.push])
  | recovered => exact .inr (by simp)

lemma Parting.step (hp : Parting m t task.hooks) (h : Stage m move n) (hs : Sound m) (hk : Shaken base m)
    (ht : (given m.events)[t]? = some task) (hlt : t + 1 ≤ m.state.lastContext) :
    Parting n t task.hooks ∨ EscapeSince base n.events := by
  by_cases hf : ∀ f, m.stack.head? = some f → f.target? = some t → m.fault = none
  · exact .inl ⟨hp.afterRun.step h hf hs ht, context_step h hf hlt hp.context, hs.slot_step h hf hlt hp.slot⟩
  · simp only [not_forall] at hf
    obtain ⟨f, hst, htarget, hfault⟩ := hf
    refine .inr (((hk hfault f hst).resolve_left ?_).resolve_left ?_ |>.grow h.grows) <;>
      cases f <;> simp_all [Frame.waits, Frame.isLoop]

lemma Stage.replied {id : Nat} {x : X} {code : Value} (h : Stage ⟨c, .awaitTransform t id x code :: r, fault, es⟩ move n)
    (hit : Hit fault move e) (ho : e.ordinary = true) :
    n = ⟨c, .loop (errorReply id e) :: r, none, logs [.transformFailed id e.form] ++ es⟩ := by
  have hsame : ∀ {e'}, Hit fault move e' → e' = e := by
    rintro e' (⟨rfl, rfl⟩ | ⟨rfl, rfl⟩) <;> rcases hit with ⟨h, h'⟩ | ⟨h, h'⟩ <;> cases h <;> cases h' <;> rfl
  cases h with
  | failed hit' =>
    obtain rfl := hsame hit'
    rfl
  | left h =>
    cases h with
    | aborted hit' ho' =>
      obtain rfl := hsame hit'
      simp [ho] at ho'
    | unwound hw => cases hw
  | transformed => rcases hit with ⟨-, h⟩ | ⟨-, h⟩ <;> cases h
  | started => rcases hit with ⟨-, h⟩ | ⟨-, h⟩ <;> cases h
  | recovered => rcases hit with ⟨-, h⟩ | ⟨-, h⟩ <;> cases h

lemma Addressed.rejected {id : Nat} {x : X} {code : Value} (ha : Addressed ⟨c, .awaitTransform t id x code :: r, fault, es⟩)
    (hs : Sound ⟨c, .awaitTransform t id x code :: r, fault, es⟩) (ht : (given es)[t]? = some task) :
    Rejected base ⟨c, .loop (errorReply id e) :: r, none, logs [.transformFailed id e.form] ++ es⟩ t task e := by
  obtain ⟨rfl, hlast, -⟩ := hs.ledger.running _ (List.mem_cons_self ..) t id rfl
  obtain ⟨hsent, htag⟩ := ha.running _ (List.mem_cons_self ..) t (t + 1) rfl
  have hcalm := hs.shape.calm_below rfl rfl
  have hunsent : ¬ Sent (logs [.transformFailed (t + 1) e.form] ++ es) (t + 1) := by simpa [Sent, requests] using hsent
  refine ⟨by simpa [given] using ht, hlast.le, hunsent, fun g hg u => ?_, .inl ⟨.inl rfl, rfl, ?_⟩⟩
  · rcases List.mem_cons.mp hg with rfl | hg
    · simp
    · rw [Frame.running_none (hcalm g hg)]
      simp
  · simpa [tagged, notices] using htag

lemma sent_step (h : Stage m move n) (hk : Sent n.events k) :
    Sent m.events k ∨ ∃ g ∈ m.stack, ∃ u, g.running? = some (u, k) := by
  cases h with
  | left h => exact .inl (by rwa [Sent, requests_silent h.silent] at hk)
  | sent h =>
    rename_i c u id request r es
    obtain ⟨text, -, rfl⟩ := request_code h
    simp only [Sent, requests, gather_cons, gather_logs, Event.request?, Option.toList_some, List.mem_append,
      List.mem_singleton, or_and_right, exists_or, exists_eq_left] at hk
    refine hk.imp_right fun hid => ⟨_, List.mem_cons_self .., u, ?_⟩
    simpa using hid
  | _ => exact .inl (by simpa [Sent, requests, Machine.push] using hk)

lemma running_step (h : Stage m move n) {g : Frame H X} (hg : g ∈ n.stack) {u : Nat} (hr : g.running? = some (u, k)) :
    (∃ g' ∈ m.stack, g'.running? = some (u, k)) ∨ k = m.state.lastContext + 1 := by
  cases h with
  | opened =>
    simp only [List.mem_cons] at hg
    rcases hg with rfl | rfl | hg
    · cases hr
    · simp only [Frame.running?, Option.some.injEq, Prod.mk.injEq] at hr
      exact .inr hr.2.symm
    · exact .inl ⟨g, List.mem_cons_of_mem _ hg, hr⟩
  | started =>
    rename_i operation _
    rcases List.mem_cons.mp hg with rfl | hg
    · cases operation <;> cases hr
    · exact .inl ⟨g, hg, hr⟩
  | recovered => exact .inl ⟨g, hg, hr⟩
  | answered =>
    simp only [closing, List.mem_cons, List.mem_append] at hg
    rcases hg with rfl | hg | rfl | hg
    · cases hr
    · split at hg
      · obtain rfl := List.mem_singleton.mp hg
        cases hr
      · cases hg
    · cases hr
    · exact .inl ⟨g, List.mem_cons_of_mem _ hg, hr⟩
  | left | unheard | ignored | queued | drained | killed | assigned | broken => exact .inl ⟨g, List.mem_cons_of_mem _ hg, hr⟩
  | next =>
    rcases List.mem_cons.mp hg with rfl | hg
    · cases hr
    · exact .inl ⟨g, hg, hr⟩
  | _ =>
    rcases List.mem_cons.mp hg with rfl | hg
    · first
        | exact .inl ⟨_, List.mem_cons_self .., hr⟩
        | cases hr
    · exact .inl ⟨g, List.mem_cons_of_mem _ hg, hr⟩

lemma Addressed.tagged_step (ha : Addressed m) (h : Stage m move n) (he : Ended m.events k) :
    tagged n.events k = tagged m.events k := by
  have hrouted : ∀ {v : Value} {entries : List Diagnostic}, m.stack.head? = some (.route v) →
      tagged (logs entries ++ .routed v :: m.events) k = tagged m.events k := by
    intro v entries hv
    refine tagged_other fun nt hn hid => ?_
    obtain ⟨j, hj, -, -, hopen, -⟩ := ha.incoming v (.inr hv) nt hn
    rw [hid, Option.some.injEq, Nat.cast_inj] at hj
    exact hopen (hj ▸ he)
  cases h with
  | left h => simp only [tagged, notices_silent h.silent]
  | unheard | output | answered => exact hrouted rfl
  | _ => simp [tagged, notices, Machine.push]

lemma Impending.step (hp : Impending m t e) (ha : Addressed m) (hf : m.fault = none) (htag : tagged m.events (t + 1) = [])
    (h : Stage m move n) : Impending n t e ∧ n.fault = none ∧ tagged n.events (t + 1) = [] ∨
      tagged n.events (t + 1) = [rejection t e] ∧ ∀ hooks, Parting n t hooks := by
  obtain ⟨c, stack, fault, es⟩ := m
  obtain rfl : fault = none := hf
  rcases hp with hp | hp
  · obtain ⟨r, rfl⟩ := List.head?_eq_some_iff.mp hp
    have hrouter : c.loopback = .router := ha.router
    cases h with
    | started ho => cases ho
    | recovered ho => cases ho
    | looped => exact .inl ⟨.inr rfl, rfl, htag⟩
    | left h =>
      cases h with
      | undelivered hl | observed hl => simp [hrouter] at hl
  · obtain ⟨r, rfl⟩ := List.head?_eq_some_iff.mp hp
    have hn := errorReply_rejection t e
    obtain ⟨u, hres, hid, -⟩ := ha.addressee hn
    obtain rfl : t = u := by
      simp only [rejection, Option.some.injEq, Nat.cast_inj] at hid
      omega
    cases h with
    | started ho => cases ho
    | recovered ho => cases ho
    | left h => cases h
    | unheard hu =>
      have := (hu _ hn t hres).1
      cases this
    | output hn' hres' hr =>
      cases hn.symm.trans hn'
      cases hr
    | answered hn' hres' =>
      cases hn.symm.trans hn'
      cases hres.symm.trans hres'
      have hclose : .close (some ((t + 1 : Nat) : Int)) t ∈ (.call t (rejection t e).moment (rejection t e).argument ::
          (closing (rejection t e) t ++ .advance t :: r) : List (Frame H X)) := by simp [closing, rejection]
      refine .inr ⟨?_, fun hooks => ⟨.inr (.inr (.inr ⟨⟨rfl, rfl⟩, _, hclose⟩)), .inr hclose, .inr (by simp)⟩⟩
      rw [tagged_own hn rfl, show tagged es (t + 1) = [] from htag, List.nil_append]

theorem rejected_step (h : Stage m move n) (hs : Sound m) (ha : Addressed m) (hk : Shaken base m)
    (hr : Rejected base m t task e) : Rejected base n t task e where
  found := by
    obtain ⟨more, hmore⟩ := h.given_prefix
    rw [← hmore, List.getElem?_append_left (List.getElem?_eq_some_iff.mp hr.found).1, hr.found]
  started := (contexts_step h hr.started).1
  unsent := fun hsent => by
    rcases sent_step h hsent with hsent | ⟨g, hg, u, hrun⟩
    · exact hr.unsent hsent
    · exact hr.stopped g hg u hrun
  stopped := fun g hg u hrun => by
    rcases running_step h hg hrun with ⟨g', hg', hrun'⟩ | hnew
    · exact hr.stopped g' hg' u hrun'
    · have := hr.started
      omega
  reply := by
    rcases hr.reply with ⟨hp, hf, htag⟩ | ⟨htag, hparting⟩
    · exact (hp.step ha hf htag h).imp_right fun ⟨htag, hparting⟩ => ⟨htag, .inl (hparting _)⟩
    · have hended : Ended m.events (t + 1) := ⟨rejection t e, by simp [htag], rfl⟩
      refine .inr ⟨(ha.tagged_step h hended).trans htag, ?_⟩
      rcases hparting with hparting | hesc
      · exact hparting.step h hs hk hr.found hr.started
      · exact .inr (hesc.grow h.grows)

end Steps

/-- Everything that is told to a task whose transform raised. -/
def verdict (hooks : Hooks H) (e : Fault) : List (Moment × Argument) :=
  due hooks .beforeRun .nothing ++ due hooks .error (failure e) ++ due hooks .afterRun .nothing

def Frame.serves (t : Nat) : Frame H X → Bool
  | .loop v | .route v => (notice? v).any fun nt => nt.id = some ((t + 1 : Nat) : Int)
  | .call u .. | .close _ u | .advance u => u = t
  | _ => false

/-- The task has been told everything, its context is closed, and the slot is left to others. -/
structure AtRest (m : Machine H X) (t : Nat) (hooks : Hooks H) (e : Fault) : Prop where
  told : told m.events t = verdict hooks e
  closed : ∀ u, (t + 1, u) ∉ m.state.contexts
  freed : m.state.inFlight ≠ some t

/-- What has become of a task whose transform raised, which left these events. -/
structure Dismissed (base : List (Event H X)) (m : Machine H X) (t : Nat) (hooks : Hooks H) (e : Fault) : Prop where
  unsent : ¬ Sent m.events (t + 1)
  /-- Hooks are called for what tasks are told, and for nothing else. -/
  calls : gather Event.called? m.events = (allTold m.events).filterMap (hookCall (given m.events))
  told : told m.events t <+: verdict hooks e
  /-- Only a fault that is not contained gets to a frame of the task. -/
  contained : m.fault ≠ none → ∀ f, m.stack.head? = some f → f.serves t = true → EscapeSince base m.events
  /-- When nothing is left to do for the task, it is at rest, or such a fault has kept it from being told that its run is over. -/
  settled : (∀ f ∈ m.stack, f.serves t = false) → AtRest m t hooks e ∨ EscapeSince base m.events ∧
    due hooks .beforeRun .nothing ++ due hooks .error (failure e) <+: Coordinator.told m.events t

section Outcome

variable {m : Machine H X} {base : List (Event H X)} {t : Nat} {e : Fault} {task : Task H} {hooks : Hooks H}

lemma script_rejection (hooks : Hooks H) (t : Nat) (e : Fault) : script hooks [rejection t e] = verdict hooks e := by
  simp [script, response, rejection, verdict]

/-- A task to which no message has come has been told of the beginning of its run, unless that is still to be done. -/
lemma Telling.announced (hl : Telling m) (ha : Addressed m) (hlt : t < m.state.lastContext)
    (hg : (given m.events)[t]? = some task) (htag : tagged m.events (t + 1) = [])
    (hcall : ∀ moment argument, .call t moment argument ∉ m.stack) :
    told m.events t = due task.hooks .beforeRun .nothing := by
  have hended : ¬ Ended m.events (t + 1) := by simp [Ended, htag]
  have hclose : t ∉ m.stack.filterMap Frame.closes? := by
    intro hm
    obtain ⟨f, hf, hft⟩ := List.mem_filterMap.mp hm
    cases f with
    | close id u =>
      obtain rfl : u = t := by simpa using hft
      exact hended (ha.closes id u hf).2
    | _ => cases hft
  rcases hl.balanced t task hlt hg with hb | ⟨-, h, -⟩
  · simpa [owed_eq_nil hcall hclose, htag, script] using hb
  · exact absurd h hended

lemma not_serving {stack : List (Frame H X)} (h : ∀ f ∈ stack, f.serves t = false) (hooks : Hooks H) :
    owed hooks t stack = [] := by
  refine owed_eq_nil (fun moment argument hm => ?_) fun hm => ?_
  · simpa [Frame.serves] using h _ hm
  · obtain ⟨f, hf, hft⟩ := List.mem_filterMap.mp hm
    have := h f hf
    cases f with
    | close id u =>
      obtain rfl : u = t := Option.some.inj hft
      simp [Frame.serves] at this
    | _ => cases hft

lemma Impending.serves (h : Impending m t e) : ∃ f ∈ m.stack, f.serves t = true := by
  rcases h with h | h <;>
    exact ⟨_, List.mem_of_mem_head? h, by simp [Frame.serves, errorReply_rejection, rejection]⟩

lemma Impending.calls_nothing (h : Impending m t e) (hs : Sound m) (u : Nat) (moment : Moment) (argument : Argument) :
    .call u moment argument ∉ m.stack := by
  intro hm
  have hseat := hs.shape.seated
  rcases h with h | h <;>
    · obtain ⟨r, hr⟩ := List.head?_eq_some_iff.mp h
      rw [hr] at hseat hm
      exact hseat.call_not_mem u moment argument (by simpa using hm)

lemma mem_told {es : List (Event H X)} {moment : Moment} {argument : Argument} (h : .told t moment argument ∈ es) :
    (moment, argument) ∈ told es t := by
  simp only [told, allTold, gather, List.mem_map, List.mem_filter, List.mem_filterMap, List.mem_reverse]
  exact ⟨_, ⟨⟨_, h, rfl⟩, by simp⟩, rfl⟩

lemma Parting.told_all (hp : Parting m t hooks) (hnone : ∀ f ∈ m.stack, f.serves t = false)
    (hb : told m.events t ++ due hooks .afterRun .nothing = verdict hooks e) : due hooks .afterRun .nothing = [] := by
  have htold : told m.events t = due hooks .beforeRun .nothing ++ due hooks .error (failure e) :=
    List.append_cancel_right hb
  rcases hp.afterRun with hunset | hsaid | hcall | ⟨-, id, hclose⟩
  · simp [due, hunset]
  · have hmem := mem_told hsaid
    rw [htold] at hmem
    simp [due] at hmem
  · simpa [Frame.serves] using hnone _ hcall
  · simpa [Frame.serves] using hnone _ hclose

theorem Rejected.dismissed (hr : Rejected base m t task e) (hs : Sound m) (ha : Addressed m) (hl : Telling m)
    (hk : Shaken base m) : Dismissed base m t task.hooks e := by
  have hb := hl.balanced t task hr.started hr.found
  rw [Balanced, Forsaken] at hb
  refine ⟨hr.unsent, hl.calls, ?_, fun hf f hst hserves => ?_, fun hnone => ?_⟩
  · rcases hr.reply with ⟨hp, -, htag⟩ | ⟨htag, -⟩
    · rw [hl.announced ha hr.started hr.found htag (hp.calls_nothing hs t), verdict, List.append_assoc]
      exact List.prefix_append _ _
    · rw [htag, script_rejection] at hb
      rcases hb with hb | ⟨-, -, -, hb⟩ <;> exact hb ▸ List.prefix_append _ _
  · refine ((hk hf f hst).resolve_left ?_).resolve_left ?_ <;>
      cases f <;> simp_all [Frame.serves, Frame.waits, Frame.isLoop]
  · rcases hr.reply with ⟨hp, -⟩ | ⟨htag, hparting⟩
    · obtain ⟨f, hf, hserves⟩ := hp.serves
      simp [hnone f hf] at hserves
    rw [htag, script_rejection, not_serving hnone, List.append_nil] at hb
    rcases hparting with hparting | hesc
    · refine .inl ⟨?_, hparting.context.resolve_right fun hm => ?_, hparting.slot.resolve_right fun hm => ?_⟩
      · rcases hb with hb | ⟨-, -, -, hb⟩
        · exact hb
        · rwa [hparting.told_all hnone hb, List.append_nil] at hb
      · simpa [Frame.serves] using hnone _ hm
      · simpa [Frame.serves] using hnone _ hm
    · refine .inr ⟨hesc, ?_⟩
      rcases hb with hb | ⟨-, -, -, hb⟩
      · exact hb ▸ List.prefix_append _ _
      · exact (List.append_cancel_right hb) ▸ List.prefix_refl _

end Outcome

end EvalSession.Coordinator
