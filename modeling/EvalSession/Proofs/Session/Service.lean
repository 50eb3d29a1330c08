import EvalSession.Proofs.Session.Service.Frames

/-!
# Every call is served once

Main statement: over a worker that answers, when all requests have been answered, every call has seen its announcement, one
result, and the end of its run, in this order and nothing else. Tasks that are answered on the spot, calls without a task, and
calls with two tasks are among them.
-/
namespace EvalSession.Session

open Coordinator (Replied given notices requests)

variable {U X : Type} {owner : U → Nat}

lemma Serving.single_link {s : Session U X} {g : Nat} {f : Coordinator.Frame (Hook U) X} {r : List (Frame U X)}
    {fault : Option Fault} {es : List (Event U X)} (hs : Serving owner ⟨s, .link g f :: r, fault, es⟩)
    (hh : Housed ⟨s, .link g f :: r, fault, es⟩) : g = 0 := by
  have hlt : g < s.links.length := hh.frames g f (List.mem_cons_self ..)
  have hone : s.links.length = 1 := hs.single
  omega

lemma Serving.caught {s : Session U X} {f : Frame U X} {r : List (Frame U X)} {e : Fault} {es : List (Event U X)}
    (hs : Serving owner ⟨s, f :: r, some e, es⟩) :
    e.ordinary = true ∧ ∃ g h argument, f = .link g (.awaitHook h argument) ∧ internal h = true := by
  obtain ⟨ho, hc⟩ := hs.fault e rfl
  refine ⟨ho, ?_⟩
  simp only [List.head?_cons, Option.any_some] at hc
  cases f with
  | link g f =>
    cases f with
    | awaitHook h argument => exact ⟨g, h, argument, rfl, hc⟩
    | _ => cases hc
  | _ => cases hc

lemma Obliging.tame {m : Machine U X} {move : Move U X} (ho : Obliging owner m move) (hs : Serving owner m) : Tame m move := by
  cases move with
  | tick =>
    rintro e he f hf
    obtain ⟨s, stack, fault, es⟩ := m
    obtain ⟨r, rfl⟩ := List.head?_eq_some_iff.mp hf
    obtain rfl : fault = some e := he
    obtain ⟨hord, g, h, argument, rfl, -⟩ := hs.caught
    exact hord
  | answer a =>
    cases a with
    | code v => exact ho
    | raised e => exact ho.2
    | _ => trivial
  | start | recover => trivial

lemma Obliging.civil {m : Machine U X} {move : Move U X} (ho : Obliging owner m move) : Civil m move := by
  cases move with
  | tick =>
    intro p hp nt hn _
    obtain ⟨request, hr, hid, -⟩ := (ho p hp).1 nt hn
    exact ⟨request, hr, hid⟩
  | start | answer | recover => trivial

lemma Obliging.honest {m : Machine U X} {move : Move U X} (ho : Obliging owner m move) : Honest m move := by
  cases move with
  | tick => exact fun p hp => (ho p hp).1
  | start | answer | recover => trivial

lemma steady_fresh (x : Option X) : Steady (U := U) (.fresh x) :=
  ⟨progressing_fresh x, Coordinator.attended_fresh x, Coordinator.addressed_fresh x⟩

lemma steady_step {p q : Coordinator.Machine (Hook U) X} {a : Coordinator.Move (Hook U) X}
    (ha : (Coordinator.Tame p a ∧ Coordinator.Civil p a) ∧ Coordinator.Honest p a) (hs : Coordinator.Stage p a q)
    (hy : Steady p) : Steady q where
  progressing := progressing_step ha.1.1 hs hy.progressing
  attended := Coordinator.attended_step hs hy.progressing.sound hy.progressing.lively.fault hy.progressing.provided.toTabled
    ha.1.2 hy.attended
  addressed := Coordinator.addressed_step hs hy.progressing.sound ha.2 hy.addressed

/-- The moves of a machine that serves: a fault only ever gets to a hook of the session, which contains it. -/
inductive Steps : Machine U X → Move U X → Machine U X → Prop
  | started {m operation} (hopen : m.open? = true) : Steps m (.start operation) (m.push operation)
  | ticked {s f r es t} (ht : Frame.tick s f = some t) :
      Steps ⟨s, f :: r, none, es⟩ .tick (Machine.after ⟨s, f :: r, none, es⟩ r t)
  | caught {s h argument r e es} (ho : e.ordinary = true) :
      Steps ⟨s, .link 0 (.awaitHook h argument) :: r, some e, es⟩ .tick
        (Machine.after ⟨s, .link 0 (.awaitHook h argument) :: r, some e, es⟩ r
          (Frame.unwind s e (.link 0 (.awaitHook h argument))))
  | answered {s f r es a t} (ht : Frame.answer s f a = some t) :
      Steps ⟨s, f :: r, none, es⟩ (.answer a) (Machine.after ⟨s, f :: r, none, es⟩ r t)

lemma Serving.steps {m n : Machine U X} {move : Move U X} (hs : Serving owner m) (hh : Housed m) (hstep : m.step move = some n) :
    Steps m move n := by
  obtain ⟨s, stack, fault, es⟩ := m
  cases move with
  | start operation =>
    simp only [Machine.step, Option.ite_none_right_eq_some, Option.some.injEq] at hstep
    obtain ⟨hopen, rfl⟩ := hstep
    exact .started hopen
  | recover =>
    -- outside code never gets a fault to handle
    simp only [Machine.step, Bool.and_eq_true, Option.ite_none_right_eq_some] at hstep
    obtain ⟨⟨hsuspended, hfault⟩, -⟩ := hstep
    obtain ⟨e, rfl⟩ := Option.isSome_iff_exists.mp hfault
    cases stack with
    | nil => simpa using (hs.fault e rfl).2
    | cons f r =>
      obtain ⟨-, g, h, argument, rfl, hint⟩ := hs.caught
      have hl := List.getElem?_eq_getElem (hh.frames g _ (List.mem_cons_self ..))
      simp only [Machine.suspended, Frame.tick, hl] at hsuspended
      cases h <;> simp_all [internal, tickLink]
  | tick =>
    cases stack with
    | nil => simp [Machine.step, Machine.tick] at hstep
    | cons f r =>
      cases fault with
      | none =>
        simp only [Machine.step, Machine.tick, Option.map_eq_some_iff] at hstep
        obtain ⟨t, ht, rfl⟩ := hstep
        exact .ticked ht
      | some e =>
        simp only [Machine.step, Machine.tick, Option.some.injEq] at hstep
        subst hstep
        obtain ⟨ho, g, h, argument, rfl, -⟩ := hs.caught
        obtain rfl := hs.single_link hh
        exact .caught ho
  | answer a =>
    cases stack with
    | nil => simp [Machine.step, Machine.answer] at hstep
    | cons f r =>
      cases fault with
      | some e => simp [Machine.step, Machine.answer] at hstep
      | none =>
        simp only [Machine.step, Machine.answer, Option.map_eq_some_iff] at hstep
        obtain ⟨t, ht, rfl⟩ := hstep
        exact .answered ht

section Step

variable {s : Session U X} {f : Coordinator.Frame (Hook U) X} {r : List (Frame U X)} {fault : Option Fault}
  {es : List (Event U X)} {move : Move U X} {t : Turn U X}

lemma view_link (s : Session U X) (r : List (Frame U X)) (es : List (Event U X)) (hf : fault = none ∨ f.waits = true) :
    Machine.view ⟨s, .link 0 f :: r, fault, es⟩ 0 = ⟨coordinatorOf s 0, f :: framesOf 0 r, none, eventsOf 0 es⟩ := by
  have hfault : Machine.faultOf ⟨s, .link 0 f :: r, fault, es⟩ 0 = none := by
    rcases hf with rfl | hf <;> simp [Machine.faultOf, Frame.busy, *]
  simp only [Machine.view, hfault]
  rfl

lemma Service.linked_step (hs : Service owner ⟨s, .link 0 f :: r, fault, es⟩) (hh : Housed ⟨s, .link 0 f :: r, fault, es⟩)
    (hy : Steady (Machine.view ⟨s, .link 0 f :: r, fault, es⟩ 0)) (ho : Obliging owner ⟨s, .link 0 f :: r, fault, es⟩ move)
    (hf : fault = none ∨ f.waits = true) (ht : Linked s 0 f fault move t)
    (hcall : ∀ u moment argument, f = .call u moment argument → (coordinatorOf s 0).hookOf u moment = none) :
    Service owner (Machine.after ⟨s, .link 0 f :: r, fault, es⟩ r t) := by
  have hview := view_link s r es hf
  refine hs.linked hh (hview ▸ hy) ht (fun own hpass => ?_) hcall
  have htame := tame_restricts.drives (g := 0) (ho.tame hs.toServing) (.own rfl hpass)
  rwa [hview] at htame

lemma Service.link_tick (hs : Service owner ⟨s, .link 0 f :: r, none, es⟩) (hh : Housed ⟨s, .link 0 f :: r, none, es⟩)
    (hy : Steady (Machine.view ⟨s, .link 0 f :: r, none, es⟩ 0)) (ho : Obliging owner ⟨s, .link 0 f :: r, none, es⟩ .tick)
    (ht : (Frame.link 0 f).tick s = some t) : Service owner (Machine.after ⟨s, .link 0 f :: r, none, es⟩ r t) := by
  have hl := List.getElem?_eq_getElem (hh.frames 0 f (List.mem_cons_self ..))
  have hlinked : Linked s 0 f none .tick t := by
    refine linked_tick hl ?_
    simpa only [Frame.tick, hl] using ht
  by_cases hcall : ∀ u moment argument, f = .call u moment argument → (coordinatorOf s 0).hookOf u moment = none
  · exact hs.linked_step hh hy ho (.inl rfl) hlinked hcall
  · simp only [not_forall] at hcall
    obtain ⟨u, moment, argument, rfl, hhook⟩ := hcall
    obtain ⟨h, hh'⟩ := Option.ne_none_iff_exists'.mp hhook
    have hy' := view_link s r es (f := .call u moment argument) (.inl rfl) ▸ hy
    exact hs.called ((hookAt_eq hy'.progressing.sound hs.live u moment).trans hh') hh' ht

lemma Service.tick {f : Frame U X} (hs : Service owner ⟨s, f :: r, none, es⟩) (hh : Housed ⟨s, f :: r, none, es⟩)
    (hy : Steady (Machine.view ⟨s, f :: r, none, es⟩ 0)) (ho : Obliging owner ⟨s, f :: r, none, es⟩ .tick)
    (ht : f.tick s = some t) : Service owner (Machine.after ⟨s, f :: r, none, es⟩ r t) := by
  have hapt := hs.top f rfl
  cases f with
  | link g f =>
    obtain rfl := hs.toServing.single_link hh
    exact hs.link_tick hh hy ho ht
  | execute =>
    obtain rfl := Option.some.inj ht
    exact hs.execute
  | complete =>
    obtain rfl := Option.some.inj ht
    exact hs.complete
  | inspect =>
    obtain rfl := Option.some.inj ht
    exact hs.inspect
  | assign x =>
    obtain rfl := Option.some.inj ht
    refine hs.plain_free rfl (by simp) rfl ?_ (by simp) (by simp [Frame.leans]) (by simp [sights, Frame.owes])
      (by simp [Frame.station?]) (by simp [calls, Frame.isCall])
    simp [Frame.Apt]
  | respond =>
    obtain rfl := Option.some.inj ht
    exact hs.respond
  | call moment hook argument =>
    obtain rfl := Option.some.inj ht
    exact hs.calls_hook rfl rfl rfl (by simp)
  | body =>
    obtain rfl := Option.some.inj ht
    exact hs.body
  | deliver worker message =>
    obtain rfl := Option.some.inj ht
    exact hs.deliver hy.progressing.sound rfl ho
  | awaitCall => cases ht
  | _ => exact absurd hapt id

lemma Service.answer {f : Frame U X} {a : Answer} (hs : Service owner ⟨s, f :: r, none, es⟩) (hh : Housed ⟨s, f :: r, none, es⟩)
    (hy : Steady (Machine.view ⟨s, f :: r, none, es⟩ 0)) (ho : Obliging owner ⟨s, f :: r, none, es⟩ (.answer a))
    (ht : f.answer s a = some t) : Service owner (Machine.after ⟨s, f :: r, none, es⟩ r t) := by
  have hapt := hs.top f rfl
  cases f with
  | link g f =>
    obtain rfl := hs.toServing.single_link hh
    have hlinked := linked_answer ht
    refine hs.linked_step hh hy ho (.inl rfl) hlinked ?_
    rintro u moment argument rfl
    simp only [Frame.answer, Frame.answerLink] at ht
    split at ht
    · simp [Coordinator.Frame.answer] at ht
    · cases ht
  | awaitCall contained moment u argument =>
    refine hs.ended (fun e he => ?_) ht
    subst he
    exact ho.1
  | awaitTermination | awaitWorker => exact absurd hapt id
  | _ => cases ht

/-- Every move that is allowed leaves every call where it waits, or shows it what is next. -/
theorem service_step {m n : Machine U X} (hh : Housed m) (hy : Steady (m.view 0)) (ho : Obliging owner m move)
    (hstep : m.step move = some n) (hs : Service owner m) : Service owner n := by
  cases hs.toServing.steps hh hstep with
  | started hopen => exact hs.start hh hopen ho
  | ticked ht => exact hs.tick hh hy ho ht
  | caught =>
    rename_i s h argument r e es hord
    have hlinked := linked_unwind (hh.frames 0 _ (List.mem_cons_self ..)) (.awaitHook h argument) e
    exact hs.linked_step hh hy ho (.inr rfl) hlinked (by simp)
  | answered ht => exact hs.answer hh hy ho ht

end Step

section Runs

variable {worker : Worker} {transform : Option X} {restartable : Bool} {documentation : Documentation.Index} {m : Machine U X}
  {moves : List (Move U X)}

lemma service_start : Service owner ({ state := Session.make worker transform restartable documentation } : Machine U X) := by
  have hserving : Serving owner ({ state := Session.make worker transform restartable documentation } : Machine U X) := by
    refine ⟨rfl, rfl, by simp, by simp, by simp, trivial, ?_, ?_⟩ <;> simp [Machine.tasks, eventsOf, given, notices]
  refine ⟨hserving, ?_⟩
  constructor <;> simp [Machine.roster, Machine.shown, Machine.made, waiting, given, eventsOf, sights, calls]

lemma service_keeps {n : Machine U X} {move : Move U X} (ho : Obliging owner m move) (hstep : m.step move = some n)
    (hm : Housed m ∧ Steady (m.view 0) ∧ Service owner m) : Housed n ∧ Steady (n.view 0) ∧ Service owner n := by
  obtain ⟨hh, hy, hs⟩ := hm
  have hst := step_stage hh hstep
  have hallowed := And.intro (And.intro (ho.tame hs.toServing) ho.civil) ho.honest
  refine ⟨housed_step hst hh, ?_, service_step hh hy ho hstep hs⟩
  exact (view_step hst hh hh.inhabited).invariant ((tame_restricts.and civil_restricts).and honest_restricts) steady_step
    hallowed hy

lemma service_begins :
    let start : Machine U X := { state := Session.make worker transform restartable documentation }
    Housed start ∧ Steady (start.view 0) ∧ Service owner start :=
  ⟨housed_start .., view_start _ _ _ _ steady_fresh 0 Nat.one_pos, service_start⟩

theorem service_run
    (hf : Follows Machine.step (Obliging owner) { state := Session.make worker transform restartable documentation } moves)
    (hr : Machine.run { state := Session.make worker transform restartable documentation } moves = some m) :
    Steady (m.view 0) ∧ Service owner m := by
  rw [Machine.run_eq] at hr
  exact (run_invariant service_keeps hf hr service_begins).2

/-- When its work is done and every request has been answered, a live coordinator has dispatched every task, and every
context has its reply. -/
lemma Steady.done {p : Coordinator.Machine (Hook U) X} (hy : Steady p) (hlive : p.state.killed = false) (hidle : p.stack = [])
    (ha : ∀ r ∈ requests p.events, Replied p.events r.contextId) :
    p.state.lastContext = (given p.events).length ∧ ∀ t < p.state.lastContext, Replied p.events (t + 1) := by
  have hqueued := hy.progressing.sound.queued
  have hfree : p.state.inFlight = none := by
    refine Option.eq_none_iff_forall_ne_some.mpr fun t ht => ?_
    obtain ⟨id, hid, ⟨r, hr, rfl⟩, hunreplied⟩ := hy.attended.awaited hy.progressing.sound hy.progressing.provided hidle ht
    exact hunreplied (ha r hr)
  have hempty : p.state.pending = [] := by
    by_contra hne
    rcases hy.progressing.lively.live hlive hfree hne with h | h <;> simp [hidle] at h
  have hcomplete := congrArg List.length (hqueued.complete hlive)
  refine ⟨by simpa [hidle, hempty, Coordinator.begun] using hcomplete, fun t ht => ?_⟩
  by_contra hn
  have := (hy.addressed.occupied (t + 1) (Nat.le_add_left ..) ht hn).2
  rw [hfree] at this
  cases this

/-- In every run of a session over a worker that answers, when the work is done and every request has been answered, each call
has seen one announcement, one result and the end of its run, in this order. -/
theorem calls_served
    (hf : Follows Machine.step (Obliging owner) { state := Session.make worker transform restartable documentation } moves)
    (hr : Machine.run { state := Session.make worker transform restartable documentation } moves = some m)
    (hidle : m.stack = [])
    (ha : ∀ r ∈ requests (eventsOf 0 m.events), Replied (eventsOf 0 m.events) r.contextId) :
    ∀ i < calls m.events, Served (seen owner m.events i) := by
  obtain ⟨hy, hs⟩ := service_run hf hr
  obtain ⟨hall, hreplied⟩ := hy.done hs.live (congrArg (framesOf 0) hidle) ha
  have hnobody : m.roster owner = [] := by
    have hwaiting : waiting owner (eventsOf 0 m.events) (coordinatorOf m.state 0).lastContext = [] := by
      rw [waiting, List.filterMap_eq_nil_iff]
      intro t ht
      refine if_pos (hreplied t ?_)
      rw [hall]
      exact List.mem_range.mp ht
    rw [Machine.roster, hidle, hwaiting]
    rfl
  have hbooks := hs.books
  rw [hnobody] at hbooks
  intro i hi
  have hmade : m.made = calls m.events := by simp [Machine.made, hidle]
  have hserved := (hbooks.served i (hmade ▸ hi)).resolve_left (by simp)
  simpa [Machine.shown, hidle, seen] using hserved

end Runs

/-- Hooks of the call with this number, six for each call. -/
def sixHooks (i : Nat) : Hooks Nat := ⟨some (6 * i), some (6 * i + 1), some (6 * i + 2), some (6 * i + 3), some (6 * i + 4),
  some (6 * i + 5)⟩

/-- The scope of a member is asked for, and the worker answers with an error. In the meantime the transform fails for a second
call, and a third one is answered without the worker. Hooks raise. -/
def threeCalls : List (Move Nat Nat) :=
  let fault : Fault := .thrown ⟨"E", "e", "E('e')", [], true⟩
  let described : Value := .object [("id", .int 1), ("end", .bool true), ("inspection", .object [])]
  List.flatten [[.start (.inspect "a.b".toList 3 (sixHooks 0))], List.replicate 6 .tick, [.answer .done, .tick, .tick,
    .answer .done, .tick, .start (.execute "x" (some (sixHooks 1))), .tick, .tick,
    .start (.complete "f().x".toList 5 (sixHooks 2)), .tick, .tick, .tick, .answer (.raised fault), .tick, .answer .done, .tick,
    .answer .done, .start (.deliver 0 described)], List.replicate 13 .tick, [.answer .done, .tick, .answer (.raised fault),
    .tick, .tick, .tick, .answer (.raised fault), .tick, .tick, .answer .done], List.replicate 7 .tick, [.answer .done, .tick,
    .start (.deliver 0 (Coordinator.errorReply 3 fault)), .tick, .tick, .tick, .answer .done, .tick, .tick, .answer .done,
    .tick, .tick, .tick]]

theorem threeCalls_served :
    ∃ m, Machine.run { state := Session.make (.remote 0) (some 7) false ⟨[], []⟩ } threeCalls = some m ∧
      calls m.events = 3 ∧ ∀ i < 3, Served (seen (· / 6) m.events i) := by
  have h : (Machine.run { state := Session.make (.remote 0) (some 7) false ⟨[], []⟩ } threeCalls).isSome = true := by
    decide +kernel
  have hm := (Option.some_get h).symm
  have ha : ∀ m ∈ Machine.run { state := Session.make (.remote 0) (some 7) false ⟨[], []⟩ } threeCalls,
      ∀ r ∈ requests (eventsOf 0 m.events), Replied (eventsOf 0 m.events) r.contextId := by decide +kernel
  exact ⟨_, hm, rfl, calls_served (by decide +kernel) hm rfl (ha _ hm)⟩

end EvalSession.Session
