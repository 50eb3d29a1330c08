import EvalSession.Proofs.Coordinator.Conclusion
import EvalSession.Proofs.Documentation.Report
import EvalSession.Proofs.Session.Containment

/-!
# Reports that wait for their scopes

The session keeps a report on a member under a number until the scope of the member has been inspected, and the number is
known to the hook of one task only. Main statement: from when its scope is asked for, a report holds what the member was
inspected with and the last entry that an answer to that task has found (`filed_run`).
-/
namespace EvalSession

namespace Coordinator

variable {H X : Type} {n p : Machine H X} {move : Move H X} {t : Nat} {moment : Moment}

lemma hookOf_origin {hook : H} (h : Stage n move p) (hh : p.state.hookOf t moment = some hook) :
    n.state.hookOf t moment = some hook ∨
      ∃ task r, n.stack = .submit task :: r ∧ task.hooks.get moment = some hook := by
  by_cases ht : t < n.state.tasks.length
  · exact .inl (((hookOf_step h ht).2 moment).symm.trans hh)
  · obtain ⟨task, htask, hget⟩ := Option.bind_eq_some_iff.mp hh
    have hnew : t < p.state.tasks.length := (List.getElem?_eq_some_iff.mp htask).1
    cases h with
    | ignored | taken | queued =>
      refine .inr ⟨_, _, rfl, ?_⟩
      simp only [List.length_append, List.length_singleton] at hnew ht
      rw [List.getElem?_append_right (by omega), List.getElem?_singleton, if_pos (by omega), Option.some.injEq] at htask
      rw [htask, hget]
    | transformed => exact absurd (by simpa [setCode] using hnew) ht
    | closed => exact absurd (by simpa using hnew) ht
    | _ => exact absurd hnew ht

lemma submit_step {task : Task H} (h : Stage n move p) (hm : ∀ operation, move ≠ .start operation)
    (hp : .submit task ∈ p.stack) : .submit task ∈ n.stack := by
  cases h with
  | started => exact absurd rfl (hm _)
  | recovered => exact hp
  | @answered c v nt u r es entries =>
    have hclosing : .submit task ∉ (closing nt u : List (Frame H X)) := by
      unfold closing
      split <;> simp
    simp only [List.mem_cons, List.mem_append, hclosing, reduceCtorEq, false_or] at hp
    exact List.mem_cons_of_mem _ hp
  | _ => simp_all

lemma told_step {argument : Argument} (h : Stage n move p) (hp : .told t moment argument ∈ p.events) :
    .told t moment argument ∈ n.events ∨
      n.stack.head? = some (.call t moment argument) ∧ n.fault = none ∧ move = .tick := by
  cases h with
  | called =>
    simp only [List.mem_cons, reduceCtorEq, false_or, Event.told.injEq] at hp
    rcases hp with ⟨rfl, rfl, rfl⟩ | hp
    · exact .inr ⟨rfl, rfl, rfl⟩
    · exact .inl hp
  | left h =>
    refine .inl ((List.mem_append.mp hp).resolve_left fun hquiet => ?_)
    cases h <;> simp [logs] at hquiet
  | _ => simp_all [logs, Machine.push]

end Coordinator

/-- The number of the report that a hook adds to. -/
def Hook.report? {U : Type} : Hook U → Option Nat
  | .scopeInspection report .. => some report
  | _ => none

/-- The entry that the inspection of a scope finds for a member. -/
def Inspection.entryIn (index : Documentation.Index) (selector : List Char) (payload : Object) : Option Object :=
  (constructors payload).bind fun names => memberEntry index names selector

namespace Session

variable {U X : Type}

/-- The number of the report that the hook of a task adds to. -/
def reportOf (s : Session U X) (g t : Nat) (moment : Moment) : Option Nat :=
  ((coordinatorOf s g).hookOf t moment).bind Hook.report?

/-- The frame runs a hook that adds to the report, or hands in a task with such a hook. -/
def Frame.cites (j : Nat) : Frame U X → Prop
  | .link _ (.submit task) => ∃ moment, (task.hooks.get moment).bind Hook.report? = some j
  | .body hook _ => hook.report? = some j
  | _ => False

def Citing (j : Nat) (stack : List (Frame U X)) : Prop := ∃ f ∈ stack, f.cites j

/-- What the task has been answered with so far, the latest answer first. -/
def answersTo (g t : Nat) (es : List (Event U X)) : List Object :=
  es.filterMap fun
    | .link i (.told u .success (.payload payload)) => if i = g ∧ u = t then some payload else none
    | _ => none

/-- What a move has to do with the reports: nothing, or the hook of a task is called, or a hook of the session is run. -/
inductive Filing (m n : Machine U X) : Prop
  | dull (reports : n.state.reports = m.state.reports) (documentation : n.state.documentation = m.state.documentation)
      (events : ∃ new, n.events = new ++ m.events ∧ ∀ g t moment argument, .link g (.told t moment argument) ∉ new)
      (frames : ∀ j, Citing j n.stack → Citing j m.stack)
  | called {g t moment argument hook r} (hs : m.stack = .link g (.call t moment argument) :: r)
      (hh : (coordinatorOf m.state g).hookOf t moment = some hook)
      (hn : n = ⟨m.state, bodyOf hook argument ++ .link g (.awaitHook hook argument) :: r, none,
        .link g (.called hook argument) :: .link g (.told t moment argument) :: m.events⟩)
  | ran {hook payload r} (hs : m.stack = .body hook payload :: r)
      (hn : n = m.after r (bodyTurn m.state hook payload))

section Stages

variable {s : Session U X} {f : Frame U X} {t : Turn U X} {g : Nat} {r : List (Frame U X)}

lemma Citing.append {j : Nat} {stack : List (Frame U X)} : Citing j (stack ++ r) ↔ Citing j stack ∨ Citing j r := by
  simp [Citing, or_and_right, exists_or]

lemma Citing.cons {j : Nat} : Citing j (f :: r) ↔ f.cites j ∨ Citing j r := by
  simp [Citing]

lemma callers_report (hooks : Hooks U) (moment : Moment) : ((callers hooks).get moment).bind Hook.report? = none := by
  cases moment <;> simp [callers, Hooks.ofMoments, Hooks.get, Hook.report?, Option.bind_map, Function.comp_def]

lemma runTask_report (code : String) (hooks : Option (Hooks U)) (moment : Moment) :
    ((runTask code hooks).hooks.get moment).bind Hook.report? = none := by
  cases hooks with
  | none => cases moment <;> rfl
  | some hooks => exact callers_report hooks moment

lemma namesTask_report (q : Question) (hooks : Hooks U) (moment : Moment) :
    ((namesTask q hooks).hooks.get moment).bind Hook.report? = none := by
  have h := callers_report hooks moment
  cases moment with
  | success => rfl
  | _ => exact h

lemma inspectionTask_report (q : Question) (hooks : Hooks U) (moment : Moment) :
    ((inspectionTask q hooks).hooks.get moment).bind Hook.report? = none := by
  have h := callers_report hooks moment
  cases moment with
  | success | error | afterRun => rfl
  | _ => exact h

lemma scopeTask_report {q : Question} {hooks : Hooks U} {i j : Nat} {moment : Moment}
    (h : ((scopeTask q hooks i).hooks.get moment).bind Hook.report? = some j) : moment = .success ∧ j = i := by
  have hcaller := callers_report hooks moment
  cases moment with
  | success => exact ⟨rfl, (Option.some.inj h).symm⟩
  | beforeRun => cases h
  | _ => cases hcaller.symm.trans h

lemma dull_tick (hlink : ∀ g f', f ≠ .link g f') (hbody : ∀ hook payload, f ≠ .body hook payload)
    (h : f.tick s = some t) :
    t.state.reports = s.reports ∧ t.state.documentation = s.documentation ∧ ∀ f' ∈ t.frames, ∀ j, ¬ f'.cites j := by
  cases f with
  | link g f' => exact absurd rfl (hlink g f')
  | body hook payload => exact absurd rfl (hbody hook payload)
  | awaitCall | awaitTermination | awaitWorker => cases h
  | execute code hooks =>
    cases h
    simp [executeTurn, submit, Frame.cites, runTask_report]
  | complete code cursor hooks =>
    cases h
    simp only [completeTurn]
    split <;> simp [submit, Frame.cites, namesTask_report]
  | inspect code cursor hooks =>
    cases h
    simp only [inspectTurn]
    split <;> simp [submit, Frame.cites, inspectionTask_report]
  | respond hooks result =>
    cases h
    simp only [respondTurn]
    split <;> simp [Frame.cites]
  | call moment hook argument =>
    cases h
    cases hook <;> simp [callTurn, Frame.cites]
  | deliver worker message =>
    cases h
    simp only [deliverTurn]
    repeat' split
    all_goals simp [Frame.cites]
  | arrive channel message =>
    cases h
    simp only [arriveTurn]
    repeat' split
    all_goals simp [Frame.cites, setKernel]
  | emit g message =>
    cases h
    simp only [emitTurn]
    split <;> simp [Frame.cites]
  | transmit fields messageId =>
    cases h
    split <;> simp [transmitTurn, setKernel]
  | restart signal notify =>
    cases h
    split <;> simp [endTurn, Frame.cites]
  | terminate signal ending =>
    cases h
    simp only [terminateTurn]
    repeat' split
    all_goals simp [Frame.cites, setKernel, setHandler]
  | finish ending status =>
    cases h
    cases ending <;> simp [finishTurn, Frame.cites]
  | assign | guarded | install | kill =>
    cases h
    simp [endTurn, setHandler, Frame.cites]

lemma dull_link {l : Link U X} {fc : Coordinator.Frame (Hook U) X}
    (hcall : ∀ task moment argument, fc ≠ .call task moment argument) (h : tickLink s g l fc = some t) :
    t.state.reports = s.reports ∧ t.state.documentation = s.documentation ∧ ∀ f' ∈ t.frames, ∃ i fi, f' = .link i fi := by
  unfold tickLink at h
  split at h
  · cases h
    simp [transmitTurn, setKernel]
  · cases h
  · cases h
    simp
  · exact absurd rfl (hcall _ _ _)
  · obtain ⟨turn, -, rfl⟩ := Option.map_eq_some_iff.mp h
    simp [linkTurn, setCoordinator]

lemma dull_unwind (s : Session U X) (e : Fault) (f : Frame U X) :
    (f.unwind s e).state.reports = s.reports ∧ (f.unwind s e).state.documentation = s.documentation ∧
      ∀ f' ∈ (f.unwind s e).frames, (∃ i fi, f' = .link i fi) ∧ ∃ i fi, f = .link i fi := by
  cases f with
  | link g f' =>
    simp only [Frame.unwind]
    split <;> simp [linkTurn, setCoordinator]
  | awaitCall contained moment hook argument =>
    simp only [Frame.unwind, Frame.callFailed]
    split <;> simp
  | guarded =>
    simp only [Frame.unwind]
    split <;> simp
  | _ => simp [Frame.unwind]

lemma dull_answer {a : Answer} (h : f.answer s a = some t) :
    t.state.reports = s.reports ∧ t.state.documentation = s.documentation ∧
      ∀ f' ∈ t.frames, (∃ i fi, f' = .link i fi) ∨ ∀ j, ¬ f'.cites j := by
  unfold Frame.answer at h
  split at h
  · simp only [Frame.answerLink] at h
    split at h
    · obtain ⟨turn, -, rfl⟩ := Option.map_eq_some_iff.mp h
      simp [linkTurn, setCoordinator]
    · cases h
  all_goals cases h
  all_goals try simp [attach, Frame.cites]
  simp only [Frame.callFailed]
  split <;> simp

lemma Linked.told {fc : Coordinator.Frame (Hook U) X} {fault : Option Fault} {move : Move U X}
    (ht : Linked s g fc fault move t) {i u : Nat} {moment : Moment} {argument : Argument}
    (h : .link i (.told u moment argument) ∈ t.events) :
    fc = .call u moment argument ∧ fault = none ∧ move = .tick := by
  obtain rfl := ht.quiet i _ h
  obtain ⟨own, hpass, hstep⟩ := ht.move
  have hstage := Coordinator.step_stage (hstep [] [])
  have hmem : .told u moment argument ∈ eventsOf i t.events.reverse ++ [] := by
    rw [List.append_nil, eventsOf, List.mem_filterMap]
    exact ⟨_, List.mem_reverse.mpr h, by simp⟩
  rcases Coordinator.told_step hstage hmem with hnil | ⟨hcall, hfault, rfl⟩
  · cases hnil
  · obtain rfl : fc = .call u moment argument := by simpa using hcall
    cases hpass
    exact ⟨rfl, hfault, rfl⟩

lemma Linked.submits {fc : Coordinator.Frame (Hook U) X} {fault : Option Fault} {move : Move U X}
    (ht : Linked s g fc fault move t) {i : Nat} {task : Task (Hook U)} (h : .link i (.submit task) ∈ t.frames) :
    i = g ∧ fc = .submit task := by
  obtain ⟨body, fs, hf, hb, -⟩ := ht.frames
  obtain ⟨own, hpass, hstep⟩ := ht.move
  have hstage := Coordinator.step_stage (hstep [] [])
  obtain rfl : i = g := by
    rw [hf, List.mem_append] at h
    obtain ⟨_, -, h⟩ := List.mem_map.mp (h.resolve_left (hb i _))
    cases h
    rfl
  have hmem : .submit task ∈ framesOf i t.frames ++ [] := by
    rw [List.append_nil, framesOf, List.mem_filterMap]
    exact ⟨_, h, by simp⟩
  have hown : ∀ operation, own ≠ .start operation := by
    rintro operation rfl
    cases hpass
  have hsubmit := Coordinator.submit_step hstage hown hmem
  exact ⟨rfl, (List.mem_singleton.mp hsubmit).symm⟩

lemma Filing.turn {fault : Option Fault} {es : List (Event U X)} (hr : t.state.reports = s.reports)
    (hd : t.state.documentation = s.documentation) (ht : ∀ g u moment argument, .link g (.told u moment argument) ∉ t.events)
    (hf : ∀ f' ∈ t.frames, ∀ j, f'.cites j → f.cites j) :
    Filing ⟨s, f :: r, fault, es⟩ (Machine.after ⟨s, f :: r, fault, es⟩ r t) := by
  refine .dull hr hd ⟨t.events.reverse, rfl, by simpa using ht⟩ fun j ⟨f', hm, hj⟩ => ?_
  rcases List.mem_append.mp hm with hm | hm
  · exact ⟨f, List.mem_cons_self .., hf f' hm j hj⟩
  · exact ⟨f', List.mem_cons_of_mem _ hm, hj⟩

lemma Linked.filing {fc : Coordinator.Frame (Hook U) X} {fault : Option Fault} {move : Move U X} {es : List (Event U X)}
    (ht : Linked s g fc fault move t)
    (hcall : ∀ u moment argument, fc = .call u moment argument → fault = none → move = .tick → False)
    (h : t.state.reports = s.reports ∧ t.state.documentation = s.documentation ∧
      ∀ f' ∈ t.frames, (∃ i fi, f' = .link i fi) ∨ ∀ j, ¬ f'.cites j) :
    Filing ⟨s, .link g fc :: r, fault, es⟩ (Machine.after ⟨s, .link g fc :: r, fault, es⟩ r t) := by
  obtain ⟨hr, hd, hf⟩ := h
  refine .turn hr hd (fun i u moment argument he => ?_) fun f' hm j hj => ?_
  · obtain ⟨hfc, hfault, hmove⟩ := ht.told he
    exact hcall u moment argument hfc hfault hmove
  · obtain ⟨i, fi, rfl⟩ := (hf f' hm).resolve_right fun hno => hno j hj
    cases fi with
    | submit task =>
      obtain ⟨rfl, rfl⟩ := ht.submits hm
      exact hj
    | _ => exact absurd hj id

lemma filing_call {l : Link U X} {u : Nat} {moment : Moment} {argument : Argument} {es : List (Event U X)}
    (hl : s.links[g]? = some l) (h : tickLink s g l (.call u moment argument) = some t) :
    Filing ⟨s, .link g (.call u moment argument) :: r, none, es⟩
      (Machine.after ⟨s, .link g (.call u moment argument) :: r, none, es⟩ r t) := by
  obtain rfl := Option.some.inj h
  have hc : coordinatorOf s g = l.coordinator := by simp [coordinatorOf, hl]
  cases hh : l.coordinator.hookOf u moment with
  | none => exact .turn rfl rfl (by simp [linkTurn, Coordinator.callTurn, hh]) (by simp [linkTurn, Coordinator.callTurn, hh])
  | some hook =>
    refine .called rfl (by rw [hc, hh]) ?_
    simp [Machine.after, linkTurn, Coordinator.callTurn, hh, setCoordinator_same hl]

end Stages

/-- The only moves that have to do with reports are the calls of hooks of tasks and the hooks of the session. -/
theorem step_filing {m n : Machine U X} {move : Move U X} (hh : Housed m) (h : m.step move = some n) : Filing m n := by
  cases step_moved h with
  | started =>
    rename_i operation _
    refine .dull rfl rfl ⟨[], rfl, by simp⟩ fun j ⟨f', hm, hj⟩ => ?_
    rcases List.mem_cons.mp hm with rfl | hm
    · cases operation <;> exact absurd hj id
    · exact ⟨f', hm, hj⟩
  | recovered => exact .dull rfl rfl ⟨[], rfl, by simp⟩ fun _ => id
  | @unwound s f r e es =>
    obtain ⟨hr, hd, hframes⟩ := dull_unwind s e f
    by_cases hf : ∃ g fc, f = .link g fc
    · obtain ⟨g, fc, rfl⟩ := hf
      exact (linked_unwind (hh.frames g fc (List.mem_cons_self ..)) fc e).filing (fun _ _ _ _ hfault => by cases hfault)
        ⟨hr, hd, fun f' hm => .inl (hframes f' hm).1⟩
    · have hplain := plain_unwind s e fun g fc hfc => hf ⟨g, fc, hfc⟩
      exact .turn hr hd (fun g _ _ _ => hplain.quiet g _) fun f' hm => absurd (hframes f' hm).2 hf
  | @answered s f r es a t ht =>
    have hdull := dull_answer ht
    by_cases hf : ∃ g fc, f = .link g fc
    · obtain ⟨g, fc, rfl⟩ := hf
      exact (linked_answer ht).filing (fun _ _ _ _ _ hmove => by cases hmove) hdull
    · have hlink : ∀ g fc, f ≠ .link g fc := fun g fc hfc => hf ⟨g, fc, hfc⟩
      obtain ⟨hr, hd, hframes⟩ := hdull
      refine .turn hr hd (fun g _ _ _ => (plain_answer hlink ht).quiet g _) fun f' hm j hj => absurd hj ?_
      refine (hframes f' hm).resolve_left ?_ j
      rintro ⟨i, fi, rfl⟩
      exact plain_answer_frames hlink ht i fi hm
  | @ticked s f r es t ht =>
    by_cases hf : ∃ g fc, f = .link g fc
    · obtain ⟨g, fc, rfl⟩ := hf
      have hl := List.getElem?_eq_getElem (hh.frames g fc (List.mem_cons_self ..))
      simp only [Frame.tick, hl] at ht
      by_cases hcall : ∃ u moment argument, fc = .call u moment argument
      · obtain ⟨u, moment, argument, rfl⟩ := hcall
        exact filing_call hl ht
      · obtain ⟨hr, hd, hframes⟩ := dull_link (fun u moment argument hfc => hcall ⟨u, moment, argument, hfc⟩) ht
        exact (linked_tick hl ht).filing (fun u moment argument hfc _ _ => hcall ⟨u, moment, argument, hfc⟩)
          ⟨hr, hd, fun f' hm => .inl (hframes f' hm)⟩
    · have hlink : ∀ g fc, f ≠ .link g fc := fun g fc hfc => hf ⟨g, fc, hfc⟩
      by_cases hbody : ∃ hook payload, f = .body hook payload
      · obtain ⟨hook, payload, rfl⟩ := hbody
        cases ht
        exact .ran rfl rfl
      · obtain ⟨hr, hd, hframes⟩ := dull_tick hlink (fun hook payload hfc => hbody ⟨hook, payload, hfc⟩) ht
        exact .turn hr hd (fun g _ _ _ => (plain_tick hh.inhabited hlink ht).quiet g _) fun f' hm j hj =>
          absurd hj (hframes f' hm j)

section Tasks

variable {m n : Machine U X} {move : Move U X} {g u : Nat} {moment : Moment} {hook : Hook U}

lemma lt_of_hookOf {s : Session U X} (h : (coordinatorOf s g).hookOf u moment = some hook) :
    g < s.links.length ∧ u < (coordinatorOf s g).tasks.length := by
  obtain ⟨task, htask, -⟩ := Option.bind_eq_some_iff.mp h
  refine ⟨?_, (List.getElem?_eq_some_iff.mp htask).1⟩
  by_contra hg
  simp [coordinatorOf, List.getElem?_eq_none (Nat.le_of_not_lt hg)] at htask

lemma hookOf_origin (hh : Housed m) (h : m.step move = some n) (hn : (coordinatorOf n.state g).hookOf u moment = some hook) :
    (coordinatorOf m.state g).hookOf u moment = some hook ∨
      ∃ task r, m.stack = .link g (.submit task) :: r ∧ task.hooks.get moment = some hook := by
  obtain ⟨hg, -⟩ := lt_of_hookOf hn
  cases step_stage hh h with
  | started | recovered => exact .inl hn
  | @plain s f r fault es _ t _ ht =>
    left
    rcases Nat.lt_or_ge g s.links.length with hlt | hge
    · rwa [← ht.kept.same g hlt]
    · obtain ⟨x, hx⟩ := ht.kept.fresh g hge hg
      simp [Machine.after, hx, Coordinator.hookOf] at hn
  | @linked s i f r fault es _ t ht =>
    by_cases hi : g = i
    · subst hi
      obtain ⟨own, -, hstep⟩ := ht.move
      refine (Coordinator.hookOf_origin (Coordinator.step_stage (hstep [] [])) hn).imp id ?_
      rintro ⟨task, r', hs, hget⟩
      obtain ⟨rfl, -⟩ := List.cons.inj hs
      exact ⟨task, r, rfl, hget⟩
    · exact .inl (by rwa [← ht.others g hi])

lemma hookOf_kept (hh : Housed m) (h : m.step move = some n) (hm : (coordinatorOf m.state g).hookOf u moment = some hook) :
    (coordinatorOf n.state g).hookOf u moment = some hook := by
  obtain ⟨hg, hu⟩ := lt_of_hookOf hm
  cases step_stage hh h with
  | started | recovered => exact hm
  | plain _ ht => exact (ht.kept.same g hg).symm ▸ hm
  | @linked s i f r fault es _ t ht =>
    by_cases hi : g = i
    · subst hi
      obtain ⟨own, -, hstep⟩ := ht.move
      exact ((Coordinator.hookOf_step (Coordinator.step_stage (hstep [] [])) hu).2 moment).trans hm
    · exact (ht.others g hi).symm ▸ hm

lemma reportOf_origin {j : Nat} (hh : Housed m) (h : m.step move = some n) (hn : reportOf n.state g u moment = some j) :
    reportOf m.state g u moment = some j ∨ ∃ task r, m.stack = .link g (.submit task) :: r ∧ Citing j m.stack := by
  obtain ⟨hook, hhook, hreport⟩ := Option.bind_eq_some_iff.mp hn
  refine (hookOf_origin hh h hhook).imp (fun hm => ?_) ?_
  · rw [reportOf, hm, Option.bind_some, hreport]
  · rintro ⟨task, r, hs, hget⟩
    have hcites : (Frame.link g (.submit task) : Frame U X).cites j := ⟨moment, by rw [hget, Option.bind_some, hreport]⟩
    exact ⟨task, r, hs, _, hs ▸ List.mem_cons_self .., hcites⟩

end Tasks

section Bodies

variable {s : Session U X} {hook : Hook U} {payload : Object} {j : Nat}

/-- A hook of the session leaves the reports alone, or makes a new one and asks for its scope, or puts an entry into one. -/
lemma bodyTurn_reports (s : Session U X) (hook : Hook U) (payload : Object) :
    ((bodyTurn s hook payload).state = s ∧ ∀ j, ¬ Citing j (bodyTurn s hook payload).frames) ∨
      (∃ report q hooks, (bodyTurn s hook payload).state = { s with reports := s.reports ++ [report] } ∧
        (bodyTurn s hook payload).frames = [s.submit (scopeTask q hooks s.reports.length)]) ∨
      ∃ i result, hook.report? = some i ∧ (bodyTurn s hook payload).state = { s with reports := s.reports.set i result } ∧
        ∀ j, ¬ Citing j (bodyTurn s hook payload).frames := by
  cases hook with
  | user => exact .inl ⟨rfl, by simp [bodyTurn, Citing]⟩
  | inspectionError hooks => exact .inl ⟨rfl, by simp [bodyTurn, Citing, Frame.cites]⟩
  | names q success =>
    left
    simp only [bodyTurn, namesTurn]
    split
    · exact ⟨rfl, by simp [Citing]⟩
    · cases success <;> exact ⟨rfl, by simp [callTurn, Citing, Frame.cites]⟩
  | inspection q hooks =>
    simp only [bodyTurn, inspectionTurn]
    split
    · exact .inl ⟨rfl, by simp [Citing]⟩
    · split
      · exact .inl ⟨rfl, by simp [Citing, Frame.cites]⟩
      · exact .inr (.inl ⟨_, q, hooks, rfl, rfl⟩)
  | scopeInspection i q hooks =>
    simp only [bodyTurn, scopeInspectionTurn]
    split
    · exact .inl ⟨rfl, by simp [Citing]⟩
    · exact .inr (.inr ⟨i, _, rfl, rfl, by simp [Citing, Frame.cites]⟩)

lemma bodyTurn_documentation (s : Session U X) (hook : Hook U) (payload : Object) :
    (bodyTurn s hook payload).state.documentation = s.documentation := by
  rcases bodyTurn_reports s hook payload with ⟨h, -⟩ | ⟨_, _, _, h, -⟩ | ⟨_, _, -, h, -⟩ <;> rw [h]

lemma bodyTurn_length (s : Session U X) (hook : Hook U) (payload : Object) :
    s.reports.length ≤ (bodyTurn s hook payload).state.reports.length := by
  rcases bodyTurn_reports s hook payload with ⟨h, -⟩ | ⟨_, _, _, h, -⟩ | ⟨_, _, -, h, -⟩ <;> simp [h]

lemma bodyTurn_cites (h : Citing j (bodyTurn s hook payload).frames) :
    j = s.reports.length ∧ j < (bodyTurn s hook payload).state.reports.length := by
  rcases bodyTurn_reports s hook payload with ⟨-, hno⟩ | ⟨_, _, _, hs, hf⟩ | ⟨_, _, -, -, hno⟩
  · exact absurd h (hno j)
  · obtain ⟨f, hm, hj⟩ := h
    rw [hf, List.mem_singleton] at hm
    subst hm
    obtain ⟨moment, hreport⟩ := hj
    obtain ⟨-, rfl⟩ := scopeTask_report hreport
    simp [hs]
  · exact absurd h (hno j)

lemma bodyTurn_other (hj : hook.report? ≠ some j) (hlt : j < s.reports.length) :
    (bodyTurn s hook payload).state.reports[j]? = s.reports[j]? := by
  rcases bodyTurn_reports s hook payload with ⟨h, -⟩ | ⟨_, _, _, h, -⟩ | ⟨i, _, hi, h, -⟩
  · rw [h]
  · rw [h, List.getElem?_append_left hlt]
  · have hne : i ≠ j := fun hij => hj (hij ▸ hi)
    rw [h, List.getElem?_set_ne hne]

lemma bodyTurn_own {q : Question} {hooks : Hooks U} {report : Object} (h : s.reports[j]? = some report) :
    (bodyTurn s (.scopeInspection j q hooks) payload).state.reports[j]? =
      some (Inspection.withEntry report (Inspection.entryIn s.documentation q.expression.selector payload)) := by
  obtain ⟨hlt, hget⟩ := List.getElem?_eq_some_iff.mp h
  simp only [bodyTurn, scopeInspectionTurn, Inspection.entryIn]
  split
  · rename_i hnone
    rw [h, hnone]
    rfl
  · rename_i names hnames
    simp [hget, hnames, hlt]

end Bodies

/-- Every number that is given out is the number of a report. -/
structure Numbered (m : Machine U X) : Prop where
  frames : ∀ j, Citing j m.stack → j < m.state.reports.length
  tasks : ∀ g u moment j, reportOf m.state g u moment = some j → j < m.state.reports.length

section Numbers

variable {m n : Machine U X} {move : Move U X}

lemma Filing.length_le (h : Filing m n) : m.state.reports.length ≤ n.state.reports.length := by
  cases h with
  | dull reports => rw [reports]
  | called _ _ hn => rw [hn]
  | ran _ hn =>
    rw [hn]
    exact bodyTurn_length ..

lemma Filing.documentation_eq (h : Filing m n) : n.state.documentation = m.state.documentation := by
  cases h with
  | dull _ documentation => exact documentation
  | called _ _ hn => rw [hn]
  | ran _ hn =>
    rw [hn]
    exact bodyTurn_documentation ..

lemma citing_bodyOf {hook : Hook U} {argument : Argument} {j : Nat} (h : Citing j (bodyOf hook argument : List (Frame U X))) :
    hook.report? = some j := by
  obtain ⟨f, hm, hj⟩ := h
  unfold bodyOf at hm
  split at hm
  · cases hm
  · rw [List.mem_singleton.mp hm] at hj
    exact hj
  · cases hm

lemma numbered_step (hh : Housed m) (h : m.step move = some n) (hm : Numbered m) : Numbered n := by
  have hfiling := step_filing hh h
  refine ⟨fun j hj => ?_, fun g u moment j hj => ?_⟩
  · cases hfiling with
    | dull reports _ _ frames =>
      rw [reports]
      exact hm.frames j (frames j hj)
    | @called g u moment argument hook r hs hh hn =>
      subst hn
      rw [Citing.append, Citing.cons] at hj
      rcases hj with hj | hj | hj
      · exact hm.tasks g u moment j (by rw [reportOf, hh, Option.bind_some, citing_bodyOf hj])
      · exact absurd hj id
      · exact hm.frames j (hs ▸ Citing.cons.mpr (.inr hj))
    | @ran hook payload r hs hn =>
      subst hn
      rcases Citing.append.mp hj with hj | hj
      · exact (bodyTurn_cites hj).2
      · exact (hm.frames j (hs ▸ Citing.cons.mpr (.inr hj))).trans_le (bodyTurn_length ..)
  · refine lt_of_lt_of_le ?_ hfiling.length_le
    rcases reportOf_origin hh h hj with hold | ⟨_, _, -, hcites⟩
    · exact hm.tasks g u moment j hold
    · exact hm.frames j hcites

lemma numbered_start (worker : Worker) (transform : Option X) (restartable : Bool) (documentation : Documentation.Index) :
    Numbered (U := U) { state := Session.make worker transform restartable documentation } where
  frames := fun j ⟨_, hf, _⟩ => absurd hf List.not_mem_nil
  tasks := fun g u moment j h => by
    have hnone : (coordinatorOf (Session.make (U := U) worker transform restartable documentation) g).hookOf u moment = none := by
      cases g <;> simp [coordinatorOf, Session.make, attach, Coordinator.hookOf]
    rw [reportOf, hnone] at h
    cases h

end Numbers

/-- The report holds the last entry that the answers have found; the last of them may be about to add its own. -/
inductive Standing (index : Documentation.Index) (g t j : Nat) (q : Question) (hooks : Hooks U) (report : Object)
    (new : List (Event U X)) (m : Machine U X) : Prop
  | settled (hs : ¬ Citing j m.stack) (hr : m.state.reports[j]? = some (Inspection.withEntry report
      ((answersTo g t new).findSome? (Inspection.entryIn index q.expression.selector))))
  | due {payload earlier r} (hs : m.stack = .body (.scopeInspection j q hooks) payload :: r) (hf : m.fault = none)
      (hc : ¬ Citing j r) (ha : answersTo g t new = payload :: earlier)
      (hr : m.state.reports[j]? = some (Inspection.withEntry report
        (earlier.findSome? (Inspection.entryIn index q.expression.selector))))

/-- The report of a scope request: only the hook of the request adds to it, and it holds what the member was inspected with
and the last entry that has been found; an answer may be about to add another one. -/
structure Filed (base : Machine U X) (g t j : Nat) (q : Question) (hooks : Hooks U) (report : Object) (m : Machine U X) :
    Prop where
  documentation : m.state.documentation = base.state.documentation
  held : (coordinatorOf m.state g).hookOf t .success = some (.scopeInspection j q hooks)
  sole : ∀ i u moment, reportOf m.state i u moment = some j → i = g ∧ u = t ∧ moment = .success
  progress : ∃ new, m.events = new ++ base.events ∧ Standing base.state.documentation g t j q hooks report new m

section Files

variable {base m n : Machine U X} {move : Move U X} {g t j : Nat} {q : Question} {hooks : Hooks U} {report : Object}
  {new : List (Event U X)} {index : Documentation.Index}

@[simp] lemma answersTo_append (g t : Nat) (es es' : List (Event U X)) :
    answersTo g t (es ++ es') = answersTo g t es ++ answersTo g t es' :=
  List.filterMap_append

lemma answersTo_untold (h : ∀ g u moment argument, .link g (.told u moment argument) ∉ new) : answersTo g t new = [] := by
  rw [answersTo, List.filterMap_eq_nil_iff]
  intro e he
  split
  · exact absurd he (h _ _ _ _)
  · rfl

lemma answersTo_called (i : Nat) (hook : Hook U) (argument : Argument) :
    answersTo g t (.link i (.called hook argument) :: new) = answersTo g t new := rfl

lemma answersTo_told {i u : Nat} {moment : Moment} {argument : Argument} (h : ¬ (i = g ∧ u = t ∧ moment = .success)) :
    answersTo g t (.link i (.told u moment argument) :: new) = answersTo g t new := by
  rw [answersTo, List.filterMap_cons_none ?_]
  · rfl
  split
  · rename_i heq
    cases heq
    exact if_neg fun hsame => h ⟨hsame.1, hsame.2, rfl⟩
  · rfl

lemma untold_body {s : Session U X} (hs : 0 < s.links.length) {hook : Hook U} {payload : Object} (i u : Nat) (moment : Moment)
    (argument : Argument) :
    .link i (.told u moment argument) ∉ (bodyTurn s hook payload).events.reverse := by
  rw [List.mem_reverse]
  exact (plain_body hs (.body hook payload) hook payload).quiet i _

lemma step_body {hook : Hook U} {payload : Object} {r : List (Frame U X)} (hs : m.stack = .body hook payload :: r)
    (hf : m.fault = none) (h : m.step move = some n) : n = m.after r (bodyTurn m.state hook payload) := by
  obtain ⟨s, stack, fault, es⟩ := m
  obtain rfl : stack = .body hook payload :: r := hs
  obtain rfl : fault = none := hf
  cases step_moved h with
  | ticked ht =>
    cases ht
    rfl
  | answered ht => cases ht
  | started ho => simp [Machine.open?, Frame.tick] at ho
  | recovered ho => simp [Machine.suspended, Frame.tick] at ho

lemma Filed.sole_step (hm : Filed base g t j q hooks report m) (hh : Housed m) (h : m.step move = some n) {i u : Nat}
    {moment : Moment} (hn : reportOf n.state i u moment = some j) : i = g ∧ u = t ∧ moment = .success := by
  obtain ⟨new, -, hstanding⟩ := hm.progress
  rcases reportOf_origin hh h hn with hold | ⟨task, r, hs, hcites⟩
  · exact hm.sole i u moment hold
  · cases hstanding with
    | settled hnone => exact absurd hcites hnone
    | due hs' => cases hs.symm.trans hs'

lemma Filed.called (hm : Filed base g t j q hooks report m) {i u : Nat} {moment : Moment} {argument : Argument} {hook : Hook U}
    {r : List (Frame U X)} {es : List (Event U X)} (hhook : (coordinatorOf m.state i).hookOf u moment = some hook)
    (hrest : ¬ Citing j r) (hr : m.state.reports[j]? = some (Inspection.withEntry report
      ((answersTo g t new).findSome? (Inspection.entryIn index q.expression.selector)))) :
    Standing index g t j q hooks report (.link i (.called hook argument) :: .link i (.told u moment argument) :: new)
      ⟨m.state, bodyOf hook argument ++ .link i (.awaitHook hook argument) :: r, none, es⟩ := by
  have hwaiting : ¬ Citing j (.link i (.awaitHook hook argument) :: r) := fun hj => (Citing.cons.mp hj).elim id hrest
  by_cases hown : i = g ∧ u = t ∧ moment = .success
  · obtain ⟨rfl, rfl, rfl⟩ := hown
    obtain rfl : hook = .scopeInspection j q hooks := Option.some.inj (hhook.symm.trans hm.held)
    cases argument with
    | payload payload => exact .due rfl rfl hwaiting (by simp [answersTo]) hr
    | nothing | chunk => exact .settled hwaiting (by simpa [answersTo] using hr)
  · -- another hook cannot have the number of the report
    have hother : hook.report? ≠ some j := fun hj =>
      hown (hm.sole i u moment (by rw [reportOf, hhook, Option.bind_some, hj]))
    refine .settled (fun hj => (Citing.append.mp hj).elim (fun hj => hother (citing_bodyOf hj)) hwaiting) ?_
    rwa [answersTo_called, answersTo_told hown]

lemma Standing.ran (hh : Housed m) {hook : Hook U} {payload : Object} {r : List (Frame U X)} (hother : hook.report? ≠ some j)
    (hrest : ¬ Citing j r) (hr : m.state.reports[j]? = some (Inspection.withEntry report
      ((answersTo g t new).findSome? (Inspection.entryIn index q.expression.selector)))) :
    Standing index g t j q hooks report ((bodyTurn m.state hook payload).events.reverse ++ new)
      (m.after r (bodyTurn m.state hook payload)) := by
  have hlt := (List.getElem?_eq_some_iff.mp hr).1
  refine .settled (fun hj => (Citing.append.mp hj).elim (fun hj => hlt.ne (bodyTurn_cites hj).1) hrest) ?_
  rw [answersTo_append, answersTo_untold (untold_body hh.inhabited), List.nil_append]
  exact (bodyTurn_other hother hlt).trans hr

lemma Standing.added (hh : Housed m) {payload : Object} {earlier : List Object} {r : List (Frame U X)} (hrest : ¬ Citing j r)
    (ha : answersTo g t new = payload :: earlier) (hr : m.state.reports[j]? = some (Inspection.withEntry report
      (earlier.findSome? (Inspection.entryIn m.state.documentation q.expression.selector)))) :
    Standing m.state.documentation g t j q hooks report
      ((bodyTurn m.state (.scopeInspection j q hooks) payload).events.reverse ++ new)
      (m.after r (bodyTurn m.state (.scopeInspection j q hooks) payload)) := by
  have hlt := (List.getElem?_eq_some_iff.mp hr).1
  refine .settled (fun hj => (Citing.append.mp hj).elim (fun hj => hlt.ne (bodyTurn_cites hj).1) hrest) ?_
  rw [answersTo_append, answersTo_untold (untold_body hh.inhabited), List.nil_append, ha, List.findSome?_cons]
  refine (bodyTurn_own hr).trans ?_
  rw [Inspection.withEntry_withEntry]
  cases Inspection.entryIn m.state.documentation q.expression.selector payload <;> rfl

lemma Standing.step (hm : Filed base g t j q hooks report m) (hs : Standing base.state.documentation g t j q hooks report new m)
    (hh : Housed m) (he : m.events = new ++ base.events) (h : m.step move = some n) :
    ∃ new', n.events = new' ++ base.events ∧ Standing base.state.documentation g t j q hooks report new' n := by
  cases hs with
  | settled hnone hr =>
    cases step_filing hh h with
    | dull reports _ events frames =>
      obtain ⟨more, hmore, huntold⟩ := events
      refine ⟨more ++ new, by rw [hmore, he, List.append_assoc], .settled (fun hj => hnone (frames j hj)) ?_⟩
      rw [reports, answersTo_append, answersTo_untold huntold, List.nil_append, hr]
    | called hs hhook hn =>
      subst hn
      rw [hs, Citing.cons, not_or] at hnone
      exact ⟨_, by rw [he]; rfl, hm.called hhook hnone.2 hr⟩
    | ran hs hn =>
      subst hn
      rw [hs, Citing.cons, not_or] at hnone
      exact ⟨_, by rw [Machine.after, he, List.append_assoc], .ran hh hnone.1 hnone.2 hr⟩
  | due hs hf hc ha hr =>
    obtain rfl := step_body hs hf h
    rw [← hm.documentation] at hr ⊢
    exact ⟨_, by rw [Machine.after, he, List.append_assoc], .added hh hc ha hr⟩

lemma filed_step (hm : Filed base g t j q hooks report m) (hh : Housed m) (h : m.step move = some n) :
    Filed base g t j q hooks report n := by
  obtain ⟨new, he, hstanding⟩ := hm.progress
  exact ⟨(step_filing hh h).documentation_eq.trans hm.documentation, hookOf_kept hh h hm.held,
    fun _ _ _ hn => hm.sole_step hh h hn, hstanding.step hm hh he h⟩

lemma housed_invariant {I : Machine U X → Prop} {moves : List (Move U X)}
    (hstep : ∀ {m move n}, Housed m → m.step move = some n → I m → I n) (hh : Housed m) (hr : m.run moves = some n)
    (hi : I m) : I n := by
  rw [Machine.run_eq] at hr
  refine (run_keeps (I := fun m : Machine U X => Housed m ∧ I m) ?_ hr ⟨hh, hi⟩).2
  exact fun hs ⟨hh, hi⟩ => ⟨housed_step (step_stage hh hs) hh, hstep hh hs hi⟩

/-- Whatever happens in the meantime, a report that nobody adds to right now holds the last entry that an answer to its request
has found. -/
theorem filed_run {moves : List (Move U X)} (hh : Housed m) (hm : Filed base g t j q hooks report m) (hr : m.run moves = some n) :
    Filed base g t j q hooks report n :=
  housed_invariant (fun hh hs hm => filed_step hm hh hs) hh hr hm

end Files

section Runs

variable {m n : Machine U X} {moves : List (Move U X)}

lemma numbered_run {worker : Worker} {transform : Option X} {restartable : Bool} {documentation : Documentation.Index}
    (hr : Machine.run { state := Session.make worker transform restartable documentation } moves = some m) : Numbered m :=
  housed_invariant numbered_step (housed_start ..) hr (numbered_start ..)

lemma documentation_run (hh : Housed m) (hr : m.run moves = some n) : n.state.documentation = m.state.documentation :=
  housed_invariant (I := fun p => p.state.documentation = m.state.documentation)
    (fun hh hs hd => (step_filing hh hs).documentation_eq.trans hd) hh hr rfl

lemma hookOf_run (hh : Housed m) (hr : m.run moves = some n) {g u : Nat} {moment : Moment} {hook : Hook U}
    (hm : (coordinatorOf m.state g).hookOf u moment = some hook) : (coordinatorOf n.state g).hookOf u moment = some hook :=
  housed_invariant (I := fun p => (coordinatorOf p.state g).hookOf u moment = some hook) hookOf_kept hh hr hm

end Runs

end Session

end EvalSession
