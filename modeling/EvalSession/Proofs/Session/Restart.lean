import EvalSession.Proofs.Session.Detached

/-!
# A restart isolates the past

Main statement: whatever a session has gone through, after a restart that was asked for outside hooks it does what a
new session over the new worker does, with the transform that was in force. `Mirrors` keeps the two runs in step;
messages of earlier workers, which a new session never gets, are then taken out of its run (`Alike`). This takes restarts
that come one after another: of two that are under way at once, each attaches the worker that it gets, and the first of
these is never ended.
-/
namespace EvalSession

variable {U X : Type}

/-- A worker that a session has not had; kernels are always made anew. -/
def Worker.NewTo (w : Worker) (s : Session U X) : Prop := ∀ n, w = .remote n → s.linkOf? n = none

namespace Session

/-- The note that a message of an earlier worker found no handler is none of the session's own events. -/
def Event.own (past : Session U X) : Event U X → Bool
  | .detached n => (past.linkOf? n).isNone
  | _ => true

def Move.stray (past : Session U X) : Move U X → Bool
  | .start (.deliver n _) => (past.linkOf? n).isSome
  | _ => false

/-- Leaves out the messages of earlier workers, each with the stage that takes it. -/
def sift (past : Session U X) : List (Move U X) → List (Move U X)
  | move :: taken :: rest => if move.stray past then sift past rest else move :: sift past (taken :: rest)
  | moves => moves

/-- Two machines that go the same way, one of them behind the links of an earlier session. -/
structure Mirrors (past : Session U X) (es es' : List (Event U X)) (n n' : Machine U X) : Prop where
  state : n.state = n'.state.onto past
  stack : n.stack = n'.stack.map (Frame.onto past)
  fault : n.fault = n'.fault
  events : ∃ more, n.events = more.map (Event.onto past) ++ es ∧ n'.events = more ++ es'

/-- Two machines of which the second has missed messages of earlier workers. Such a message makes outside code forget a
fault that came out of the operation before. -/
structure Alike (past : Session U X) (es : List (Event U X)) (n n' : Machine U X) : Prop where
  state : n.state = n'.state
  stack : n.stack = n'.stack
  fault : n.fault = n'.fault ∨ n.stack = [] ∧ n.fault = none
  events : ∃ more more', n.events = more ++ es ∧ n'.events = more' ++ es ∧
    more.filter (Event.own past) = more'.filter (Event.own past)

/-- What `n` has come to since a restart left `r` is what `n'` has come to since a new session was `f`. -/
structure Isolated (past : Session U X) (r f n n' : Machine U X) : Prop where
  state : n.state = n'.state.onto past
  scheduler : n.state.coordinator = n'.state.coordinator.map (Hook.onto past)
  stack : n.stack = n'.stack.map (Frame.onto past)
  fault : n.fault = n'.fault ∨ n.stack = [] ∧ n.fault = none
  /-- Results, calls of hooks and sends are the same, and none is of an earlier link. -/
  events : ∃ more more', n.events = more ++ r.events ∧ n'.events = more' ++ f.events ∧
    more.filter (Event.own past) = (more'.filter (Event.own past)).map (Event.onto past) ∧
    ∀ g e, .link g e ∈ more → past.links.length ≤ g

section Apart

variable {past s s' : Session U X}

lemma linkOf?_eq_none {n : Nat} : s.linkOf? n = none ↔ ∀ g, workerOf s g ≠ some (.remote n) := by
  simp only [linkOf?, List.findIdx?_eq_none_iff, decide_eq_false_iff_not, workerOf]
  constructor
  · intro h g hg
    obtain ⟨l, hl, hw⟩ := Option.map_eq_some_iff.mp hg
    exact h l (List.mem_of_getElem? hl) hw
  · intro h l hl hw
    obtain ⟨g, hg⟩ := List.mem_iff_getElem?.mp hl
    exact h g (by rw [hg, Option.map_some, hw])

lemma Apart.of_workers (h : Apart past s) (hl : s'.links.length = s.links.length)
    (hw : ∀ g n, workerOf s' g = some (.remote n) → workerOf s g = some (.remote n)) : Apart past s' :=
  ⟨hl ▸ h.inhabited, fun n hn => linkOf?_eq_none.mpr fun g hg =>
    linkOf?_eq_none.mp (h.strange n hn) g (hw g n hg)⟩

lemma Apart.waning (h : Apart past s) (hw : Waning s s') : Apart past s' := h.of_workers hw.length hw.numbers

lemma Apart.attach (h : Apart past s) {w : Worker} (hw : w.NewTo past) : Apart past (s.attach w) := by
  refine ⟨by simp [Session.attach], fun n hn => ?_⟩
  have hold := h.strange n hn
  simp only [linkOf?, List.findIdx?_eq_none_iff, decide_eq_false_iff_not] at hold
  simp only [linkOf?, Session.attach, List.findIdx?_eq_none_iff, decide_eq_false_iff_not, List.mem_append,
    List.mem_singleton]
  rintro l (hl | rfl) hworker
  · exact hold l hl hworker
  · simp [hw n hworker] at hn

lemma apart_tick {f : Frame U X} {t : Turn U X} (h : Apart past s) (ht : f.tick s = some t) : Apart past t.state := by
  by_cases hf : ∃ handler, f = .install (some handler)
  · obtain ⟨handler, rfl⟩ := hf
    cases ht
    exact h.of_workers (setHandler_length ..) fun g n hg => (workerOf_setHandler ..).symm.trans hg
  · exact h.waning (tidy_tick (fun handler he => hf ⟨handler, he⟩) ht).waning

lemma apart_step {m n : Machine U X} {move : Move U X} (hmove : ∀ w, move = .answer (.worker w) → w.NewTo past)
    (h : m.step move = some n) (hm : Apart past m.state) : Apart past n.state := by
  cases step_moved h with
  | ticked ht => exact apart_tick hm ht
  | unwound => exact hm.waning (tidy_unwind ..).waning
  | started => exact hm
  | recovered => exact hm
  | answered ht =>
    rcases tidy_answer ht with ht | ⟨_, _, w, -, rfl, hs, -⟩
    · exact hm.waning ht.waning
    · rw [Machine.after, hs]
      exact hm.attach (hmove w rfl)

end Apart

lemma apart_run {past : Session U X} {m n : Machine U X} {moves : List (Move U X)}
    (hnew : ∀ w, .answer (.worker w) ∈ moves → w.NewTo past) (hr : m.run moves = some n) (hm : Apart past m.state) :
    Apart past n.state := by
  rw [Machine.run_eq] at hr
  refine run_invariant (I := fun m => Apart past m.state) apart_step (follows_of_mem ?_ m) hr hm
  rintro move hmove - w rfl
  exact hnew w hmove

section Mirrors

variable {past : Session U X} {es es' : List (Event U X)} {n n' : Machine U X}

lemma Mirrors.after (h : Mirrors past es es' n n') (r : List (Frame U X)) (t : Turn U X) :
    Mirrors past es es' (n.after (r.map (Frame.onto past)) (t.onto past)) (n'.after r t) := by
  obtain ⟨more, hn, hn'⟩ := h.events
  refine ⟨rfl, by simp [Machine.after, Turn.onto], rfl, t.events.reverse ++ more, ?_, ?_⟩
  · simp [Machine.after, Turn.onto, hn]
  · simp [Machine.after, hn']

lemma onto_frame (operation : Operation U X) : operation.frame.onto past = operation.frame := by
  cases operation <;> rfl

lemma Mirrors.waits (hd : past.Deaf) (hap : Apart past n'.state) (h : Mirrors past es es' n n') :
    n.suspended = n'.suspended ∧ n.open? = n'.open? := by
  unfold Machine.suspended Machine.open?
  rw [h.stack, h.state, h.fault]
  cases n'.stack with
  | nil => exact ⟨rfl, rfl⟩
  | cons f r => simp [tick_onto hd hap f]

theorem mirrors_step (hd : past.Deaf) (hap : Apart past n'.state) (h : Mirrors past es es' n n') (move : Move U X) :
    Option.Rel (Mirrors past es es') (n.step move) (n'.step move) := by
  have hwaits := h.waits hd hap
  cases move with
  | start operation =>
    simp only [Machine.step, hwaits.2]
    split
    · refine .some ⟨h.state, ?_, rfl, h.events⟩
      simp [Machine.push, h.stack, onto_frame]
    · exact .none
  | recover =>
    simp only [Machine.step, hwaits.1, h.fault]
    split
    · exact .some ⟨h.state, h.stack, rfl, h.events⟩
    · exact .none
  | tick =>
    simp only [Machine.step, Machine.tick, h.stack, h.fault, h.state]
    cases n'.stack with
    | nil => exact .none
    | cons f r =>
      cases n'.fault with
      | some e =>
        simp only [List.map_cons, unwind_onto]
        exact .some (h.after r _)
      | none =>
        simp only [List.map_cons, tick_onto hd hap]
        cases f.tick n'.state with
        | none => exact .none
        | some t => exact .some (h.after r t)
  | answer a =>
    simp only [Machine.step, Machine.answer, h.stack, h.fault, h.state]
    cases n'.stack with
    | nil => exact .none
    | cons f r =>
      cases n'.fault with
      | some e => exact .none
      | none =>
        simp only [List.map_cons, answer_onto]
        cases f.answer n'.state a with
        | none => exact .none
        | some t => exact .some (h.after r t)

theorem mirrors_run (hd : past.Deaf) {later : List (Move U X)}
    (hnew : ∀ w, .answer (.worker w) ∈ later → w.NewTo past) (hap : Apart past n'.state)
    (h : Mirrors past es es' n n') : Option.Rel (Mirrors past es es') (n.run later) (n'.run later) := by
  induction later generalizing n n' with
  | nil => exact .some h
  | cons move rest ih =>
    have hstep := mirrors_step hd hap h move
    simp only [Machine.run]
    generalize n.step move = p at hstep ⊢
    generalize hq : n'.step move = q at hstep ⊢
    cases hstep with
    | none => exact .none
    | some hpq =>
      have hown := apart_step (fun w hw => hnew w (hw ▸ List.mem_cons_self ..)) hq hap
      exact ih (fun w hw => hnew w (List.mem_cons_of_mem _ hw)) hown hpq

end Mirrors

section Alike

variable {past : Session U X} {es : List (Event U X)} {n n' p q : Machine U X}

lemma Alike.refl (n : Machine U X) : Alike past n.events n n := ⟨rfl, rfl, .inl rfl, [], [], rfl, rfl, rfl⟩

lemma Alike.after (h : Alike past es n n') (r : List (Frame U X)) (t : Turn U X) :
    Alike past es (n.after r t) (n'.after r t) := by
  obtain ⟨more, more', hn, hn', hown⟩ := h.events
  refine ⟨rfl, rfl, .inl rfl, t.events.reverse ++ more, t.events.reverse ++ more', ?_, ?_, ?_⟩
  · simp [Machine.after, hn]
  · simp [Machine.after, hn']
  · simp [hown]

lemma Alike.fault_eq (h : Alike past es n n') {f : Frame U X} {r : List (Frame U X)} (hs : n.stack = f :: r) :
    n.fault = n'.fault := by
  refine h.fault.resolve_right fun hf => ?_
  rw [hs] at hf
  cases hf.1

lemma alike_step {move : Move U X} (h : Alike past es n n') (hp : n.step move = some p) :
    ∃ p', n'.step move = some p' ∧ Alike past es p p' := by
  have hstack := h.stack
  have hstate := h.state
  cases step_moved hp with
  | @ticked s f r log t ht =>
    refine ⟨_, ?_, h.after r t⟩
    simp [Machine.step, Machine.tick, ← hstack, ← hstate, ← h.fault_eq rfl, ht]
  | @unwound s f r e log =>
    refine ⟨_, ?_, h.after r (f.unwind s e)⟩
    simp [Machine.step, Machine.tick, ← hstack, ← hstate, ← h.fault_eq rfl]
  | @answered s f r log a t ht =>
    refine ⟨_, ?_, h.after r t⟩
    simp [Machine.step, Machine.answer, ← hstack, ← hstate, ← h.fault_eq rfl, ht]
  | @started _ operation ho =>
    have ho' : n'.open? = true := by
      cases hs : n.stack with
      | nil => simp [Machine.open?, ← hstack, hs]
      | cons f r =>
        rw [← ho]
        simp [Machine.open?, ← hstack, ← hstate, ← h.fault_eq hs]
    refine ⟨n'.push operation, by simp [Machine.step, ho'], hstate, ?_, .inl rfl, h.events⟩
    simp [Machine.push, hstack]
  | recovered hs =>
    simp only [Machine.step, Bool.and_eq_true, Option.ite_none_right_eq_some] at hp
    have hf : n.fault = n'.fault := h.fault.resolve_right fun hc => by simp [hc.2] at hp
    have hs' : n'.suspended = true := by
      rw [← hs]
      simp [Machine.suspended, ← hstack, ← hstate]
    refine ⟨{ n' with fault := none }, ?_, hstate, hstack, .inl rfl, h.events⟩
    simp [Machine.step, hs', ← hf, hp.1.2]

lemma Alike.stray (h : Alike past es n n') (hap : Apart past n.state) {move taken : Move U X}
    (hm : move.stray past = true) (hp : n.step move = some p) (hq : p.step taken = some q) :
    Alike past es q n' ∧ q.state = n.state := by
  cases move with
  | start operation =>
    cases operation with
    | deliver k message =>
      simp only [Machine.step, Option.ite_none_right_eq_some, Option.some.injEq] at hp
      obtain ⟨ho, rfl⟩ := hp
      have hturn : deliverTurn n.state k message = { state := n.state, events := [.detached k] } := by
        simp [deliverTurn, hap.strange k hm]
      have htick : (Frame.deliver k message).tick n.state = some { state := n.state, events := [.detached k] } :=
        congrArg some hturn
      obtain rfl : q = { n with fault := none, events := .detached k :: n.events } := by
        simp only [Machine.push, Operation.frame] at hq
        cases taken with
        | tick => simpa [Machine.step, Machine.tick, htick, Machine.after, eq_comm] using hq
        | start => simp [Machine.step, Machine.open?, htick] at hq
        | answer a => cases a <;> simp [Machine.step, Machine.answer, Frame.answer] at hq
        | recover => simp [Machine.step] at hq
      obtain ⟨more, more', hn, hn', hown⟩ := h.events
      refine ⟨⟨h.state, h.stack, ?_, .detached k :: more, more', by simp [hn], hn', ?_⟩, rfl⟩
      · cases hs : n.stack with
        | nil => exact .inr ⟨rfl, rfl⟩
        | cons f r =>
          simp only [Machine.open?, hs, Bool.and_eq_true, Option.isNone_iff_eq_none] at ho
          exact .inl (ho.2.symm.trans (h.fault_eq hs))
      · have hdetached : Event.own past (.detached k) = false := by
          cases hk : past.linkOf? k with
          | none => simp [Move.stray, hk] at hm
          | some g => simp [Event.own, hk]
        rw [List.filter_cons_of_neg (by simp [hdetached])]
        exact hown
    | _ => cases hm
  | _ => cases hm

theorem alike_run {later : List (Move U X)} (hnew : ∀ w, .answer (.worker w) ∈ later → w.NewTo past)
    (hap : Apart past n.state) (h : Alike past es n n') (hr : n.run later = some q) :
    ∃ q', n'.run (sift past later) = some q' ∧ Alike past es q q' := by
  induction later using sift.induct past generalizing n n' with
  | case1 move taken rest hstray ih =>
    obtain ⟨p, hp, hr⟩ := Option.bind_eq_some_iff.mp hr
    obtain ⟨p', hp', hr⟩ := Option.bind_eq_some_iff.mp hr
    obtain ⟨halike, hstate⟩ := h.stray hap hstray hp hp'
    rw [sift, if_pos hstray]
    exact ih (fun w hw => hnew w (by simp [hw])) (hstate ▸ hap) halike hr
  | case2 move taken rest hstray ih =>
    obtain ⟨p, hp, hr⟩ := Option.bind_eq_some_iff.mp hr
    obtain ⟨p', hp', halike⟩ := alike_step h hp
    have hown := apart_step (fun w hw => hnew w (hw ▸ List.mem_cons_self ..)) hp hap
    obtain ⟨q', hq', hlast⟩ := ih (fun w hw => hnew w (List.mem_cons_of_mem _ hw)) hown halike hr
    rw [sift, if_neg hstray]
    exact ⟨q', by rw [Machine.run, hp']; exact hq', hlast⟩
  | case3 moves hshort =>
    cases moves with
    | nil => exact ⟨n', rfl, Option.some.inj hr ▸ h⟩
    | cons move rest =>
      cases rest with
      | nil =>
        obtain ⟨p, hp, hr⟩ := Option.bind_eq_some_iff.mp hr
        obtain ⟨p', hp', halike⟩ := alike_step h hp
        obtain rfl := Option.some.inj hr
        exact ⟨p', by simp [sift, Machine.run, hp'], halike⟩
      | cons taken rest => exact (hshort move taken rest rfl).elim

end Alike

lemma own_onto (past : Session U X) (e : Event U X) : (e.onto past).own past = e.own past := by cases e <;> rfl

lemma link_onto {past : Session U X} {e : Event U X} {g : Nat} {e' : Coordinator.Event (Hook U) X}
    (h : .link g e' = e.onto past) : past.links.length ≤ g := by
  cases e <;> simp_all [Event.onto]

lemma Isolated.of {past : Session U X} {r f n p n' : Machine U X} (hm : Mirrors past r.events f.events n p)
    (ha : Alike past f.events p n') (hap : Apart past p.state) : Isolated past r f n n' := by
  obtain ⟨more, hn, hp⟩ := hm.events
  obtain ⟨own, more', hp', hn', hown⟩ := ha.events
  obtain rfl : more = own := List.append_cancel_right (hp.symm.trans hp')
  refine ⟨ha.state ▸ hm.state, ?_, ha.stack ▸ hm.stack, ?_, more.map (Event.onto past), more', hn, hn', ?_, ?_⟩
  · rw [hm.state, ← ha.state, coordinator_eq, current_onto past p.state hap.inhabited, coordinatorOf_onto,
      coordinator_eq]
  · rw [hm.fault, hm.stack, List.map_eq_nil_iff]
    exact ha.fault
  · rw [← hown, List.filter_map]
    exact congrArg _ (List.filter_congr fun e _ => own_onto past e)
  · intro g e he
    obtain ⟨e', -, he'⟩ := List.mem_map.mp he
    exact link_onto he'.symm

def assigning (x : Option X) : List (Move U X) := [.start (.assign x), .tick, .tick]

lemma run_assigning (worker : Worker) (transform x : Option X) (restartable : Bool)
    (documentation : Documentation.Index) :
    Machine.run { state := Session.make worker transform restartable documentation } (assigning (U := U) x) =
      some { state := Session.make worker x restartable documentation, events := [.link 0 (.assigned x)] } := rfl

lemma attach_eq {s : Session U X} {documentation : Documentation.Index} (hr : s.restartable = true)
    (hd : s.documentation = documentation) (next : Worker) :
    s.attach next = (Session.make next s.transform true documentation).onto s := by
  simp [attach, onto, make, Link.onto, Coordinator.map, ← hr, ← hd]

lemma apart_make {s : Session U X} {next : Worker} (h : next.NewTo s) (transform : Option X) (restartable : Bool)
    (documentation : Documentation.Index) : Apart s (Session.make next transform restartable documentation) := by
  refine ⟨Nat.one_pos, fun n hn => linkOf?_eq_none.mpr fun g hg => ?_⟩
  have hnext : next = .remote n := by
    cases g <;> simp_all [workerOf, make, attach]
  simp [h n hnext] at hn

lemma Mirrors.isolated {past : Session U X} {r f : Machine U X} (h : Mirrors past r.events f.events r f)
    (hd : past.Deaf) (hap : Apart past f.state) {later : List (Move U X)}
    (hnew : ∀ w, .answer (.worker w) ∈ later → w.NewTo past) :
    (r.run later).isSome = (f.run later).isSome ∧
      ∀ n, r.run later = some n → ∃ n', f.run (sift past later) = some n' ∧ Isolated past r f n n' := by
  have hrun := mirrors_run hd hnew hap h
  generalize r.run later = q at hrun ⊢
  generalize hp : f.run later = p at hrun ⊢
  cases hrun with
  | none => exact ⟨rfl, fun n hn => by cases hn⟩
  | some hmirrors =>
    refine ⟨rfl, fun n hn => ?_⟩
    obtain rfl := Option.some.inj hn
    obtain ⟨n', hn', halike⟩ := alike_run hnew hap (.refl f) hp
    exact ⟨n', hn', .of hmirrors halike (apart_run hnew hp hap)⟩

/-- Whatever a session has gone through, if no restart was begun within another, then after a restart that was asked for
outside hooks (nothing else stands on the stack when the new worker comes) it is a new session over that worker. -/
theorem restart_isolates {worker next : Worker} {transform : Option X} {documentation : Documentation.Index}
    {before : List (Move U X)} {m : Machine U X} {notify : Bool} {status : Kernel.ExitStatus}
    (hm : Machine.run { state := Session.make worker transform true documentation } before = some m)
    (hone : Follows Machine.step Successive { state := Session.make worker transform true documentation } before)
    (hstack : m.stack = [.awaitWorker notify status]) (hfault : m.fault = none) (hnext : next.NewTo m.state) :
    ∃ r f, m.step (.answer (.worker next)) = some r ∧
      Machine.run { state := Session.make next transform true documentation } (assigning m.state.transform) = some f ∧
      r.idle = true ∧ f.idle = true ∧ r.state.coordinator = { transform := m.state.transform } ∧
      ∀ later, (∀ w, .answer (.worker w) ∈ later → w.NewTo m.state) →
        (r.run later).isSome = (f.run later).isSome ∧
          ∀ n, r.run later = some n → ∃ n', f.run (sift m.state later) = some n' ∧ Isolated m.state r f n n' := by
  have hsealed : Sealed (Session.make worker transform true documentation) m := by
    rw [Machine.run_eq] at hm
    exact run_invariant sealed_step hone hm (sealed_start ..)
  have hdeaf := hsealed.deaf hstack
  have hattach := attach_eq hsealed.restartable hsealed.documentation next
  have hapart : Apart m.state (Session.make next m.state.transform true documentation) := apart_make hnext ..
  obtain ⟨s, stack, fault, es⟩ := m
  obtain rfl : stack = [.awaitWorker notify status] := hstack
  obtain rfl : fault = none := hfault
  have hmirrors : Mirrors s ((.log .restarted :: endedEvents notify status).reverse ++ es)
      [.link 0 (.assigned s.transform)]
      ⟨s.attach next, [], none, (.log .restarted :: endedEvents notify status).reverse ++ es⟩
      ⟨Session.make next s.transform true documentation, [], none, [.link 0 (.assigned s.transform)]⟩ :=
    ⟨hattach, rfl, rfl, [], rfl, rfl⟩
  have hfresh : (s.attach next).coordinator = { transform := s.transform } := by
    simp [coordinator, link?, current, attach]
  exact ⟨_, _, rfl, run_assigning .., rfl, rfl, hfresh, fun later hnew => hmirrors.isolated hdeaf hapart hnew⟩

/-- The second request of an inspection has been sent, another task waits in the queue, the transform has been set, and
a restart waits for its worker. -/
def restarting : List (Move Nat Nat) :=
  halfInspected ++ List.flatten [[.start (.assign (some 7)), .tick, .tick, .start (.restart "SIGTERM" true)],
    List.replicate 4 .tick, [.answer (.exited ⟨none, some "SIGTERM"⟩), .tick]]

/-- A call that is served by the new worker; the worker that was ended answers at last, also while a hook runs. -/
def afterRestart : List (Move Nat Nat) :=
  let inspected : Value := .object [("id", .int 2), ("end", .bool true), ("inspection", .object [])]
  let reply : Value := .object [("id", .int 1), ("end", .bool true), ("mime", .object [])]
  let late : List (Move Nat Nat) := [.start (.deliver 0 inspected), .tick]
  List.flatten [late, [.start (.execute "x" (some { beforeRun := some 2, afterRun := some 3 }))],
    List.replicate 6 .tick, late, [.answer .done, .tick, .answer (.code (.string "y")), .tick, .answer .done, .tick],
    [.start (.deliver 1 reply)], List.replicate 5 .tick, late, [.answer .done], List.replicate 3 .tick]

theorem restarting_isolated :
    ∃ m r f n n', Machine.run { state := Session.make (.remote 0) none true ⟨[], []⟩ } restarting = some m ∧
      m.step (.answer (.worker (.remote 1))) = some r ∧
      Machine.run { state := Session.make (.remote 1) none true ⟨[], []⟩ } (assigning m.state.transform) = some f ∧
      r.run afterRestart = some n ∧ f.run (sift m.state afterRestart) = some n' ∧ Isolated m.state r f n n' ∧
      m.state.coordinator.contexts = [(2, 1)] ∧ n.state.coordinator.lastContext = 1 ∧
      .link 1 (.sent ⟨.run, "y", 1⟩) ∈ n.events := by
  have hrun : (Machine.run { state := Session.make (.remote 0) none true ⟨[], []⟩ } restarting).isSome = true := by
    decide +kernel
  have hone : Follows Machine.step Successive { state := Session.make (.remote 0) none true ⟨[], []⟩ } restarting := by
    decide +kernel
  have hlater : (((Machine.run { state := Session.make (.remote 0) none true ⟨[], []⟩ } restarting).bind fun m =>
      m.step (.answer (.worker (.remote 1)))).bind fun r => r.run afterRestart).any fun n =>
        n.state.coordinator.lastContext = 1 ∧ .link 1 (.sent ⟨.run, "y", 1⟩) ∈ n.events := by decide +kernel
  have hnew : ∀ w, .answer (.worker w) ∈ afterRestart → w.NewTo
      ((Machine.run { state := Session.make (.remote 0) none true ⟨[], []⟩ } restarting).get hrun).state := by
    intro w hw
    simp [afterRestart] at hw
  have hnext : (Worker.remote 1).NewTo
      ((Machine.run { state := Session.make (.remote 0) none true ⟨[], []⟩ } restarting).get hrun).state := by
    rintro n ⟨⟩
    rfl
  have hm := (Option.some_get hrun).symm
  obtain ⟨r, f, hr, hf, -, -, -, hisolated⟩ := restart_isolates hm hone rfl rfl hnext
  rw [hm, Option.bind_some, hr, Option.bind_some, Option.any_eq_true] at hlater
  obtain ⟨n, hn, hlast⟩ := hlater
  obtain ⟨n', hn', hiso⟩ := (hisolated afterRestart hnew).2 n hn
  obtain ⟨hid, hsent⟩ := of_decide_eq_true hlast
  exact ⟨_, r, f, n, n', hm, hr, hf, hn, hn', hiso, rfl, hid, hsent⟩

lemma Isolated.link_le {past : Session U X} {r f n n' : Machine U X} (h : Isolated past r f n n') {g : Nat}
    {e : Coordinator.Event (Hook U) X} {more : List (Event U X)} (hn : n.events = .link g e :: more ++ r.events) :
    past.links.length ≤ g := by
  obtain ⟨more', -, hn', -, -, hlinks⟩ := h.events
  obtain rfl := List.append_cancel_right (hn.symm.trans hn')
  exact hlinks g e (List.mem_cons_self ..)

/-- Two restarts wait for the end of the same worker. When the second has got its worker, that one takes a call in; then the
first gets its worker too, and a third restart, outside all others, waits for the next. -/
def overlapping : List (Move Nat Nat) :=
  let restart : List (Move Nat Nat) := .start (.restart "SIGTERM" true) :: List.replicate 4 .tick
  let gone : List (Move Nat Nat) := [.answer (.exited ⟨none, some "SIGTERM"⟩), .tick]
  List.flatten [restart, restart, gone, [.answer (.worker (.remote 1))], gone,
    .start (.execute "x" (some { success := some 5 })) :: List.replicate 8 .tick, [.answer .done, .tick],
    [.answer (.worker (.remote 2))], restart, gone]

/-- The worker of the second restart answers the call. -/
def answeredLate : List (Move Nat Nat) :=
  [.start (.deliver 1 (.object [("id", .int 1), ("end", .bool true), ("mime", .object [])])), .tick, .tick, .tick]

/-- The transform asks for a restart, which waits for its worker. -/
def restartedTransforming : List (Move Nat Nat) :=
  List.flatten [[.start (.execute "x" none)], List.replicate 7 .tick, [.start (.restart "SIGTERM" true)],
    List.replicate 4 .tick, [.answer (.exited ⟨none, some "SIGTERM"⟩), .tick]]

/-- Where restarts overlapped, a later restart does not keep a message of an earlier worker from an earlier hook; after a
restart that the transform asks for, the task is sent whose code was being transformed. -/
theorem restarts_interfere :
    (∃ m r n, Machine.run { state := Session.make (.remote 0) none true ⟨[], []⟩ } overlapping = some m ∧
      m.stack = [.awaitWorker true ⟨none, some "SIGTERM"⟩] ∧ m.step (.answer (.worker (.remote 3))) = some r ∧
      r.run answeredLate = some n ∧ r.idle = true ∧
      n.events.head? = some (.link 1 (.called (.user .success 5) (.payload [("mime", .object [])]))) ∧
      ∀ f n', ¬ Isolated m.state r f n n') ∧
    ∃ m r n, Machine.run { state := Session.make (.remote 0) (some 7) true ⟨[], []⟩ } restartedTransforming = some m ∧
      m.stack = [.awaitWorker true ⟨none, some "SIGTERM"⟩, .link 0 (.awaitTransform 0 1 7 (.string "x")),
        .link 0 .drainLoop] ∧
      m.step (.answer (.worker (.remote 1))) = some r ∧ r.run [.answer (.code (.string "x")), .tick] = some n ∧
      n.events.head? = some (.link 0 (.sent ⟨.run, "x", 1⟩)) ∧ ∀ f n', ¬ Isolated m.state r f n n' := by
  constructor
  · have hrun : ((Machine.run { state := Session.make (.remote 0) none true ⟨[], []⟩ } overlapping).any fun m =>
        (m.step (.answer (.worker (.remote 3)))).any fun r => (r.run answeredLate).any fun n =>
          m.stack = [.awaitWorker true ⟨none, some "SIGTERM"⟩] ∧ r.idle = true ∧ m.state.links.length = 3 ∧
          n.events = .link 1 (.called (.user .success 5) (.payload [("mime", .object [])])) ::
            (n.events.drop 1).take 2 ++ r.events) = true := by decide +kernel
    simp only [Option.any_eq_true, decide_eq_true_eq] at hrun
    obtain ⟨m, hm, r, hr, n, hn, hstack, hidle, hlinks, hevents⟩ := hrun
    refine ⟨m, r, n, hm, hstack, hr, hn, hidle, by rw [hevents]; rfl, fun f n' hisolated => ?_⟩
    have hlink := hisolated.link_le hevents
    omega
  · have hrun : ((Machine.run { state := Session.make (.remote 0) (some 7) true ⟨[], []⟩ } restartedTransforming).any fun m =>
        (m.step (.answer (.worker (.remote 1)))).any fun r => (r.run [.answer (.code (.string "x")), .tick]).any fun n =>
          m.stack = [.awaitWorker true ⟨none, some "SIGTERM"⟩, .link 0 (.awaitTransform 0 1 7 (.string "x")),
            .link 0 .drainLoop] ∧ m.state.links.length = 1 ∧
          n.events = .link 0 (.sent ⟨.run, "x", 1⟩) :: (n.events.drop 1).take 3 ++ r.events) = true := by decide +kernel
    simp only [Option.any_eq_true, decide_eq_true_eq] at hrun
    obtain ⟨m, hm, r, hr, n, hn, hstack, hlinks, hevents⟩ := hrun
    refine ⟨m, r, n, hm, hstack, hr, hn, by rw [hevents]; rfl, fun f n' hisolated => ?_⟩
    have hlink := hisolated.link_le hevents
    omega

end Session

end EvalSession
