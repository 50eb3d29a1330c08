import EvalSession.Proofs.Coordinator.Raising
import EvalSession.Proofs.Session.View

/-!
# A transform that raises is an error result

Main statement: over an honest worker, a task whose transform raises is told of that as of any error, whatever hooks do in the
meantime; nothing is sent for it, and the fault goes no further.
-/
namespace EvalSession.Session

open Coordinator (Dismissed Rejected due given told)

variable {U X : Type}

/-- A fault reaches the top frame, from above or as the answer of outside code. -/
def Raises (m : Machine U X) (move : Move U X) (e : Fault) : Prop :=
  m.fault = none ∧ move = .answer (.raised e) ∨ m.fault = some e ∧ move = .tick

lemma view_waiting {s : Session U X} {g : Nat} {f : Coordinator.Frame (Hook U) X} {r : List (Frame U X)} {fault : Option Fault}
    {es : List (Event U X)} (hw : f.waits = true) :
    Machine.view ⟨s, .link g f :: r, fault, es⟩ g = ⟨coordinatorOf s g, f :: framesOf g r, none, eventsOf g es⟩ := by
  simp [Machine.view, Machine.faultOf, Frame.busy, hw]

lemma Linked.raised {s : Session U X} {g t id : Nat} {x : X} {code : Value} {r : List (Frame U X)} {fault : Option Fault}
    {es : List (Event U X)} {move : Move U X} {e : Fault} {turn : Turn U X}
    (h : Linked s g (.awaitTransform t id x code) fault move turn)
    (hraise : Raises ⟨s, .link g (.awaitTransform t id x code) :: r, fault, es⟩ move e) :
    Coordinator.Stage ⟨coordinatorOf s g, .awaitTransform t id x code :: framesOf g r, none, eventsOf g es⟩
      (.answer (.raised e)) ⟨coordinatorOf turn.state g, framesOf g turn.frames ++ framesOf g r, turn.fault,
        eventsOf g turn.events.reverse ++ eventsOf g es⟩ := by
  obtain ⟨own, hpass, hstep⟩ := h.move
  have hstep := hstep (framesOf g r) (eventsOf g es)
  obtain rfl : own = .answer (.raised e) := by
    rcases hraise with ⟨hf, rfl⟩ | ⟨hf, rfl⟩
    · cases hpass with
      | answer ha =>
        cases ha
        rfl
    · cases hpass with
      | tick =>
        simp [Coordinator.Machine.step, Coordinator.Machine.tick, Coordinator.Frame.waits, Coordinator.Frame.tick] at hstep
      | done =>
        simp [Coordinator.Machine.step, Coordinator.Machine.answer, Coordinator.Frame.waits, Coordinator.Frame.answer] at hstep
      | raised he =>
        cases hf.symm.trans he
        rfl
  exact Coordinator.step_stage hstep

/-- What honest runs keep in every link. -/
structure Tended (q : Coordinator.Machine (Hook U) X) : Prop where
  sound : Coordinator.Sound q
  addressed : Coordinator.Addressed q
  telling : Coordinator.Telling q

lemma tended_step {q q' : Coordinator.Machine (Hook U) X} {a : Coordinator.Move (Hook U) X} (ho : Coordinator.Honest q a)
    (h : Coordinator.Stage q a q') (hq : Tended q) : Tended q' where
  sound := Coordinator.sound_step h hq.sound
  addressed := Coordinator.addressed_step h hq.sound ho hq.addressed
  telling := Coordinator.telling_step h hq.sound hq.addressed hq.telling

lemma tended_fresh (x : Option X) : Tended (U := U) (.fresh x) :=
  ⟨Coordinator.sound_fresh x, Coordinator.addressed_fresh x, Coordinator.telling_fresh x⟩

/-- What they keep for a task whose transform raised, which left these events. -/
structure Declined (base : List (Coordinator.Event (Hook U) X)) (q : Coordinator.Machine (Hook U) X) (t : Nat)
    (task : Task (Hook U)) (e : Fault) : Prop extends Tended q where
  since : base <:+ q.events
  shaken : Coordinator.Shaken base q
  rejected : Rejected base q t task e

lemma declined_step {base : List (Coordinator.Event (Hook U) X)} {q q' : Coordinator.Machine (Hook U) X}
    {a : Coordinator.Move (Hook U) X} {t : Nat} {task : Task (Hook U)} {e : Fault} (ho : Coordinator.Honest q a)
    (h : Coordinator.Stage q a q') (hq : Declined base q t task e) : Declined base q' t task e where
  toTended := tended_step ho h hq.toTended
  since := hq.since.trans h.grows
  shaken := Coordinator.shaken_step h hq.sound hq.since hq.shaken
  rejected := Coordinator.rejected_step h hq.sound hq.addressed hq.shaken hq.rejected

/-- The move that raises leaves no fault behind, and the link with the made-up reply on its way. -/
lemma raise_view {m n : Machine U X} {move : Move U X} {g t id : Nat} {x : X} {code : Value} {e : Fault} (hh : Housed m)
    (hn : m.step move = some n) (htop : m.stack.head? = some (.link g (.awaitTransform t id x code)))
    (hraise : Raises m move e) (ho : e.ordinary = true) : n.fault = none ∧ ∃ r,
      m.view g = ⟨coordinatorOf m.state g, .awaitTransform t id x code :: r, none, eventsOf g m.events⟩ ∧
      n.view g = ⟨coordinatorOf m.state g, .loop (Coordinator.errorReply id e) :: r, none,
        Coordinator.logs [.transformFailed id e.form] ++ eventsOf g m.events⟩ := by
  obtain ⟨s, stack, fault, es⟩ := m
  obtain ⟨r, rfl⟩ := List.head?_eq_some_iff.mp htop
  cases step_stage hh hn with
  | plain hf => exact absurd rfl (hf _ _)
  | linked ht =>
    rename_i turn
    have hq := (ht.raised hraise).replied (.inr ⟨rfl, rfl⟩) ho
    have hnone : turn.fault = none := congrArg Coordinator.Machine.fault hq
    refine ⟨hnone, framesOf g r, view_waiting rfl, ?_⟩
    rw [← hq]
    simp [Machine.view, Machine.after, Machine.faultOf, hnone]
  | started => rcases hraise with ⟨-, h⟩ | ⟨-, h⟩ <;> cases h
  | recovered => rcases hraise with ⟨-, h⟩ | ⟨-, h⟩ <;> cases h

/-- In every run of a session over an honest worker, a transform that raises ends the run of its task and nothing else: the
task has been told that its run begins, it is told of the failure and that its run is over, nothing is sent for it, its context
is closed and the slot is left to others. Hooks may raise, start operations and end the session in the meantime; only where one
of them lets out a fault that is not contained, what comes after the failure may be left out. -/
theorem raise_dismissed {worker : Worker} {transform : Option X} {restartable : Bool} {documentation : Documentation.Index}
    {before after : List (Move U X)} {move : Move U X} {m n p : Machine U X} {g t id : Nat} {x : X} {code : Value} {e : Fault}
    (hf : Follows Machine.step Honest { state := Session.make worker transform restartable documentation }
      (before ++ move :: after))
    (hm : Machine.run { state := Session.make worker transform restartable documentation } before = some m)
    (htop : m.stack.head? = some (.link g (.awaitTransform t id x code))) (hraise : Raises m move e)
    (ho : e.ordinary = true) (hn : m.step move = some n) (hp : n.run after = some p) :
    n.fault = none ∧ ∃ task, (given (eventsOf g m.events))[t]? = some task ∧ task.action = .run ∧ task.code = code ∧
      told (eventsOf g m.events) t = due task.hooks .beforeRun .nothing ∧
      Dismissed (eventsOf g n.events) (p.view g) t task.hooks e := by
  have hsplit := hf.append (Machine.run_eq _ before ▸ hm)
  have hh := housed_run (housed_start ..) hm
  have hg : g < m.state.links.length := hh.frames g _ (List.mem_of_mem_head? htop)
  have hstage := step_stage hh hn
  have htended : Tended (m.view g) := link_invariant tended_fresh tended_step hsplit.1 hm g hg
  have htended' : Tended (n.view g) := (view_step hstage hh hg).invariant honest_restricts tended_step hsplit.2.1 htended
  obtain ⟨hnone, r, hview, hview'⟩ := raise_view hh hn htop hraise ho
  rw [hview] at htended
  obtain ⟨hs, ha, hl⟩ := htended
  obtain ⟨rfl, hlast, task, prior, block, htask, -, -, haction, hcode, -⟩ :=
    hs.ledger.running _ (List.mem_cons_self ..) t id rfl
  have hannounced : told (eventsOf g m.events) t = due task.hooks .beforeRun .nothing := by
    refine hl.announced ha hlast.le htask (ha.running _ (List.mem_cons_self ..) t _ rfl).2 fun moment argument hcall => ?_
    exact hs.shape.seated.call_not_mem t moment argument (by simpa using hcall)
  have hdeclined : Declined (eventsOf g n.events) (n.view g) t task e :=
    ⟨htended', List.suffix_refl _, by simp [Coordinator.Shaken, hview'], hview' ▸ ha.rejected hs htask⟩
  have hlater : Declined (eventsOf g n.events) (p.view g) t task e :=
    view_keeps honest_restricts declined_step (housed_step hstage hh) (hsplit.2.2 n hn) hp (hg.trans_le hstage.links_le)
      hdeclined
  exact ⟨hnone, task, htask, haction, hcode.symm, hannounced,
    hlater.rejected.dismissed hlater.sound hlater.addressed hlater.telling hlater.shaken⟩

def textless : Fault := .thrown ⟨"ValueError", "", "ValueError()", ["Traceback (most recent call last):", "ValueError"], true⟩

def transforming : List (Move Nat Nat) :=
  List.flatten [[.start (.execute "x" (some { beforeRun := some 0, error := some 1, afterRun := some 2 }))],
    List.replicate 6 .tick, [.answer .done, .tick]]

/-- The hook for the failure hands in a second task and raises; the transform fails for that one, too. -/
def failedTwice : List (Move Nat Nat) :=
  List.flatten [List.replicate 3 .tick, [.start (.execute "y" none), .tick, .tick, .answer (.raised textless), .tick, .tick,
    .answer .done], List.replicate 6 .tick, [.answer (.raised textless)], List.replicate 8 .tick]

theorem failedTwice_dismissed :
    ∃ m n p, ∃ task : Task (Hook Nat),
      Machine.run { state := Session.make (.remote 0) (some 7) true ⟨[], []⟩ } transforming = some m ∧
      m.stack.head? = some (.link 0 (.awaitTransform 0 1 7 (.string "x"))) ∧ Raises m (.answer (.raised textless)) textless ∧
      textless.ordinary = true ∧ m.step (.answer (.raised textless)) = some n ∧ n.run failedTwice = some p ∧ p.stack = [] ∧
      Dismissed (eventsOf 0 n.events) (p.view 0) 0 task.hooks textless ∧
      told (eventsOf 0 p.events) 0 = [(.beforeRun, .nothing),
        (.error, .payload [("error", .object [("ename", .string "ValueError"), ("evalue", .string "ValueError()"),
          ("traceback", .list [.string "Traceback (most recent call last):", .string "ValueError"])])]),
        (.afterRun, .nothing)] := by
  have hrun : ((Machine.run { state := Session.make (.remote 0) (some 7) true ⟨[], []⟩ } transforming).bind fun m =>
      (m.step (.answer (.raised textless))).bind fun n => n.run failedTwice).isSome = true := by decide +kernel
  have htop : ∀ m ∈ Machine.run { state := Session.make (.remote 0) (some 7) true ⟨[], []⟩ } transforming,
      m.stack.head? = some (.link 0 (.awaitTransform 0 1 7 (.string "x"))) ∧ m.fault = none := by decide +kernel
  have hend : ∀ m ∈ Machine.run { state := Session.make (.remote 0) (some 7) true ⟨[], []⟩ } transforming,
      ∀ n ∈ m.step (.answer (.raised textless)), ∀ p ∈ n.run failedTwice, p.stack = [] ∧
        told (eventsOf 0 p.events) 0 = [(.beforeRun, .nothing), (.error, Coordinator.failure textless),
          (.afterRun, .nothing)] := by decide +kernel
  obtain ⟨p, hp⟩ := Option.isSome_iff_exists.mp hrun
  obtain ⟨m, hm, hp⟩ := Option.bind_eq_some_iff.mp hp
  obtain ⟨n, hn, hp⟩ := Option.bind_eq_some_iff.mp hp
  obtain ⟨hm', hfault⟩ := htop m hm
  obtain ⟨hidle, htold⟩ := hend m hm n hn p hp
  have hraise : Raises m (.answer (.raised textless)) textless := .inl ⟨hfault, rfl⟩
  obtain ⟨-, task, -, -, -, -, hdismissed⟩ := raise_dismissed (by decide +kernel) hm hm' hraise rfl hn hp
  exact ⟨m, n, p, task, hm, hm', hraise, rfl, hn, hp, hidle, hdismissed, htold⟩

/-- The hook for the failure replaces the worker and hands in a second task; the transform of that one lets out a fault that is
not contained. -/
def interruptedHook : List (Move Nat Nat) :=
  List.flatten [List.replicate 3 .tick, [.start (.restart "SIGTERM" false)], List.replicate 4 .tick,
    [.answer (.exited ⟨none, some "SIGTERM"⟩), .tick, .answer (.worker (.remote 1)), .start (.execute "y" none)],
    List.replicate 7 .tick, [.answer (.raised (.thrown ⟨"KeyboardInterrupt", "", "KeyboardInterrupt()", [], false⟩))],
    List.replicate 5 .tick]

/-- Then the first task is not told that its run is over, its context stays open, and it keeps its slot. -/
theorem interruptedHook_unsettled :
    ∃ m n p, ∃ task : Task (Hook Nat),
      Follows Machine.step Honest { state := Session.make (.remote 0) (some 7) true ⟨[], []⟩ }
        (transforming ++ .answer (.raised textless) :: interruptedHook) ∧
      Machine.run { state := Session.make (.remote 0) (some 7) true ⟨[], []⟩ } transforming = some m ∧
      m.stack.head? = some (.link 0 (.awaitTransform 0 1 7 (.string "x"))) ∧ Raises m (.answer (.raised textless)) textless ∧
      textless.ordinary = true ∧ m.step (.answer (.raised textless)) = some n ∧ n.run interruptedHook = some p ∧
      p.stack = [] ∧ (given (eventsOf 0 m.events))[0]? = some task ∧
      told (eventsOf 0 p.events) 0 ≠ Coordinator.verdict task.hooks textless ∧
      (1, 0) ∈ (coordinatorOf p.state 0).contexts ∧ (coordinatorOf p.state 0).inFlight = some 0 := by
  have hrun : ((Machine.run { state := Session.make (.remote 0) (some 7) true ⟨[], []⟩ } transforming).bind fun m =>
      (m.step (.answer (.raised textless))).bind fun n => n.run interruptedHook).isSome = true := by decide +kernel
  have htop : ∀ m ∈ Machine.run { state := Session.make (.remote 0) (some 7) true ⟨[], []⟩ } transforming,
      m.stack.head? = some (.link 0 (.awaitTransform 0 1 7 (.string "x"))) ∧ m.fault = none ∧
        (given (eventsOf 0 m.events))[0]? =
          some (runTask "x" (some { beforeRun := some 0, error := some 1, afterRun := some 2 })) := by decide +kernel
  have hend : ∀ m ∈ Machine.run { state := Session.make (.remote 0) (some 7) true ⟨[], []⟩ } transforming,
      ∀ n ∈ m.step (.answer (.raised textless)), ∀ p ∈ n.run interruptedHook, p.stack = [] ∧
        (told (eventsOf 0 p.events) 0).map Prod.fst = [.beforeRun, .error] := by decide +kernel
  have hleft : ∀ m ∈ Machine.run { state := Session.make (.remote 0) (some 7) true ⟨[], []⟩ } transforming,
      ∀ n ∈ m.step (.answer (.raised textless)), ∀ p ∈ n.run interruptedHook,
        (1, 0) ∈ (coordinatorOf p.state 0).contexts ∧ (coordinatorOf p.state 0).inFlight = some 0 := by decide +kernel
  obtain ⟨p, hp⟩ := Option.isSome_iff_exists.mp hrun
  obtain ⟨m, hm, hp⟩ := Option.bind_eq_some_iff.mp hp
  obtain ⟨n, hn, hp⟩ := Option.bind_eq_some_iff.mp hp
  obtain ⟨hm', hfault, htask⟩ := htop m hm
  obtain ⟨hidle, htold⟩ := hend m hm n hn p hp
  refine ⟨m, n, p, _, by decide +kernel, hm, hm', .inl ⟨hfault, rfl⟩, rfl, hn, hp, hidle, htask, fun hall => ?_,
    hleft m hm n hn p hp⟩
  rw [hall] at htold
  cases htold

end EvalSession.Session
