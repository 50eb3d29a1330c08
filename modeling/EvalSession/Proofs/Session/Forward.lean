import EvalSession.Proofs.Session.Containment
import EvalSession.Proofs.Session.Silence

/-!
# How a session goes forward

What a session does next is a matter of its state, not of what has happened. `Path` tells from where to where some moves
lead and what happens on the way, and `Stretch` what outside code gets to see of that; both are put together, from the
stages of single frames up to a task that is taken in, announced and sent.
-/
namespace EvalSession

/-- The coordinator has no task and takes one in at once. -/
structure Coordinator.Vacant {H X : Type} (c : Coordinator H X) : Prop where
  killed : c.killed = false
  draining : c.draining = false
  pending : c.pending = []
  inFlight : c.inFlight = none

/-- The coordinator after a task has been taken in and a context has been opened for it. -/
def Coordinator.engage {H X : Type} (c : Coordinator H X) (task : Task H) : Coordinator H X :=
  { c with tasks := c.tasks ++ [task] }.openContext c.tasks.length

def Coordinator.Frame.calling {H X : Type} : Frame H X → Bool
  | .call .. => true
  | _ => false

namespace Session

variable {U X : Type}

/-- What outside code gets to see of a session: the calls of its hooks, and the requests that workers get. -/
inductive Deed (U : Type) where
  | called (moment : Moment) (hook : U) (argument : Argument)
  | asked (link : Nat) (request : Request)
  deriving DecidableEq

def Event.deed? : Event U X → Option (Deed U)
  | .link _ (.called (.user moment u) argument) => some (.called moment u argument)
  | .link g (.sent r) => some (.asked g r)
  | .called moment u argument => some (.called moment u argument)
  | _ => none

def deeds (es : List (Event U X)) : List (Deed U) := es.reverse.filterMap Event.deed?

/-- Outside code acts only where it has control. -/
def Attentive (m : Machine U X) (move : Move U X) : Prop := move = .tick ∨ m.open? = true

/-- With this work left, the moves lead to where that work is left, without a fault that nobody contains, and these are the
deeds. -/
def Stretch (s : Session U X) (stack : List (Frame U X)) (moves : List (Move U X)) (s' : Session U X)
    (stack' : List (Frame U X)) (ds : List (Deed U)) : Prop :=
  ∀ es, ∃ es', Machine.run ⟨s, stack, none, es⟩ moves = some ⟨s', stack', none, es'⟩ ∧
    Follows Machine.step Attentive ⟨s, stack, none, es⟩ moves ∧ deeds es' = deeds es ++ ds

/-- The same, with all that happens on the way. -/
def Path (s : Session U X) (stack : List (Frame U X)) (moves : List (Move U X)) (s' : Session U X)
    (stack' : List (Frame U X)) (new : List (Event U X)) : Prop :=
  ∀ es, Machine.run ⟨s, stack, none, es⟩ moves = some ⟨s', stack', none, new.reverse ++ es⟩ ∧
    Follows Machine.step Attentive ⟨s, stack, none, es⟩ moves

/-- What outside code does among the moves; all else are stages of the session. -/
def doings (moves : List (Move U X)) : List (Move U X) :=
  moves.filter fun
    | .tick => false
    | _ => true

/-- The way that a session goes when outside code does just this: any other one stops on it, or goes on from its end. -/
structure Way (m : Machine U X) (done moves : List (Move U X)) (n : Machine U X) : Prop where
  doings : doings moves = done
  run : m.run moves = some n
  only : ∀ other n', Session.doings other = done → Follows Machine.step Attentive m other → m.run other = some n' →
    other <+: moves ∨ moves <+: other

def answering (hook : Option U) (a : Answer) : List (Move U X) := if hook.isSome then [.answer a] else []

/-- The moves by which a hook is called, if there is one, and comes to its end. -/
def telling (hook : Option U) (a : Answer) : List (Move U X) := .tick :: answering hook a

def Deed.calls (hook : Option U) (moment : Moment) (argument : Argument) : List (Deed U) :=
  hook.toList.map (.called moment · argument)

lemma deeds_append (es : List (Event U X)) (new : List (Event U X)) :
    deeds (new.reverse ++ es) = deeds es ++ new.filterMap Event.deed? := by
  simp [deeds]

@[simp] lemma doings_append (before after : List (Move U X)) : doings (before ++ after) = doings before ++ doings after :=
  List.filter_append ..

@[simp] lemma doings_tick (moves : List (Move U X)) : doings (.tick :: moves) = doings moves := rfl

@[simp] lemma doings_answer (a : Answer) (moves : List (Move U X)) :
    doings (.answer a :: moves) = .answer a :: doings moves := rfl

@[simp] lemma doings_nil : doings ([] : List (Move U X)) = [] := rfl

@[simp] lemma doings_telling (hook : Option U) (a : Answer) :
    doings (telling hook a : List (Move U X)) = answering hook a := by
  cases hook <;> rfl

lemma run_append (m : Machine U X) (before after : List (Move U X)) :
    m.run (before ++ after) = (m.run before).bind fun n => n.run after := by
  simp only [Machine.run_eq, List.foldlM_append]
  rfl

lemma run_split {m n p : Machine U X} {before after : List (Move U X)} (h : m.run (before ++ after) = some p)
    (hn : m.run before = some n) : n.run after = some p := by
  rwa [run_append, hn] at h

section Links

variable {s : Session U X} {g : Nat} {l : Link U X}

lemma setCoordinator_link (h : s.links[g]? = some l) (c : Coordinator (Hook U) X) :
    (s.setCoordinator g c).links[g]? = some { l with coordinator := c } := by
  simp [setCoordinator, h]

lemma setCoordinator_twice (s : Session U X) (g : Nat) (c c' : Coordinator (Hook U) X) :
    (s.setCoordinator g c).setCoordinator g c' = s.setCoordinator g c' := by
  simp only [setCoordinator, List.modify_modify_eq]
  rfl

end Links

lemma tick_of_open {m : Machine U X} (h : m.open? = true) : m.tick = none := by
  obtain ⟨s, stack, fault, es⟩ := m
  cases stack with
  | nil => rfl
  | cons f r =>
    obtain ⟨hf, rfl⟩ : f.tick s = none ∧ fault = none := by simpa [Machine.open?] using h
    simp [Machine.tick, hf]

lemma doings_of_ne {move : Move U X} (h : move ≠ .tick) (moves : List (Move U X)) :
    doings (move :: moves) = move :: doings moves := by
  cases move with
  | tick => exact absurd rfl h
  | start | answer | recover => rfl

/-- Of two runs in which outside code does the same, one goes on from the other. -/
theorem doings_determine {moves other : List (Move U X)} {m n n' : Machine U X} (hd : doings other = doings moves)
    (hf : Follows Machine.step Attentive m moves) (hr : m.run moves = some n)
    (hf' : Follows Machine.step Attentive m other) (hr' : m.run other = some n') :
    other <+: moves ∨ moves <+: other := by
  induction moves generalizing m other with
  | nil => exact .inr (List.nil_prefix ..)
  | cons move moves ih =>
    cases other with
    | nil => exact .inl (List.nil_prefix ..)
    | cons move' other =>
      obtain ⟨p, hp, hrest⟩ := Option.bind_eq_some_iff.mp hr
      obtain ⟨p', hp', hrest'⟩ := Option.bind_eq_some_iff.mp hr'
      -- a stage of the session is none of outside code's moves, and comes only where outside code has none
      have hsame : move' = move ∧ doings other = doings moves := by
        rcases eq_or_ne move .tick with rfl | hmove <;> rcases eq_or_ne move' .tick with rfl | hmove'
        · exact ⟨rfl, hd⟩
        · cases hp.symm.trans (tick_of_open (hf'.1.resolve_left hmove'))
        · cases hp'.symm.trans (tick_of_open (hf.1.resolve_left hmove))
        · rw [doings_of_ne hmove, doings_of_ne hmove'] at hd
          exact List.cons.inj hd
      obtain ⟨rfl, htail⟩ := hsame
      obtain rfl : p = p' := Option.some.inj (hp.symm.trans hp')
      have hmore := ih htail (hf.2 p hp) hrest (hf'.2 p hp) hrest'
      exact hmore.imp (fun h => List.cons_prefix_cons.mpr ⟨rfl, h⟩) fun h => List.cons_prefix_cons.mpr ⟨rfl, h⟩

lemma Way.reaches {m n n' : Machine U X} {done moves other : List (Move U X)} (h : Way m done moves n)
    (hd : Session.doings other = done) (hf : Follows Machine.step Attentive m other) (hr : m.run other = some n')
    (ho : n'.open? = true) : ∃ rest, n.run rest = some n' := by
  rcases h.only other n' hd hf hr with ⟨rest, hrest⟩ | ⟨rest, hrest⟩
  · have hrun := h.run
    rw [← hrest, run_append, hr, Option.bind_some] at hrun
    have hquiet : Session.doings rest = [] := by
      have hdone := h.doings
      rw [← hrest, doings_append, hd] at hdone
      simpa using hdone
    cases rest with
    | nil => exact ⟨[], hrun.symm⟩
    | cons move rest =>
      obtain rfl : move = .tick := by
        by_contra hmove
        exact List.cons_ne_nil _ _ ((doings_of_ne hmove rest).symm.trans hquiet)
      obtain ⟨p, hp, -⟩ := Option.bind_eq_some_iff.mp hrun
      cases (tick_of_open ho).symm.trans hp
  · exact ⟨rest, by rwa [← hrest, run_append, h.run] at hr⟩

section Stretches

variable {s s' s'' : Session U X} {stack stack' stack'' r : List (Frame U X)} {moves moves' : List (Move U X)}
  {new new' : List (Event U X)} {ds ds' : List (Deed U)} {f : Frame U X} {t : Turn U X}

lemma Stretch.refl (s : Session U X) (stack : List (Frame U X)) : Stretch s stack [] s stack [] := fun es =>
  ⟨es, rfl, trivial, (List.append_nil _).symm⟩

lemma Stretch.trans (h : Stretch s stack moves s' stack' ds) (h' : Stretch s' stack' moves' s'' stack'' ds') :
    Stretch s stack (moves ++ moves') s'' stack'' (ds ++ ds') := by
  intro es
  obtain ⟨es', hrun, hfollows, hdeeds⟩ := h es
  obtain ⟨es'', hrun', hfollows', hdeeds'⟩ := h' es'
  refine ⟨es'', ?_, hfollows.concat (Machine.run_eq .. ▸ hrun) hfollows', by rw [hdeeds', hdeeds, List.append_assoc]⟩
  rw [run_append, hrun]
  exact hrun'

lemma Path.trans (h : Path s stack moves s' stack' new) (h' : Path s' stack' moves' s'' stack'' new') :
    Path s stack (moves ++ moves') s'' stack'' (new ++ new') := by
  intro es
  obtain ⟨hrun, hfollows⟩ := h es
  obtain ⟨hrun', hfollows'⟩ := h' (new.reverse ++ es)
  refine ⟨?_, hfollows.concat (Machine.run_eq .. ▸ hrun) hfollows'⟩
  rw [run_append, hrun, Option.bind_some, hrun', List.reverse_append, List.append_assoc]

lemma Path.stretch (h : Path s stack moves s' stack' new) :
    Stretch s stack moves s' stack' (new.filterMap Event.deed?) := fun es => by
  obtain ⟨hrun, hfollows⟩ := h es
  exact ⟨_, hrun, hfollows, deeds_append ..⟩

lemma Path.of_turn {move : Move U X}
    (h : ∀ es, Machine.step ⟨s, f :: r, none, es⟩ move = some (Machine.after ⟨s, f :: r, none, es⟩ r t))
    (ha : ∀ es, Attentive ⟨s, f :: r, none, es⟩ move) (hf : t.fault = none) :
    Path s (f :: r) [move] t.state (t.frames ++ r) t.events := by
  intro es
  refine ⟨?_, ha es, fun _ _ => trivial⟩
  simp only [Machine.run, h es, Option.bind_some, Machine.after, hf]

lemma Path.of_tick (h : f.tick s = some t) (hf : t.fault = none) :
    Path s (f :: r) [.tick] t.state (t.frames ++ r) t.events :=
  .of_turn (fun es => congrArg (Option.map (Machine.after ⟨s, f :: r, none, es⟩ r)) h) (fun _ => .inl rfl) hf

lemma attentive_of_waits (h : f.tick s = none) (move : Move U X) (es : List (Event U X)) :
    Attentive ⟨s, f :: r, none, es⟩ move := .inr (by simp [Machine.open?, h])

lemma Path.of_answer {a : Answer} (hw : f.tick s = none) (h : f.answer s a = some t) (hf : t.fault = none) :
    Path s (f :: r) [.answer a] t.state (t.frames ++ r) t.events :=
  .of_turn (fun es => congrArg (Option.map (Machine.after ⟨s, f :: r, none, es⟩ r)) h) (attentive_of_waits hw _) hf

lemma Stretch.of_tick (h : f.tick s = some t) (hf : t.fault = none) :
    Stretch s (f :: r) [.tick] t.state (t.frames ++ r) (t.events.filterMap Event.deed?) :=
  (Path.of_tick h hf).stretch

lemma Stretch.of_answer {a : Answer} (hw : f.tick s = none) (h : f.answer s a = some t) (hf : t.fault = none) :
    Stretch s (f :: r) [.answer a] t.state (t.frames ++ r) (t.events.filterMap Event.deed?) :=
  (Path.of_answer hw h hf).stretch

lemma Stretch.way {m : Machine U X} (operation : Operation U X) (done : List (Move U X))
    (h : Stretch m.state (operation.frame :: m.stack) moves s' stack' ds) (ho : m.open? = true) (hd : doings moves = done) :
    ∃ es, Way m (.start operation :: done) (.start operation :: moves) ⟨s', stack', none, es⟩ ∧
      deeds es = deeds m.events ++ ds := by
  obtain ⟨es, hrun, hfollows, hdeeds⟩ := h m.events
  have hstart : m.step (.start operation) = some (m.push operation) := by simp [Machine.step, ho]
  have hrun' : m.run (.start operation :: moves) = some ⟨s', stack', none, es⟩ := by
    simp only [Machine.run, hstart, Option.bind_some]
    exact hrun
  have hfollows' : Follows Machine.step Attentive m (.start operation :: moves) := by
    refine ⟨.inr ho, fun n hn => ?_⟩
    obtain rfl : m.push operation = n := Option.some.inj (hstart.symm.trans hn)
    exact hfollows
  have hdone : doings (.start operation :: moves) = .start operation :: done := congrArg _ hd
  refine ⟨es, ⟨hdone, hrun', fun other n' hd' hf hr => ?_⟩, hdeeds⟩
  exact doings_determine (hd'.trans hdone.symm) hfollows' hrun' hf hr

end Stretches

section Stages

variable {s : Session U X} {g : Nat} {l : Link U X} {c c' : Coordinator (Hook U) X}
  {f : Coordinator.Frame (Hook U) X} {fs : List (Coordinator.Frame (Hook U) X)}
  {es : List (Coordinator.Event (Hook U) X)} {r stack : List (Frame U X)} {ds : List (Deed U)} {hook : Option U}
  {moment : Moment} {argument : Argument} {task : Nat} {a : Answer}

lemma Path.stage (hl : s.links[g]? = some l) (ht : f.tick c = some ⟨c', fs, es, none⟩) (hf : f.calling = false) :
    Path (s.setCoordinator g c) (.link g f :: r) [.tick] (s.setCoordinator g c') (fs.map (.link g) ++ r)
      (es.map (.link g)) := by
  have htick : (Frame.link g f).tick (s.setCoordinator g c) =
      some (linkTurn (s.setCoordinator g c) g ⟨c', fs, es, none⟩) := by
    simp only [Frame.tick, setCoordinator_link hl]
    cases f with
    | call => cases hf
    | awaitTransform | awaitSend | awaitHook => cases ht
    | _ => exact congrArg (Option.map _) ht
  have h := Path.of_tick (r := r) htick rfl
  simp only [linkTurn, setCoordinator_twice] at h
  exact h

lemma Stretch.stage (hl : s.links[g]? = some l) (ht : f.tick c = some ⟨c', fs, es, none⟩)
    (hf : f.calling = false) (hstack : fs.map (.link g) ++ r = stack)
    (hds : (es.map (Event.link (U := U) (X := X) g)).filterMap Event.deed? = ds) :
    Stretch (s.setCoordinator g c) (.link g f :: r) [.tick] (s.setCoordinator g c') stack ds := by
  rw [← hstack, ← hds]
  exact (Path.stage hl ht hf).stretch

lemma Path.reply {b : Coordinator.Answer} (hl : s.links[g]? = some l)
    (hw : (Frame.link g f).tick (s.setCoordinator g c) = none) (ha : a.coordinator? = some b)
    (ht : f.answer c b = some ⟨c', fs, es, none⟩) :
    Path (s.setCoordinator g c) (.link g f :: r) [.answer a] (s.setCoordinator g c') (fs.map (.link g) ++ r)
      (es.map (.link g)) := by
  have hanswer : (Frame.link g f).answer (s.setCoordinator g c) a =
      some (linkTurn (s.setCoordinator g c) g ⟨c', fs, es, none⟩) := by
    simp only [Frame.answer, Frame.answerLink, setCoordinator_link hl, ha]
    exact congrArg (Option.map _) ht
  have h := Path.of_answer (r := r) hw hanswer rfl
  simp only [linkTurn, setCoordinator_twice] at h
  exact h

lemma Stretch.reply {b : Coordinator.Answer} (hl : s.links[g]? = some l)
    (hw : (Frame.link g f).tick (s.setCoordinator g c) = none) (ha : a.coordinator? = some b)
    (ht : f.answer c b = some ⟨c', fs, es, none⟩) (hstack : fs.map (.link g) ++ r = stack)
    (hds : (es.map (Event.link (U := U) (X := X) g)).filterMap Event.deed? = ds) :
    Stretch (s.setCoordinator g c) (.link g f :: r) [.answer a] (s.setCoordinator g c') stack ds := by
  rw [← hstack, ← hds]
  exact (Path.reply hl hw ha ht).stretch

/-- A hook of a caller is called for a task, and returns or raises what is contained; only the coordinator has a part in
that. -/
lemma Path.tell (hl : s.links[g]? = some l) (hh : c.hookOf task moment = hook.map (.user moment))
    (ha : (Move.answer a : Move U X).mild = true) :
    ∃ es : List (Coordinator.Event (Hook U) X),
      Path (s.setCoordinator g c) (.link g (.call task moment argument) :: r) (telling hook a) (s.setCoordinator g c) r
        (es.map (.link g)) ∧
      (es.map (Event.link (U := U) (X := X) g)).filterMap Event.deed? = Deed.calls hook moment argument := by
  have hlink := setCoordinator_link hl c
  cases hook with
  | none =>
    have htick : (Frame.link g (.call task moment argument)).tick (s.setCoordinator g c) =
        some ⟨s.setCoordinator g c, [], [], none⟩ := by
      simp [Frame.tick, hlink, tickLink, hh, Coordinator.callTurn, linkTurn, setCoordinator_twice]
    exact ⟨[], .of_tick htick rfl, rfl⟩
  | some u =>
    have htick : (Frame.link g (.call task moment argument)).tick (s.setCoordinator g c) =
        some ⟨s.setCoordinator g c, [.link g (.awaitHook (.user moment u) argument)],
          [.link g (.told task moment argument), .link g (.called (.user moment u) argument)], none⟩ := by
      simp [Frame.tick, hlink, tickLink, hh, Coordinator.callTurn, linkTurn, setCoordinator_twice, bodyOf]
    have hcall := Path.of_tick (r := r) htick rfl
    have hwaits : (Frame.link g (.awaitHook (.user moment u) argument)).tick (s.setCoordinator g c) = none := by
      simp [Frame.tick, hlink, tickLink]
    obtain ⟨es, hend, hquiet⟩ : ∃ es : List (Coordinator.Event (Hook U) X),
        Path (s.setCoordinator g c) (.link g (.awaitHook (.user moment u) argument) :: r) [.answer a]
          (s.setCoordinator g c) r (es.map (.link g)) ∧
        (es.map (Event.link (U := U) (X := X) g)).filterMap Event.deed? = [] := by
      cases a with
      | done =>
        have hdone : (Coordinator.Frame.awaitHook (.user moment u) argument).answer c .done = some ⟨c, [], [], none⟩ := rfl
        exact ⟨[], .reply hl hwaits rfl hdone, rfl⟩
      | raised e =>
        have hraised : (Coordinator.Frame.awaitHook (.user moment u) argument).answer c (.raised e) =
            some ⟨c, [], [.raised (.user moment u)], none⟩ := congrArg some (if_pos ha)
        exact ⟨[.raised (.user moment u)], .reply hl hwaits rfl hraised, rfl⟩
      | _ => cases ha
    refine ⟨.told task moment argument :: .called (.user moment u) argument :: es, hcall.trans hend, ?_⟩
    exact congrArg (Deed.called moment u argument :: ·) hquiet

lemma Stretch.tell (hl : s.links[g]? = some l) (hh : c.hookOf task moment = hook.map (.user moment))
    (ha : (Move.answer a : Move U X).mild = true) :
    Stretch (s.setCoordinator g c) (.link g (.call task moment argument) :: r) (telling hook a) (s.setCoordinator g c) r
      (Deed.calls hook moment argument) := by
  obtain ⟨es, hpath, hdeeds⟩ := Path.tell hl hh ha
  exact hdeeds ▸ hpath.stretch

end Stages

section Tasks

variable {s : Session U X} {g : Nat} {l : Link U X} {c : Coordinator (Hook U) X} {task : Task (Hook U)}
  {r : List (Frame U X)} {a : Answer}

@[simp] lemma engage_task (c : Coordinator (Hook U) X) (task : Task (Hook U)) :
    (c.engage task).tasks[c.tasks.length]? = some task := by
  simp [Coordinator.engage, Coordinator.openContext]

lemma Path.submit (hl : s.links[g]? = some l) (hc : c.Vacant) (task : Task (Hook U)) :
    Path (s.setCoordinator g c) (.link g (.submit task) :: r) [.tick, .tick, .tick, .tick]
      (s.setCoordinator g { c.engage task with draining := true })
      (.link g (.call c.tasks.length .beforeRun .nothing) :: .link g (.prepare c.tasks.length (c.lastContext + 1)) ::
        .link g .drainLoop :: r)
      [.link g (.submitted c.tasks.length task), .link g (.opened c.tasks.length (c.lastContext + 1))] := by
  have hqueued : Coordinator.Frame.tick c (.submit task) = some
      ⟨{ c with tasks := c.tasks ++ [task], pending := [c.tasks.length] }, [.drain], [.submitted c.tasks.length task],
        none⟩ := by
    simp [Coordinator.Frame.tick, Coordinator.submitTurn, hc.killed, hc.pending, hc.inFlight]
  have hstarted : Coordinator.Frame.tick { c with tasks := c.tasks ++ [task], pending := [c.tasks.length] } .drain = some
      ⟨{ c with tasks := c.tasks ++ [task], pending := [c.tasks.length], draining := true }, [.drainLoop], [], none⟩ := by
    simp [Coordinator.Frame.tick, hc.draining]
  have htaken : Coordinator.Frame.tick
        { c with tasks := c.tasks ++ [task], pending := [c.tasks.length], draining := true } .drainLoop = some
      ⟨{ c with tasks := c.tasks ++ [task], draining := true }, [.dispatch c.tasks.length, .drainLoop], [], none⟩ := by
    simp [Coordinator.Frame.tick, Coordinator.drainLoopTurn, hc.killed, hc.pending, hc.inFlight]
  have hdispatched : Coordinator.Frame.tick { c with tasks := c.tasks ++ [task], draining := true }
        (.dispatch c.tasks.length) = some
      ⟨{ c.engage task with draining := true },
        [.call c.tasks.length .beforeRun .nothing, .prepare c.tasks.length (c.lastContext + 1)],
        [.opened c.tasks.length (c.lastContext + 1)], none⟩ := rfl
  have hsubmit := Path.stage (r := r) hl hqueued rfl
  have hdrain := Path.stage (r := r) hl hstarted rfl
  have hloop := Path.stage (r := r) hl htaken rfl
  have hdispatch := Path.stage (r := .link g .drainLoop :: r) hl hdispatched rfl
  exact hsubmit.trans (hdrain.trans (hloop.trans hdispatch))

lemma Stretch.submit (hl : s.links[g]? = some l) (hc : c.Vacant) (task : Task (Hook U)) :
    Stretch (s.setCoordinator g c) (.link g (.submit task) :: r) [.tick, .tick, .tick, .tick]
      (s.setCoordinator g { c.engage task with draining := true })
      (.link g (.call c.tasks.length .beforeRun .nothing) :: .link g (.prepare c.tasks.length (c.lastContext + 1)) ::
        .link g .drainLoop :: r) [] :=
  (Path.submit hl hc task).stretch

lemma Path.ask {t id : Nat} {text : String} (hl : s.links[g]? = some l) (ht : c.tasks[t]? = some task)
    (hcode : task.code = .string text) (haction : task.action ≠ .run) :
    Path (s.setCoordinator g c) (.link g (.prepare t id) :: r) [.tick, .tick] (s.setCoordinator g c)
      (.link g (.awaitSend ⟨task.action, text, id⟩) :: r)
      [.link g (.ready id c.transform), .link g (.log (.dispatching task.action)),
        .link g (.sent ⟨task.action, text, id⟩)] := by
  have hof : c.actionOf t = task.action := by simp [Coordinator.actionOf, ht]
  have hprepared : Coordinator.Frame.tick c (.prepare t id) = some ⟨c, [.send t id], [.ready id c.transform], none⟩ := by
    simp only [Coordinator.Frame.tick, Coordinator.prepareTurn, hof]
    split
    · exact absurd ‹_› haction
    · rfl
  have hsent : Coordinator.Frame.tick c (.send t id) = some ⟨c, [.awaitSend ⟨task.action, text, id⟩],
      [.log (.dispatching task.action), .sent ⟨task.action, text, id⟩], none⟩ := by
    simp [Coordinator.Frame.tick, Coordinator.sendTurn, hof, Coordinator.codeOf, ht, hcode, Request.make, Field.within,
      Field.string, Except.map]
  have hprepare := Path.stage (r := r) hl hprepared rfl
  exact hprepare.trans (.stage hl hsent rfl)

lemma Stretch.ask {t id : Nat} {text : String} (hl : s.links[g]? = some l) (ht : c.tasks[t]? = some task)
    (hcode : task.code = .string text) (haction : task.action ≠ .run) :
    Stretch (s.setCoordinator g c) (.link g (.prepare t id) :: r) [.tick, .tick] (s.setCoordinator g c)
      (.link g (.awaitSend ⟨task.action, text, id⟩) :: r) [.asked g ⟨task.action, text, id⟩] :=
  (Path.ask hl ht hcode haction).stretch

/-- A query that is handed in where there is no task: its hook is told that it begins, and the worker gets it. -/
lemma Stretch.commission {text : String} {hook : Option U} (hl : s.links[g]? = some l) (hc : c.Vacant)
    (hcode : task.code = .string text) (haction : task.action ≠ .run)
    (hh : task.hooks.beforeRun = hook.map (.user .beforeRun)) (ha : (Move.answer a : Move U X).mild = true) :
    Stretch (s.setCoordinator g c) (.link g (.submit task) :: r)
      ([.tick, .tick, .tick, .tick] ++ (telling hook a ++ [.tick, .tick]))
      (s.setCoordinator g { c.engage task with draining := true })
      (.link g (.awaitSend ⟨task.action, text, c.lastContext + 1⟩) :: .link g .drainLoop :: r)
      (Deed.calls hook .beforeRun .nothing ++ [.asked g ⟨task.action, text, c.lastContext + 1⟩]) := by
  have hhook : Coordinator.hookOf { c.engage task with draining := true } c.tasks.length .beforeRun =
      hook.map (.user .beforeRun) := by
    rw [Coordinator.hookOf, engage_task]
    exact hh
  exact (Stretch.submit hl hc task).trans ((Stretch.tell hl hhook ha).trans (.ask hl (engage_task ..) hcode haction))

/-- A worker takes a request: a kernel at once, another one when outside code says so. -/
def accepting (s : Session U X) : Move U X := if s.kernel?.isSome then .tick else .answer .done

lemma setKernel_link {k : Kernel} (h : s.links[g]? = some l) :
    (s.setKernel g k).links[g]? = some { l with worker := .kernel k } := by
  simp [setKernel, h]

lemma Stretch.handOver (request : Request) (hl : s.link? = some l) :
    ∃ s' w, Stretch s (.link s.current (.awaitSend request) :: r) [accepting s] s' r [] ∧
      s'.links.length = s.links.length ∧ s'.links[s.current]? = some { l with worker := w } := by
  have hlink : s.links[s.current]? = some l := hl
  cases hw : l.worker with
  | remote n =>
    have hkernel : s.kernel? = none := by simp [kernel?, hl, hw]
    have hwaits : (Frame.link s.current (.awaitSend request)).tick (s.setCoordinator s.current l.coordinator) = none := by
      simp [Frame.tick, setCoordinator_link hlink, tickLink, hw, Coordinator.Frame.tick]
    refine ⟨s, .remote n, ?_, rfl, by rw [hlink, ← hw]⟩
    have h := Stretch.reply (r := r) (a := .done) hlink hwaits rfl rfl rfl rfl
    simpa [accepting, hkernel, setCoordinator_same hlink] using h
  | kernel k =>
    have hkernel : s.kernel? = some k := by simp [kernel?, hl, hw]
    have htick : (Frame.link s.current (.awaitSend request)).tick s = some (transmitTurn s s.current k request none) := by
      simp [Frame.tick, hlink, tickLink, hw]
    refine ⟨s.setKernel s.current (k.register request k.nextMessageId), _, ?_, setKernel_length .., setKernel_link hlink⟩
    simp only [accepting, hkernel, Option.isSome_some, if_true]
    exact Stretch.of_tick (r := r) htick rfl

lemma Stretch.accept (request : Request) (hl : s.link? = some l) (hbusy : l.coordinator.inFlight.isSome = true) :
    ∃ s' w,
      Stretch s (.link s.current (.awaitSend request) :: .link s.current .drainLoop :: r) [accepting s, .tick] s' r [] ∧
      s'.link? = some { l with worker := w, coordinator := { l.coordinator with draining := false } } := by
  obtain ⟨s', w, haccept, hlength, hl'⟩ := Stretch.handOver (r := .link s.current .drainLoop :: r) request hl
  have hended : Coordinator.Frame.tick l.coordinator .drainLoop =
      some ⟨{ l.coordinator with draining := false }, [], [], none⟩ := by
    obtain ⟨t, ht⟩ := Option.isSome_iff_exists.mp hbusy
    simp [Coordinator.Frame.tick, Coordinator.drainLoopTurn, ht]
  have hloop := Stretch.stage (r := r) hl' hended rfl rfl rfl
  rw [setCoordinator_same hl'] at hloop
  refine ⟨_, w, haccept.trans hloop, ?_⟩
  rw [link?, current_congr ((setCoordinator_length ..).trans hlength), setCoordinator_link hl']

/-- A reply is told, ends its context if it is the last, and makes way for the next task. -/
lemma Stretch.heed {v : Value} {variant : Variant} {id : Option Int} {last : Bool} {payload : Object} {t : Nat}
    (hl : s.links[g]? = some l) (hd : Message.decode v = .ok (.reply variant id last payload)) (hv : variant ≠ .error)
    (ht : c.resolve id = some t) :
    Stretch (s.setCoordinator g c) (.link g (.route v) :: r) [.tick] (s.setCoordinator g c)
      (.link g (.call t .success (.payload payload)) :: ((if last then [.link g (.close id t)] else []) ++
        .link g (.advance t) :: r)) [] := by
  have hrouted : Coordinator.Frame.tick c (.route v) = some ⟨c,
      .call t .success (.payload payload) :: ((if last then [.close id t] else []) ++ [.advance t]),
      .routed v :: c.resolveEvents id ++ (if (c.hookOf t .success).isNone then [.log (.missingHook .success)] else []),
      none⟩ := by
    simp [Coordinator.Frame.tick, Coordinator.routeTurn, hd, ht, Coordinator.replyTurn, hv]
  refine .stage hl hrouted rfl (by cases last <;> simp) ?_
  unfold Coordinator.resolveEvents
  split <;> split <;> rfl

lemma Stretch.conclude (id : Option Int) {t : Nat} {hook : Option U} (hl : s.links[g]? = some l)
    (hh : c.hookOf t .afterRun = hook.map (.user .afterRun)) (ha : (Move.answer a : Move U X).mild = true) :
    Stretch (s.setCoordinator g c) (.link g (.close id t) :: r) (.tick :: telling hook a)
      (s.setCoordinator g (c.closeContext id)) r (Deed.calls hook .afterRun .nothing) := by
  have hclosed : Coordinator.Frame.tick c (.close id t) =
      some ⟨c.closeContext id, [.call t .afterRun .nothing], [.log .contextEnded, .closed t id], none⟩ := rfl
  have hhook : (c.closeContext id).hookOf t .afterRun = hook.map (.user .afterRun) := by
    rw [← hh]
    cases id <;> rfl
  exact (Stretch.stage hl hclosed rfl rfl rfl).trans (.tell hl hhook ha)

/-- The moves that free the slot, and find nothing else to do. -/
def vacating (draining : Bool) : List (Move U X) := .tick :: .tick :: if draining then [] else [.tick]

@[simp] lemma doings_vacating (draining : Bool) : doings (vacating draining : List (Move U X)) = [] := by
  cases draining <;> rfl

lemma Stretch.vacate {t : Nat} (hl : s.links[g]? = some l) (hbusy : c.inFlight = some t)
    (hq : c.draining = true ∨ c.pending = []) :
    Stretch (s.setCoordinator g c) (.link g (.advance t) :: r) (vacating c.draining)
      (s.setCoordinator g { c with inFlight := none }) r [] := by
  have hfreed : Coordinator.Frame.tick c (.advance t) = some ⟨{ c with inFlight := none }, [.drain], [], none⟩ := by
    simp [Coordinator.Frame.tick, Coordinator.advanceTurn, hbusy]
  have hadvance := Stretch.stage (r := r) hl hfreed rfl rfl rfl
  by_cases hdraining : c.draining = true
  · have hdrained : Coordinator.Frame.tick { c with inFlight := none } .drain =
        some ⟨{ c with inFlight := none }, [], [], none⟩ := by
      simp [Coordinator.Frame.tick, hdraining]
    rw [vacating, if_pos hdraining]
    exact hadvance.trans (.stage hl hdrained rfl rfl rfl)
  · have hpending : c.pending = [] := hq.resolve_left hdraining
    have hstarted : Coordinator.Frame.tick { c with inFlight := none } .drain =
        some ⟨{ c with inFlight := none, draining := true }, [.drainLoop], [], none⟩ := by
      simp [Coordinator.Frame.tick, hdraining]
    have hended : Coordinator.Frame.tick { c with inFlight := none, draining := true } .drainLoop =
        some ⟨{ c with inFlight := none }, [], [], none⟩ := by
      simp [Coordinator.Frame.tick, Coordinator.drainLoopTurn, hpending, hdraining]
    rw [vacating, if_neg hdraining]
    exact hadvance.trans ((Stretch.stage hl hstarted rfl rfl rfl).trans (.stage hl hended rfl rfl rfl))

end Tasks

end Session

end EvalSession
