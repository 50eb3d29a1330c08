import EvalSession.Proofs.Session.Attuned

/-!
# The life of a worker

Main statement: however kills and restarts come, and whatever of them fails, a worker that has made way for another has been
told to end, has ended, and is not listened to; the current worker is listened to unless the session is killed; and the
scheduler is the one that was made when the current worker came. A remote worker is told to end by a call. A kernel has no
such call: its channels are stopped, it is signalled if it is alive, waited for, and cleaned up after.
-/
namespace EvalSession

/-- A kernel is stopped by a signal of this number, and these acts are what it takes. -/
structure Kernel.Stopped (k k' : Kernel) (number : Nat) (acts : List Kernel.Act) : Prop where
  deaf : k'.listening = false
  acted : acts = if k.host.alive.head? = some true then [.stopChannels, .signal number, .cleanUp]
    else [.stopChannels, .cleanUp]
  /-- It was asked whether it is alive until it was not, or had no answer any more. -/
  waited : ∃ asked, k.host.alive = asked ++ k'.host.alive ∧ (asked.getLast? = some false ∨ k'.host.alive = [])

/-- The number of a remote worker; a kernel has none. -/
def Worker.number? : Worker → Option Nat
  | .remote n => some n
  | .kernel _ => none

namespace Session

variable {U X : Type}

def Move.worker? : Move U X → Option Worker
  | .answer (.worker w) => some w
  | _ => none

/-- The workers of a session by their numbers, in the order in which they came. -/
def numbers (s : Session U X) : List (Option Nat) := s.links.map fun l => l.worker.number?

/-- The stage `t` of a session ends the worker of link `g`, or has it ended, with a signal. -/
def Dismissal (s : Session U X) (g : Nat) (signal : String) (t : Turn U X) : Prop :=
  match workerOf s g with
  | some (.remote n) => t.events = [.terminating n signal]
  | some (.kernel k) => ∃ k' number acts, workerOf t.state g = some (.kernel k') ∧
      Signal.number? signal = some number ∧ k.Stopped k' number acts ∧
      t.events = acts.map (.act (g := g)) ++ [.log .kernelTerminated]
  | none => False

/-- In the course of a run a stage has ended the worker of a link, or had it ended. -/
def Dismissed (start : Machine U X) (moves : List (Move U X)) (g : Nat) : Prop :=
  ∃ before m signal ending r t, before ++ [.tick] <+: moves ∧ start.run before = some m ∧ m.fault = none ∧
    m.state.current = g ∧ m.stack = .terminate signal ending :: r ∧
    (Frame.terminate signal ending).tick m.state = some t ∧ Dismissal m.state g signal t

/-- The worker of a link, if a kernel, does not listen any more. -/
def Deafened (s : Session U X) (g : Nat) : Prop := ∀ k, workerOf s g = some (.kernel k) → k.listening = false

structure Departed (start : Machine U X) (moves : List (Move U X)) (s : Session U X) (g : Nat) : Prop where
  dismissed : Dismissed start moves g
  deaf : Deafened s g

/-- In the course of a run a restart has got the exit status of the worker of a link. -/
def Ended (start : Machine U X) (moves : List (Move U X)) (g : Nat) : Prop :=
  ∃ before m notify status r, before <+: moves ∧ start.run before = some m ∧ m.fault = none ∧ m.state.current = g ∧
    m.stack = .finish (.restart notify) status :: r

/-- In the course of a run a link came last, with a scheduler that had done nothing. -/
def Created (start : Machine U X) (moves : List (Move U X)) (g : Nat) : Prop :=
  ∃ before m, before <+: moves ∧ start.run before = some m ∧ m.state.links.length = g + 1 ∧
    m.state.coordinator = { transform := m.state.transform }

/-- A frame of a restart that has told the worker to end. -/
def Frame.departs : Frame U X → Bool
  | .awaitWorker .. => true
  | .awaitTermination ending | .finish ending _ => match ending with
    | .restart _ => true
    | _ => false
  | _ => false

/-- A frame of a restart whose worker has ended. -/
def Frame.vacant : Frame U X → Bool
  | .awaitWorker .. => true
  | _ => false

section Workers

variable {s s' : Session U X} {w w' : Worker}

lemma Ages.number? (h : Ages w w') : w'.number? = w.number? := by cases h <;> rfl

lemma numbers_get (s : Session U X) (g : Nat) : (numbers s)[g]? = (workerOf s g).map Worker.number? := by
  simp only [numbers, List.getElem?_map, workerOf, Option.map_map]
  rfl

lemma numbers_ages (h : ∀ g, Option.Rel Ages (workerOf s g) (workerOf s' g)) : numbers s' = numbers s := by
  refine List.ext_getElem? fun g => ?_
  have hg := h g
  rw [numbers_get, numbers_get]
  generalize workerOf s g = p at hg
  generalize workerOf s' g = q at hg
  cases hg with
  | none => rfl
  | some hg => simp only [Option.map_some, hg.number?]

lemma numbers_attach (s : Session U X) (w : Worker) : numbers (s.attach w) = numbers s ++ [w.number?] := by
  simp [numbers, attach]

lemma Deafened.later {g : Nat} (h : Deafened s g) (hw : Option.Rel Ages (workerOf s g) (workerOf s' g)) : Deafened s' g := by
  unfold Deafened at h ⊢
  generalize workerOf s g = p at h hw
  generalize workerOf s' g = q at hw ⊢
  cases hw with
  | none => exact h
  | some hw =>
    cases hw with
    | remote n => simp
    | kernel hk =>
      rintro _ ⟨⟩
      exact hk (h _ rfl)

/-- The answers up to the first that says no. -/
lemma waited_while (answers : List Bool) : ∃ asked, answers = asked ++ (answers.dropWhile (· == true)).drop 1 ∧
    (asked.getLast? = some false ∨ (answers.dropWhile (· == true)).drop 1 = []) := by
  induction answers with
  | nil => exact ⟨[], rfl, .inr rfl⟩
  | cons b rest ih =>
    cases b with
    | false => exact ⟨[false], rfl, .inl rfl⟩
    | true =>
      obtain ⟨asked, hasked, hlast⟩ := ih
      refine ⟨true :: asked, congrArg (true :: ·) hasked, hlast.imp_left fun hlast => ?_⟩
      rw [List.getLast?_cons, hlast]
      rfl

lemma terminate_silent (k : Kernel) (signal : String) (h : k.listening = false) :
    (k.terminate signal).kernel.listening = false := by
  unfold Kernel.terminate
  split
  · exact h
  · rfl

/-- A kernel that gives an exit status has been stopped. -/
lemma terminate_stopped {k : Kernel} {signal : String} {status : Kernel.ExitStatus}
    (h : (k.terminate signal).status = .ok status) : ∃ number, Signal.number? signal = some number ∧
      k.Stopped (k.terminate signal).kernel number (k.terminate signal).acts := by
  unfold Kernel.terminate at h ⊢
  split
  · rename_i hs
    simp [hs] at h
  · rename_i number hs
    refine ⟨number, hs, rfl, ?_, ?_⟩
    · rcases k.host.alive with _ | ⟨_ | _, rest⟩ <;> rfl
    · simp only
      rcases halive : k.host.alive with _ | ⟨_ | _, rest⟩
      · exact ⟨[], rfl, .inr rfl⟩
      · exact ⟨[false], rfl, .inl rfl⟩
      · simpa using waited_while (true :: rest)

end Workers

section Stages

variable {s : Session U X} {f : Frame U X} {t : Turn U X}

/-- What a termination does to the workers, and that it goes on only with a worker that has been told to end. -/
lemma terminate_spec (s : Session U X) (signal : String) (ending : Ending) :
    (∀ g, Option.Rel Ages (workerOf s g) (workerOf (terminateTurn s signal ending).state g)) ∧
      ((terminateTurn s signal ending).frames ≠ [] →
        Dismissal s s.current signal (terminateTurn s signal ending) ∧
          Deafened (terminateTurn s signal ending).state s.current) := by
  unfold terminateTurn
  split
  · exact ⟨fun g => ages_rfl _, fun h => absurd rfl h⟩
  rename_i l hl
  have hworker : workerOf s s.current = some l.worker := congrArg (Option.map Link.worker) hl
  split
  · rename_i n hn
    rw [hn] at hworker
    refine ⟨fun g => ages_rfl _, fun _ => ⟨?_, ?_⟩⟩
    · rw [Dismissal, hworker]
    · simp [Deafened, hworker]
  · rename_i k hk
    rw [hk] at hworker
    have hset := ages_setKernel hworker (terminate_silent k signal)
    have hgone : ∀ gone : Bool, ∀ g, workerOf (if gone then (s.setKernel s.current (k.terminate signal).kernel).setHandler
        (s.setKernel s.current (k.terminate signal).kernel).current none
        else s.setKernel s.current (k.terminate signal).kernel) g =
          workerOf (s.setKernel s.current (k.terminate signal).kernel) g := by
      intro gone g
      cases gone
      · rfl
      · exact workerOf_setHandler ..
    have hthis : workerOf (s.setKernel s.current (k.terminate signal).kernel) s.current =
        some (.kernel (k.terminate signal).kernel) := by
      rw [workerOf_setKernel, if_pos rfl, hworker]
      rfl
    simp only
    split
    · rename_i status hstatus
      obtain ⟨number, hnumber, hstopped⟩ := terminate_stopped hstatus
      have hacts : (k.terminate signal).acts ≠ [] := by
        rw [hstopped.acted]
        split <;> simp
      refine ⟨fun g => by rw [hgone]; exact hset g, fun _ => ⟨?_, ?_⟩⟩
      · rw [Dismissal, hworker]
        refine ⟨_, number, _, (hgone ..).trans hthis, hnumber, hstopped, ?_⟩
        simp [hacts]
      · intro k' hk'
        rw [hgone, hthis] at hk'
        cases hk'
        exact hstopped.deaf
    · exact ⟨fun g => by rw [hgone]; exact hset g, fun h => absurd rfl h⟩

lemma ages_tick (h : f.tick s = some t) : ∀ g, Option.Rel Ages (workerOf s g) (workerOf t.state g) := by
  cases hf : f.turning with
  | false =>
    cases hi : f.initiates with
    | false => exact (passing_tick hf hi h).keeps.workers
    | true =>
      cases f with
      | kill | assign =>
        cases h
        exact fun g => ages_rfl _
      | restart =>
        cases h
        split <;> exact fun g => ages_rfl _
      | _ => cases hi
  | true =>
    cases f with
    | link g f =>
      intro i
      simp only [Frame.tick] at h
      split at h
      · cases h
        exact ages_rfl _
      · rename_i l hl
        exact (link_beside hl h).2.1 i
    | install handler =>
      cases h
      intro g
      rw [workerOf_setHandler]
      exact ages_rfl _
    | terminate signal ending =>
      cases h
      exact (terminate_spec s signal ending).1
    | _ => cases hf

lemma parts_of_departs (h : f.departs = true) : f.parts = true := by cases f <;> first | exact h | cases h

lemma departs_of_vacant (h : f.vacant = true) : f.departs = true := by cases f <;> first | rfl | cases h

/-- Where a restart has told the worker to end, it has done so in this stage or before. -/
lemma tick_departs {f' : Frame U X} (htame : ∀ h, f ≠ .install (some h)) (h : f.tick s = some t) (hf' : f' ∈ t.frames)
    (hd : f'.departs = true) :
    (∃ signal ending, f = .terminate signal ending ∧ f'.vacant = false) ∨
      ∃ notify status, f = .finish (.restart notify) status := by
  have hrestarts : f.restarts = true := (tidy_tick htame h).yields.restarts hf' (parts_of_departs hd)
  cases f with
  | terminate signal ending =>
    refine .inl ⟨signal, ending, rfl, ?_⟩
    cases h
    unfold terminateTurn at hf'
    split at hf'
    · cases hf'
    split at hf'
    · obtain rfl := List.mem_singleton.mp hf'
      rfl
    · simp only at hf'
      split at hf'
      · obtain rfl := List.mem_singleton.mp hf'
        rfl
      · cases hf'
  | finish ending status =>
    cases ending with
    | restart notify => exact .inr ⟨notify, status, rfl⟩
    | stop | kill => cases hrestarts
  | restart signal notify =>
    cases h
    split at hf'
    · simp only [endTurn, List.mem_cons, List.not_mem_nil, or_false] at hf'
      rcases hf' with rfl | rfl | rfl <;> cases hd
    · cases hf'
  | awaitTermination | awaitWorker => cases h
  | _ => cases hrestarts

lemma unwind_departs {f' : Frame U X} {e : Fault} (hf' : f' ∈ (f.unwind s e).frames) : f'.departs = false := by
  cases f with
  | link g f =>
    simp only [Frame.unwind] at hf'
    split at hf'
    · cases hf'
    · obtain ⟨f'', -, rfl⟩ := List.mem_map.mp hf'
      rfl
  | awaitCall =>
    simp only [Frame.unwind, Frame.callFailed] at hf'
    split at hf' <;> cases hf'
  | guarded =>
    simp only [Frame.unwind] at hf'
    split at hf' <;> cases hf'
  | _ => cases hf'

/-- An answer takes a restart as far as the exit status of its worker. -/
lemma answer_departs {f' : Frame U X} {a : Answer} (h : f.answer s a = some t) (hf' : f' ∈ t.frames) :
    f'.vacant = false ∧ (f'.departs = true → f.departs = true) := by
  unfold Frame.answer at h
  split at h
  · unfold Frame.answerLink at h
    split at h
    · obtain ⟨turn, -, rfl⟩ := Option.map_eq_some_iff.mp h
      obtain ⟨f'', -, rfl⟩ := List.mem_map.mp hf'
      exact ⟨rfl, fun hd => by cases hd⟩
    · cases h
  · cases h
    cases hf'
  · cases h
    simp only [Frame.callFailed] at hf'
    split at hf' <;> cases hf'
  · cases h
    obtain rfl := List.mem_singleton.mp hf'
    exact ⟨rfl, id⟩
  · cases h
    cases hf'
  · cases h
    cases hf'
  · cases h
    cases hf'
  · cases h

end Stages

/-- What holds of the workers of a session that was `start` before these moves, `worker` being the first of them. -/
structure Staffed (start : Machine U X) (worker : Worker) (moves : List (Move U X)) (m : Machine U X) : Prop where
  run : start.run moves = some m
  parted : Sealed start.state m
  poised : Poised m.state m.stack m.fault
  numbers : numbers m.state = (worker :: moves.filterMap Move.worker?).map Worker.number?
  created : ∀ g < m.state.links.length, Created start moves g
  departed : ∀ g < m.state.current, Departed start moves m.state g
  ended : ∀ g < m.state.current, Ended start moves g
  departing : ∀ f ∈ m.stack, f.departs = true → Departed start moves m.state m.state.current
  vacant : ∀ f ∈ m.stack, f.vacant = true → Ended start moves m.state.current

section Staffed

variable {start m n : Machine U X} {worker : Worker} {done : List (Move U X)} {move : Move U X} {g : Nat}

lemma Ended.more (h : Ended start done g) (move : Move U X) : Ended start (done ++ [move]) g := by
  obtain ⟨before, p, notify, status, r, hp, h⟩ := h
  exact ⟨before, p, notify, status, r, hp.trans (List.prefix_append ..), h⟩

lemma Departed.later {s : Session U X} (h : Departed start done m.state g)
    (hw : Option.Rel Ages (workerOf m.state g) (workerOf s g)) (move : Move U X) : Departed start (done ++ [move]) s g := by
  obtain ⟨before, p, signal, ending, r, t, hp, hdismissed⟩ := h.dismissed
  exact ⟨⟨before, p, signal, ending, r, t, hp.trans (List.prefix_append ..), hdismissed⟩, h.deaf.later hw⟩

lemma Created.more (h : Created start done g) (move : Move U X) : Created start (done ++ [move]) g := by
  obtain ⟨before, p, hp, h⟩ := h
  exact ⟨before, p, hp.trans (List.prefix_append ..), h⟩

lemma run_concat (h : start.run done = some m) (hn : m.step move = some n) : start.run (done ++ [move]) = some n := by
  rw [Machine.run_eq] at h ⊢
  simp [List.foldlM_append, h, hn]

/-- A move that brings no worker, and after which no restart has gone further than is told of the worker. -/
lemma Staffed.stay (h : Staffed start worker done m) (ha : Orderly m move) (hn : m.step move = some n)
    (hl : n.state.links.length = m.state.links.length)
    (hw : ∀ g, Option.Rel Ages (workerOf m.state g) (workerOf n.state g)) (hm : move.worker? = none)
    (hd : ∀ f ∈ n.stack, f.departs = true → Departed start (done ++ [move]) n.state m.state.current)
    (hv : ∀ f ∈ n.stack, f.vacant = true → Ended start (done ++ [move]) m.state.current) :
    Staffed start worker (done ++ [move]) n := by
  have hcurrent := current_congr hl
  refine ⟨run_concat h.run hn, sealed_step ha.successive hn h.parted, poised_step h.parted.inhabited ha hn h.poised, ?_,
    ?_, ?_, ?_, ?_, ?_⟩
  · rw [numbers_ages hw, h.numbers, List.filterMap_append]
    simp [hm]
  · exact fun g hg => (h.created g (hl ▸ hg)).more move
  · exact fun g hg => (h.departed g (hcurrent ▸ hg)).later (hw g) move
  · exact fun g hg => (h.ended g (hcurrent ▸ hg)).more move
  · exact hcurrent.symm ▸ hd
  · exact hcurrent.symm ▸ hv

lemma Staffed.pass {s : Session U X} {f : Frame U X} {r : List (Frame U X)} {fault : Option Fault} {es : List (Event U X)}
    {t : Turn U X} (h : Staffed start worker done ⟨s, f :: r, fault, es⟩) (ha : Orderly ⟨s, f :: r, fault, es⟩ move)
    (hn : Machine.step ⟨s, f :: r, fault, es⟩ move = some (Machine.after ⟨s, f :: r, fault, es⟩ r t))
    (hm : move.worker? = none) (ht : Passing s t)
    (hf : ∀ f' ∈ t.frames, f'.vacant = false ∧ (f'.departs = true → f.departs = true)) :
    Staffed start worker (done ++ [move]) (Machine.after ⟨s, f :: r, fault, es⟩ r t) := by
  refine h.stay ha hn ht.keeps.length ht.keeps.workers hm (fun f' hf' hd => ?_) fun f' hf' hv => ?_
  · refine Departed.later (m := ⟨s, f :: r, fault, es⟩) ?_ (ht.keeps.workers _) move
    rcases List.mem_append.mp hf' with hnew | hold
    · exact h.departing f (List.mem_cons_self ..) ((hf f' hnew).2 hd)
    · exact h.departing f' (List.mem_cons_of_mem _ hold) hd
  · rcases List.mem_append.mp hf' with hnew | hold
    · rw [(hf f' hnew).1] at hv
      cases hv
    · exact (h.vacant f' (List.mem_cons_of_mem _ hold) hv).more _

lemma Staffed.attach {s : Session U X} {r : List (Frame U X)} {es : List (Event U X)} {notify : Bool}
    {status : Kernel.ExitStatus} {w : Worker} {t : Turn U X}
    (h : Staffed start worker done ⟨s, .awaitWorker notify status :: r, none, es⟩)
    (hn : Machine.step ⟨s, .awaitWorker notify status :: r, none, es⟩ (.answer (.worker w)) =
      some (Machine.after ⟨s, .awaitWorker notify status :: r, none, es⟩ r t))
    (hs : t.state = s.attach w) (hf : t.frames = []) :
    Staffed start worker (done ++ [.answer (.worker w)])
      (Machine.after ⟨s, .awaitWorker notify status :: r, none, es⟩ r t) := by
  have hin := h.parted.inhabited
  have ha : Orderly ⟨s, .awaitWorker notify status :: r, none, es⟩ (.answer (.worker w)) := trivial
  have hrun := run_concat h.run hn
  have hlast : (s.attach w).current = s.current + 1 := by
    simp only [current, Session.attach, List.length_append, List.length_singleton] at hin ⊢
    omega
  have hbelow : ∀ g < (s.attach w).current, g < s.current ∨ g = s.current := fun g hg => by omega
  have hrest : ∀ f ∈ r, f.departs = false := fun f hf => by
    by_contra hd
    have hparts := parts_of_departs (Bool.of_not_eq_false hd)
    simp [h.parted.rest rfl f hf] at hparts
  -- the workers of before are what they were
  have hages : ∀ g < (s.attach w).current, Option.Rel Ages (workerOf s g) (workerOf (s.attach w) g) := fun g hg => by
    have hlt : g < s.links.length := by
      simp only [current] at hlast hg hin ⊢
      omega
    rw [workerOf, workerOf, Session.attach, List.getElem?_append_left hlt]
    exact ages_rfl _
  refine ⟨hrun, sealed_step ha.successive hn h.parted, poised_step hin ha hn h.poised, ?_, ?_, ?_, ?_, ?_, ?_⟩
  · rw [Machine.after, hs, numbers_attach, h.numbers, List.filterMap_append]
    simp [Move.worker?]
  · intro g hg
    rw [Machine.after, hs, Session.attach, List.length_append, List.length_singleton, Nat.lt_succ_iff_lt_or_eq] at hg
    rcases hg with hg | rfl
    · exact (h.created g hg).more _
    · refine ⟨_, _, List.prefix_rfl, hrun, ?_, ?_⟩
      · simp [Machine.after, hs, Session.attach]
      · simp [Machine.after, hs, coordinator, link?, current, Session.attach]
  · intro g hg
    simp only [Machine.after, hs] at hg ⊢
    rcases hbelow g hg with hlt | rfl
    · exact (h.departed g hlt).later (hages g hg) _
    · exact (h.departing _ (List.mem_cons_self ..) rfl).later (hages _ hg) _
  · intro g hg
    simp only [Machine.after, hs] at hg
    rcases hbelow g hg with hlt | rfl
    · exact (h.ended g hlt).more _
    · exact (h.vacant _ (List.mem_cons_self ..) rfl).more _
  · intro f hm hd
    rw [Machine.after, hf] at hm
    simp [hrest f hm] at hd
  · intro f hm hv
    rw [Machine.after, hf] at hm
    have hd : f.departs = true := by cases f <;> first | rfl | cases hv
    simp [hrest f hm] at hd

theorem staffed_step (ha : Orderly m move) (hn : m.step move = some n) (h : Staffed start worker done m) :
    Staffed start worker (done ++ [move]) n := by
  have hn' := hn
  cases step_moved hn with
  | @ticked s f r es t ht =>
    have htame : ∀ handler, f ≠ .install (some handler) :=
      fun handler he => h.parted.tame handler (he ▸ List.mem_cons_self ..)
    have hages := ages_tick ht
    refine h.stay ha hn' (tidy_tick htame ht).waning.length hages rfl (fun f' hf' hd => ?_) fun f' hf' hv => ?_
    · rcases List.mem_append.mp hf' with hnew | hold
      · rcases tick_departs htame ht hnew hd with ⟨signal, ending, rfl, -⟩ | ⟨notify, status, rfl⟩
        · cases ht
          obtain ⟨hdismissal, hdeaf⟩ := (terminate_spec s signal ending).2 (List.ne_nil_of_mem hnew)
          exact ⟨⟨done, _, signal, ending, r, _, List.prefix_rfl, h.run, rfl, rfl, rfl, rfl, hdismissal⟩, hdeaf⟩
        · exact (h.departing _ (List.mem_cons_self ..) rfl).later (hages _) _
      · exact (h.departing f' (List.mem_cons_of_mem _ hold) hd).later (hages _) _
    · rcases List.mem_append.mp hf' with hnew | hold
      · rcases tick_departs htame ht hnew (departs_of_vacant hv) with ⟨signal, ending, -, hnot⟩ | ⟨notify, status, rfl⟩
        · rw [hnot] at hv
          cases hv
        · exact ⟨done, _, notify, status, r, List.prefix_append .., h.run, rfl, rfl, rfl⟩
      · exact (h.vacant f' (List.mem_cons_of_mem _ hold) hv).more _
  | @unwound s f r e es =>
    have hturning := h.poised.faulty.2 f (List.mem_cons_self ..)
    refine h.pass ha hn' rfl (passing_unwind hturning e) fun f' hf' => ?_
    have hdeparts := unwind_departs hf'
    refine ⟨?_, fun hd => by simp [hdeparts] at hd⟩
    by_contra hv
    simp [departs_of_vacant (Bool.of_not_eq_false hv)] at hdeparts
  | @answered s f r es a t ht =>
    have hturning : f.turning = false := by
      by_contra hf
      simp [answer_turning (Bool.of_not_eq_false hf)] at ht
    rcases passing_answer hturning ht with ⟨hpassing, hw⟩ | ⟨notify, status, w, rfl, rfl, hs, hframes⟩
    · refine h.pass ha hn' ?_ hpassing fun f' => answer_departs ht
      cases a <;> first | rfl | exact absurd rfl (hw _)
    · exact h.attach hn' hs hframes
  | @started _ operation ho =>
    have hop : (operation.frame : Frame U X).departs = false := by cases operation <;> rfl
    refine h.stay ha hn' rfl (fun g => ages_rfl _) rfl (fun f hf hd => ?_) fun f hf hv => ?_
    · rcases List.mem_cons.mp hf with rfl | hf
      · simp [hop] at hd
      · exact (h.departing f hf hd).later (ages_rfl _) _
    · rcases List.mem_cons.mp hf with rfl | hf
      · simp [departs_of_vacant hv] at hop
      · exact (h.vacant f hf hv).more _
  | recovered hs =>
    exact h.stay ha hn' rfl (fun g => ages_rfl _) rfl (fun f hf hd => (h.departing f hf hd).later (ages_rfl _) _)
      fun f hf hv => (h.vacant f hf hv).more _

end Staffed

lemma staffed_start (worker : Worker) (transform : Option X) (restartable : Bool) (documentation : Documentation.Index) :
    Staffed (U := U) { state := Session.make worker transform restartable documentation } worker []
      { state := Session.make worker transform restartable documentation } where
  run := rfl
  parted := sealed_start ..
  poised := .steady (attuned_attach _ worker) (by simp)
  numbers := rfl
  created := by
    intro g hg
    obtain rfl : g = 0 := Nat.lt_one_iff.mp hg
    exact ⟨[], _, List.prefix_rfl, rfl, rfl, rfl⟩
  departed := fun g hg => absurd hg (Nat.not_lt_zero g)
  ended := fun g hg => absurd hg (Nat.not_lt_zero g)
  departing := by simp
  vacant := by simp

/-- How a session that was `start` stands to the workers it has had since, the first of them and those that came with these
moves. -/
structure Maintained (start : Machine U X) (worker : Worker) (moves : List (Move U X)) (s : Session U X) :
    Prop where
  /-- The links are those of the workers, in the order in which they came. -/
  workers : numbers s = (worker :: moves.filterMap Move.worker?).map Worker.number?
  former : ∀ g < s.current, handlerOf s g = none ∧ Deafened s g ∧ Dismissed start moves g ∧ Ended start moves g
  current : handlerOf s s.current = if s.killed then none else some .router
  scheduler : ∃ l, s.links.getLast? = some l ∧ s.coordinator = l.coordinator ∧ l.coordinator.transform = s.transform
  created : ∀ g < s.links.length, Created start moves g

/-- However kills and restarts come, and whatever of them fails: where outside code has control, or gets a fault, every
worker but the current one has been ended and is not listened to, the current one is listened to unless the session is
killed, and its scheduler is in use and has the transform of the session. -/
theorem workers_maintained {worker : Worker} {transform : Option X} {documentation : Documentation.Index}
    {moves : List (Move U X)} {m : Machine U X}
    (hr : Machine.run { state := Session.make worker transform true documentation } moves = some m)
    (hf : Follows Machine.step Orderly { state := Session.make worker transform true documentation } moves)
    (hs : m.suspended = true) :
    Maintained { state := Session.make worker transform true documentation } worker moves m.state := by
  rw [Machine.run_eq] at hr
  have h := history_invariant staffed_step hf hr (staffed_start worker transform true documentation)
  rw [List.nil_append] at h
  obtain ⟨hheard, htransform⟩ := (h.poised.suspended hs).1
  have hlt := current_lt h.parted.inhabited
  have hlast : m.state.links.getLast? = some m.state.links[m.state.current] := by
    rw [List.getLast?_eq_getElem?]
    exact List.getElem?_eq_getElem hlt
  have hscheduler : m.state.coordinator = m.state.links[m.state.current].coordinator := by
    simp [coordinator_eq, coordinatorOf, List.getElem?_eq_getElem hlt]
  exact ⟨h.numbers, fun g hg => ⟨h.parted.former g hg, (h.departed g hg).deaf, (h.departed g hg).dismissed, h.ended g hg⟩, hheard,
    ⟨_, hlast, hscheduler, hscheduler ▸ htransform⟩, h.created⟩

/-- Three restarts within a hook: the worker does not end in the first, no other comes in the second. Then a transform is
set, while the hook still runs. -/
def restartedWithin : List (Move Nat Nat) :=
  let failed : Move Nat Nat := .answer (.raised (.thrown ⟨"OSError", "", "OSError()", [], true⟩))
  let restart : List (Move Nat Nat) := .start (.restart "SIGTERM" true) :: List.replicate 4 .tick
  let gone : List (Move Nat Nat) := [.answer (.exited ⟨none, some "SIGTERM"⟩), .tick]
  List.flatten [.start (.execute "x" (some { beforeRun := some 2 })) :: List.replicate 6 .tick,
    restart, [failed, .recover], restart, gone, [failed, .recover], restart, gone, [.answer (.worker (.remote 1))],
    [.start (.assign (some 7)), .tick, .tick]]

/-- A kernel makes way for another. -/
def restartedKernel : List (Move Nat Nat) :=
  .start (.restart "SIGTERM" true) :: List.replicate 5 .tick ++ [.answer (.worker (.kernel {}))]

theorem restartedWithin_maintained :
    (∃ m, Machine.run { state := Session.make (.remote 0) none true ⟨[], []⟩ } restartedWithin = some m ∧
      Maintained { state := Session.make (.remote 0) none true ⟨[], []⟩ } (.remote 0) restartedWithin m.state ∧
      m.suspended = true ∧ m.idle = false ∧ m.state.current = 1 ∧ m.state.killed = false ∧
      handlerOf m.state 1 = some .router ∧ m.state.transform = some 7) ∧
    ∃ m, Machine.run { state := Session.make (.kernel {}) none true ⟨[], []⟩ } restartedKernel = some m ∧
      Maintained { state := Session.make (.kernel {}) none true ⟨[], []⟩ } (.kernel {}) restartedKernel m.state ∧
      m.idle = true ∧ m.state.current = 1 ∧ m.events = [.ended ⟨none, none⟩, .notified ⟨none, none⟩, .log .restarted,
        .creating, .log .killed, .log .kernelTerminated, .act (g := 0) .cleanUp, .act (g := 0) (.signal 15),
        .act (g := 0) .stopChannels] := by
  constructor
  · have h : (Machine.run { state := Session.make (.remote 0) none true ⟨[], []⟩ } restartedWithin).isSome = true := by
      decide +kernel
    have hf : Follows Machine.step Orderly { state := Session.make (.remote 0) none true ⟨[], []⟩ } restartedWithin := by
      decide +kernel
    exact ⟨_, (Option.some_get h).symm, workers_maintained (Option.some_get h).symm hf rfl, rfl, rfl, rfl, rfl, rfl, rfl⟩
  · have h : (Machine.run { state := Session.make (.kernel {}) none true ⟨[], []⟩ } restartedKernel).isSome = true := by
      decide +kernel
    have hf : Follows Machine.step Orderly { state := Session.make (.kernel {}) none true ⟨[], []⟩ } restartedKernel := by
      decide +kernel
    exact ⟨_, (Option.some_get h).symm, workers_maintained (Option.some_get h).symm hf rfl, rfl, rfl, rfl⟩

end Session

end EvalSession
