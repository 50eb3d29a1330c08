import EvalSession.Proofs.Session.View

/-!
# A killed session is silent

A kill leaves the session with a coordinator that takes no task in and with a worker that nobody listens to. Main statement:
from then on no request is sent, no hook and no transform is called, and the coordinator stands as it did at the kill,
whatever else the session is asked for, until another worker takes the place of the one that was ended.
-/
namespace EvalSession.Session

variable {U X : Type}

/-- Events in which nothing is sent, called or taken in. -/
def Event.mute : Event U X → Bool
  | .link _ (.assigned _) | .link _ (.log _) => true
  | .detached _ | .act _ | .terminating .. | .creating | .notified _ | .ended _ | .log _ => true
  | _ => false

/-- No hook, transform or sending is under way: at most the session waits for a worker to end or to begin. -/
def Machine.Calm (m : Machine U X) : Prop :=
  ∀ f ∈ m.stack, (∃ ending, f = .awaitTermination ending) ∨ ∃ notify status, f = .awaitWorker notify status

/-- What a session may be asked for while no other worker comes: nobody goes round it to the worker, and messages come
from the worker it has or from workers that it does not hear. -/
def Lasting (m : Machine U X) : Move U X → Prop
  | .start (.deliver worker _) =>
    ∀ g, m.state.linkOf? worker = some g → g = m.state.current ∨ handlerOf m.state g = none
  | .start (.install _) | .start (.transmit ..) | .answer (.worker _) => False
  | _ => True

instance (m : Machine U X) (move : Move U X) : Decidable (Lasting m move) :=
  match move with
  | .start (.deliver worker _) =>
    decidable_of_iff (∀ g ∈ m.state.linkOf? worker, g = m.state.current ∨ handlerOf m.state g = none) (by simp [Lasting])
  | .start (.install _) | .start (.transmit ..) | .answer (.worker _) => isFalse id
  | .start (.execute ..) | .start (.complete ..) | .start (.inspect ..) | .start (.assign _) | .start (.kill ..)
  | .start (.restart ..) | .start (.arrive ..) | .start (.terminate _) | .answer .done | .answer (.code _)
  | .answer (.raised _) | .answer (.exited _) | .tick | .recover => isTrue trivial

/-- The coordinator takes nothing in any more, and otherwise stands as `c` does. -/
structure Stopped (c c' : Coordinator (Hook U) X) : Prop where
  killed : c'.killed = true
  pending : c'.pending = []
  contexts : c'.contexts = c.contexts
  inFlight : c'.inFlight = c.inFlight
  lastTask : c'.lastTask = c.lastTask
  lastContext : c'.lastContext = c.lastContext

/-- The session stands as after a kill that found this coordinator on the last of so many links. -/
structure Severed (c : Coordinator (Hook U) X) (links : Nat) (s : Session U X) : Prop where
  length : s.links.length = links
  stopped : Stopped c s.coordinator
  handler : handlerOf s s.current = none

def Frame.still : Frame U X → Bool
  | .guarded | .terminate .. | .awaitTermination _ | .awaitWorker .. => true
  | .install handler => handler.isNone
  | _ => false

/-- Frames that may stand on top in a severed session. -/
def Frame.Mute (s : Session U X) : Frame U X → Prop
  | .link g (.submit _) | .link g .kill | .link g (.assign _) => g = s.current
  | .link .. | .call .. | .awaitCall .. | .body .. | .transmit .. => False
  | .deliver worker _ => ∀ g, s.linkOf? worker = some g → handlerOf s g = none
  | .emit g _ => handlerOf s g = none
  | .install handler => handler = none
  | _ => True

lemma Frame.Mute.of_still {s : Session U X} {f : Frame U X} (h : f.still = true) : f.Mute s := by
  cases f with
  | install handler => exact Option.isNone_iff_eq_none.mp h
  | _ => simp_all [Frame.still, Frame.Mute]

lemma handlerOf_setCoordinator (s : Session U X) (i g : Nat) (c : Coordinator (Hook U) X) :
    handlerOf (s.setCoordinator i c) g = handlerOf s g := by
  simp only [handlerOf, setCoordinator, List.getElem?_modify]
  cases s.links[g]? with
  | none => rfl
  | some l => by_cases h : i = g <;> simp [h]

lemma handlerOf_setKernel (s : Session U X) (i g : Nat) (k : Kernel) :
    handlerOf (s.setKernel i k) g = handlerOf s g := by
  simp only [handlerOf, setKernel, List.getElem?_modify]
  cases s.links[g]? with
  | none => rfl
  | some l => by_cases h : i = g <;> simp [h]

lemma handlerOf_setHandler (s : Session U X) (i : Nat) : handlerOf (s.setHandler i none) i = none := by
  simp only [handlerOf, setHandler, List.getElem?_modify_eq]
  cases s.links[i]? <;> rfl

lemma coordinator_eq (s : Session U X) : s.coordinator = coordinatorOf s s.current := rfl

section Severed

variable {c : Coordinator (Hook U) X} {links : Nat} {s s' : Session U X}

lemma current_congr (h : s'.links.length = s.links.length) : s'.current = s.current := by rw [current, h, current]

lemma Severed.keep (h : Severed c links s) (hl : s'.links.length = s.links.length)
    (hc : coordinatorOf s' s.current = coordinatorOf s s.current) (hh : handlerOf s' s.current = none) :
    Severed c links s' := by
  refine ⟨hl.trans h.length, ?_, ?_⟩
  · rw [coordinator_eq, current_congr hl, hc]
    exact h.stopped
  · rw [current_congr hl]
    exact hh

lemma Severed.of_links (h : Severed c links s) (he : s'.links = s.links) : Severed c links s' := by
  refine h.keep (by rw [he]) (by rw [coordinatorOf, he, coordinatorOf]) ?_
  rw [handlerOf, he]
  exact h.handler

lemma Severed.setKernel (h : Severed c links s) (i : Nat) (k : Kernel) : Severed c links (s.setKernel i k) :=
  h.keep (by simp) (coordinatorOf_setKernel ..) ((handlerOf_setKernel ..).trans h.handler)

lemma Severed.setHandler (h : Severed c links s) : Severed c links (s.setHandler s.current none) :=
  h.keep (by simp) (coordinatorOf_setHandler ..) (handlerOf_setHandler ..)

lemma Severed.setCoordinator (h : Severed c links s) (hs : 0 < s.links.length) {c' : Coordinator (Hook U) X}
    (hc : Stopped c c') : Severed c links (s.setCoordinator s.current c') := by
  have hcurrent := current_congr (s := s) (setCoordinator_length s s.current c')
  refine ⟨(setCoordinator_length ..).trans h.length, ?_, ?_⟩
  · rw [coordinator_eq, hcurrent, coordinatorOf_set s (current_lt hs)]
    exact hc
  · rw [hcurrent, handlerOf_setCoordinator]
    exact h.handler

/-- What a stage of a frame does in a severed session. -/
structure Hushed (c : Coordinator (Hook U) X) (links : Nat) (t : Turn U X) : Prop where
  severed : Severed c links t.state
  top : ∀ f, t.frames.head? = some f → f.Mute t.state
  below : ∀ f ∈ t.frames.tail, f.still = true
  events : ∀ e ∈ t.events, e.mute = true

lemma hushed_end (h : Severed c links s) (signal : String) (ending : Ending) :
    Hushed c links (endTurn s signal ending) := by
  refine ⟨h, ?_, by simp [endTurn, Frame.still], by simp [endTurn]⟩
  intro f hf
  obtain rfl : .link s.current .kill = f := by simpa [endTurn] using hf
  rfl

lemma hushed_terminate (h : Severed c links s) (signal : String) (ending : Ending) :
    Hushed c links (terminateTurn s signal ending) := by
  unfold terminateTurn
  split
  · exact ⟨h, by simp, by simp, by simp⟩
  split
  · exact ⟨h, by simp [Frame.Mute], by simp, by simp [Event.mute]⟩
  rename_i k _
  have hkernel := h.setKernel s.current (k.terminate signal).kernel
  have hsevered : ∀ gone : Bool, Severed c links (if gone then
      (s.setKernel s.current (k.terminate signal).kernel).setHandler
        (s.setKernel s.current (k.terminate signal).kernel).current none
      else s.setKernel s.current (k.terminate signal).kernel) := by
    intro gone
    cases gone
    · exact hkernel
    · exact hkernel.setHandler
  have hevents : ∀ gone : Bool, ∀ e ∈ ((k.terminate signal).acts.map (.act (g := s.current)) ++
      (if gone then [.log .kernelTerminated] else []) : List (Event U X)), e.mute = true := by
    intro gone e he
    rcases List.mem_append.mp he with he | he
    · obtain ⟨a, -, rfl⟩ := List.mem_map.mp he
      rfl
    · cases gone <;> simp_all [Event.mute]
  simp only
  split
  · exact ⟨hsevered _, by simp [Frame.Mute], by simp, hevents _⟩
  · exact ⟨hsevered _, by simp, by simp, hevents _⟩

lemma Severed.of_link (h : Severed c links s) {l : Link U X} (hl : s.links[s.current]? = some l) :
    Stopped c l.coordinator := by
  have hc : s.coordinator = l.coordinator := by simp [coordinator_eq, coordinatorOf, hl]
  exact hc ▸ h.stopped

lemma Severed.set (h : Severed c links s) {l : Link U X} (hl : s.links[s.current]? = some l) {c' : Coordinator (Hook U) X}
    (hc : Stopped c c') : Severed c links (s.setCoordinator s.current c') :=
  h.setCoordinator (Nat.zero_lt_of_lt (List.getElem?_eq_some_iff.mp hl).1) hc

lemma hushed_link (h : Severed c links s) {f : Coordinator.Frame (Hook U) X} {t : Turn U X}
    (hf : (Frame.link s.current f).Mute s) (ht : (Frame.link s.current f).tick s = some t) : Hushed c links t := by
  simp only [Frame.tick] at ht
  split at ht
  · cases ht
    exact ⟨h, by simp, by simp, by simp⟩
  rename_i l hl
  have hst := h.of_link hl
  cases f with
  | submit task =>
    have hturn : Coordinator.submitTurn l.coordinator task =
        { state := { l.coordinator with tasks := l.coordinator.tasks ++ [task] }, events := [.log .ignored] } := by
      simp [Coordinator.submitTurn, hst.killed]
    obtain rfl : linkTurn s s.current (Coordinator.submitTurn l.coordinator task) = t := Option.some.inj ht
    rw [hturn]
    have hstill : Stopped c { l.coordinator with tasks := l.coordinator.tasks ++ [task] } :=
      ⟨hst.killed, hst.pending, hst.contexts, hst.inFlight, hst.lastTask, hst.lastContext⟩
    exact ⟨h.set hl hstill, by simp [linkTurn], by simp [linkTurn], by simp [linkTurn, Event.mute]⟩
  | kill =>
    cases ht
    have hstill : Stopped c { l.coordinator with killed := true, pending := [] } :=
      ⟨rfl, rfl, hst.contexts, hst.inFlight, hst.lastTask, hst.lastContext⟩
    exact ⟨h.set hl hstill, by simp [linkTurn, Coordinator.killTurn], by simp [linkTurn, Coordinator.killTurn],
      by simp [linkTurn, Coordinator.killTurn, hst.pending]⟩
  | assign x =>
    cases ht
    have hstill : Stopped c { l.coordinator with transform := x } :=
      ⟨hst.killed, hst.pending, hst.contexts, hst.inFlight, hst.lastTask, hst.lastContext⟩
    exact ⟨h.set hl hstill, by simp [linkTurn], by simp [linkTurn], by simp [linkTurn, Event.mute]⟩
  | _ => exact hf.elim

lemma Frame.Mute.current {g : Nat} {f : Coordinator.Frame (Hook U) X} (hf : (Frame.link g f).Mute s) : g = s.current := by
  cases f <;> first | exact hf | exact hf.elim

lemma hushed_tick (h : Severed c links s) {f : Frame U X} {t : Turn U X} (hf : f.Mute s) (ht : f.tick s = some t) :
    Hushed c links t := by
  cases f with
  | link g f =>
    obtain rfl := hf.current
    exact hushed_link h hf ht
  | awaitCall => cases ht
  | awaitTermination => cases ht
  | awaitWorker => cases ht
  | call => exact hf.elim
  | body => exact hf.elim
  | transmit => exact hf.elim
  | execute code hooks =>
    cases ht
    exact ⟨h, by simp [executeTurn, submit, Frame.Mute], by simp [executeTurn], by simp [executeTurn, Event.mute]⟩
  | complete code cursor hooks =>
    cases ht
    unfold completeTurn
    split <;> exact ⟨h, by simp [submit, Frame.Mute], by simp, by simp [Event.mute]⟩
  | inspect code cursor hooks =>
    cases ht
    unfold inspectTurn
    split <;> exact ⟨h, by simp [submit, Frame.Mute], by simp, by simp [Event.mute]⟩
  | assign x =>
    cases ht
    refine ⟨h.of_links rfl, ?_, by simp, by simp⟩
    simp [Frame.Mute, current]
  | respond hooks result =>
    cases ht
    have hk : s.killed = true := h.stopped.killed
    simp only [respondTurn, hk, if_true]
    exact ⟨h, by simp, by simp, by simp⟩
  | deliver worker message =>
    cases ht
    unfold deliverTurn
    split
    · exact ⟨h, by simp, by simp, by simp [Event.mute]⟩
    · rename_i g hg
      rw [hf g hg]
      exact ⟨h, by simp, by simp, by simp [Event.mute]⟩
  | arrive channel message =>
    cases ht
    unfold arriveTurn
    split
    · exact ⟨h, by simp, by simp, by simp⟩
    split
    · exact ⟨h, by simp, by simp, by simp⟩
    split
    · exact ⟨h, by simp, by simp, by simp [Event.mute]⟩
    · have hdeaf : ∀ k, handlerOf (s.setKernel s.current k) s.current = none :=
        fun k => (handlerOf_setKernel ..).trans h.handler
      refine ⟨h.setKernel .., ?_, ?_, by simp⟩ <;> simp only <;> split <;> simp [Frame.Mute, Frame.still, hdeaf]
  | emit g message =>
    cases ht
    have hdeaf : handlerOf s g = none := hf
    simp only [emitTurn, hdeaf]
    exact ⟨h, by simp, by simp, by simp [Event.mute]⟩
  | guarded =>
    cases ht
    exact ⟨h, by simp, by simp, by simp⟩
  | install handler =>
    cases ht
    obtain rfl : handler = none := hf
    exact ⟨h.setHandler, by simp, by simp, by simp⟩
  | kill signal notify =>
    cases ht
    exact hushed_end h ..
  | restart signal notify =>
    cases ht
    split
    · exact hushed_end h ..
    · exact ⟨h, by simp, by simp, by simp⟩
  | terminate signal ending =>
    cases ht
    exact hushed_terminate h ..
  | finish ending status =>
    cases ht
    cases ending with
    | stop => exact ⟨h, by simp [finishTurn], by simp [finishTurn], by simp [finishTurn, Event.mute]⟩
    | kill notify =>
      refine ⟨h, by simp [finishTurn], by simp [finishTurn], ?_⟩
      cases notify <;> simp [finishTurn, endedEvents, Event.mute]
    | restart notify =>
      exact ⟨h, by simp [finishTurn, Frame.Mute], by simp [finishTurn], by simp [finishTurn, Event.mute]⟩

lemma hushed_unwind (h : Severed c links s) {f : Frame U X} (hf : f.Mute s) (e : Fault) :
    Hushed c links (f.unwind s e) := by
  cases f with
  | link g f =>
    obtain rfl := hf.current
    simp only [Frame.unwind]
    split
    · exact ⟨h, by simp, by simp, by simp⟩
    rename_i l hl
    have hset := h.set hl (h.of_link hl)
    cases f with
    | submit | kill | assign => exact ⟨hset, by simp [linkTurn, Coordinator.Frame.unwind],
        by simp [linkTurn, Coordinator.Frame.unwind], by simp [linkTurn, Coordinator.Frame.unwind]⟩
    | _ => exact hf.elim
  | awaitCall => exact hf.elim
  | guarded =>
    simp only [Frame.unwind]
    split <;> exact ⟨h, by simp, by simp, by simp [Event.mute]⟩
  | _ => exact ⟨h, by simp [Frame.unwind], by simp [Frame.unwind], by simp [Frame.unwind]⟩

lemma hushed_answer (h : Severed c links s) {f : Frame U X} (hf : f.Mute s) {a : Answer} {t : Turn U X}
    (ha : ∀ w, a ≠ .worker w) (ht : f.answer s a = some t) : Hushed c links t := by
  unfold Frame.answer at ht
  split at ht
  · rename_i g f
    unfold Frame.answerLink at ht
    split at ht
    · cases f <;> first | exact hf.elim | simp [Coordinator.Frame.answer] at ht
    · cases ht
  · exact hf.elim
  · exact hf.elim
  · cases ht
    exact ⟨h, by simp [Frame.Mute], by simp, by simp⟩
  · cases ht
    exact ⟨h, by simp, by simp, by simp⟩
  · exact absurd rfl (ha _)
  · cases ht
    exact ⟨h, by simp, by simp, by simp⟩
  · cases ht

end Severed

/-- Since `base` nothing has been sent, called or taken in, and nothing that could do so stands on the stack. -/
structure Silenced (base m : Machine U X) : Prop where
  severed : Severed base.state.coordinator base.state.links.length m.state
  top : ∀ f, m.stack.head? = some f → f.Mute m.state
  below : ∀ f ∈ m.stack.tail, f.still = true
  events : ∃ more, m.events = more ++ base.events ∧ ∀ e ∈ more, e.mute = true

variable {base m n : Machine U X}

lemma Silenced.after {s : Session U X} {f : Frame U X} {r : List (Frame U X)} {fault : Option Fault} {es : List (Event U X)}
    {t : Turn U X} (hm : Silenced base ⟨s, f :: r, fault, es⟩)
    (ht : Hushed base.state.coordinator base.state.links.length t) :
    Silenced base (Machine.after ⟨s, f :: r, fault, es⟩ r t) := by
  have hr : ∀ g ∈ r, g.still = true := hm.below
  refine ⟨ht.severed, ?_, ?_, ?_⟩
  · intro g hg
    cases hfr : t.frames with
    | nil =>
      rw [Machine.after, hfr] at hg
      exact .of_still (hr g (List.mem_of_mem_head? hg))
    | cons a fs =>
      rw [Machine.after, hfr] at hg
      exact ht.top g (by simpa [hfr] using hg)
  · intro g hg
    cases hfr : t.frames with
    | nil =>
      rw [Machine.after, hfr] at hg
      exact hr g (List.mem_of_mem_tail hg)
    | cons a fs =>
      rw [Machine.after, hfr] at hg
      rcases List.mem_append.mp hg with hg | hg
      · exact ht.below g (by simpa [hfr] using hg)
      · exact hr g hg
  · obtain ⟨more, hmore, hmute⟩ := hm.events
    refine ⟨t.events.reverse ++ more, ?_, ?_⟩
    · simp only [Machine.after, List.append_assoc]
      exact congrArg _ hmore
    · intro e he
      rcases List.mem_append.mp he with he | he
      · exact ht.events e (List.mem_reverse.mp he)
      · exact hmute e he

lemma Frame.Mute.still_of_waits {s : Session U X} {f : Frame U X} (hf : f.Mute s) (hw : f.tick s = none) :
    f.still = true := by
  cases f with
  | link g f =>
    simp only [Frame.tick] at hw
    split at hw
    · cases hw
    · cases f <;> first | exact hf.elim | cases hw
  | awaitTermination => rfl
  | awaitWorker => rfl
  | awaitCall => exact hf.elim
  | _ => cases hw

lemma Silenced.push {operation : Operation U X} (ha : Lasting m (.start operation)) (hopen : m.open? = true)
    (hm : Silenced base m) : Silenced base (m.push operation) := by
  have hdeaf := hm.severed.handler
  have htop : operation.frame.Mute m.state := by
    cases operation with
    | deliver worker message =>
      intro g hg
      rcases ha g hg with rfl | hg
      · exact hdeaf
      · exact hg
    | install => exact ha.elim
    | transmit => exact ha.elim
    | _ => trivial
  have hbelow : ∀ f ∈ m.stack, f.still = true := by
    intro f hf
    cases hst : m.stack with
    | nil => simp [hst] at hf
    | cons g r =>
      rw [hst] at hf
      rcases List.mem_cons.mp hf with rfl | hf
      · simp only [Machine.open?, hst, Bool.and_eq_true, Option.isNone_iff_eq_none] at hopen
        exact (hm.top f (by simp [hst])).still_of_waits hopen.1
      · exact hm.below f (by simp [hst, hf])
  exact ⟨hm.severed, by simpa [Machine.push] using htop, by simpa [Machine.push] using hbelow, hm.events⟩

theorem silenced_step {move : Move U X} (ha : Lasting m move) (h : m.step move = some n) (hm : Silenced base m) :
    Silenced base n := by
  cases step_moved h with
  | ticked ht => exact hm.after (hushed_tick hm.severed (hm.top _ rfl) ht)
  | unwound => exact hm.after (hushed_unwind hm.severed (hm.top _ rfl) _)
  | started ho => exact hm.push ha ho
  | recovered => exact ⟨hm.severed, hm.top, hm.below, hm.events⟩
  | answered ht =>
    refine hm.after (hushed_answer hm.severed (hm.top _ rfl) ?_ ht)
    rintro w rfl
    exact ha

/-- What a kill leaves behind it in a session. -/
structure Silent (m n : Machine U X) : Prop where
  /-- Nothing is sent, no hook and no transform is called, and no message is taken in. -/
  events : ∃ more, n.events = more ++ m.events ∧ ∀ e ∈ more, e.mute = true
  links : n.state.links.length = m.state.links.length
  contexts : n.state.coordinator.contexts = m.state.coordinator.contexts
  inFlight : n.state.coordinator.inFlight = m.state.coordinator.inFlight
  lastTask : n.state.coordinator.lastTask = m.state.coordinator.lastTask
  lastContext : n.state.coordinator.lastContext = m.state.coordinator.lastContext
  /-- Wherever outside code has control again, the session is killed and nothing waits in its queue. -/
  killed : n.open? = true → n.state.killed = true ∧ n.state.coordinator.pending = []

lemma Silenced.silent (h : Silenced m n) : Silent m n :=
  have hst := h.severed.stopped
  ⟨h.events, h.severed.length, hst.contexts, hst.inFlight, hst.lastTask, hst.lastContext,
    fun _ => ⟨hst.killed, hst.pending⟩⟩

lemma run_tick {s : Session U X} {f : Frame U X} {r : List (Frame U X)} {es : List (Event U X)} {t : Turn U X}
    {moves : List (Move U X)} (ht : f.tick s = some t) (ha : ∀ a, f.answer s a = none)
    (hr : Machine.run ⟨s, f :: r, none, es⟩ moves = some n) :
    n = ⟨s, f :: r, none, es⟩ ∨ ∃ rest, moves = .tick :: rest ∧
      Machine.run (Machine.after ⟨s, f :: r, none, es⟩ r t) rest = some n := by
  cases moves with
  | nil => exact .inl (Option.some.inj hr).symm
  | cons move rest =>
    refine .inr ⟨rest, ?_⟩
    obtain ⟨p, hp, hrest⟩ := Option.bind_eq_some_iff.mp hr
    cases move with
    | tick =>
      simp only [Machine.step, Machine.tick, ht, Option.map_some, Option.some.injEq] at hp
      exact ⟨rfl, hp ▸ hrest⟩
    | start => simp [Machine.step, Machine.open?, ht] at hp
    | answer a => simp [Machine.step, Machine.answer, ha a] at hp
    | recover => simp [Machine.step] at hp

lemma killTurn_mute (g : Nat) (c : Coordinator (Hook U) X) :
    ∀ e ∈ (Coordinator.killTurn c).events.map (Event.link (U := U) g), e.mute = true := by
  unfold Coordinator.killTurn
  split <;> simp [Event.mute]

def struck (s : Session U X) : Session U X :=
  s.setCoordinator s.current { s.coordinator with killed := true, pending := [] }

lemma struck_stopped {s : Session U X} (hs : 0 < s.links.length) : Stopped s.coordinator s.struck.coordinator := by
  have hset := coordinatorOf_set s (current_lt hs) { s.coordinator with killed := true, pending := [] }
  rw [coordinator_eq s.struck, struck, current_congr (setCoordinator_length ..), hset]
  exact ⟨rfl, rfl, rfl, rfl, rfl, rfl⟩

lemma struck_severed {s : Session U X} (hs : 0 < s.links.length) :
    Severed s.coordinator s.links.length (s.struck.setHandler s.struck.current none) := by
  have hlength : (s.struck.setHandler s.struck.current none).links.length = s.struck.links.length := by simp
  refine ⟨hlength.trans (setCoordinator_length ..), ?_, ?_⟩
  · rw [coordinator_eq (s.struck.setHandler ..), current_congr hlength, coordinatorOf_setHandler]
    exact struck_stopped hs
  · rw [current_congr hlength]
    exact handlerOf_setHandler ..

lemma tick_kill {s : Session U X} (hs : 0 < s.links.length) :
    (Frame.link s.current .kill).tick s =
      some { state := s.struck, events := (Coordinator.killTurn s.coordinator).events.map (.link s.current) } := by
  obtain ⟨l, hl⟩ : ∃ l, s.links[s.current]? = some l := ⟨_, List.getElem?_eq_getElem (current_lt hs)⟩
  have hc : s.coordinator = l.coordinator := by simp [coordinator_eq, coordinatorOf, hl]
  simp only [Frame.tick, hl, hc, struck]
  rfl

lemma answer_kill (s : Session U X) (a : Answer) : (Frame.link s.current .kill).answer s a = none := by
  simp only [Frame.answer, Frame.answerLink]
  split
  · rename_i a _ _
    cases a <;> rfl
  · rfl

lemma Silent.of_busy {s : Session U X} {f : Frame U X} {r : List (Frame U X)} {es more : List (Event U X)} {t : Turn U X}
    (ht : f.tick s = some t) (he : es = more ++ m.events) (hm : ∀ e ∈ more, e.mute = true)
    (hl : s.links.length = m.state.links.length) (hc : s.coordinator.contexts = m.state.coordinator.contexts)
    (hi : s.coordinator.inFlight = m.state.coordinator.inFlight) (hlt : s.coordinator.lastTask = m.state.coordinator.lastTask)
    (hlc : s.coordinator.lastContext = m.state.coordinator.lastContext) : Silent m ⟨s, f :: r, none, es⟩ := by
  refine ⟨⟨more, he, hm⟩, hl, hc, hi, hlt, hlc, fun ho => ?_⟩
  simp [Machine.open?, ht] at ho

/-- A kill takes hold in three stages, and nothing else can happen before they are over. -/
lemma Housed.silent {signal : String} {notify : Bool} {later : List (Move U X)} (hh : Housed m) (hcalm : m.Calm)
    (hf : Follows Machine.step Lasting m (.start (.kill signal notify) :: later))
    (hr : m.run (.start (.kill signal notify) :: later) = some n) : Silent m n := by
  obtain ⟨s, stack, fault, es⟩ := m
  have hs : 0 < s.links.length := hh.inhabited
  have hst := struck_stopped hs
  have hmute := killTurn_mute s.current s.coordinator
  obtain ⟨m₁, hstart, hr₁⟩ := Option.bind_eq_some_iff.mp hr
  have hf₁ := hf.2 m₁ hstart
  simp only [Machine.step, Option.ite_none_right_eq_some, Option.some.injEq] at hstart
  obtain ⟨-, rfl⟩ := hstart
  rcases run_tick rfl (fun a => by cases a <;> rfl) hr₁ with rfl | ⟨later₂, rfl, hr₂⟩
  · exact .of_busy rfl (List.nil_append _).symm (by simp) rfl rfl rfl rfl rfl
  have hf₂ := hf₁.2 _ rfl
  rcases run_tick (tick_kill hs) (answer_kill s) hr₂ with rfl | ⟨later₃, rfl, hr₃⟩
  · exact .of_busy (tick_kill hs) (List.nil_append _).symm (by simp) rfl rfl rfl rfl rfl
  have hf₃ := hf₂.2 _ (congrArg (Option.map _) (tick_kill hs))
  rcases run_tick rfl (fun a => by cases a <;> rfl) hr₃ with rfl | ⟨later₄, rfl, hr₄⟩
  · exact .of_busy rfl rfl (by simpa using hmute) (setCoordinator_length ..) hst.contexts hst.inFlight hst.lastTask
      hst.lastContext
  have hf₄ := hf₃.2 _ rfl
  rw [Machine.run_eq] at hr₄
  refine (run_invariant (I := Silenced ⟨s, stack, fault, es⟩) silenced_step hf₄ hr₄ ?_).silent
  refine ⟨struck_severed hs, ?_, ?_, ⟨_, rfl, ?_⟩⟩
  · intro f hf
    obtain rfl : .terminate signal (.kill notify) = f := Option.some.inj hf
    trivial
  · intro f hf
    rcases hcalm f hf with ⟨_, rfl⟩ | ⟨_, _, rfl⟩ <;> rfl
  · simpa using hmute

/-- Whatever a session has gone through, a kill that is asked for outside hooks silences it. -/
theorem kill_silences {worker : Worker} {transform : Option X} {restartable : Bool} {documentation : Documentation.Index}
    {before later : List (Move U X)} {signal : String} {notify : Bool}
    (hm : Machine.run { state := Session.make worker transform restartable documentation } before = some m)
    (hcalm : m.Calm) (hf : Follows Machine.step Lasting m (.start (.kill signal notify) :: later))
    (hn : m.run (.start (.kill signal notify) :: later) = some n) : Silent m n :=
  (housed_run (housed_start ..) hm).silent hcalm hf hn

/-- The second request of an inspection has been sent, and a task waits in the queue. -/
def halfInspected : List (Move Nat Nat) :=
  let described : Value := .object [("id", .int 1), ("end", .bool true), ("inspection", .object [])]
  List.flatten [[.start (.inspect "a.b".toList 3 { success := some 0, afterRun := some 1 })], List.replicate 8 .tick,
    [.answer .done, .tick, .start (.deliver 0 described)], List.replicate 15 .tick,
    [.answer .done, .tick, .start (.execute "x" (some { beforeRun := some 2 })), .tick, .tick]]

/-- Calls, the answer of the worker that was ended, another transform, and a restart that finds no other worker. -/
def afterKill : List (Move Nat Nat) :=
  let gone : Move Nat Nat := .answer (.exited ⟨none, some "SIGTERM"⟩)
  List.flatten [List.replicate 4 .tick, [gone, .tick],
    [.start (.complete "f().x".toList 5 { success := some 3, beforeRun := some 4 }), .tick, .tick],
    [.start (.inspect "a.b".toList 3 { success := some 5, beforeRun := some 6 }), .tick, .tick],
    [.start (.assign (some 7)), .tick, .tick],
    [.start (.deliver 0 (.object [("id", .int 2), ("end", .bool true), ("inspection", .object [])])), .tick],
    [.start (.restart "SIGTERM" false)], List.replicate 4 .tick,
    [gone, .tick, .answer (.raised (.thrown ⟨"OSError", "", "OSError()", [], true⟩))]]

theorem halfInspected_silent :
    ∃ m n, Machine.run { state := Session.make (.remote 0) none true ⟨[], []⟩ } halfInspected = some m ∧
      m.run (.start (.kill "SIGTERM" true) :: afterKill) = some n ∧ Silent m n ∧ n.open? = true ∧
      m.state.coordinator.pending = [2] ∧ n.state.coordinator.contexts = [(2, 1)] ∧
      n.state.coordinator.inFlight = some 1 := by
  have h : (Machine.run { state := Session.make (.remote 0) none true ⟨[], []⟩ } halfInspected).isSome = true := by
    decide +kernel
  have hm := (Option.some_get h).symm
  have h' : (((Machine.run { state := Session.make (.remote 0) none true ⟨[], []⟩ } halfInspected).get
      (by decide +kernel)).run (.start (.kill "SIGTERM" true) :: afterKill)).isSome = true := by decide +kernel
  have hn := (Option.some_get h').symm
  have hf : Follows Machine.step Lasting ((Machine.run { state := Session.make (.remote 0) none true ⟨[], []⟩ }
      halfInspected).get (by decide +kernel)) (.start (.kill "SIGTERM" true) :: afterKill) := by decide +kernel
  have hst : ((Machine.run { state := Session.make (.remote 0) none true ⟨[], []⟩ } halfInspected).get h).stack = [] := rfl
  have hcalm : ((Machine.run { state := Session.make (.remote 0) none true ⟨[], []⟩ } halfInspected).get h).Calm := by
    intro f hm
    rw [hst] at hm
    cases hm
  exact ⟨_, _, hm, hn, kill_silences hm hcalm hf hn, rfl, rfl, rfl, rfl⟩

end EvalSession.Session
