import EvalSession.Proofs.Session.Forward
import EvalSession.Proofs.Session.Kernels

/-!
# A kill that the kernel refuses

A kernel looks at the signal before it does anything, but a kill comes to the kernel last: by then the session has given up
its queue and its messages. Main statement: a kill with an unknown signal fails, and leaves a session that is killed and
deaf over a kernel to which nothing has been done.
-/
namespace EvalSession.Session

variable {U X : Type} {s : Session U X} {m : Machine U X} {l : Link U X} {k : Kernel} {signal : String} {ending : Ending}

/-- The session takes nothing in and hears its worker no more, but the worker has not been ended. -/
def forsaken (s : Session U X) : Session U X :=
  { s with links := s.links.modify s.current fun l =>
      { l with handler := none, coordinator := { l.coordinator with killed := true, pending := [] } } }

/-- What a kill with a signal that the kernel does not know leads to. -/
structure Refused (signal : String) (m n : Machine U X) : Prop where
  /-- The call goes wrong in the hands of its caller, whose own work is left as it was. -/
  fault : n.fault = some (.unknownSignal signal)
  stack : n.stack = m.stack
  state : n.state = m.state.forsaken
  kernel : n.state.kernel? = m.state.kernel?
  /-- Nothing is done to the kernel, and nobody is told of the end of the session. -/
  events : n.events = (Coordinator.killTurn m.state.coordinator).events.reverse.map (.link m.state.current) ++ m.events

lemma forsaken_link (h : s.link? = some l) : s.forsaken.link? =
    some { l with handler := none, coordinator := { l.coordinator with killed := true, pending := [] } } := by
  have hcurrent : s.forsaken.current = s.current := current_congr (List.length_modify ..)
  rw [link?, hcurrent, forsaken, List.getElem?_modify_eq]
  exact congrArg (Option.map _) h

lemma struck_deaf (h : s.link? = some l) : s.struck.setHandler s.struck.current none = s.forsaken := by
  have hcurrent : s.struck.current = s.current := current_congr (setCoordinator_length ..)
  have hc : s.coordinator = l.coordinator := by simp [coordinator, h]
  have hl : s.links[s.current]? = some l := h
  rw [hcurrent]
  simp only [forsaken, struck, setHandler, setCoordinator, hc, List.modify_modify_eq]
  congr 1
  refine List.ext_getElem? fun i => ?_
  simp only [List.getElem?_modify]
  split
  · subst_vars
    simp [hl]
  · rfl

lemma terminateTurn_unknown (h : s.kernel? = some k) (hs : Signal.number? signal = none) :
    terminateTurn s signal ending = { state := s, fault := some (.unknownSignal signal) } := by
  obtain ⟨l, hl, hk⟩ := link_of_kernel h
  simp only [terminateTurn, hl, hk, Kernel.terminate, hs, setKernel_same h]
  rfl

lemma kernel_forsaken (h : s.kernel? = some k) : s.forsaken.kernel? = some k := by
  obtain ⟨l, hl, hk⟩ := link_of_kernel h
  rw [kernel?, forsaken_link hl, Option.bind_some]
  simp only [hk]

lemma run_stage {f : Frame U X} {r : List (Frame U X)} {es : List (Event U X)} {t : Turn U X} (h : f.tick s = some t)
    (moves : List (Move U X)) :
    Machine.run ⟨s, f :: r, none, es⟩ (.tick :: moves) = Machine.run (Machine.after ⟨s, f :: r, none, es⟩ r t) moves := by
  simp only [Machine.run, Machine.step, Machine.tick, h, Option.map_some, Option.bind_some]

/-- A kill with a signal that the kernel does not know fails, after it has emptied the queue and closed the session. -/
theorem unknown_signal_forsakes {notify : Bool} (ho : m.open? = true) (hk : m.state.kernel? = some k)
    (hs : Signal.number? signal = none) :
    ∃ moves n, Way m [.start (.kill signal notify)] moves n ∧ Refused signal m n := by
  obtain ⟨s, stack, fault, es⟩ := m
  obtain ⟨l, hl, -⟩ := link_of_kernel hk
  have hinhabited : 0 < s.links.length := Nat.zero_lt_of_lt (List.getElem?_eq_some_iff.mp hl).1
  let dropped : List (Event U X) := (Coordinator.killTurn s.coordinator).events.map (.link s.current)
  let n : Machine U X := ⟨s.forsaken, stack, some (.unknownSignal signal), dropped.reverse ++ es⟩
  have hstart : Machine.step ⟨s, stack, fault, es⟩ (.start (.kill signal notify)) =
      some ⟨s, .kill signal notify :: stack, none, es⟩ := by
    simp [Machine.step, ho, Machine.push, Operation.frame]
  -- the coordinator and the handler are done with before the kernel looks at the signal
  have hstages : Machine.run ⟨s, .kill signal notify :: stack, none, es⟩ [.tick, .tick, .tick, .tick] = some n := by
    have hdeaf : (Frame.install none : Frame U X).tick s.struck = some { state := s.forsaken } := by
      simp only [Frame.tick, struck_deaf hl]
    have hrefused : (Frame.terminate signal (.kill notify) : Frame U X).tick s.forsaken =
        some { state := s.forsaken, fault := some (.unknownSignal signal) } :=
      congrArg some (terminateTurn_unknown (kernel_forsaken hk) hs)
    calc Machine.run ⟨s, .kill signal notify :: stack, none, es⟩ [.tick, .tick, .tick, .tick]
      _ = Machine.run ⟨s, .link s.current .kill :: .install none :: .terminate signal (.kill notify) :: stack, none, es⟩
          [.tick, .tick, .tick] := run_stage (t := endTurn s signal (.kill notify)) rfl _
      _ = Machine.run ⟨s.struck, .install none :: .terminate signal (.kill notify) :: stack, none, dropped.reverse ++ es⟩
          [.tick, .tick] := run_stage (tick_kill hinhabited) _
      _ = Machine.run ⟨s.forsaken, .terminate signal (.kill notify) :: stack, none, dropped.reverse ++ es⟩
          [.tick] := run_stage hdeaf _
      _ = some n := run_stage hrefused _
  have hrun : Machine.run ⟨s, stack, fault, es⟩ [.start (.kill signal notify), .tick, .tick, .tick, .tick] = some n := by
    rw [Machine.run, hstart, Option.bind_some, hstages]
  have hattentive : Follows Machine.step Attentive ⟨s, stack, fault, es⟩
      [.start (.kill signal notify), .tick, .tick, .tick, .tick] :=
    ⟨.inr ho, fun n _ => follows_of_mem (fun move hm _ => .inl (by simpa using hm)) n⟩
  refine ⟨_, n, ⟨rfl, hrun, fun other n' hd hf hr => doings_determine hd hattentive hrun hf hr⟩, ?_⟩
  exact ⟨rfl, rfl, rfl, (kernel_forsaken hk).trans hk.symm, by simp [n, dropped]⟩

/-- A task is with the kernel and another one waits in the queue. -/
def engaged : List (Move Nat Nat) :=
  List.flatten [[.start (.execute "x" none)], List.replicate 10 .tick, [.start (.execute "y" none), .tick, .tick]]

theorem engaged_forsaken :
    ∃ m n moves, Machine.run { state := Session.make (.kernel {}) none false ⟨[], []⟩ } engaged = some m ∧
      Way m [.start (.kill "SIGNOPE" true)] moves n ∧ Refused "SIGNOPE" m n := by
  have h : (Machine.run { state := Session.make (.kernel {}) none false ⟨[], []⟩ } engaged).isSome = true := by
    decide +kernel
  have hm := (Option.some_get h).symm
  have hk : ((Machine.run { state := Session.make (.kernel {}) none false ⟨[], []⟩ } engaged).get
      (by decide +kernel)).state.kernel?.isSome = true := by decide +kernel
  have hunknown : Signal.number? "SIGNOPE" = none := by decide +kernel
  have hrefused : ∃ moves n, Way (Option.get _ h) [.start (.kill "SIGNOPE" true)] moves n ∧
      Refused "SIGNOPE" (Option.get _ h) n := unknown_signal_forsakes rfl (Option.some_get hk).symm hunknown
  obtain ⟨moves, n, hway, hn⟩ := hrefused
  exact ⟨_, n, moves, hm, hway, hn⟩

/-- The refused kill costs the session its queue and its worker's messages, and is not undone. -/
theorem refused_kill_changes :
    ∃ m n, Machine.run { state := Session.make (.kernel {}) none false ⟨[], []⟩ } engaged = some m ∧
      m.run [.start (.kill "SIGNOPE" true), .tick, .tick, .tick, .tick] = some n ∧ Signal.number? "SIGNOPE" = none ∧
      n.fault = some (.unknownSignal "SIGNOPE") ∧ n.stack = [] ∧
      (m.state.killed, m.state.coordinator.pending, handlerOf m.state 0) = (false, [1], some .router) ∧
      (n.state.killed, n.state.coordinator.pending, handlerOf n.state 0) = (true, [], none) := by
  have h : (Machine.run { state := Session.make (.kernel {}) none false ⟨[], []⟩ } engaged).isSome = true := by
    decide +kernel
  have hm := (Option.some_get h).symm
  have h' : (((Machine.run { state := Session.make (.kernel {}) none false ⟨[], []⟩ } engaged).get
      (by decide +kernel)).run [.start (.kill "SIGNOPE" true), .tick, .tick, .tick, .tick]).isSome = true := by
    decide +kernel
  have hn := (Option.some_get h').symm
  exact ⟨_, _, hm, hn, by decide +kernel, rfl, rfl, rfl, rfl⟩

end EvalSession.Session
