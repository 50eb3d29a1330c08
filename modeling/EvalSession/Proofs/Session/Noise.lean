import EvalSession.Proofs.Message.Decoding
import EvalSession.Proofs.Session.Containment
import EvalSession.Proofs.Session.Kernels

/-!
# Noise

A worker may send what no task waits for: log messages, messages that cannot be read, and chunks of output. Main statement:
wherever such messages are put into a run, nothing that is sent or called and no state in between changes by it, but for the
calls of stream hooks that the chunks bring; and messages that are no chunks bring none.
-/
namespace EvalSession

namespace Message

/-- No task waits for the message: it cannot be read, it is a log message whatever else it holds or, if chunks count, a chunk
of output whatever task it claims to be for. -/
def Noise (chunks : Bool) (v : Value) : Prop :=
  Refused v ∨ ∃ o : Object, v = .object o ∧
    (o.has "log" = true ∨ chunks = true ∧ (o.has "stdout" = true ∨ o.has "stderr" = true))

def faint (chunks : Bool) : Except DecodeError Message → Bool
  | .error _ => true
  | .ok (.log _) => true
  | .ok (.stream ..) => chunks
  | .ok (.reply ..) => false

lemma variant_of_has {o : Object} :
    (Variant.of o = .log ↔ o.has "log" = true) ∧
      (Variant.of o = .stream ↔ o.has "log" = false ∧ (o.has "stdout" = true ∨ o.has "stderr" = true)) := by
  have hof := chosen_of o
  refine ⟨⟨fun h => ?_, fun h => hof.unique ⟨.inr ⟨"log", by simp [tags], h⟩, by simp [rank]⟩⟩, fun h => ?_, fun h => ?_⟩
  · rw [h] at hof
    simpa [tags] using hof.tagged
  · rw [h] at hof
    exact ⟨hof.first .log (by decide) "log" (by simp [tags]), by simpa [tags] using hof.tagged⟩
  · refine hof.unique ⟨.inr (by simpa [tags] using h.2), fun other hrank key hkey => ?_⟩
    obtain rfl : other = .log := rank_injective (Nat.lt_one_iff.mp hrank)
    obtain rfl : key = "log" := by simpa [tags] using hkey
    exact h.1

lemma faint_object (chunks : Bool) (o : Object) :
    faint chunks (decode (.object o)) = true ↔
      (∃ e, decode (.object o) = .error e) ∨ Variant.of o = .log ∨ chunks = true ∧ Variant.of o = .stream := by
  simp only [decode]
  cases hread : readObject (Variant.of o) o with
  | error problems => simp [faint]
  | ok m =>
    have hv := variant_of_ok hread
    cases hof : Variant.of o with
    | log =>
      rw [hof] at hread
      obtain ⟨_, -, rfl⟩ := map_ok hread
      simp [faint]
    | stream =>
      rw [hof] at hread
      obtain ⟨⟨_, out, _⟩, -, rfl⟩ := map_ok hread
      cases out <;> simp [faint]
    | _ =>
      rw [hof] at hread
      obtain ⟨_, -, rfl⟩ := map_ok hread
      simp [faint]

lemma noise_iff {chunks : Bool} {v : Value} : Noise chunks v ↔ faint chunks (decode v) = true := by
  cases v with
  | object o =>
    rw [faint_object, Noise, decode_error_iff, variant_of_has.1, variant_of_has.2]
    simp only [Value.object.injEq, exists_eq_left']
    cases Object.has o "log" <;> simp
  | _ => exact ⟨fun _ => rfl, fun _ => .inl (.inl (by simp))⟩

instance (chunks : Bool) (v : Value) : Decidable (Noise chunks v) := decidable_of_iff _ noise_iff.symm

end Message

lemma Kernel.receive_ordinary (k : Kernel) (channel : Kernel.Channel) (message : Value) :
    ∀ e ∈ (k.receive channel message).fault, e.ordinary = true := by
  have hfinish : ∀ (k : Kernel) p, ∀ e ∈ (k.finish p).fault, e.ordinary = true := by
    intro k p
    unfold Kernel.finish
    split
    · simp
    · simp only
      split
      · rename_i hpayload
        simpa using Kernel.replyPayload_ordinary _ hpayload
      · simp
  cases channel with
  | output =>
    simp only [Kernel.receive, Kernel.onOutput]
    unfold Kernel.output
    repeat' split
    all_goals first | exact hfinish _ _ | simp [Kernel.Arrival.refused, Fault.ordinary]
  | replies =>
    simp only [Kernel.receive, Kernel.onReply]
    repeat' split
    all_goals first | exact hfinish _ _ | simp [Kernel.Arrival.refused, Fault.ordinary]

namespace Session

open Message (Noise)

variable {U X : Type} {chunks : Bool}

/-- Whatever the kernel makes of the message, it is left as it was, and the session gets to hear noise at most. -/
def Overheard (chunks : Bool) (s : Session U X) (channel : Kernel.Channel) (message : Value) : Prop :=
  ∀ k ∈ s.kernel?, k.listening = true → (k.receive channel message).kernel = k ∧
    ∀ o ∈ (k.receive channel message).emitted, Noise chunks (.object o)

instance (s : Session U X) (channel : Kernel.Channel) (message : Value) : Decidable (Overheard chunks s channel message) := by
  unfold Overheard
  infer_instance

/-- A worker brings noise. -/
def Operation.Noisy (chunks : Bool) (s : Session U X) : Operation U X → Prop
  | .deliver _ message => Noise chunks message
  | .arrive channel (some message) => Overheard chunks s channel message
  | _ => False

instance (s : Session U X) (operation : Operation U X) : Decidable (operation.Noisy chunks s) :=
  match operation with
  | .deliver _ message => inferInstanceAs (Decidable (Noise chunks message))
  | .arrive channel (some message) => inferInstanceAs (Decidable (Overheard chunks s channel message))
  | .arrive _ none | .execute .. | .complete .. | .inspect .. | .assign _ | .kill .. | .restart .. | .transmit .. | .install _
  | .terminate _ => isFalse id

def Frame.Noisy (chunks : Bool) (s : Session U X) : Frame U X → Prop
  | .deliver _ message | .link _ (.route message) => Noise chunks message
  | .arrive channel (some message) => Overheard chunks s channel message
  | .emit _ message => Noise chunks (.object message)
  | .guarded => True
  | .link _ (.call _ _ (.chunk _)) | .link _ (.awaitHook _ (.chunk _)) => chunks = true
  | _ => False

/-- Notes that noise leaves, and the calls of stream hooks if it may hold chunks. -/
def Event.faint (chunks : Bool) : Event U X → Bool
  | .link _ (.routed message) => decide (Noise chunks message)
  | .emitted message => decide (Noise chunks (.object message))
  | .link _ (.log _) | .log _ | .detached _ => true
  | .link _ (.told _ _ (.chunk _)) | .link _ (.called _ (.chunk _)) | .link _ (.raised _) | .link _ (.escaped ..) => chunks
  | _ => false

@[simp] lemma faint_routed (g : Nat) (message : Value) :
    (Event.link g (.routed message) : Event U X).faint chunks = decide (Noise chunks message) := rfl

@[simp] lemma faint_linkLog (g : Nat) (entry : Diagnostic) : (Event.link g (.log entry) : Event U X).faint chunks = true := rfl

@[simp] lemma faint_log (entry : Diagnostic) : (Event.log entry : Event U X).faint chunks = true := rfl

/-- All that is sent and called, and all else that happens but for traces of noise. -/
def noticed (chunks : Bool) (es : List (Event U X)) : List (Event U X) := es.filter fun e => !e.faint chunks

/-- A move that both runs make, or one that only the run with noise makes. -/
inductive Strand (U X : Type) where
  | shared (move : Move U X)
  | noise (move : Move U X)

def Strand.move : Strand U X → Move U X
  | .shared move => move
  | .noise move => move

def Strand.shared? : Strand U X → Option (Move U X)
  | .shared move => some move
  | .noise _ => none

/-- A run without noise, and the same with noise. -/
structure Pair (U X : Type) where
  plain : Machine U X
  noisy : Machine U X

def Pair.step (p : Pair U X) : Strand U X → Option (Pair U X)
  | .shared move => (p.plain.step move).bind fun m => (p.noisy.step move).map fun n => ⟨m, n⟩
  | .noise move => (p.noisy.step move).map fun n => { p with noisy := n }

/-- Both runs go on where what the noise has brought is over; outside code does no more about noise than to end stream
hooks, or to handle what they raise where it delivered the noise. -/
def Woven (chunks : Bool) (p : Pair U X) : Strand U X → Prop
  | .shared move => p.noisy.stack.length = p.plain.stack.length ∧
      (p.noisy.fault = p.plain.fault ∨ p.noisy.fault = none ∧ ∃ operation, move = .start operation)
  | .noise move => (p.noisy.step move).isSome = true ∧
      match move with
      | .start operation => operation.Noisy chunks p.noisy.state
      | .recover => p.plain.stack.length < p.noisy.stack.length ∨ p.noisy.fault ≠ p.plain.fault
      | .tick | .answer _ => p.plain.stack.length < p.noisy.stack.length

instance (p : Pair U X) (strand : Strand U X) : Decidable (Woven chunks p strand) :=
  match strand with
  | .shared (.start _) =>
    decidable_of_iff (p.noisy.stack.length = p.plain.stack.length ∧
      (p.noisy.fault = p.plain.fault ∨ p.noisy.fault = none)) (by simp [Woven])
  | .shared .tick | .shared (.answer _) | .shared .recover =>
    decidable_of_iff (p.noisy.stack.length = p.plain.stack.length ∧ p.noisy.fault = p.plain.fault) (by simp [Woven])
  | .noise (.start operation) =>
    decidable_of_iff ((p.noisy.step (.start operation)).isSome = true ∧ operation.Noisy chunks p.noisy.state) Iff.rfl
  | .noise .recover =>
    decidable_of_iff ((p.noisy.step .recover).isSome = true ∧
      (p.plain.stack.length < p.noisy.stack.length ∨ p.noisy.fault ≠ p.plain.fault)) Iff.rfl
  | .noise .tick =>
    decidable_of_iff ((p.noisy.step .tick).isSome = true ∧ p.plain.stack.length < p.noisy.stack.length) Iff.rfl
  | .noise (.answer a) =>
    decidable_of_iff ((p.noisy.step (.answer a)).isSome = true ∧ p.plain.stack.length < p.noisy.stack.length) Iff.rfl

/-- A fault that the stream hook of a chunk lets out. -/
def Stray (chunks : Bool) (e : Fault) : Prop := chunks = true ∧ e.ordinary = false

/-- After these strands, of which `last` is the last one, the noise has changed nothing: not the state of the session, nothing
that has been sent or called, and not the work that is left below its own. -/
structure Unchanged (chunks : Bool) (last : Option (Strand U X)) (m n : Machine U X) : Prop where
  state : n.state = m.state
  events : m.events.Sublist n.events
  noticed : noticed chunks n.events = noticed chunks m.events
  stack : m.stack <:+ n.stack
  /-- What both runs do ends in the same way for those who asked for it. -/
  settled : ∀ move, last = some (.shared move) → n.stack = m.stack ∧ n.fault = m.fault
  /-- Who delivers noise gets to see no other fault than one of a stream hook. -/
  fault : n.stack = m.stack → ∀ e ∈ n.fault, n.fault = m.fault ∨ Stray chunks e

/-- A fault among this work: it will be contained there, or it comes from a stream hook. -/
def Damped (chunks : Bool) (work : List (Frame U X)) (fault : Option Fault) : Prop :=
  ∀ e ∈ fault, Stray chunks e ∨ e.ordinary = true ∧ .guarded ∈ work

/-- Work that noise has brought, on top of a machine where outside code has control. -/
structure Astir (chunks : Bool) (m n : Machine U X) (noise : List (Frame U X)) : Prop where
  frames : ∀ f ∈ noise, f.Noisy chunks m.state
  opened : m.open? = true
  fault : Damped chunks noise n.fault

/-- The runs are in step, or noise is under way where outside code has control. -/
structure Veiled (chunks : Bool) (m n : Machine U X) : Prop where
  state : n.state = m.state
  events : m.events.Sublist n.events
  noticed : noticed chunks n.events = noticed chunks m.events
  apart : n.stack = m.stack ∧ n.fault = m.fault ∨ ∃ noise, n.stack = noise ++ m.stack ∧ Astir chunks m n noise

/-- The outcome of a stage of noise above this work. -/
structure Muffled (chunks : Bool) (s : Session U X) (below : List (Frame U X)) (t : Turn U X) : Prop where
  state : t.state = s
  frames : ∀ f ∈ t.frames, f.Noisy chunks s
  events : ∀ e ∈ t.events, e.faint chunks = true
  fault : Damped chunks (t.frames ++ below) t.fault

section Stages

variable {s : Session U X} {f : Frame U X} {below : List (Frame U X)} {t : Turn U X} {g : Nat} {l : Link U X}
  {fs : List (Coordinator.Frame (Hook U) X)} {es : List (Coordinator.Event (Hook U) X)} {fault : Option Fault} {e : Fault}

lemma damped_none {work : List (Frame U X)} : Damped chunks work none := by simp [Damped]

lemma Damped.tail (h : Damped chunks (f :: below) fault) (hf : f ≠ .guarded) : Damped chunks below fault := fun e he =>
  (h e he).imp_right fun ⟨ho, hm⟩ => ⟨ho, (List.mem_cons.mp hm).resolve_left (Ne.symm hf)⟩

lemma Muffled.of_frames {fs : List (Frame U X)} {es : List (Event U X)} (hfs : ∀ f ∈ fs, f.Noisy chunks s)
    (hes : ∀ e ∈ es, e.faint chunks = true) : Muffled chunks s below ⟨s, fs, es, none⟩ :=
  ⟨rfl, hfs, hes, damped_none⟩

lemma Muffled.of_link (hl : s.links[g]? = some l) (hfs : ∀ f ∈ fs, (Frame.link g f).Noisy chunks s)
    (hes : ∀ e ∈ es, (Event.link (U := U) g e).faint chunks = true) (hfault : Damped chunks below fault) :
    Muffled chunks s below (linkTurn s g ⟨l.coordinator, fs, es, fault⟩) := by
  refine ⟨setCoordinator_same hl, ?_, ?_, fun e he => ?_⟩
  · simpa [linkTurn] using hfs
  · simpa [linkTurn] using hes
  · exact (hfault e he).imp_right fun h => ⟨h.1, List.mem_append_right _ h.2⟩

lemma resolveEvents_faint (c : Coordinator (Hook U) X) (id : Option Int) (g : Nat) :
    ∀ e ∈ c.resolveEvents id, (Event.link (U := U) g e).faint chunks = true := by
  unfold Coordinator.resolveEvents
  split <;> simp

lemma muffled_stream {task : Nat} {channel : Channel} {text : String} (hl : s.links[g]? = some l)
    (hes : ∀ e ∈ es, (Event.link (U := U) g e).faint true = true) :
    Muffled true s below (linkTurn s g (Coordinator.streamTurn l.coordinator task channel text es)) := by
  have hcall : ∀ moment, ∀ f ∈ [Coordinator.Frame.call task moment (.chunk text)],
      (Frame.link g f : Frame U X).Noisy true s := by
    simp [Frame.Noisy]
  have hmissing : ∀ e ∈ es ++ [.log (.missingStream channel)], (Event.link (U := U) g e).faint true = true := by
    simpa [or_imp, forall_and] using hes
  cases channel with
  | stdout | stderr =>
    simp only [Coordinator.streamTurn]
    split
    · exact .of_link hl (hcall _) hes damped_none
    · exact .of_link hl (by simp) hmissing damped_none

/-- Noise gets no further than to the stream hook of a task. -/
lemma muffled_route {message : Value} (hl : s.links[g]? = some l) (hn : Noise chunks message) :
    Muffled chunks s below (linkTurn s g (Coordinator.routeTurn l.coordinator message)) := by
  have hdecode := Message.noise_iff.mp hn
  unfold Coordinator.routeTurn
  split
  · exact .of_link hl (by simp) (by simp [hn]) damped_none
  · exact .of_link hl (by simp) (by simp [hn]) damped_none
  · rename_i id channel text hd
    obtain rfl : chunks = true := by simpa [hd, Message.faint] using hdecode
    have hresolve : ∀ e ∈ l.coordinator.resolveEvents id, (Event.link (U := U) g e).faint true = true :=
      resolveEvents_faint l.coordinator id g
    split
    · exact .of_link hl (by simp) (by simpa [hn, or_imp, forall_and] using hresolve) damped_none
    · exact muffled_stream hl (by simpa [hn] using hresolve)
  · rename_i hd
    simp [hd, Message.faint] at hdecode

lemma muffled_call {task : Nat} {moment : Moment} {text : String} (hl : s.links[g]? = some l) (hchunks : chunks = true)
    (ht : tickLink s g l (.call task moment (.chunk text)) = some t) : Muffled chunks s below t := by
  obtain rfl := Option.some.inj ht
  cases hh : l.coordinator.hookOf task moment with
  | none =>
    simp only [Coordinator.callTurn, hh, Option.toList_none, List.flatMap_nil, List.nil_append]
    exact .of_link hl (by simp) (by simp) damped_none
  | some hook =>
    have hbody : (bodyOf hook (.chunk text) : List (Frame U X)) = [] := by cases hook <;> rfl
    simp only [Coordinator.callTurn, hh, Option.toList_some, List.flatMap_singleton, hbody, List.nil_append]
    exact .of_link hl (by simp [Frame.Noisy, hchunks]) (by simp [Event.faint, hchunks]) damped_none

lemma muffled_arrive {channel : Kernel.Channel} {message : Value} (h : Overheard chunks s channel message) :
    Muffled chunks s below (arriveTurn s channel (some message)) := by
  unfold arriveTurn
  split
  · exact .of_frames (by simp) (by simp)
  rename_i k hk
  split
  · exact .of_frames (by simp) (by simp)
  rename_i hlistening
  obtain ⟨hkernel, hemitted⟩ := h k hk (by simpa using hlistening)
  refine ⟨?_, ?_, by simp, fun e he => .inr ⟨Kernel.receive_ordinary k channel message e he, ?_⟩⟩
  · simp only [hkernel, setKernel_same hk]
  · dsimp only
    split
    · rename_i o ho
      simpa [Frame.Noisy] using hemitted o ho
    · simp [Frame.Noisy]
  · dsimp only
    split <;> simp

lemma muffled_tick (hf : f.Noisy chunks s) (ht : f.tick s = some t) : Muffled chunks s below t := by
  cases f with
  | link g f =>
    simp only [Frame.tick] at ht
    split at ht
    · cases ht
      exact .of_frames (by simp) (by simp)
    rename_i l hl
    cases f with
    | route message =>
      cases ht
      exact muffled_route hl hf
    | call task moment argument =>
      cases argument with
      | chunk text => exact muffled_call hl hf ht
      | _ => exact hf.elim
    | awaitHook hook argument =>
      cases hook with
      | user => cases ht
      | _ =>
        cases ht
        exact .of_frames (by simp) (by simp)
    | _ => exact hf.elim
  | deliver worker message =>
    cases ht
    simp only [deliverTurn]
    split
    · exact .of_frames (by simp) (by simp [Event.faint])
    · split
      · exact .of_frames (by simp) (by simp [Event.faint])
      · exact .of_frames (fun f hm => List.mem_singleton.mp hm ▸ hf) (by simp)
  | arrive channel message =>
    cases ht
    cases message with
    | none => exact hf.elim
    | some m => exact muffled_arrive hf
  | emit g message =>
    cases ht
    simp only [emitTurn]
    split
    · exact .of_frames (by simp) (by simp)
    · exact .of_frames (fun f hm => List.mem_singleton.mp hm ▸ hf) (by simp)
    · exact .of_frames (by simp) fun e hm => List.mem_singleton.mp hm ▸ decide_eq_true hf
  | guarded =>
    cases ht
    exact .of_frames (by simp) (by simp)
  | _ => exact hf.elim

lemma muffled_hook {hook : Hook U} (hl : s.links[g]? = some l) (hchunks : chunks = true) (e : Fault) :
    Muffled chunks s below (linkTurn s g (Coordinator.Frame.hookFailed l.coordinator hook e)) := by
  unfold Coordinator.Frame.hookFailed
  split
  · exact .of_link hl (by simp) (by simp [Event.faint, hchunks]) damped_none
  · rename_i ho
    refine .of_link hl (by simp) (by simp [Event.faint, hchunks]) fun e' he => .inl ⟨hchunks, ?_⟩
    obtain rfl := Option.some.inj he
    simpa using ho

lemma muffled_unwind (hf : f.Noisy chunks s) (he : Damped chunks (f :: below) (some e)) :
    Muffled chunks s below (f.unwind s e) := by
  cases f with
  | link g f =>
    have hbelow := he.tail (by simp)
    simp only [Frame.unwind]
    split
    · exact ⟨rfl, by simp, by simp, hbelow⟩
    rename_i l hl
    cases f with
    | route message => exact .of_link hl (by simp) (by simp) hbelow
    | call task moment argument => exact .of_link hl (by simp) (by simp) hbelow
    | awaitHook hook argument =>
      cases argument with
      | chunk text => exact muffled_hook hl hf e
      | _ => exact hf.elim
    | _ => exact hf.elim
  | guarded =>
    simp only [Frame.unwind]
    split
    · exact .of_frames (by simp) (by simp)
    · rename_i ho
      exact ⟨rfl, by simp, by simp, fun e' he' => .inl ((he e' he').resolve_right fun h => ho (Option.some.inj he' ▸ h.1))⟩
  | deliver | arrive | emit => exact ⟨rfl, by simp [Frame.unwind], by simp [Frame.unwind], he.tail (by simp)⟩
  | _ => exact hf.elim

lemma muffled_answer (hf : f.Noisy chunks s) {a : Answer} (ht : f.answer s a = some t) : Muffled chunks s below t := by
  cases f with
  | link g f =>
    simp only [Frame.answer, Frame.answerLink] at ht
    split at ht
    · rename_i l b hl hb
      cases f with
      | awaitHook hook argument =>
        cases argument with
        | chunk text =>
          cases b with
          | done =>
            cases ht
            exact .of_link hl (by simp) (by simp) damped_none
          | code v => cases ht
          | raised e =>
            cases ht
            exact muffled_hook hl hf e
        | _ => exact hf.elim
      | route message => cases b <;> cases ht
      | call => cases b <;> cases ht
      | _ => exact hf.elim
    · cases ht
  | deliver | arrive | emit | guarded => cases a <;> cases ht
  | _ => exact hf.elim

end Stages

section Steps

variable {m n n' : Machine U X} {move : Move U X}

lemma noticed_append (a b : List (Event U X)) : noticed chunks (a ++ b) = noticed chunks a ++ noticed chunks b :=
  List.filter_append a b

lemma noticed_faint {es : List (Event U X)} (h : ∀ e ∈ es, e.faint chunks = true) : noticed chunks es = [] := by
  simpa [noticed] using h

lemma step_anyway {s : Session U X} {r : List (Frame U X)} {fault : Option Fault} {es : List (Event U X)}
    (h : Machine.step ⟨s, r, fault, es⟩ move = some n) (es' : List (Event U X)) :
    ∃ new, n.events = new ++ es ∧ Machine.step ⟨s, r, fault, es'⟩ move = some { n with events := new ++ es' } := by
  cases step_moved h with
  | ticked ht => exact ⟨_, rfl, by simp [Machine.step, Machine.tick, ht, Machine.after]⟩
  | unwound => exact ⟨_, rfl, by simp [Machine.step, Machine.tick, Machine.after]⟩
  | answered ht => exact ⟨_, rfl, by simp [Machine.step, Machine.answer, ht, Machine.after]⟩
  | started ho => exact ⟨[], rfl, if_pos ho⟩
  | recovered => exact ⟨[], rfl, if_pos (Option.ite_none_right_eq_some.mp h).1⟩

/-- Noise that is under way changes nothing, and stays on top. -/
lemma veiled_after {s : Session U X} {f : Frame U X} {r : List (Frame U X)} {fault : Option Fault} {es : List (Event U X)}
    {t : Turn U X} (h : Veiled chunks m ⟨s, f :: r, fault, es⟩) (hlt : m.stack.length < (f :: r).length)
    (ht : ∀ below, f.Noisy chunks s → Damped chunks (f :: below) fault → Muffled chunks s below t) :
    Veiled chunks m (Machine.after ⟨s, f :: r, fault, es⟩ r t) := by
  obtain ⟨noise, hstack, hnoise⟩ := h.apart.resolve_left fun hsame => (congrArg List.length hsame.1).not_gt hlt
  have hs : s = m.state := h.state
  obtain ⟨below, rfl, rfl⟩ : ∃ below, noise = f :: below ∧ r = below ++ m.stack := by
    cases noise with
    | nil => exact absurd hlt ((congrArg List.length hstack).not_gt)
    | cons g below =>
      obtain ⟨rfl, rfl⟩ := List.cons.inj hstack
      exact ⟨below, rfl, rfl⟩
  have hturn := ht below (hs ▸ hnoise.frames f (by simp)) hnoise.fault
  refine ⟨hturn.state.trans hs, ?_, ?_, .inr ⟨t.frames ++ below, by simp [Machine.after], ?_, hnoise.opened, hturn.fault⟩⟩
  · exact h.events.trans (List.sublist_append_right ..)
  · have hquiet : noticed chunks t.events.reverse = [] := noticed_faint (by simpa using hturn.events)
    rw [Machine.after, noticed_append, hquiet, List.nil_append]
    exact h.noticed
  · intro g hg
    rcases List.mem_append.mp hg with hg | hg
    · exact hs ▸ hturn.frames g hg
    · exact hnoise.frames g (by simp [hg])

lemma veiled_noise (h : Veiled chunks m n) (hw : Woven chunks ⟨m, n⟩ (.noise move)) (hn : n.step move = some n') :
    Veiled chunks m n' := by
  obtain ⟨-, hw⟩ := hw
  cases step_moved hn with
  | ticked ht => exact veiled_after h hw fun _ hf _ => muffled_tick hf ht
  | unwound => exact veiled_after h hw fun _ hf he => muffled_unwind hf he
  | answered ht => exact veiled_after h hw fun _ hf _ => muffled_answer hf ht
  | started ho =>
    rename_i operation
    have hframe : operation.frame.Noisy chunks m.state := by
      rw [← h.state]
      cases operation with
      | deliver => exact hw
      | arrive channel message => cases message <;> exact hw
      | _ => exact hw.elim
    obtain ⟨noise, hstack, hnoise, hopen⟩ : ∃ noise, n.stack = noise ++ m.stack ∧ (∀ f ∈ noise, f.Noisy chunks m.state) ∧
        m.open? = true := by
      rcases h.apart with hsame | ⟨noise, hstack, hnoise⟩
      · refine ⟨[], hsame.1, by simp, ?_⟩
        rwa [Machine.open?, hsame.1, hsame.2, h.state] at ho
      · exact ⟨noise, hstack, hnoise.frames, hnoise.opened⟩
    refine ⟨h.state, h.events, h.noticed, .inr ⟨operation.frame :: noise, by simp [Machine.push, hstack], ?_⟩⟩
    exact ⟨by simpa using ⟨hframe, hnoise⟩, hopen, damped_none⟩
  | recovered =>
    obtain ⟨noise, hstack, hnoise⟩ := h.apart.resolve_left fun hsame =>
      hw.elim (fun hlt => (congrArg List.length hsame.1).not_gt hlt) fun hne => hne hsame.2
    exact ⟨h.state, h.events, h.noticed, .inr ⟨noise, hstack, hnoise.frames, hnoise.opened, damped_none⟩⟩

/-- The runs are in step. -/
def InStep (chunks : Bool) (m n : Machine U X) : Prop := Veiled chunks m n ∧ n.stack = m.stack ∧ n.fault = m.fault

lemma inStep_append {es es' : List (Event U X)} (hes : es.Sublist es') (hnoticed : noticed chunks es' = noticed chunks es)
    (m : Machine U X) (new : List (Event U X)) :
    InStep chunks { m with events := new ++ es } { m with events := new ++ es' } := by
  refine ⟨⟨rfl, hes.append_left new, ?_, .inl ⟨rfl, rfl⟩⟩, rfl, rfl⟩
  simp only [noticed_append, hnoticed]

lemma inStep_same {s : Session U X} {r : List (Frame U X)} {fault : Option Fault} {es es' : List (Event U X)}
    (hes : es.Sublist es') (hnoticed : noticed chunks es' = noticed chunks es) (move : Move U X) :
    Option.Rel (InStep chunks) (Machine.step ⟨s, r, fault, es⟩ move) (Machine.step ⟨s, r, fault, es'⟩ move) := by
  cases hm : Machine.step ⟨s, r, fault, es⟩ move with
  | none =>
    cases hn : Machine.step ⟨s, r, fault, es'⟩ move with
    | none => exact .none
    | some n =>
      obtain ⟨_, -, hother⟩ := step_anyway hn es
      cases hm.symm.trans hother
  | some m =>
    obtain ⟨new, hnew, hn⟩ := step_anyway hm es'
    obtain ⟨s, r, fault, _⟩ := m
    obtain rfl := hnew
    rw [hn]
    exact .some (inStep_append hes hnoticed ⟨s, r, fault, []⟩ new)

lemma inStep_shared (h : Veiled chunks m n) (hw : Woven chunks ⟨m, n⟩ (.shared move)) :
    Option.Rel (InStep chunks) (m.step move) (n.step move) := by
  obtain ⟨s, stack, fault, es⟩ := m
  obtain ⟨s', stack', fault', es'⟩ := n
  obtain ⟨hs, hes, hnoticed, hapart⟩ := h
  obtain ⟨hlength, hfault : fault' = fault ∨ fault' = none ∧ ∃ operation, move = .start operation⟩ := hw
  obtain rfl : s' = s := hs
  obtain ⟨rfl, hopen⟩ : stack' = stack ∧ (fault' = fault ∨ Machine.open? ⟨s', stack, fault, es⟩ = true) := by
    rcases hapart with ⟨hstack, hsame⟩ | ⟨noise, hstack, hnoise⟩
    · exact ⟨hstack, .inl hsame⟩
    · have hnone : (noise ++ stack).length = stack.length := (congrArg List.length hstack).symm.trans hlength
      obtain rfl : noise = [] := List.eq_nil_of_length_eq_zero (by simpa using hnone)
      exact ⟨hstack, .inr hnoise.opened⟩
  rcases hfault with rfl | ⟨rfl, operation, rfl⟩
  · exact inStep_same hes hnoticed move
  -- the fault of an earlier operation is forgotten with the next one
  rcases hopen with rfl | hopen
  · exact inStep_same hes hnoticed _
  have hopen' : Machine.open? ⟨s', stack', none, es'⟩ = true := by
    cases stack' with
    | nil => rfl
    | cons f r =>
      simp only [Machine.open?, Bool.and_eq_true] at hopen
      simp [Machine.open?, hopen.1]
  simp only [Machine.step, hopen, hopen', if_true]
  exact .some (inStep_append hes hnoticed ⟨s', operation.frame :: stack', none, []⟩ [])

/-- What the last of some strands leaves behind: after a move that both make the runs are in step. -/
def Followed (chunks : Bool) (last : Option (Strand U X)) (m n : Machine U X) : Prop :=
  Veiled chunks m n ∧ ∀ move, last = some (.shared move) → n.stack = m.stack ∧ n.fault = m.fault

lemma followed_run {script : List (Strand U X)} (hf : Follows Pair.step (Woven chunks) ⟨m, n⟩ script)
    {last : Option (Strand U X)} (h : Followed chunks last m n) (k : Nat) :
    Option.Rel (Followed chunks ((script.take k).getLast?.or last)) (m.run ((script.take k).filterMap Strand.shared?))
      (n.run ((script.take k).map Strand.move)) := by
  induction script generalizing m n last k with
  | nil => simpa [Machine.run] using h
  | cons strand rest ih =>
    cases k with
    | zero => simpa [Machine.run] using h
    | succ k =>
      have hlast : ((strand :: rest).take (k + 1)).getLast?.or last = (rest.take k).getLast?.or (some strand) := by
        simp [List.getLast?_cons]
      rw [hlast]
      cases strand with
      | shared move =>
        have hstep := inStep_shared h.1 hf.1
        simp only [List.take_succ_cons, List.filterMap_cons, Strand.shared?, List.map_cons, Strand.move, Machine.run]
        cases hm : m.step move with
        | none =>
          rw [hm] at hstep
          cases hn : n.step move with
          | none => exact .none
          | some n' => simp [hn] at hstep
        | some m' =>
          rw [hm] at hstep
          cases hn : n.step move with
          | none => simp [hn] at hstep
          | some n' =>
            rw [hn, Option.rel_some_some] at hstep
            refine ih (hf.2 ⟨m', n'⟩ (by simp [Pair.step, hm, hn])) ⟨hstep.1, fun _ _ => hstep.2⟩ k
      | noise move =>
        obtain ⟨n', hn⟩ := Option.isSome_iff_exists.mp hf.1.1
        simp only [List.take_succ_cons, List.filterMap_cons, Strand.shared?, List.map_cons, Strand.move, Machine.run, hn,
          Option.bind_some]
        exact ih (hf.2 ⟨m, n'⟩ (by simp [Pair.step, hn])) ⟨veiled_noise h.1 hf.1 hn, by simp⟩ k

lemma Followed.unchanged {last : Option (Strand U X)} (h : Followed chunks last m n) : Unchanged chunks last m n := by
  obtain ⟨⟨hstate, hevents, hnoticed, hapart⟩, hlast⟩ := h
  refine ⟨hstate, hevents, hnoticed, ?_, hlast, fun hstack e he => ?_⟩
  · rcases hapart with hsame | ⟨noise, hstack, -⟩
    · rw [hsame.1]
    · exact ⟨noise, hstack.symm⟩
  · rcases hapart with hsame | ⟨noise, hstack', hnoise⟩
    · exact .inl hsame.2
    · obtain rfl : noise = [] := by simpa [hstack] using hstack'
      exact .inr ((hnoise.fault e he).resolve_right (by simp))

lemma unchanged_of_followed {last : Option (Strand U X)} {a b : Option (Machine U X)}
    (h : Option.Rel (Followed chunks last) a b) : Option.Rel (Unchanged chunks last) a b := by
  cases h with
  | some h => exact .some h.unchanged
  | none => exact .none

end Steps

/-- Wherever outside code has control in a run, noise may come in between: after every move the session is in the state in
which it was without the noise, and has sent and called the same with the same, and what was asked for apart from the noise
has come to the same end. -/
theorem noise_erased {worker : Worker} {transform : Option X} {restartable : Bool} {documentation : Documentation.Index}
    {script : List (Strand U X)}
    (hf : Follows Pair.step (Woven chunks) ⟨{ state := Session.make worker transform restartable documentation },
      { state := Session.make worker transform restartable documentation }⟩ script) (k : Nat) :
    Option.Rel (Unchanged chunks (script.take k).getLast?)
      (Machine.run { state := Session.make worker transform restartable documentation }
        ((script.take k).filterMap Strand.shared?))
      (Machine.run { state := Session.make worker transform restartable documentation }
        ((script.take k).map Strand.move)) := by
  have hstart : Followed chunks (none : Option (Strand U X))
      { state := Session.make worker transform restartable documentation }
      { state := Session.make worker transform restartable documentation } :=
    ⟨⟨rfl, .refl _, rfl, .inl ⟨rfl, rfl⟩⟩, by simp⟩
  have hrun := followed_run hf hstart k
  rw [Option.or_none] at hrun
  exact unchanged_of_followed hrun

/-- While the hook before a run is called, a log message comes in that looks like the end of the run; while the request is
sent, a reply comes in that cannot be read, and a chunk for no task, whose hook raises what nobody contains. -/
def strewn : List (Strand Nat Nat) :=
  let logged : Value := .object [("log", .string "l"), ("id", .int 1), ("end", .bool true), ("error", .int 3)]
  let broken : Value := .object [("id", .int 1), ("end", .bool true), ("mime", .list [])]
  let chunk : Value := .object [("stdout", .string "c"), ("id", .int 9), ("end", .bool true)]
  let reply : Value := .object [("id", .int 1), ("end", .bool true), ("mime", .object [])]
  let hooks : Hooks Nat := { beforeRun := some 0, success := some 1, stdout := some 2 }
  List.flatten [[.shared (.start (.execute "x" (some hooks)))], List.replicate 6 (.shared .tick),
    [.noise (.start (.deliver 0 logged)), .noise .tick, .noise .tick],
    [.shared (.answer .done), .shared .tick, .shared .tick],
    [.noise (.start (.deliver 0 broken)), .noise .tick, .noise .tick],
    [.noise (.start (.deliver 0 chunk)), .noise .tick, .noise .tick, .noise .tick,
      .noise (.answer (.raised (.thrown ⟨"K", "", "K()", [], false⟩))), .noise .recover],
    [.shared (.answer .done), .shared .tick], [.shared (.start (.deliver 0 reply)), .shared .tick, .shared .tick,
      .shared .tick]]

theorem strewn_unchanged :
    ∃ m n, Machine.run { state := Session.make (.remote 0) none false ⟨[], []⟩ } (strewn.filterMap Strand.shared?) = some m ∧
      Machine.run { state := Session.make (.remote 0) none false ⟨[], []⟩ } (strewn.map Strand.move) = some n ∧
      m.events.length < n.events.length ∧ Unchanged true strewn.getLast? m n := by
  have hm : (Machine.run { state := Session.make (.remote 0) none false ⟨[], []⟩ }
      (strewn.filterMap Strand.shared?)).isSome = true := by decide +kernel
  have hn : (Machine.run { state := Session.make (.remote 0) none false ⟨[], []⟩ }
      (strewn.map Strand.move)).isSome = true := by decide +kernel
  have hmore : ((Machine.run { state := Session.make (.remote 0) none false ⟨[], []⟩ }
      (strewn.filterMap Strand.shared?)).get (by decide +kernel)).events.length <
      ((Machine.run { state := Session.make (.remote 0) none false ⟨[], []⟩ }
        (strewn.map Strand.move)).get (by decide +kernel)).events.length := by decide +kernel
  have hf : Follows Pair.step (Woven true) ⟨{ state := Session.make (.remote 0) none false ⟨[], []⟩ },
      { state := Session.make (.remote 0) none false ⟨[], []⟩ }⟩ strewn := by decide +kernel
  have hsame := noise_erased hf strewn.length
  rw [List.take_of_length_le (Nat.le_refl _), ← Option.some_get hm, ← Option.some_get hn, Option.rel_some_some] at hsame
  exact ⟨_, _, (Option.some_get hm).symm, (Option.some_get hn).symm, hmore, hsame⟩

end Session

end EvalSession
