import EvalSession.Proofs.Kernel.Contract
import EvalSession.Proofs.Kernel.Recovery
import EvalSession.Proofs.Session.View

/-!
# Kernels in a session

A kernel is a worker inside the session: the coordinator and outside code hand requests to it, messages arrive, and what it
emits is handed on at once, to hooks that may call the session again. Main statement: whatever goes on around it, a kernel
honours the contract of a worker.
-/
namespace EvalSession.Session

open Kernel (Alike Input Standing Honoured Fair)

variable {U X : Type}

def workerOf (s : Session U X) (g : Nat) : Option Worker := s.links[g]?.map Link.worker

/-- What a frame puts into a kernel at its next stage. -/
def Frame.input? (s : Session U X) : Frame U X → Option (Nat × Input)
  | .link g (.awaitSend r) =>
    match workerOf s g with
    | some (.kernel k) => some (g, .sent r k.nextMessageId)
    | _ => none
  | .transmit fields messageId =>
    match s.kernel?, Request.ofFields fields with
    | some k, .ok r => some (s.current, .sent r (messageId.getD k.nextMessageId))
    | _, _ => none
  | .arrive channel (some message) =>
    match s.kernel? with
    | some k => if k.listening then some (s.current, .arrived channel message) else none
    | none => none
  | _ => none

/-- What a frame hands on at its next stage. -/
def Frame.handed? (g : Nat) : Frame U X → Option Object
  | .emit i message => if i = g then some message else none
  | _ => none

namespace Machine

def running? (m : Machine U X) : Move U X → Option (Frame U X)
  | .tick => if m.fault.isNone then m.stack.head? else none
  | _ => none

def input? (g : Nat) (m : Machine U X) (move : Move U X) : Option Input :=
  (m.running? move).bind fun f => (f.input? m.state).bind fun (i, x) => if i = g then some x else none

def handed? (g : Nat) (m : Machine U X) (move : Move U X) : Option Object :=
  (m.running? move).bind (Frame.handed? g)

/-- What goes into the kernel of a link along a run. -/
def inputs (g : Nat) (m : Machine U X) : List (Move U X) → List Input
  | [] => []
  | move :: rest => (m.input? g move).toList ++ ((m.step move).map fun n => n.inputs g rest).getD []

/-- The messages of the kernel of a link that are handed on along a run. -/
def handed (g : Nat) (m : Machine U X) : List (Move U X) → List Object
  | [] => []
  | move :: rest => (m.handed? g move).toList ++ ((m.step move).map fun n => n.handed g rest).getD []

/-- The message that is about to be handed on. -/
def upcoming (g : Nat) (m : Machine U X) : List Object := (m.stack.head?.bind (Frame.handed? g)).toList

end Machine

def Frame.isEmit : Frame U X → Bool
  | .emit .. => true
  | _ => false

/-- A message is handed on before anything else. -/
structure Prompt (m : Machine U X) : Prop where
  below : ∀ f ∈ m.stack.tail, f.isEmit = false
  top : ∀ f, m.stack.head? = some f → f.isEmit = true → m.fault = none

lemma workerOf_setCoordinator (s : Session U X) (i g : Nat) (c : Coordinator (Hook U) X) :
    workerOf (s.setCoordinator i c) g = workerOf s g := by
  simp only [workerOf, setCoordinator, List.getElem?_modify]
  cases s.links[g]? with
  | none => rfl
  | some l => by_cases h : i = g <;> simp [h]

lemma workerOf_setHandler (s : Session U X) (i g : Nat) (h : Option Handler) :
    workerOf (s.setHandler i h) g = workerOf s g := by
  simp only [workerOf, setHandler, List.getElem?_modify]
  cases s.links[g]? with
  | none => rfl
  | some l => by_cases h : i = g <;> simp [h]

lemma workerOf_setKernel (s : Session U X) (i g : Nat) (k : Kernel) :
    workerOf (s.setKernel i k) g = if i = g then (workerOf s g).map fun _ => .kernel k else workerOf s g := by
  simp only [workerOf, setKernel, List.getElem?_modify]
  cases s.links[g]? with
  | none => simp
  | some l => by_cases h : i = g <;> simp [h]

lemma kernel?_eq (s : Session U X) : s.kernel? = (workerOf s s.current).bind fun w => match w with
    | .kernel k => some k
    | .remote _ => none := by
  rw [kernel?, workerOf, link?, Option.bind_map]
  rfl

def taken (k : Kernel) : Option Input → Kernel × Option Object
  | none => (k, none)
  | some (.sent r id) => (k.register r id, none)
  | some (.arrived channel message) => ((k.receive channel message).kernel, (k.receive channel message).emitted)

/-- What a stage does to a link that gets `x`, if anything: a kernel takes it, and what it emits is handed on next. -/
structure Effect (s : Session U X) (g : Nat) (x : Option Input) (t : Turn U X) : Prop where
  kernel : ∀ k, workerOf s g = some (.kernel k) →
    (∃ k', workerOf t.state g = some (.kernel k') ∧ Alike (taken k x).1 k') ∧
      t.frames.head?.bind (Frame.handed? g) = (taken k x).2
  below : ∀ f ∈ t.frames.tail, f.isEmit = false
  top : ∀ f, t.frames.head? = some f → f.isEmit = true → t.fault = none

variable {s : Session U X} {g i : Nat} {k : Kernel} {t : Turn U X}

lemma handed?_of_quiet {f : Frame U X} (h : f.isEmit = false) : f.handed? g = none := by
  cases f <;> first | rfl | cases h

lemma head_handed_of_quiet {fs : List (Frame U X)} (h : ∀ f ∈ fs, f.isEmit = false) :
    fs.head?.bind (Frame.handed? g) = none := by
  cases hh : fs.head? with
  | none => rfl
  | some f => exact handed?_of_quiet (h f (List.mem_of_mem_head? hh))

lemma Effect.of_quiet (h : workerOf t.state g = workerOf s g) (hf : ∀ f ∈ t.frames, f.isEmit = false) :
    Effect s g none t := by
  refine ⟨fun k hk => ⟨⟨k, h.trans hk, .rfl⟩, head_handed_of_quiet hf⟩, fun f hm => hf f (List.mem_of_mem_tail hm), ?_⟩
  intro f hh he
  rw [hf f (List.mem_of_mem_head? hh)] at he
  cases he

def Frame.inputOf? (g : Nat) (s : Session U X) (f : Frame U X) : Option Input :=
  (f.input? s).bind fun (i, x) => if i = g then some x else none

lemma effect_transmit (r : Request) (messageId : Option String) (hi : workerOf s i = some (.kernel k)) :
    Effect s g (if i = g then some (.sent r (messageId.getD k.nextMessageId)) else none)
      (transmitTurn s i k r messageId) := by
  by_cases h : i = g
  · subst h
    rw [if_pos rfl]
    refine ⟨fun l hl => ?_, by simp [transmitTurn], by simp [transmitTurn]⟩
    obtain rfl : k = l := by simpa [hi] using hl
    exact ⟨⟨k.register r (messageId.getD k.nextMessageId), by simp [transmitTurn, workerOf_setKernel, hi], .rfl⟩, rfl⟩
  · rw [if_neg h]
    exact .of_quiet (by simp [transmitTurn, workerOf_setKernel, h]) (by simp [transmitTurn])

lemma not_isEmit_link {fs : List (Coordinator.Frame (Hook U) X)} {f : Frame U X} (h : f ∈ fs.map (.link i)) :
    f.isEmit = false := by
  obtain ⟨f, -, rfl⟩ := List.mem_map.mp h
  rfl

lemma effect_link {f : Coordinator.Frame (Hook U) X} (h : (Frame.link i f).tick s = some t) :
    Effect s g ((Frame.link i f).inputOf? g s) t := by
  simp only [Frame.tick] at h
  split at h
  · rename_i hl
    cases h
    have hw : workerOf s i = none := by simp [workerOf, hl]
    have hnone : (Frame.link i f).inputOf? g s = none := by cases f <;> simp [Frame.inputOf?, Frame.input?, hw]
    rw [hnone]
    exact .of_quiet rfl (by simp)
  rename_i l hl
  have hworker : workerOf s i = some l.worker := by simp [workerOf, hl]
  unfold tickLink at h
  split at h
  · rename_i r k' hw
    cases h
    have hinput : (Frame.link i (.awaitSend r)).inputOf? g s = if i = g then some (.sent r k'.nextMessageId) else none := by
      simp [Frame.inputOf?, Frame.input?, hworker, hw]
    rw [hinput]
    exact effect_transmit r none (hworker.trans (congrArg some hw))
  · cases h
  · cases h
    exact .of_quiet rfl (by simp)
  · rename_i task moment argument _ _
    cases h
    refine .of_quiet (workerOf_setCoordinator ..) ?_
    intro f hf
    rcases List.mem_append.mp hf with hf | hf
    · obtain ⟨hook, -, hf⟩ := List.mem_flatMap.mp hf
      unfold bodyOf at hf
      split at hf <;> simp at hf
      subst hf
      rfl
    · exact not_isEmit_link hf
  · rename_i f _ _ _ _ _ hsend
    obtain ⟨turn, -, rfl⟩ := Option.map_eq_some_iff.mp h
    have hnone : (Frame.link i f).inputOf? g s = none := by
      cases f with
      | awaitSend r =>
        cases hw : l.worker with
        | remote n => simp [Frame.inputOf?, Frame.input?, hworker, hw]
        | kernel k' => exact (hsend r k' rfl hw).elim
      | _ => rfl
    rw [hnone]
    exact .of_quiet (workerOf_setCoordinator ..) fun f hf => not_isEmit_link hf

lemma workerOf_current (h : s.kernel? = some k) : workerOf s s.current = some (.kernel k) := by
  rw [kernel?_eq, Option.bind_eq_some_iff] at h
  obtain ⟨w, hw, h⟩ := h
  cases w with
  | remote n => cases h
  | kernel k' =>
    cases h
    exact hw

lemma link_of_kernel (h : s.kernel? = some k) : ∃ l, s.link? = some l ∧ l.worker = .kernel k := by
  obtain ⟨l, hl, hk⟩ := Option.bind_eq_some_iff.mp h
  refine ⟨l, hl, ?_⟩
  cases hw : l.worker with
  | remote => simp [hw] at hk
  | kernel k' => simpa [hw] using hk

lemma setKernel_same (h : s.kernel? = some k) : s.setKernel s.current k = s := by
  obtain ⟨l, hl, hk⟩ := link_of_kernel h
  have hl : s.links[s.current]? = some l := hl
  have hm : s.links.modify s.current (fun l' => { l' with worker := .kernel k }) = s.links := by
    refine List.ext_getElem? fun i => ?_
    rw [List.getElem?_modify]
    split
    · subst_vars
      simp [hl, ← hk]
    · simp
  rw [setKernel, hm]

lemma effect_arrive {channel : Kernel.Channel} {message : Option Value} :
    Effect s g ((Frame.arrive channel message).inputOf? g s) (arriveTurn s channel message) := by
  unfold arriveTurn
  cases hkernel : s.kernel? with
  | none =>
    have hnone : (Frame.arrive (U := U) channel message).inputOf? g s = none := by
      cases message <;> simp [Frame.inputOf?, Frame.input?, hkernel]
    rw [hnone]
    exact .of_quiet rfl (by simp)
  | some l =>
    cases hl : l.listening with
    | false =>
      have hnone : (Frame.arrive (U := U) channel message).inputOf? g s = none := by
        cases message <;> simp [Frame.inputOf?, Frame.input?, hkernel, hl]
      rw [hnone]
      simpa [hl] using Effect.of_quiet (t := { state := s }) rfl (by simp)
    | true =>
      cases message with
      | none =>
        have hquiet : Effect s g none ({ state := s, events := [.log .handlingFailed] } : Turn U X) := .of_quiet rfl (by simp)
        simpa [hl, Frame.inputOf?, Frame.input?] using hquiet
      | some m =>
        have hinput : (Frame.arrive (U := U) channel (some m)).inputOf? g s =
            if s.current = g then some (.arrived channel m) else none := by
          simp [Frame.inputOf?, Frame.input?, hkernel, hl]
        have hcurrent := workerOf_current hkernel
        have hfault : ∀ e, (l.receive channel m).emitted = some e → (l.receive channel m).fault = none :=
          fun e he => (Kernel.receive_quiet l channel m).resolve_left (by simp [he])
        rw [hinput]
        simp only [hl, Bool.not_true, Bool.false_eq_true, if_false]
        refine ⟨fun k hk => ?_, ?_, ?_⟩
        · by_cases h : s.current = g
          · subst h
            obtain rfl : l = k := by simpa [hk] using hcurrent.symm
            refine ⟨⟨(l.receive channel m).kernel, by simp [workerOf_setKernel, hk], by simp [taken]⟩, ?_⟩
            cases he : (l.receive channel m).emitted <;> simp [Frame.handed?, taken, he]
          · refine ⟨⟨k, by simp [workerOf_setKernel, h, hk], by simp [h, taken]⟩, ?_⟩
            cases he : (l.receive channel m).emitted <;> simp [Frame.handed?, taken, h]
        · cases he : (l.receive channel m).emitted <;> simp [Frame.isEmit]
        · intro f hf hemit
          cases he : (l.receive channel m).emitted with
          | none =>
            simp only [he, List.head?_cons, Option.some.injEq] at hf
            subst hf
            cases hemit
          | some e => exact hfault e he

lemma effect_terminate (s : Session U X) (g : Nat) (signal : String) (ending : Ending) :
    Effect s g none (terminateTurn s signal ending) := by
  unfold terminateTurn
  split
  · exact .of_quiet rfl (by simp)
  rename_i l hl
  split
  · exact .of_quiet rfl (by simp [Frame.isEmit])
  rename_i l' hw
  have hcurrent : workerOf s s.current = some (.kernel l') := by
    rw [workerOf, ← hw]
    exact congrArg (Option.map Link.worker) hl
  have hended : Alike l' (l'.terminate signal).kernel := by
    unfold Kernel.terminate
    split <;> exact ⟨rfl, rfl⟩
  -- the kernel that is ended keeps its table
  have hkernel : ∀ k, workerOf s g = some (.kernel k) → ∃ k',
      workerOf (s.setKernel s.current (l'.terminate signal).kernel) g = some (.kernel k') ∧ Alike k k' := by
    intro k hk
    by_cases h : s.current = g
    · subst h
      obtain rfl : k = l' := by simpa [hk] using hcurrent
      exact ⟨_, by simp [workerOf_setKernel, hk], hended⟩
    · exact ⟨k, by simp [workerOf_setKernel, h, hk], .rfl⟩
  have hgone : ∀ gone : Bool, workerOf (if gone then (s.setKernel s.current (l'.terminate signal).kernel).setHandler
      (s.setKernel s.current (l'.terminate signal).kernel).current none
      else s.setKernel s.current (l'.terminate signal).kernel) g =
        workerOf (s.setKernel s.current (l'.terminate signal).kernel) g := by
    intro gone
    cases gone
    · rfl
    · exact workerOf_setHandler ..
  simp only
  split
  · refine ⟨fun k hk => ?_, by simp, by simp [Frame.isEmit]⟩
    obtain ⟨k', hk', hsame⟩ := hkernel k hk
    exact ⟨⟨k', (hgone _).trans hk', hsame⟩, by simp [Frame.handed?, taken]⟩
  · refine ⟨fun k hk => ?_, by simp, by simp⟩
    obtain ⟨k', hk', hsame⟩ := hkernel k hk
    exact ⟨⟨k', (hgone _).trans hk', hsame⟩, by simp [taken]⟩

/-- A stage that has nothing to do with kernels. -/
structure Aloof (s : Session U X) (t : Turn U X) : Prop where
  workers : ∀ g, workerOf t.state g = workerOf s g
  frames : ∀ f ∈ t.frames, f.isEmit = false

lemma Aloof.effect (h : Aloof s t) : Effect s g none t := .of_quiet (h.workers g) h.frames

lemma Aloof.of_links (hs : t.state.links = s.links) (hf : ∀ f ∈ t.frames, f.isEmit = false) : Aloof s t :=
  ⟨fun g => by rw [workerOf, hs, workerOf], hf⟩

lemma aloof_call (s : Session U X) (contained : Bool) (moment : Moment) (hook : Option U) (argument : Argument) :
    Aloof s (callTurn s contained moment hook argument) := by
  cases hook <;> exact .of_links rfl (by simp [callTurn, Frame.isEmit])

lemma aloof_body (s : Session U X) (hook : Hook U) (payload : Object) : Aloof s (bodyTurn s hook payload) := by
  cases hook with
  | user => exact .of_links rfl (by simp [bodyTurn])
  | inspectionError => exact .of_links rfl (by simp [bodyTurn, Frame.isEmit])
  | names q success =>
    simp only [bodyTurn, namesTurn]
    split
    · exact .of_links rfl (by simp)
    · exact aloof_call ..
  | inspection q hooks =>
    simp only [bodyTurn, inspectionTurn]
    split
    · exact .of_links rfl (by simp)
    · split <;> exact .of_links rfl (by simp [submit, Frame.isEmit])
  | scopeInspection report q hooks =>
    simp only [bodyTurn, scopeInspectionTurn]
    split <;> exact .of_links rfl (by simp [Frame.isEmit])

/-- What a stage of a frame does to the kernel of a link. -/
theorem effect_tick {f : Frame U X} (h : f.tick s = some t) : Effect s g (f.inputOf? g s) t := by
  cases f with
  | link i f => exact effect_link h
  | arrive channel message =>
    cases h
    exact effect_arrive
  | terminate signal ending =>
    cases h
    exact effect_terminate ..
  | transmit fields messageId =>
    cases h
    cases hkernel : s.kernel? with
    | none => simpa [Frame.inputOf?, Frame.input?, hkernel] using Effect.of_quiet (t := { state := s }) rfl (by simp)
    | some l =>
      cases hr : Request.ofFields fields with
      | error problems =>
        have hquiet : Effect s g none ({ state := s, fault := some (.badRequest problems) } : Turn U X) :=
          .of_quiet rfl (by simp)
        simpa [Frame.inputOf?, Frame.input?, hkernel, hr] using hquiet
      | ok r =>
        simpa [Frame.inputOf?, Frame.input?, hkernel, hr] using
          effect_transmit (g := g) r messageId (workerOf_current hkernel)
  | awaitCall => cases h
  | awaitTermination => cases h
  | awaitWorker => cases h
  | execute =>
    cases h
    exact .of_quiet rfl (by simp [executeTurn, submit, Frame.isEmit])
  | complete =>
    cases h
    unfold completeTurn
    split <;> exact .of_quiet rfl (by simp [submit, Frame.isEmit])
  | inspect =>
    cases h
    unfold inspectTurn
    split <;> exact .of_quiet rfl (by simp [submit, Frame.isEmit])
  | assign =>
    cases h
    exact .of_quiet rfl (by simp [Frame.isEmit])
  | respond =>
    cases h
    unfold respondTurn
    split <;> exact .of_quiet rfl (by simp [Frame.isEmit])
  | call =>
    cases h
    exact (aloof_call ..).effect
  | body =>
    cases h
    exact (aloof_body ..).effect
  | deliver =>
    cases h
    unfold deliverTurn
    repeat' split
    all_goals exact .of_quiet rfl (by simp [Frame.isEmit])
  | emit =>
    cases h
    unfold emitTurn
    split <;> exact .of_quiet rfl (by simp [Frame.isEmit])
  | guarded =>
    cases h
    exact .of_quiet rfl (by simp)
  | install =>
    cases h
    exact .of_quiet (workerOf_setHandler ..) (by simp)
  | kill =>
    cases h
    exact .of_quiet rfl (by simp [endTurn, Frame.isEmit])
  | restart =>
    cases h
    split <;> exact .of_quiet rfl (by simp [endTurn, Frame.isEmit])
  | finish signal status =>
    cases h
    cases signal <;> exact .of_quiet rfl (by simp [finishTurn, Frame.isEmit])

lemma effect_unwind (s : Session U X) (g : Nat) (e : Fault) (f : Frame U X) : Effect s g none (f.unwind s e) := by
  cases f with
  | link i f =>
    simp only [Frame.unwind]
    split
    · exact .of_quiet rfl (by simp)
    · exact .of_quiet (workerOf_setCoordinator ..) fun f hf => not_isEmit_link hf
  | awaitCall contained moment hook argument =>
    simp only [Frame.unwind, Frame.callFailed]
    split <;> exact .of_quiet rfl (by simp)
  | guarded =>
    simp only [Frame.unwind]
    split <;> exact .of_quiet rfl (by simp)
  | _ => exact .of_quiet rfl (by simp [Frame.unwind])

lemma effect_answer {f : Frame U X} {a : Answer} (h : f.answer s a = some t) : Effect s g none t := by
  unfold Frame.answer at h
  split at h
  · unfold Frame.answerLink at h
    split at h
    · obtain ⟨turn, -, rfl⟩ := Option.map_eq_some_iff.mp h
      exact .of_quiet (workerOf_setCoordinator ..) fun f hf => not_isEmit_link hf
    · cases h
  · cases h
    exact .of_quiet rfl (by simp)
  · cases h
    unfold Frame.callFailed
    split <;> exact .of_quiet rfl (by simp)
  · cases h
    exact .of_quiet rfl (by simp [Frame.isEmit])
  · cases h
    exact .of_quiet rfl (by simp)
  · cases h
    refine ⟨fun k hk => ⟨⟨k, ?_, .rfl⟩, rfl⟩, by simp, by simp⟩
    obtain ⟨l, hl, -⟩ := Option.map_eq_some_iff.mp hk
    rw [workerOf, attach, List.getElem?_append_left (List.getElem?_eq_some_iff.mp hl).1]
    exact hk
  · cases h
    exact .of_quiet rfl (by simp)
  · cases h

section Run

variable {m n : Machine U X} {move : Move U X}

lemma answer_not_isEmit {f : Frame U X} {a : Answer} (h : f.answer s a = some t) : f.isEmit = false := by
  cases f with
  | emit => simp [Frame.answer] at h
  | _ => rfl

lemma isEmit_of_waits {f : Frame U X} (h : f.tick s = none) : f.isEmit = false := by
  cases f with
  | emit => cases h
  | _ => rfl

lemma Effect.prompt {f : Frame U X} {r : List (Frame U X)} {x : Option Input} {fault : Option Fault} {es : List (Event U X)}
    (h : Effect s g x t) (hr : ∀ f ∈ r, f.isEmit = false) : Prompt (Machine.after ⟨s, f :: r, fault, es⟩ r t) := by
  have hbelow := h.below
  have htop := h.top
  constructor
  · intro f hf
    cases hfr : t.frames with
    | nil =>
      simp only [Machine.after, hfr, List.nil_append] at hf
      exact hr f (List.mem_of_mem_tail hf)
    | cons a fs =>
      simp only [Machine.after, hfr, List.cons_append, List.tail_cons, List.mem_append] at hf
      rw [hfr] at hbelow
      exact hf.elim (hbelow f) (hr f)
  · intro f hf he
    cases hfr : t.frames with
    | nil =>
      simp only [Machine.after, hfr, List.nil_append] at hf
      rw [hr f (List.mem_of_mem_head? hf)] at he
      cases he
    | cons a fs =>
      simp only [Machine.after, hfr, List.cons_append, List.head?_cons] at hf
      exact htop f (by rw [hfr]; exact hf) he

lemma Effect.upcoming {f : Frame U X} {r : List (Frame U X)} {x : Option Input} {fault : Option Fault}
    {es : List (Event U X)} (h : Effect s g x t) (hk : workerOf s g = some (.kernel k)) (hr : ∀ f ∈ r, f.isEmit = false) :
    (Machine.after ⟨s, f :: r, fault, es⟩ r t).upcoming g = (taken k x).2.toList := by
  have hhanded := (h.kernel k hk).2
  rw [← hhanded, Machine.upcoming]
  cases hfr : t.frames with
  | nil =>
    simp only [Machine.after, hfr, List.nil_append]
    exact congrArg Option.toList (head_handed_of_quiet hr)
  | cons a fs => simp only [Machine.after, hfr, List.cons_append, List.head?_cons]

/-- Where outside code has control nothing is about to be handed on. -/
lemma Prompt.quiet (hp : Prompt m) (hopen : m.open? = true) : ∀ f ∈ m.stack, f.isEmit = false := by
  intro f hf
  have hbelow := hp.below
  unfold Machine.open? at hopen
  cases hst : m.stack with
  | nil => simp [hst] at hf
  | cons f' r =>
    simp only [hst, Bool.and_eq_true, Option.isNone_iff_eq_none] at hopen
    rw [hst] at hf hbelow
    rcases List.mem_cons.mp hf with rfl | hf
    · exact isEmit_of_waits hopen.1
    · exact hbelow f hf

lemma Prompt.not_emit {f : Frame U X} {r : List (Frame U X)} {e : Fault} {es : List (Event U X)}
    (hp : Prompt ⟨s, f :: r, some e, es⟩) : f.isEmit = false := by
  by_contra he
  have := hp.top f rfl (by simpa using he)
  cases this

theorem prompt_step (h : m.step move = some n) (hp : Prompt m) : Prompt n := by
  cases step_moved h with
  | ticked ht => exact (effect_tick (g := 0) ht).prompt hp.below
  | unwound => exact (effect_unwind _ 0 _ _).prompt hp.below
  | answered ht => exact (effect_answer (g := 0) ht).prompt hp.below
  | started ho => exact ⟨hp.quiet ho, fun f _ _ => rfl⟩
  | recovered => exact ⟨hp.below, fun _ _ _ => rfl⟩

lemma upcoming_of_quiet {f : Frame U X} {r : List (Frame U X)} {fault : Option Fault} {es : List (Event U X)}
    (hf : f.isEmit = false) : Machine.upcoming g ⟨s, f :: r, fault, es⟩ = [] :=
  congrArg Option.toList (handed?_of_quiet hf)

/-- What a move does to the kernel of a link: what it gets decides what is handed on, and that happens at once. -/
theorem kernel_step (h : m.step move = some n) (hk : workerOf m.state g = some (.kernel k)) (hp : Prompt m) :
    (∃ k', workerOf n.state g = some (.kernel k') ∧ Alike (taken k (m.input? g move)).1 k') ∧
      (m.handed? g move).toList ++ n.upcoming g = m.upcoming g ++ (taken k (m.input? g move)).2.toList := by
  cases step_moved h with
  | @started _ operation ho =>
    have hold : m.upcoming g = [] := congrArg Option.toList (head_handed_of_quiet (hp.quiet ho))
    have hnew : (m.push operation).upcoming g = [] := upcoming_of_quiet (by cases operation <;> rfl)
    refine ⟨⟨k, hk, .rfl⟩, ?_⟩
    rw [hold, hnew]
    rfl
  | recovered => exact ⟨⟨k, hk, .rfl⟩, (List.append_nil _).symm⟩
  | ticked ht =>
    have heffect := effect_tick (g := g) ht
    exact ⟨(heffect.kernel k hk).1, congrArg _ (heffect.upcoming hk hp.below)⟩
  | @unwound s f r e es =>
    have heffect := effect_unwind s g e f
    refine ⟨(heffect.kernel k hk).1, ?_⟩
    rw [upcoming_of_quiet hp.not_emit]
    exact heffect.upcoming hk hp.below
  | answered ht =>
    have heffect := effect_answer (g := g) ht
    refine ⟨(heffect.kernel k hk).1, ?_⟩
    rw [upcoming_of_quiet (answer_not_isEmit ht)]
    exact heffect.upcoming hk hp.below

lemma prompt_run {worker : Worker} {transform : Option X} {restartable : Bool} {documentation : Documentation.Index}
    {moves : List (Move U X)}
    (hr : Machine.run { state := Session.make worker transform restartable documentation } moves = some m) : Prompt m := by
  rw [Machine.run_eq] at hr
  exact run_keeps prompt_step hr ⟨by simp, by simp⟩

lemma kernel_run {moves : List (Move U X)} (hr : m.run moves = some n) (hp : Prompt m)
    (hk : workerOf m.state g = some (.kernel k)) : ∃ k', workerOf n.state g = some (.kernel k') := by
  rw [Machine.run_eq] at hr
  refine (run_keeps (I := fun m : Machine U X => Prompt m ∧ ∃ k, workerOf m.state g = some (.kernel k)) ?_ hr ⟨hp, k, hk⟩).2
  rintro m move n hs ⟨hp, k, hk⟩
  obtain ⟨⟨k', hk', -⟩, -⟩ := kernel_step hs hk hp
  exact ⟨prompt_step hs hp, k', hk'⟩

lemma depths_taken (k : Kernel) (x : Option Input) : (taken k x).1.depths = k.depths := by
  cases x with
  | none => rfl
  | some x =>
    cases x with
    | sent => rfl
    | arrived => exact Kernel.depths_receive ..

lemma standing_taken {x : Option Input} {before : List Input} {emitted : List Object} (hs : Standing k before emitted)
    (hf : Fair (before ++ x.toList)) :
    Standing (taken k x).1 (before ++ x.toList) (emitted ++ (taken k x).2.toList) := by
  cases x with
  | none => simpa [taken] using hs
  | some x =>
    cases x with
    | sent r id => simpa [taken] using hs.sent hf
    | arrived channel message => exact hs.arrived hf

/-- Along a run a kernel stands as what it has got and what has been handed on say. -/
theorem standing_run {moves : List (Move U X)} {before : List Input} {emitted : List Object} (hr : m.run moves = some n)
    (hk : workerOf m.state g = some (.kernel k)) (hp : Prompt m) (hs : Standing k before (emitted ++ m.upcoming g))
    (hf : Fair (before ++ m.inputs g moves)) :
    ∃ k', k'.depths = k.depths ∧
      Standing k' (before ++ m.inputs g moves) (emitted ++ m.handed g moves ++ n.upcoming g) := by
  induction moves generalizing m k before emitted with
  | nil =>
    obtain rfl := Option.some.inj hr
    exact ⟨k, rfl, by simpa [Machine.inputs, Machine.handed] using hs⟩
  | cons move rest ih =>
    obtain ⟨p, hstep, hr⟩ := Option.bind_eq_some_iff.mp hr
    obtain ⟨⟨k', hk', halike⟩, hhanded⟩ := kernel_step hstep hk hp
    have hp' := prompt_step hstep hp
    have hinputs : m.inputs g (move :: rest) = (m.input? g move).toList ++ p.inputs g rest := by
      simp [Machine.inputs, hstep]
    have hemitted : m.handed g (move :: rest) = (m.handed? g move).toList ++ p.handed g rest := by
      simp [Machine.handed, hstep]
    rw [hinputs, ← List.append_assoc] at hf
    have hstanding := (standing_taken hs hf.initial).of_alike halike
    rw [List.append_assoc, ← hhanded, ← List.append_assoc] at hstanding
    rw [hinputs, hemitted, ← List.append_assoc, ← List.append_assoc emitted]
    obtain ⟨l, hdepths, hstands⟩ := ih hr hk' hp' hstanding hf
    exact ⟨l, hdepths.trans (halike.depths.trans (depths_taken k _)), hstands⟩

end Run

/-- From whatever point on, a kernel that has nothing to finish there honours the contract of a worker, as far as the results
of queries nest no deeper than it reads: hooks, the transform and outside code may start operations and raise as they like,
while a message is handed on or not. -/
theorem kernels_honoured {worker : Worker} {transform : Option X} {restartable : Bool}
    {documentation : Documentation.Index} {before moves : List (Move U X)} {m n : Machine U X}
    (hm : Machine.run { state := Session.make worker transform restartable documentation } before = some m)
    (hopen : m.open? = true) (hk : workerOf m.state g = some (.kernel k)) (hempty : k.pending = [])
    (hn : m.run moves = some n) (hf : Fair (m.inputs g moves)) :
    Honoured k.depths (m.inputs g moves) (m.handed g moves ++ n.upcoming g) := by
  have hp : Prompt m := by
    rw [Machine.run_eq] at hm
    exact run_invariant (I := Prompt) (fun _ hs hp => prompt_step hs hp) (follows_of_mem (fun _ _ _ => trivial) _ :
      Follows _ (fun _ _ => True) _ before) hm ⟨by simp, by simp⟩
  have hupcoming : m.upcoming g = [] := congrArg Option.toList (head_handed_of_quiet (hp.quiet hopen))
  have hstart : Kernel.Standing k [] ([] ++ m.upcoming g) := by
    rw [hupcoming]
    exact Kernel.standing_start hempty
  obtain ⟨k', hdepths, hs⟩ := standing_run hn hk hp hstart hf
  rw [← hdepths]
  exact hs.honoured hf

def kernelMessage (messageId kind : String) (content : Object) : Option Value :=
  some (.object [("parent_header", .object [("msg_id", .string messageId)]), ("msg_type", .string kind),
    ("content", .object content)])

/-- The reply comes before the result and the idle status, and the hook for it sends a second request. -/
def sendingAgain : List (Move Nat Nat) :=
  List.flatten [[.start (.execute "1" (some { success := some 0 }))], List.replicate 10 .tick,
    [.start (.arrive .output (kernelMessage "msg-1" "stream" [("name", .string "stdout"), ("text", .string "a")]))],
    List.replicate 4 .tick,
    [.start (.arrive .replies (kernelMessage "msg-1" "execute_reply" [("status", .string "ok")])), .tick, .tick,
      .start (.arrive .output (kernelMessage "msg-1" "execute_result" [("data", .object [("text/plain", .string "1")])])),
      .tick, .tick,
      .start (.arrive .output (kernelMessage "msg-1" "status" [("execution_state", .string "idle")]))],
    List.replicate 4 .tick,
    [.start (.transmit [("action", .string "run"), ("code", .string "2"), ("context_id", .int 7)] none), .tick,
      .answer .done], List.replicate 6 .tick,
    [.start (.arrive .output (kernelMessage "msg-2" "status" [("execution_state", .string "idle")])), .tick, .tick]]

theorem sendingAgain_honoured :
    ∃ m n : Machine Nat Nat, Machine.run { state := Session.make (.kernel {}) none false ⟨[], []⟩ } [] = some m ∧
      m.run sendingAgain = some n ∧ Honoured {} (m.inputs 0 sendingAgain) (m.handed 0 sendingAgain ++ n.upcoming 0) ∧
      (m.inputs 0 sendingAgain).filterMap Input.messageId? = ["msg-1", "msg-2"] ∧
      m.handed 0 sendingAgain = [[("id", .int 1), ("stdout", .string "a")],
        [("id", .int 1), ("end", .bool true), ("mime", .object [("text/plain", .string "1")])]] := by
  have h : (Machine.run { state := Session.make (.kernel {}) none false ⟨[], []⟩ } sendingAgain).isSome = true := by
    decide +kernel
  have hn := (Option.some_get h).symm
  have hf : Fair (Machine.inputs (U := Nat) (X := Nat) 0 { state := Session.make (.kernel {}) none false ⟨[], []⟩ }
      sendingAgain) := ⟨by decide +kernel, by decide +kernel, by decide +kernel⟩
  have hm : Machine.run { state := Session.make (.kernel {}) none false ⟨[], []⟩ } ([] : List (Move Nat Nat)) = some _ := rfl
  exact ⟨_, _, hm, hn, kernels_honoured hm rfl rfl rfl hn hf, by decide +kernel, by decide +kernel⟩

def inspecting : Request := ⟨.inspect, "a", 1⟩

def idleStatus : Value :=
  .object [("parent_header", .object [("msg_id", .string "msg-1")]), ("msg_type", .string "status"),
    ("content", .object [("execution_state", .string "idle")])]

def replyMessage (content : Object) : Value :=
  .object [("parent_header", .object [("msg_id", .string "msg-1")]), ("msg_type", .string "execute_reply"),
    ("content", .object content)]

/-- The request, its reply and its idle status have gone in, but nothing has been emitted for it, and it is forgotten. -/
def Unanswered (content : Object) : Prop :=
  Fair [.sent inspecting "msg-1", .arrived .replies (replyMessage content), .arrived .output idleStatus] ∧
    Kernel.finished (Kernel.notes "msg-1" [.arrived .replies (replyMessage content), .arrived .output idleStatus]) = true ∧
    ∃ k o, (({} : Kernel).register inspecting "msg-1").receive .replies (replyMessage content) = ⟨k, none, none⟩ ∧
      k.receive .output idleStatus = ⟨{ executions := 1 }, none, some (.tooDeep o)⟩

lemma unanswered_of_overrun {content : Object} (hfits : Kernel.contentFits "execute_reply" content = true) {o : Overrun}
    (ho : Kernel.overrun? {} .inspect content = some o) : Unanswered content := by
  have hpayload := Kernel.replyPayload_overrun hfits [] ho
  have hfair : Fair [.sent inspecting "msg-1", .arrived .replies (replyMessage content), .arrived .output idleStatus] := by
    refine ⟨List.nodup_singleton "msg-1", List.nodup_singleton 1, ?_⟩
    simp only [List.forall_mem_cons, List.not_mem_nil, false_imp_iff, implies_true, and_true]
    exact ⟨rfl, hfits, rfl⟩
  -- the entry of the request, with its reply, in the table of the kernel
  let p : Kernel.Pending := ⟨"msg-1", 1, .inspect, [], .object content, false⟩
  refine ⟨hfair, rfl, { pending := [p], executions := 1 }, o, rfl, ?_⟩
  have hidle : ({ pending := [p], executions := 1 } : Kernel).receive .output idleStatus =
      Kernel.finish { pending := [{ p with idle := true }], executions := 1 } { p with idle := true } := rfl
  rw [hidle]
  simp [Kernel.finish, Kernel.remove, p, hpayload]

/-- An object that nests deeper than a kernel reads makes such a reply. -/
theorem bottomless_unanswered : Unanswered (Kernel.answering (.object (Kernel.bottomless 983))) := by
  have hroom : ({} : Depths).containers = 982 + 1 := rfl
  have hover := Kernel.overrun?_bottomless hroom (Kernel.answering_answers (.object (Kernel.bottomless 983)))
    (by decide : Action.inspect ≠ .run)
  exact unanswered_of_overrun (Kernel.answering_fits _) hover

end EvalSession.Session
