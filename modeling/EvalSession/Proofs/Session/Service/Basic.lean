import EvalSession.Proofs.Session.Calls
import EvalSession.Proofs.Session.Progress

/-!
# What calls have seen and will see

In an `Obliging` run the callers only use calls with hooks of their own, and the worker answers each request once, with a
reply that fits. What a call has seen, and what the frames on the stack will show it in their order, says how far the call has
got (`Service`).
-/
namespace EvalSession.Session

open Coordinator (Sent Replied given notices requests)

variable {U X : Type}

def Event.isCall : Event U X → Bool
  | .log .execute | .log .complete | .log .inspect => true
  | _ => false

def calls (es : List (Event U X)) : Nat := es.countP Event.isCall

/-- The message is meant for an open request, and a reply is the only one and fits. -/
def Answers (es : List (Coordinator.Event (Hook U) X)) (v : Value) : Prop :=
  Coordinator.Meant es v ∧ ∀ variant id last payload, Message.decode v = .ok (.reply variant id last payload) →
    last = true ∧ ∀ r ∈ requests es, id = some (r.contextId : Int) → fits r.action variant payload = true

instance (es : List (Coordinator.Event (Hook U) X)) (v : Value) : Decidable (Answers es v) :=
  match h : Message.decode v with
  | .ok (.reply variant id last payload) =>
    decidable_of_iff (Coordinator.Meant es v ∧ last = true ∧
        ∀ r ∈ requests es, id = some (r.contextId : Int) → fits r.action variant payload = true)
      (and_congr_right fun _ => ⟨fun hfits _ _ _ _ hd => by cases h.symm.trans hd; exact hfits, fun hall => hall _ _ _ _ h⟩)
  | .ok (.log _) | .ok (.stream ..) | .error _ => decidable_of_iff (Coordinator.Meant es v) (by simp [Answers, h])

variable (owner : U → Nat)

/-- Callers make calls with all hooks set, each call with hooks of its own, and the worker answers. Hooks and the transform may
raise ordinary faults, and call back. -/
def Obliging (m : Machine U X) : Move U X → Prop
  | .tick => ∀ p ∈ m.stack.head?.bind (Frame.hands? m.state), Answers (eventsOf p.1 m.events) p.2
  | .start (.execute _ hooks) => ∃ set ∈ hooks, Owned owner (calls m.events) set
  | .start (.complete _ _ hooks) => Owned owner (calls m.events) hooks
  | .start (.inspect _ _ hooks) => Owned owner (calls m.events) hooks
  | .start (.assign _) => True
  | .start (.deliver ..) => True
  | .start _ => False
  | .answer (.code v) => Coordinator.Textual v
  | .answer (.raised e) => e.ordinary = true ∧ ∀ f ∈ m.stack.head?, f.bears e = true
  | _ => True

instance (m : Machine U X) (move : Move U X) : Decidable (Obliging owner m move) :=
  match move with
  | .tick => inferInstanceAs (Decidable (∀ p ∈ m.stack.head?.bind (Frame.hands? m.state), Answers (eventsOf p.1 m.events) p.2))
  | .start (.execute _ hooks) => inferInstanceAs (Decidable (∃ set ∈ hooks, Owned owner (calls m.events) set))
  | .start (.complete _ _ hooks) | .start (.inspect _ _ hooks) =>
    inferInstanceAs (Decidable (Owned owner (calls m.events) hooks))
  | .answer (.code v) => inferInstanceAs (Decidable (Coordinator.Textual v))
  | .answer (.raised e) => inferInstanceAs (Decidable (e.ordinary = true ∧ ∀ f ∈ m.stack.head?, f.bears e = true))
  | .start (.assign _) | .start (.deliver ..) | .answer .done | .answer (.exited _) | .answer (.worker _) | .recover =>
    isTrue trivial
  | .start (.kill ..) | .start (.restart ..) | .start (.arrive ..) | .start (.transmit ..) | .start (.install _)
  | .start (.terminate _) => isFalse id

/-- The hook of a task for a moment, as the task was handed in. -/
def hookAt (tasks : List (Task (Hook U))) (t : Nat) (moment : Moment) : Option (Hook U) :=
  tasks[t]?.bind fun task => task.hooks.get moment

/-- What a frame will show the callers. -/
def Frame.owes (tasks : List (Task (Hook U))) : Frame U X → List (Nat × Moment)
  | .link _ (.call t moment _) => effects owner (hookAt tasks t moment)
  | .link _ (.close _ t) => effects owner (hookAt tasks t .afterRun)
  | .respond hooks _ =>
    mark owner .beforeRun hooks.beforeRun ++ mark owner .success hooks.success ++ mark owner .afterRun hooks.afterRun
  | .call moment hook _ => mark owner moment hook
  | .body hook _ => effect owner hook
  | _ => []

/-- The call that waits at a frame, and what it has seen by then. -/
def Frame.station? (tasks : List (Task (Hook U))) : Frame U X → Option (Nat × List Moment)
  | .execute _ hooks => some (caller owner (hooks.getD {}), [])
  | .complete _ _ hooks => some (caller owner hooks, [])
  | .inspect _ _ hooks => some (caller owner hooks, [])
  | .link _ (.submit task) => some (taskCaller owner task, announced task false)
  | .link _ (.call t moment _) => ((hookAt tasks t moment).bind (follows? owner)).map fun i => (i, [.beforeRun])
  | .body hook _ => (follows? owner hook).map fun i => (i, [.beforeRun])
  | _ => none

def Frame.isCall : Frame U X → Bool
  | .execute .. | .complete .. | .inspect .. => true
  | _ => false

/-- The message is the only reply to its request, and can be used. -/
def Usable (tasks : List (Task (Hook U))) (v : Value) : Prop :=
  ∀ nt ∈ Coordinator.notice? v, nt.reply = true → nt.last = true ∧ (nt.moment = .success ∨ nt.moment = .error) ∧
    ∃ payload, nt.argument = .payload payload ∧ (nt.moment = .success → ∀ t task h, nt.id = some ((t + 1 : Nat) : Int) →
      tasks[t]? = some task → task.hooks.success = some h → Accepts payload h)

/-- The frame can run without a fault. -/
def Frame.Apt (tasks : List (Task (Hook U))) : Frame U X → Prop
  | .execute _ hooks => ∃ i, ∃ set ∈ hooks, Owned owner i set
  | .complete _ _ hooks => ∃ i, Owned owner i hooks
  | .inspect _ _ hooks => ∃ i, Owned owner i hooks
  | .body hook payload =>
    internal hook = true ∧ Accepts payload hook ∧ ∀ q hooks, hook = .inspection q hooks → ∃ i, Owned owner i hooks
  | .link _ (.submit task) => ∃ i, Commissioned owner i task
  | .link _ (.route v) => Usable tasks v
  | .link _ (.loop v) => Usable tasks v
  | .link _ (.call t moment argument) => ∀ h ∈ hookAt tasks t moment, internal h = true →
    ∃ payload, argument = .payload payload ∧ Accepts payload h
  | .link _ .kill => False
  | .link .. | .assign _ | .respond .. | .call .. | .awaitCall .. | .deliver .. => True
  | _ => False

def Frame.rests : Frame U X → Bool
  | .link _ f => f.resumes
  | .call moment _ _ => moment ≠ .beforeRun
  | .awaitCall .. => true
  | _ => false

/-- Frames whose faults go to the frame below. -/
def Frame.leans : Frame U X → Bool
  | .body .. | .awaitCall false .. => true
  | _ => false

/-- The frame waits for a hook of the session, and contains its faults. -/
def Frame.catches : Frame U X → Bool
  | .link _ (.awaitHook h _) => internal h
  | _ => false

lemma Frame.waits_of_catches {g : Nat} {f : Coordinator.Frame (Hook U) X} (h : (Frame.link g f).catches = true) :
    f.waits = true := by
  cases f <;> first | rfl | cases h

def Propped : List (Frame U X) → Prop
  | [] => True
  | f :: r => (f.leans = true → r.head?.any Frame.catches = true) ∧ Propped r

def place (es : List (Coordinator.Event (Hook U) X)) (last t : Nat) : Option (Nat × List Moment) :=
  if Replied es (t + 1) then none
  else (given es)[t]?.map fun task => (taskCaller owner task, announced task (t < last))

def waiting (es : List (Coordinator.Event (Hook U) X)) (last : Nat) : List (Nat × List Moment) :=
  (List.range (given es).length).filterMap (place owner es last)

namespace Machine

variable (m : Machine U X)

def tasks : List (Task (Hook U)) := given (eventsOf 0 m.events)

/-- What callers have seen, and will see of what is on the stack. -/
def shown : List (Nat × Moment) := sights owner m.events ++ m.stack.flatMap (Frame.owes owner m.tasks)

def roster : List (Nat × List Moment) :=
  (m.stack.head?.bind (Frame.station? owner m.tasks)).toList ++
    waiting owner (eventsOf 0 m.events) (coordinatorOf m.state 0).lastContext

def made : Nat := calls m.events + (m.stack.head?.any Frame.isCall).toNat

end Machine

structure Serving (m : Machine U X) : Prop where
  single : m.state.links.length = 1
  live : (coordinatorOf m.state 0).killed = false
  fault : ∀ e ∈ m.fault, e.ordinary = true ∧ m.stack.head?.any Frame.catches = true
  top : ∀ f ∈ m.stack.head?, f.Apt owner m.tasks
  rest : ∀ f ∈ m.stack.tail, f.rests = true
  propped : Propped m.stack
  commissioned : ∀ task ∈ m.tasks, ∃ i, Commissioned owner i task
  final : ∀ nt ∈ notices (eventsOf 0 m.events), nt.reply = true → nt.last = true

structure Service (m : Machine U X) : Prop extends Serving owner m where
  books : Booked (m.roster owner) (fun i => ofCall i (m.shown owner)) m.made

variable {owner}

lemma Frame.apt_of_rests {tasks : List (Task (Hook U))} {f : Frame U X} (h : f.rests = true) : f.Apt owner tasks := by
  cases f with
  | link g f => cases f <;> simp_all [Frame.rests, Frame.Apt, Coordinator.Frame.resumes, Coordinator.Frame.waits]
  | call | awaitCall => trivial
  | _ => cases h

lemma Frame.station_of_rests {tasks : List (Task (Hook U))} {f : Frame U X} (h : f.rests = true) :
    f.station? owner tasks = none := by
  cases f with
  | link g f => cases f <;> simp_all [Frame.rests, Frame.station?, Coordinator.Frame.resumes, Coordinator.Frame.waits]
  | call | awaitCall => rfl
  | _ => cases h

lemma Frame.not_isCall {f : Frame U X} (h : f.rests = true) : f.isCall = false := by
  cases f <;> simp_all [Frame.rests, Frame.isCall]

lemma propped_append {new r : List (Frame U X)} (h : ∀ f ∈ new, f.leans = false) (hr : Propped r) : Propped (new ++ r) := by
  induction new with
  | nil => exact hr
  | cons f new ih =>
    refine ⟨fun hf => ?_, ih fun g hg => h g (by simp [hg])⟩
    rw [h f (by simp)] at hf
    cases hf

lemma sights_append (evs es : List (Event U X)) : sights owner (evs ++ es) = sights owner es ++ sights owner evs := by
  simp [sights]

lemma calls_append (evs es : List (Event U X)) : calls (evs ++ es) = calls evs + calls es := List.countP_append

lemma waiting_congr {es es' : List (Coordinator.Event (Hook U) X)} {last : Nat} (hg : given es' = given es)
    (hr : ∀ k, Replied es' k ↔ Replied es k) : waiting owner es' last = waiting owner es last := by
  simp only [waiting, hg]
  refine List.filterMap_congr fun t _ => ?_
  simp only [place, hg, hr]

section Turn

variable {s s' : Session U X} {f : Frame U X} {r new : List (Frame U X)} {fault fault' : Option Fault}
  {es evs : List (Event U X)}

lemma Serving.turn (hs : Serving owner ⟨s, f :: r, fault, es⟩) (hsingle : s'.links.length = s.links.length)
    (hlive : (coordinatorOf s' 0).killed = (coordinatorOf s 0).killed)
    (hfault : ∀ e ∈ fault', e.ordinary = true ∧ (new ++ r).head?.any Frame.catches = true)
    (htop : ∀ g ∈ new.head?, g.Apt owner (given (eventsOf 0 (evs ++ es)))) (hrest : ∀ g ∈ new.tail, g.rests = true)
    (hprop : Propped (new ++ r)) (htasks : ∀ task ∈ given (eventsOf 0 (evs ++ es)), ∃ i, Commissioned owner i task)
    (hfinal : ∀ nt ∈ notices (eventsOf 0 (evs ++ es)), nt.reply = true → nt.last = true) :
    Serving owner ⟨s', new ++ r, fault', evs ++ es⟩ := by
  have hr := hs.rest
  refine ⟨hsingle.trans hs.single, hlive.trans hs.live, hfault, fun g hg => ?_, fun g hg => ?_, hprop, htasks, hfinal⟩
  · cases new with
    | nil => exact Frame.apt_of_rests (hr g (List.mem_of_mem_head? hg))
    | cons a new => exact htop g hg
  · cases new with
    | nil => exact hr g (List.mem_of_mem_tail hg)
    | cons a new => exact (List.mem_append.mp hg).elim (hrest g) (hr g)

lemma Serving.station (hs : Serving owner ⟨s, f :: r, fault, es⟩) (tasks : List (Task (Hook U))) :
    (new ++ r).head?.bind (Frame.station? owner tasks) = new.head?.bind (Frame.station? owner tasks) := by
  cases new with
  | cons a new => rfl
  | nil =>
    cases r with
    | nil => rfl
    | cons g r => exact Frame.station_of_rests (hs.rest g (List.mem_cons_self ..))

lemma Serving.isCall (hs : Serving owner ⟨s, f :: r, fault, es⟩) :
    (new ++ r).head?.any Frame.isCall = new.head?.any Frame.isCall := by
  cases new with
  | cons a new => rfl
  | nil =>
    cases r with
    | nil => rfl
    | cons g r => exact Frame.not_isCall (hs.rest g (List.mem_cons_self ..))

lemma Service.pass (hs : Service owner ⟨s, f :: r, fault, es⟩) (hn : Serving owner ⟨s', new ++ r, fault', evs ++ es⟩)
    (hgiven : given (eventsOf 0 (evs ++ es)) = given (eventsOf 0 es))
    (hreplied : ∀ k, Replied (eventsOf 0 (evs ++ es)) k ↔ Replied (eventsOf 0 es) k)
    (hlast : (coordinatorOf s' 0).lastContext = (coordinatorOf s 0).lastContext)
    (hshown : sights owner evs ++ new.flatMap (Frame.owes owner (given (eventsOf 0 es))) =
      f.owes owner (given (eventsOf 0 es)))
    (hstation : new.head?.bind (Frame.station? owner (given (eventsOf 0 es))) = f.station? owner (given (eventsOf 0 es)))
    (hcalls : calls evs + (new.head?.any Frame.isCall).toNat = f.isCall.toNat) :
    Service owner ⟨s', new ++ r, fault', evs ++ es⟩ := by
  refine ⟨hn, ?_⟩
  have hroster : Machine.roster owner ⟨s', new ++ r, fault', evs ++ es⟩ = Machine.roster owner ⟨s, f :: r, fault, es⟩ := by
    simp only [Machine.roster, Machine.tasks, hgiven, hs.toServing.station, hstation, hlast, List.head?_cons, Option.bind_some,
      waiting_congr hgiven hreplied]
  have hsame : Machine.shown owner ⟨s', new ++ r, fault', evs ++ es⟩ = Machine.shown owner ⟨s, f :: r, fault, es⟩ := by
    simp only [Machine.shown, Machine.tasks, hgiven, sights_append, List.flatMap_append, List.flatMap_cons, ← hshown,
      List.append_assoc]
  have hmade : Machine.made ⟨s', new ++ r, fault', evs ++ es⟩ = Machine.made ⟨s, f :: r, fault, es⟩ := by
    simp only [Machine.made, hs.toServing.isCall, calls_append, List.head?_cons, Option.any_some]
    omega
  rw [hroster, hsame, hmade]
  exact hs.books

end Turn

section Links

variable {s : Session U X} {f : Coordinator.Frame (Hook U) X} {r : List (Frame U X)} {fault : Option Fault}
  {es : List (Event U X)} {move : Move U X} {t : Turn U X} {fs : List (Coordinator.Frame (Hook U) X)}
  {new : List (Coordinator.Event (Hook U) X)}

lemma Linked.sights (ht : Linked s 0 f fault move t) :
    sights owner t.events.reverse = (eventsOf 0 t.events.reverse).reverse.flatMap (linkSight owner) := by
  have hall : ∀ es : List (Event U X), (∀ e ∈ es, (∃ e', e = .link 0 e') ∨ e.handed = true) →
      es.flatMap (Event.sight owner) = (eventsOf 0 es).flatMap (linkSight owner) := by
    intro es h
    induction es with
    | nil => rfl
    | cons e es ih =>
      rw [List.flatMap_cons, ih fun e' he => h e' (by simp [he])]
      rcases h e (by simp) with ⟨e', rfl⟩ | hh
      · simp [eventsOf, Event.sight]
      · cases e with
        | executed | log => rfl
        | _ => cases hh
  rw [Session.sights, List.reverse_reverse, hall _ ht.events, eventsOf, eventsOf, List.filterMap_reverse, List.reverse_reverse]

lemma Linked.calls (ht : Linked s 0 f fault move t) : calls t.events.reverse = 0 := by
  rw [Session.calls, List.countP_eq_zero]
  intro e he
  rcases ht.events e (List.mem_reverse.mp he) with ⟨e', rfl⟩ | hh
  · simp [Event.isCall]
  · cases e with
    | log entry => cases entry <;> simp_all [Event.isCall]
    | _ => simp [Event.isCall]

lemma Serving.link (hs : Serving owner ⟨s, .link 0 f :: r, fault, es⟩) (ht : Linked s 0 f fault move t)
    (hfs : t.frames = fs.map (.link 0)) (hnew : eventsOf 0 t.events.reverse = new) (hfault : t.fault = none)
    (hlive : (coordinatorOf t.state 0).killed = (coordinatorOf s 0).killed)
    (htop : ∀ g ∈ fs.head?, (Frame.link 0 g).Apt owner (given (new ++ eventsOf 0 es)))
    (hrest : ∀ g ∈ fs.tail, g.resumes = true)
    (htasks : ∀ task ∈ given (new ++ eventsOf 0 es), ∃ i, Commissioned owner i task)
    (hfinal : ∀ nt ∈ notices (new ++ eventsOf 0 es), nt.reply = true → nt.last = true) :
    Serving owner (Machine.after ⟨s, .link 0 f :: r, fault, es⟩ r t) := by
  have hevents : eventsOf 0 (t.events.reverse ++ es) = new ++ eventsOf 0 es := by rw [eventsOf_append, hnew]
  refine hs.turn ht.length hlive (by simp [hfault]) (fun g hg => ?_) (fun g hg => ?_) ?_ (by rwa [hevents]) (by rwa [hevents])
  · rw [hfs, List.head?_map, Option.mem_map] at hg
    obtain ⟨g', hg', rfl⟩ := hg
    rw [hevents]
    exact htop g' hg'
  · rw [hfs, ← List.map_tail, List.mem_map] at hg
    obtain ⟨g', hg', rfl⟩ := hg
    exact hrest g' hg'
  · refine propped_append (fun g hg => ?_) hs.propped.2
    rw [hfs, List.mem_map] at hg
    obtain ⟨g', -, rfl⟩ := hg
    rfl

lemma Serving.made (hs : Serving owner ⟨s, .link 0 f :: r, fault, es⟩) (ht : Linked s 0 f fault move t)
    (hfs : t.frames = fs.map (.link 0)) :
    (Machine.after ⟨s, .link 0 f :: r, fault, es⟩ r t).made = Machine.made ⟨s, .link 0 f :: r, fault, es⟩ := by
  have hnone : t.frames.head?.any Frame.isCall = false := by
    rw [hfs]
    cases fs <;> rfl
  simp only [Machine.made, Machine.after, hs.isCall, hnone, calls_append, ht.calls]
  simp [Frame.isCall]

lemma Service.link_pass (hs : Service owner ⟨s, .link 0 f :: r, fault, es⟩) (ht : Linked s 0 f fault move t)
    (hfs : t.frames = fs.map (.link 0)) (hnew : eventsOf 0 t.events.reverse = new) (hfault : t.fault = none)
    (hlive : (coordinatorOf t.state 0).killed = (coordinatorOf s 0).killed)
    (hlast : (coordinatorOf t.state 0).lastContext = (coordinatorOf s 0).lastContext)
    (hgiven : given (new ++ eventsOf 0 es) = given (eventsOf 0 es))
    (hreplied : ∀ k, Replied (new ++ eventsOf 0 es) k ↔ Replied (eventsOf 0 es) k)
    (hfinal : ∀ nt ∈ notices (new ++ eventsOf 0 es), nt.reply = true → nt.last = true)
    (htop : ∀ g ∈ fs.head?, (Frame.link 0 g).Apt owner (given (eventsOf 0 es)))
    (hrest : ∀ g ∈ fs.tail, g.resumes = true)
    (hshown : new.reverse.flatMap (linkSight owner) ++
      fs.flatMap (fun g => (Frame.link 0 g : Frame U X).owes owner (given (eventsOf 0 es))) =
        (Frame.link 0 f : Frame U X).owes owner (given (eventsOf 0 es)))
    (hstation : fs.head?.bind (fun g => (Frame.link 0 g : Frame U X).station? owner (given (eventsOf 0 es))) =
      (Frame.link 0 f : Frame U X).station? owner (given (eventsOf 0 es))) :
    Service owner (Machine.after ⟨s, .link 0 f :: r, fault, es⟩ r t) := by
  have hevents : eventsOf 0 (t.events.reverse ++ es) = new ++ eventsOf 0 es := by rw [eventsOf_append, hnew]
  have hserving := hs.toServing.link ht hfs hnew hfault hlive (by rwa [hgiven]) hrest (by rw [hgiven]; exact hs.commissioned)
    hfinal
  refine hs.pass hserving (by rw [hevents, hgiven]) (by rw [hevents]; exact hreplied) hlast ?_ ?_ ?_
  · rw [ht.sights, hnew, hfs, List.flatMap_map]
    exact hshown
  · rw [hfs, List.head?_map, Option.bind_map]
    exact hstation
  · rw [ht.calls, hfs]
    cases fs <;> rfl

/-- Events that neither show anything to callers nor bring anything in. -/
def still : Coordinator.Event (Hook U) X → Bool
  | .submitted .. | .routed _ | .called .. => false
  | _ => true

/-- Frames at which no call waits, and that owe none anything. -/
def dull : Coordinator.Frame (Hook U) X → Bool
  | .submit _ | .route _ | .loop _ | .call .. | .close .. | .kill => false
  | _ => true

lemma still_given (hnew : ∀ e ∈ new, still e = true) (es : List (Coordinator.Event (Hook U) X)) :
    given (new ++ es) = given es := by
  refine Coordinator.gather_none (fun e he => ?_) es
  have := hnew e he
  cases e <;> first | rfl | cases this

lemma still_notices (hnew : ∀ e ∈ new, still e = true) (es : List (Coordinator.Event (Hook U) X)) :
    notices (new ++ es) = notices es := by
  refine Coordinator.gather_none (fun e he => ?_) es
  have := hnew e he
  cases e <;> first | rfl | cases this

lemma still_sight (hnew : ∀ e ∈ new, still e = true) : new.reverse.flatMap (linkSight owner) = [] := by
  refine List.flatMap_eq_nil_iff.mpr fun e he => ?_
  have := hnew e (List.mem_reverse.mp he)
  cases e <;> first | rfl | cases this

lemma Service.link_still (hs : Service owner ⟨s, .link 0 f :: r, fault, es⟩) (ht : Linked s 0 f fault move t)
    (hfs : t.frames = fs.map (.link 0)) (hnew : eventsOf 0 t.events.reverse = new) (hfault : t.fault = none)
    (hlive : (coordinatorOf t.state 0).killed = (coordinatorOf s 0).killed)
    (hlast : (coordinatorOf t.state 0).lastContext = (coordinatorOf s 0).lastContext)
    (hstill : ∀ e ∈ new, still e = true)
    (htop : ∀ g ∈ fs.head?, (Frame.link 0 g).Apt owner (given (eventsOf 0 es)))
    (hrest : ∀ g ∈ fs.tail, g.resumes = true)
    (howes : fs.flatMap (fun g => (Frame.link 0 g : Frame U X).owes owner (given (eventsOf 0 es))) =
      (Frame.link 0 f : Frame U X).owes owner (given (eventsOf 0 es)))
    (hstation : fs.head?.bind (fun g => (Frame.link 0 g : Frame U X).station? owner (given (eventsOf 0 es))) =
      (Frame.link 0 f : Frame U X).station? owner (given (eventsOf 0 es))) :
    Service owner (Machine.after ⟨s, .link 0 f :: r, fault, es⟩ r t) := by
  have hnotices := still_notices hstill (eventsOf 0 es)
  refine hs.link_pass ht hfs hnew hfault hlive hlast (still_given hstill _) (fun k => ?_) ?_ htop hrest ?_ hstation
  · simp only [Replied, Coordinator.tagged, hnotices]
  · rw [hnotices]
    exact hs.final
  · rw [still_sight hstill, howes, List.nil_append]

variable (owner) in
lemma dull_facts (h : dull f = true) (tasks : List (Task (Hook U))) : (Frame.link 0 f : Frame U X).Apt owner tasks ∧
    (Frame.link 0 f : Frame U X).owes owner tasks = [] ∧ (Frame.link 0 f : Frame U X).station? owner tasks = none := by
  cases f <;> simp_all [dull, Frame.Apt, Frame.owes, Frame.station?]

lemma Service.link_dull (hs : Service owner ⟨s, .link 0 f :: r, fault, es⟩) (ht : Linked s 0 f fault move t)
    (hfs : t.frames = fs.map (.link 0)) (hnew : eventsOf 0 t.events.reverse = new) (hfault : t.fault = none)
    (hlive : (coordinatorOf t.state 0).killed = (coordinatorOf s 0).killed)
    (hlast : (coordinatorOf t.state 0).lastContext = (coordinatorOf s 0).lastContext)
    (hstill : ∀ e ∈ new, still e = true) (hf : dull f = true) (hdull : ∀ g ∈ fs, dull g = true)
    (hrest : ∀ g ∈ fs.tail, g.resumes = true) : Service owner (Machine.after ⟨s, .link 0 f :: r, fault, es⟩ r t) := by
  obtain ⟨-, howes, hstation⟩ := dull_facts owner hf (given (eventsOf 0 es))
  refine hs.link_still ht hfs hnew hfault hlive hlast hstill (fun g hg => ?_) hrest ?_ ?_
  · exact (dull_facts owner (hdull g (List.mem_of_mem_head? hg)) _).1
  · rw [howes, List.flatMap_eq_nil_iff]
    exact fun g hg => (dull_facts owner (hdull g hg) _).2.1
  · rw [hstation, Option.bind_eq_none_iff]
    exact fun g hg => (dull_facts owner (hdull g (List.mem_of_mem_head? hg)) _).2.2

end Links

end EvalSession.Session
