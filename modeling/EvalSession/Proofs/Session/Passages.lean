import EvalSession.Proofs.Session.Behalf

/-!
# Calls on their way to their results

Callers make supported calls with any hooks and raise as they like, and the worker answers each request with one reply that
ends it (`Answering`). What follows a reply follows at once: the hook of the task is called, and shows the result to the
caller or asks for a further task. `Ordered` says how far this has got, and what has come of all earlier replies.
-/
namespace EvalSession.Session

open Coordinator (Replied given tagged notices Sound Addressed)

variable {U X : Type}

/-- A call is shown its result. -/
def IsResult (moment : Moment) : Prop := moment = .success ∨ moment = .error

instance : DecidablePred IsResult := fun moment => inferInstanceAs (Decidable (moment = .success ∨ moment = .error))

/-- The message is meant for an open request, and a reply is the only one to it. -/
def Replies (es : List (Coordinator.Event (Hook U) X)) (v : Value) : Prop :=
  Coordinator.Meant es v ∧ ∀ nt ∈ Coordinator.notice? v, nt.reply = true → nt.last = true

instance (es : List (Coordinator.Event (Hook U) X)) (v : Value) : Decidable (Replies es v) :=
  inferInstanceAs (Decidable (_ ∧ _))

variable (owner : U → Nat)

/-- The hooks that are set belong to the call. -/
def Belong (i : Nat) (hooks : Hooks U) : Prop := ∀ moment, ∀ u ∈ hooks.get moment, owner u = i

instance (i : Nat) (hooks : Hooks U) : Decidable (Belong owner i hooks) :=
  decidable_of_iff (∀ moment ∈ Moment.all, ∀ u ∈ hooks.get moment, owner u = i)
    ⟨fun h moment => h moment (by cases moment <;> simp [Moment.all]), fun h moment _ => h moment⟩

/-- Calls are supported and have hooks of their own, if any, and the worker answers. -/
def Answering (m : Machine U X) : Move U X → Prop
  | .tick => ∀ p ∈ m.stack.head?.bind (Frame.hands? m.state), Replies (eventsOf p.1 m.events) p.2
  | .start (.execute _ hooks) => ∀ set ∈ hooks, Belong owner (calls m.events) set
  | .start (.complete code cursor hooks) | .start (.inspect code cursor hooks) =>
    (Expression.parse code cursor).isSome = true ∧ Belong owner (calls m.events) hooks
  | .start (.assign _) | .start (.deliver ..) | .start (.arrive ..) => True
  | .start _ => False
  | _ => True

instance (m : Machine U X) (move : Move U X) : Decidable (Answering owner m move) :=
  match move with
  | .tick => inferInstanceAs (Decidable (∀ p ∈ m.stack.head?.bind (Frame.hands? m.state), Replies (eventsOf p.1 m.events) p.2))
  | .start (.execute _ hooks) => inferInstanceAs (Decidable (∀ set ∈ hooks, Belong owner (calls m.events) set))
  | .start (.complete code cursor hooks) | .start (.inspect code cursor hooks) =>
    inferInstanceAs (Decidable ((Expression.parse code cursor).isSome = true ∧ Belong owner (calls m.events) hooks))
  | .start (.assign _) | .start (.deliver ..) | .start (.arrive ..) | .answer _ | .recover => isTrue trivial
  | .start (.kill ..) | .start (.restart ..) | .start (.transmit ..) | .start (.install _) | .start (.terminate _) => isFalse id

/-- The hook of a task for a moment serves the call. -/
def HookOf (i : Nat) (moment : Moment) : Hook U → Prop
  | .user moment' u => moment' = moment ∧ owner u = i
  | .names _ success => moment = .success ∧ ∀ u ∈ success, owner u = i
  | .inspection _ hooks | .scopeInspection _ _ hooks => moment = .success ∧ Belong owner i hooks
  | .inspectionError hooks => moment = .error ∧ Belong owner i hooks

def TaskOf (i : Nat) (task : Task (Hook U)) : Prop := ∀ moment, ∀ h ∈ task.hooks.get moment, HookOf owner i moment h

/-- The hook of a caller that a hook of a task passes a result on to. -/
def outlet? : Hook U → Option U
  | .user _ u => some u
  | .names _ success => success
  | .inspection _ hooks | .scopeInspection _ _ hooks => hooks.success
  | .inspectionError hooks => hooks.error

/-- No caller gets to see the result: there is no hook for it, or a hook of the session cannot use it. -/
def Futile (argument : Argument) (h : Hook U) : Prop :=
  outlet? h = none ∧ asksScope h = false ∨ ∃ payload, argument = .payload payload ∧ ¬ Accepts payload h

/-- The reply to a task of the call has nobody to be shown to. -/
def Forgone (es : List (Event U X)) (i : Nat) : Prop :=
  ∃ t task nt, issuer es t = some i ∧ (given (eventsOf 0 es))[t]? = some task ∧ nt ∈ tagged (eventsOf 0 es) (t + 1) ∧
    nt.reply = true ∧ ∀ h ∈ task.hooks.get nt.moment, Futile nt.argument h

/-- What has come of the reply to a task: the call was shown its result, or will not be, or a further task was handed in. -/
def Concluded (es : List (Event U X)) (t i : Nat) : Prop :=
  (∃ result, IsResult result ∧ (i, result) ∈ sights owner es) ∨ Forgone es i ∨ ∃ k, t < k ∧ issuer es k = some i

/-- The reply to the task is about to be shown to its call. All calls have handed in a task, and all other replies have come
to something. -/
structure Presenting (es : List (Event U X)) (t i : Nat) : Prop where
  fresh : Fresh es t
  issued : issuer es t = some i
  entered : ∀ j < calls es, ∃ k, issuer es k = some j
  concluded : ∀ k j, k ≠ t → issuer es k = some j → Replied (eventsOf 0 es) (k + 1) → Concluded owner es k j

/-- A result is shown to the call that it belongs to. -/
def Presented (es : List (Event U X)) (e : Event U X) : Prop :=
  ∀ p ∈ e.sight owner, IsResult p.2 → ∃ t, Presenting owner es t p.1

def Frame.stays : Frame U X → Bool
  | .link _ f => f.resumes
  | .call moment _ _ => moment = .afterRun
  | .awaitCall .. | .guarded => true
  | _ => false

/-- Frames that follow a reply at once. -/
def Frame.handles : Frame U X → Bool
  | .link _ (.submit _) | .body .. => true
  | .link _ (.call _ moment _) | .call moment _ _ => decide (IsResult moment)
  | _ => false

/-- What a frame on top has to do with the events. -/
def Frame.Fit (es : List (Event U X)) : Frame U X → Prop
  | .execute _ hooks => ∀ set ∈ hooks, Belong owner (calls es) set
  | .complete code cursor hooks | .inspect code cursor hooks =>
    (Expression.parse code cursor).isSome = true ∧ Belong owner (calls es) hooks
  | .link _ (.submit task) => ∃ i, TaskOf owner i task ∧ Entering es i
  | .link _ (.route v) | .link _ (.loop v) => ∀ nt ∈ Coordinator.notice? v, nt.reply = true → nt.last = true
  | .link _ (.call t moment argument) => IsResult moment → Fresh es t ∧ t < (given (eventsOf 0 es)).length ∧
    ∃ nt ∈ tagged (eventsOf 0 es) (t + 1), nt.reply = true ∧ nt.moment = moment ∧ nt.argument = argument
  | .link _ .kill => False
  | .body hook payload => internal hook = true ∧ ∃ t i moment older, IsResult moment ∧
    es = .link 0 (.called hook (.payload payload)) :: .link 0 (.told t moment (.payload payload)) :: older ∧
      Fresh es t ∧ issuer es t = some i ∧ hookAt (given (eventsOf 0 es)) t moment = some hook ∧ HookOf owner i moment hook ∧
        (Futile (.payload payload) hook → Forgone es i)
  | .call moment hook _ => IsResult moment → ∃ t i, Fresh es t ∧ issuer es t = some i ∧ (∀ u ∈ hook, owner u = i) ∧
    (hook = none → Forgone es i)
  | .link .. | .assign _ | .deliver .. | .arrive .. | .emit .. | .guarded | .awaitCall .. => True
  | _ => False

structure Ordered (m : Machine U X) : Prop where
  single : m.state.links.length = 1
  live : (coordinatorOf m.state 0).killed = false
  stays : ∀ f ∈ m.stack.tail, f.stays = true
  fit : ∀ f ∈ m.stack.head?, f.Fit owner m.events
  calm : m.fault ≠ none → ∀ f ∈ m.stack.head?, f.handles = false
  final : ∀ nt ∈ notices (eventsOf 0 m.events), nt.reply = true → nt.last = true
  tasks : ∀ t task, (given (eventsOf 0 m.events))[t]? = some task → ∃ i, issuer m.events t = some i ∧ TaskOf owner i task
  entered : ∀ i < calls m.events, (∃ t, issuer m.events t = some i) ∨
    cause? m.events = some (.call i) ∧ ∃ g task, m.stack.head? = some (.link g (.submit task))
  concluded : ∀ t i, issuer m.events t = some i → Replied (eventsOf 0 m.events) (t + 1) → Concluded owner m.events t i ∨
    Fresh m.events t ∧ ∃ f ∈ m.stack.head?, f.handles = true
  proper : Throughout Proper m.events
  presented : Throughout (Presented owner) m.events

variable {owner}

section Hooks

variable {i : Nat} {hooks : Hooks U}

lemma get_callers (hooks : Hooks U) (moment : Moment) : (callers hooks).get moment = (hooks.get moment).map (.user moment) := by
  cases moment <;> rfl

lemma Belong.callers (h : Belong owner i hooks) (moment : Moment) :
    ∀ hook ∈ (callers hooks).get moment, HookOf owner i moment hook := by
  rw [get_callers]
  rintro hook hk
  obtain ⟨u, hu, rfl⟩ := Option.map_eq_some_iff.mp hk
  exact ⟨rfl, h moment u hu⟩

lemma taskOf_run {code : String} {set : Option (Hooks U)} (h : ∀ hooks ∈ set, Belong owner i hooks) :
    TaskOf owner i (runTask code set) := by
  cases set with
  | none =>
    intro moment hook hk
    cases moment <;> cases hk
  | some hooks => exact fun moment => (h hooks rfl).callers moment

lemma taskOf_names (q : Question) (h : Belong owner i hooks) : TaskOf owner i (namesTask q hooks) := by
  intro moment hook hk
  cases moment with
  | success =>
    obtain rfl := Option.some.inj hk
    exact ⟨rfl, h .success⟩
  | _ => exact h.callers _ hook hk

lemma taskOf_inspection (q : Question) (h : Belong owner i hooks) : TaskOf owner i (inspectionTask q hooks) := by
  intro moment hook hk
  cases moment with
  | success | error =>
    obtain rfl := Option.some.inj hk
    exact ⟨rfl, h⟩
  | afterRun => cases hk
  | _ => exact h.callers _ hook hk

lemma taskOf_scope (q : Question) (report : Nat) (h : Belong owner i hooks) : TaskOf owner i (scopeTask q hooks report) := by
  intro moment hook hk
  cases moment with
  | success =>
    obtain rfl := Option.some.inj hk
    exact ⟨rfl, h⟩
  | beforeRun => cases hk
  | _ => exact h.callers _ hook hk

lemma HookOf.result {moment : Moment} {hook : Hook U} (h : HookOf owner i moment hook) (hint : internal hook = true) :
    IsResult moment := by
  cases hook with
  | user => cases hint
  | inspectionError => exact .inr h.1
  | _ => exact .inl h.1

end Hooks

section Events

variable {es new : List (Event U X)} {i t : Nat}

def Event.replies (e : Event U X) : Bool := ((e.of? 0).bind Coordinator.Event.news?).any Coordinator.Notice.reply

lemma notices_cons (e : Event U X) (es : List (Event U X)) :
    notices (eventsOf 0 (e :: es)) = notices (eventsOf 0 es) ++ ((e.of? 0).bind Coordinator.Event.news?).toList := by
  rw [eventsOf_cons]
  cases e.of? 0 <;> simp [notices]

lemma replies_append (h : ∀ e ∈ new, e.replies = false) (nt : Coordinator.Notice) (hr : nt.reply = true) :
    nt ∈ notices (eventsOf 0 (new ++ es)) ↔ nt ∈ notices (eventsOf 0 es) := by
  induction new with
  | nil => rfl
  | cons e new ih =>
    have he : nt ∉ ((e.of? 0).bind Coordinator.Event.news?).toList := fun hm => by
      have := h e (by simp)
      rw [Event.replies, Option.mem_toList.mp hm, Option.any_some, hr] at this
      cases this
    rw [List.cons_append, notices_cons, List.mem_append, ih fun e' he' => h e' (by simp [he'])]
    exact or_iff_left he

lemma replied_unreplied (h : ∀ e ∈ new, e.replies = false) (k : Nat) :
    Replied (eventsOf 0 (new ++ es)) k ↔ Replied (eventsOf 0 es) k := by
  constructor
  · rintro ⟨nt, hm, hr⟩
    obtain ⟨hm, hid⟩ := List.mem_filter.mp hm
    exact ⟨nt, List.mem_filter.mpr ⟨(replies_append h nt hr).mp hm, hid⟩, hr⟩
  · exact fun h => replied_events_append h new

lemma Event.dull.replies {e : Event U X} (h : e.dull = true) : e.replies = false := by
  cases e with
  | link g e => cases e <;> cases g <;> simp_all [Event.dull, Event.replies]
  | _ => rfl

lemma Event.dull.sight {e : Event U X} (h : e.dull = true) : e.sight owner = [] := by
  cases e with
  | link g e =>
    cases e with
    | called hook => cases hook <;> first | rfl | cases h
    | _ => rfl
  | _ => cases h

lemma given_append (h : t < (given (eventsOf 0 es)).length) (new : List (Event U X)) :
    (given (eventsOf 0 (new ++ es)))[t]? = (given (eventsOf 0 es))[t]? := by
  rw [eventsOf_append, given, Coordinator.gather, List.reverse_append, List.filterMap_append]
  exact List.getElem?_append_left h

lemma tagged_append {k : Nat} {nt : Coordinator.Notice} (h : nt ∈ tagged (eventsOf 0 es) k) (new : List (Event U X)) :
    nt ∈ tagged (eventsOf 0 (new ++ es)) k := by
  rw [eventsOf_append, tagged, notices, Coordinator.gather, List.reverse_append, List.filterMap_append, List.filter_append]
  exact List.mem_append_left _ h

lemma sights_mono (owner : U → Nat) (new : List (Event U X)) {p : Nat × Moment} (h : p ∈ sights owner es) :
    p ∈ sights owner (new ++ es) := by
  rw [sights_append]
  exact List.mem_append_left _ h

lemma Concluded.append (h : Concluded owner es t i) (new : List (Event U X))
    (hi : ∀ k, issuer es k = some i → issuer (new ++ es) k = some i) : Concluded owner (new ++ es) t i := by
  rcases h with ⟨result, hr, hm⟩ | ⟨k, task, nt, hk, htask, hm, hrest⟩ | ⟨k, hlt, hk⟩
  · exact .inl ⟨result, hr, sights_mono owner new hm⟩
  · refine .inr (.inl ⟨k, task, nt, hi k hk, ?_, tagged_append hm new, hrest⟩)
    rw [given_append (List.getElem?_eq_some_iff.mp htask).1, htask]
  · exact .inr (.inr ⟨k, hlt, hi k hk⟩)

end Events

section Turns

variable {s s' : Session U X} {f : Frame U X} {r new : List (Frame U X)} {fault fault' : Option Fault}
  {es evs : List (Event U X)}

lemma fit_of_stays (h : f.stays = true) (es : List (Event U X)) : f.Fit owner es := by
  cases f with
  | link g f => cases f <;> simp_all [Frame.stays, Frame.Fit, Coordinator.Frame.resumes, Coordinator.Frame.waits]
  | call moment =>
    obtain rfl : moment = .afterRun := of_decide_eq_true h
    simp [Frame.Fit, IsResult]
  | awaitCall | guarded => trivial
  | _ => cases h

lemma handles_of_stays (h : f.stays = true) : f.handles = false := by
  cases f with
  | link g f => cases f <;> first | rfl | cases h
  | call moment =>
    obtain rfl : moment = .afterRun := of_decide_eq_true h
    simp [Frame.handles, IsResult]
  | awaitCall | guarded => rfl
  | _ => cases h

lemma Ordered.turn (hm : Ordered owner ⟨s, f :: r, fault, es⟩) (new : List (Frame U X)) (evs : List (Event U X))
    (hlinks : s'.links.length = s.links.length)
    (hlive : (coordinatorOf s' 0).killed = (coordinatorOf s 0).killed)
    (hplain : ∀ e ∈ evs, e.taken? = none ∧ e.isCall = false ∧ e.replies = false)
    (hpresented : Throughout (Presented owner) (evs ++ es)) (hf : ∀ g task, f ≠ .link g (.submit task))
    (hfit : ∀ g ∈ new.head?, g.Fit owner (evs ++ es)) (hstays : ∀ g ∈ new.tail, g.stays = true)
    (hcalm : fault' ≠ none → ∀ g ∈ new.head?, g.handles = false)
    (hconcluded : f.handles = true → ∀ t i, Fresh es t → issuer es t = some i → Concluded owner (evs ++ es) t i ∨
      Fresh (evs ++ es) t ∧ ∃ g ∈ new.head?, g.handles = true) :
    Ordered owner ⟨s', new ++ r, fault', evs ++ es⟩ := by
  have hissuer := issuer_append (fun e he => (hplain e he).1) es
  have hgiven : given (eventsOf 0 (evs ++ es)) = given (eventsOf 0 es) := given_untaken fun e he => (hplain e he).1
  have hreplied : ∀ k, Replied (eventsOf 0 (evs ++ es)) k ↔ Replied (eventsOf 0 es) k :=
    replied_unreplied fun e he => (hplain e he).2.2
  have hcalls : calls (evs ++ es) = calls es := calls_uncalled (fun e he => (hplain e he).2.1) es
  have hrest : ∀ g ∈ r, g.stays = true := hm.stays
  have hhead : ∀ g ∈ (new ++ r).head?, g ∈ new.head? ∨ g.stays = true := by
    intro g hg
    cases new with
    | nil => exact .inr (hrest g (List.mem_of_mem_head? hg))
    | cons a new => exact .inl hg
  refine ⟨hlinks.trans hm.single, hlive.trans hm.live, fun g hg => ?_, fun g hg => ?_, fun hne g hg => ?_, fun nt hnt hr => ?_,
    fun t task ht => ?_, fun i hi => ?_, fun t i ht hr => ?_, ?_, hpresented⟩
  · cases new with
    | nil => exact hrest g (List.mem_of_mem_tail hg)
    | cons a new => exact (List.mem_append.mp hg).elim (hstays g) (hrest g)
  · exact (hhead g hg).elim (hfit g) fun h => fit_of_stays h _
  · exact (hhead g hg).elim (hcalm hne g) handles_of_stays
  · exact hm.final nt ((replies_append (fun e he => (hplain e he).2.2) nt hr).mp hnt) hr
  · rw [hissuer]
    exact hm.tasks t task (hgiven ▸ ht)
  · simp only [hissuer]
    refine .inl ((hm.entered i (hcalls ▸ hi)).resolve_right ?_)
    rintro ⟨-, g, task, hg⟩
    exact hf g task (Option.some.inj hg)
  · rw [hissuer] at ht
    rcases hm.concluded t i ht ((hreplied _).mp hr) with hdone | ⟨hfresh, g, hg, hhandles⟩
    · exact .inl (hdone.append _ fun k hk => (hissuer k).trans hk)
    · obtain rfl : f = g := Option.some.inj hg
      refine (hconcluded hhandles t i hfresh ht).imp_right fun ⟨hfresh, g, hg, hh⟩ => ⟨hfresh, g, ?_, hh⟩
      rw [List.head?_append, hg]
      rfl
  · exact hm.proper.append fun e he => proper_of_untaken (hplain e he).1

/-- The event shows no result and brings nothing in. -/
def Event.Quiet (owner : U → Nat) (e : Event U X) : Prop :=
  e.taken? = none ∧ e.isCall = false ∧ e.replies = false ∧ ∀ p ∈ e.sight owner, ¬ IsResult p.2

lemma Ordered.idle (hm : Ordered owner ⟨s, f :: r, fault, es⟩) (new : List (Frame U X)) (evs : List (Event U X))
    (hlinks : s'.links.length = s.links.length) (hlive : (coordinatorOf s' 0).killed = (coordinatorOf s 0).killed)
    (hquiet : ∀ e ∈ evs, e.Quiet owner) (hf : f.handles = false)
    (hfit : ∀ g ∈ new.head?, g.Fit owner (evs ++ es) ∧ g.handles = false)
    (hstays : ∀ g ∈ new.tail, g.stays = true) : Ordered owner ⟨s', new ++ r, fault', evs ++ es⟩ := by
  refine hm.turn new evs hlinks hlive (fun e he => ?_) ?_ ?_ (fun g hg => (hfit g hg).1) hstays (fun _ g hg => (hfit g hg).2) ?_
  · obtain ⟨ht, hc, hr, -⟩ := hquiet e he
    exact ⟨ht, hc, hr⟩
  · exact hm.presented.append fun e he older p hp hr => absurd hr ((hquiet e he).2.2.2 p hp)
  · rintro g task rfl
    cases hf
  · intro h
    rw [hf] at h
    cases h

/-- Where no reply is being handled, all have come to something. -/
lemma Ordered.settled {m : Machine U X} (hm : Ordered owner m) (hf : ∀ f ∈ m.stack.head?, f.handles = false) :
    (∀ i < calls m.events, ∃ t, issuer m.events t = some i) ∧
      ∀ t i, issuer m.events t = some i → Replied (eventsOf 0 m.events) (t + 1) → Concluded owner m.events t i := by
  refine ⟨fun i hi => (hm.entered i hi).resolve_right ?_, fun t i ht hr => (hm.concluded t i ht hr).resolve_right ?_⟩
  · rintro ⟨-, g, task, hg⟩
    cases hf _ hg
  · rintro ⟨-, g, hg, hh⟩
    rw [hf g hg] at hh
    cases hh

lemma Ordered.made {task : Task (Hook U)} (hm : Ordered owner ⟨s, f :: r, none, es⟩) (call : Event U X)
    (hf : f.handles = false) (hcall : call.isCall = true) (htask : TaskOf owner (calls es) task) :
    Ordered owner ⟨s, s.submit task :: r, none, call :: es⟩ := by
  obtain ⟨hentered, hsettled⟩ := hm.settled fun g hg => Option.some.inj hg ▸ hf
  have htaken : call.taken? = none := Event.isCall.taken hcall
  have hlog : (∀ g, call.of? g = none) ∧ call.sight owner = [] := by
    cases call <;> simp_all [Event.isCall, Event.sight]
  have hevents : eventsOf 0 (call :: es) = eventsOf 0 es := by
    rw [eventsOf_cons, hlog.1]
    rfl
  have hissuer : ∀ t, issuer (call :: es) t = issuer es t := fun t => issuer_cons_of_ne (by simp [htaken])
  have hcause : cause? (call :: es) = some (.call (calls es)) := by
    cases call <;> simp_all [Event.isCall, cause?]
  refine ⟨hm.single, hm.live, fun g hg => hm.stays g hg, fun g hg => ?_, by simp, ?_, ?_, fun i hi => ?_, fun t i ht hr => ?_,
    throughout_cons.mpr ⟨proper_of_untaken htaken _, hm.proper⟩,
    throughout_cons.mpr ⟨by simp [Presented, hlog.2], hm.presented⟩⟩
  · obtain rfl : s.submit task = g := Option.some.inj hg
    exact ⟨calls es, htask, .inl hcause⟩
  · rw [hevents]
    exact hm.final
  · simp only [hevents, hissuer]
    exact hm.tasks
  · rcases Nat.lt_succ_iff_lt_or_eq.mp (show i < calls es + 1 by simpa [calls_cons, hcall] using hi) with hlt | rfl
    · simp only [hissuer]
      exact .inl (hentered i hlt)
    · exact .inr ⟨hcause, _, _, rfl⟩
  · rw [hissuer] at ht
    rw [hevents] at hr
    exact .inl ((hsettled t i ht hr).append [call] fun k hk => (hissuer k).trans hk)

lemma Ordered.taken {task : Task (Hook U)} {k : Nat} (hm : Ordered owner ⟨s, .link 0 (.submit task) :: r, none, es⟩)
    (evs : List (Event U X)) (hlinks : s'.links.length = s.links.length)
    (hlive : (coordinatorOf s' 0).killed = (coordinatorOf s 0).killed) (hk : k = (given (eventsOf 0 es)).length)
    (hunreplied : ¬ Replied (eventsOf 0 es) (k + 1)) (hlogs : ∀ e ∈ evs, ∃ entry, e = .link 0 (.log entry))
    (hnew : ∀ g ∈ new, g = .link 0 .drain) (hone : new.tail = []) :
    Ordered owner ⟨s', new ++ r, none, evs ++ .link 0 (.submitted k task) :: es⟩ := by
  obtain ⟨i, htask, hentering⟩ : ∃ i, TaskOf owner i task ∧ Entering es i := hm.fit _ rfl
  have hproper : Throughout Proper (.link 0 (.submitted k task) :: es) :=
    throughout_cons.mpr ⟨hentering.proper hk task, hm.proper⟩
  have hissued : issuer (.link 0 (.submitted k task) :: es) k = some i := hentering.issued k task
  have hsubmitted : ∀ e ∈ [(.link 0 (.submitted k task) : Event U X)], e.replies = false := by simp [Event.replies]
  have hlog : ∀ e ∈ evs, e.Quiet owner := fun e he => by
    obtain ⟨entry, rfl⟩ := hlogs e he
    exact ⟨rfl, rfl, rfl, by simp [Event.sight, linkSight]⟩
  have hissuer := issuer_append (fun e he => (hlog e he).1) (.link 0 (.submitted k task) :: es)
  have hkept : ∀ t j, issuer es t = some j → issuer (.link 0 (.submitted k task) :: es) t = some j := fun t j h =>
    issuer_cons hproper h
  have hgiven : given (eventsOf 0 (evs ++ .link 0 (.submitted k task) :: es)) = given (eventsOf 0 es) ++ [task] := by
    rw [given_untaken fun e he => (hlog e he).1, given_submitted]
  have hreplied : ∀ j, Replied (eventsOf 0 (evs ++ .link 0 (.submitted k task) :: es)) j ↔ Replied (eventsOf 0 es) j := by
    intro j
    rw [replied_unreplied fun e he => (hlog e he).2.2.1]
    exact replied_unreplied hsubmitted j
  have hcalls : calls (evs ++ .link 0 (.submitted k task) :: es) = calls es := by
    rw [calls_uncalled fun e he => (hlog e he).2.1]
    rfl
  have hhead : ∀ g ∈ (new ++ r).head?, g = .link 0 .drain ∨ g.stays = true := by
    intro g hg
    cases new with
    | nil => exact .inr (hm.stays g (List.mem_of_mem_head? hg))
    | cons a new => exact .inl (hnew g (List.mem_of_mem_head? hg))
  refine ⟨hlinks.trans hm.single, hlive.trans hm.live, fun g hg => ?_, fun g hg => ?_, by simp, fun nt hnt hr => ?_,
    fun t task' ht => ?_, fun j hj => .inl ?_, fun t j ht hr => .inl ?_, ?_, ?_⟩
  · cases new with
    | nil => exact hm.stays g (List.mem_of_mem_tail hg)
    | cons a new =>
      obtain rfl : new = [] := hone
      exact hm.stays g hg
  · rcases hhead g hg with rfl | hstays
    · trivial
    · exact fit_of_stays hstays _
  · refine hm.final nt ?_ hr
    rw [replies_append (fun e he => (hlog e he).2.2.1) nt hr] at hnt
    exact (replies_append hsubmitted nt hr).mp hnt
  · rw [hgiven] at ht
    rw [hissuer]
    rcases Nat.lt_or_ge t (given (eventsOf 0 es)).length with hlt | hge
    · rw [List.getElem?_append_left hlt] at ht
      obtain ⟨j, hj, hof⟩ := hm.tasks t task' ht
      exact ⟨j, hkept t j hj, hof⟩
    · rw [List.getElem?_append_right hge, List.getElem?_singleton] at ht
      obtain ⟨heq, rfl⟩ : t - (given (eventsOf 0 es)).length = 0 ∧ task = task' := by simpa using ht
      obtain rfl : t = k := by omega
      exact ⟨i, hissued, htask⟩
  · simp only [hissuer]
    rcases hm.entered j (hcalls ▸ hj) with ⟨t, ht⟩ | ⟨hcall, -⟩
    · exact ⟨t, hkept t j ht⟩
    · obtain rfl := hentering.caller hcall
      exact ⟨k, hissued⟩
  · rw [hreplied] at hr
    rw [hissuer] at ht
    have htk : t ≠ k := by
      rintro rfl
      exact hunreplied hr
    rw [issuer_cons_of_ne (by simpa [Event.taken?] using Ne.symm htk)] at ht
    have hgrown : ∀ u, issuer es u = some j → issuer (evs ++ [.link 0 (.submitted k task)] ++ es) u = some j := fun u hu => by
      rw [List.append_assoc]
      exact (hissuer u).trans (hkept u j hu)
    rw [List.append_cons]
    rcases hm.concluded t j ht hr with hdone | ⟨hfresh, -⟩
    · exact hdone.append _ hgrown
    · obtain rfl := hentering.handled hfresh ht
      refine .inr (.inr ⟨k, hk ▸ issuer_lt_given hm.proper ht, ?_⟩)
      rw [List.append_assoc]
      exact (hissuer k).trans hissued
  · exact hproper.append fun e he => proper_of_untaken (hlog e he).1
  · refine Throughout.append (throughout_cons.mpr ⟨by simp [Presented, Event.sight, linkSight], hm.presented⟩) ?_
    exact fun e he older p hp hr => absurd hr ((hlog e he).2.2.2 p hp)

lemma reply_payload {v : Value} {nt : Coordinator.Notice} (hn : Coordinator.notice? v = some nt) (hr : nt.reply = true) :
    IsResult nt.moment ∧ ∃ payload, nt.argument = .payload payload := by
  obtain ⟨message, -, hof⟩ := Coordinator.notice_decoded hn
  cases message with
  | log => cases hof
  | stream =>
    obtain rfl := Option.some.inj hof
    cases hr
  | reply variant id last payload =>
    obtain rfl := Option.some.inj hof
    exact ⟨by cases variant <;> simp [IsResult, Coordinator.replyMoment], payload, rfl⟩

lemma routed_quiet {entries : List Diagnostic} {v : Value} {e : Event U X}
    (he : e ∈ (Coordinator.logs entries).map (Event.link 0) ++ [.link 0 (.routed v)]) :
    e.taken? = none ∧ e.isCall = false ∧ e.sight owner = [] := by
  rcases List.mem_append.mp he with he | he
  · obtain ⟨e', he', rfl⟩ := List.mem_map.mp he
    obtain ⟨entry, -, rfl⟩ := List.mem_map.mp he'
    exact ⟨rfl, rfl, rfl⟩
  · obtain rfl := List.mem_singleton.mp he
    exact ⟨rfl, rfl, rfl⟩

lemma eventsOf_routed (entries : List Diagnostic) (v : Value) (es : List (Event U X)) :
    eventsOf 0 ((Coordinator.logs entries).map (.link 0) ++ [.link 0 (.routed v)] ++ es) =
      Coordinator.logs entries ++ .routed v :: eventsOf 0 es := by
  simp [eventsOf, Coordinator.logs, List.filterMap_map, Function.comp_def]

lemma replied_answered {v : Value} {nt : Coordinator.Notice} {u : Nat} (hn : Coordinator.notice? v = some nt) (hr : nt.reply = true)
    (hid : nt.id = some ((u + 1 : Nat) : Int)) (entries : List Diagnostic) (es : List (Event U X)) (k : Nat) :
    Replied (eventsOf 0 ((Coordinator.logs entries).map (.link 0) ++ [.link 0 (.routed v)] ++ es)) k ↔
      Replied (eventsOf 0 es) k ∨ k = u + 1 := by
  rw [eventsOf_routed, ← heard_eq]
  exact replied_heard hn hid hr entries _ k

/-- The reply that comes in is the one that is handled: the tasks up to its own have their replies. -/
lemma Ordered.fresh {v : Value} {nt : Coordinator.Notice} {u : Nat}
    (hm : Ordered owner ⟨s, .link 0 (.route v) :: r, none, es⟩)
    (ha : Addressed ⟨coordinatorOf s 0, .route v :: framesOf 0 r, none, eventsOf 0 es⟩)
    (hn : Coordinator.notice? v = some nt) (hr : nt.reply = true) (hid : nt.id = some ((u + 1 : Nat) : Int))
    (hu : u < (coordinatorOf s 0).lastContext) (he : ¬ Coordinator.Ended (eventsOf 0 es) (u + 1)) (entries : List Diagnostic) :
    Fresh ((Coordinator.logs entries).map (.link 0) ++ [.link 0 (.routed v)] ++ es) u := by
  have hunreplied : ¬ Replied (eventsOf 0 es) (u + 1) := fun ⟨nt', hm', hr'⟩ =>
    he ⟨nt', hm', hm.final nt' (List.mem_filter.mp hm').1 hr'⟩
  refine ⟨(replied_answered hn hr hid entries es _).mpr (.inr rfl), (Coordinator.logs entries).map (.link 0), v, es, by simp, ?_,
    hunreplied, fun k h1 hk => ?_⟩
  · simp [Coordinator.logs, Event.dull]
  · by_contra hn
    have := (ha.occupied k h1 (by simp only; omega) hn).1
    simp only at this
    omega

lemma Ordered.answered {v : Value} {nt : Coordinator.Notice} {u : Nat} {entries : List Diagnostic}
    (hm : Ordered owner ⟨s, .link 0 (.route v) :: r, none, es⟩)
    (ha : Addressed ⟨coordinatorOf s 0, .route v :: framesOf 0 r, none, eventsOf 0 es⟩)
    (hn : Coordinator.notice? v = some nt) (hr : nt.reply = true) (hid : nt.id = some ((u + 1 : Nat) : Int))
    (hu : u < (coordinatorOf s 0).lastContext) (hlen : (coordinatorOf s 0).lastContext ≤ (given (eventsOf 0 es)).length)
    (he : ¬ Coordinator.Ended (eventsOf 0 es) (u + 1)) :
    Ordered owner ⟨s, (.call u nt.moment nt.argument :: (Coordinator.closing nt u ++ [.advance u])).map (.link 0) ++ r, none,
      (Coordinator.logs entries).map (.link 0) ++ [.link 0 (.routed v)] ++ es⟩ := by
  obtain ⟨hentered, hsettled⟩ := hm.settled fun g hg => Option.some.inj hg ▸ rfl
  obtain ⟨hresult, -⟩ := reply_payload hn hr
  set evs : List (Event U X) := (Coordinator.logs entries).map (.link 0) ++ [.link 0 (.routed v)]
  have hquiet : ∀ e ∈ evs, e.taken? = none ∧ e.isCall = false ∧ e.sight owner = [] := fun e => routed_quiet
  have hnew : eventsOf 0 (evs ++ es) = Coordinator.logs entries ++ .routed v :: eventsOf 0 es := eventsOf_routed entries v es
  have hissuer := issuer_append (fun e he => (hquiet e he).1) es
  have hgiven : given (eventsOf 0 (evs ++ es)) = given (eventsOf 0 es) := given_untaken fun e he => (hquiet e he).1
  have hcalls : calls (evs ++ es) = calls es := calls_uncalled (fun e he => (hquiet e he).2.1) es
  have hreplied : ∀ k, Replied (eventsOf 0 (evs ++ es)) k ↔ Replied (eventsOf 0 es) k ∨ k = u + 1 :=
    replied_answered hn hr hid entries es
  have hfresh : Fresh (evs ++ es) u := hm.fresh ha hn hr hid hu he entries
  refine ⟨hm.single, hm.live, fun g hg => ?_, fun g hg => ?_, by simp, fun nt' hnt' hr' => ?_,
    fun t task ht => ?_, fun i hi => .inl ?_, fun t i ht hr' => ?_, ?_, ?_⟩
  · rcases List.mem_append.mp hg with hg | hg
    · obtain ⟨g', hg', rfl⟩ := List.mem_map.mp hg
      rcases List.mem_append.mp hg' with hg' | hg'
      · obtain rfl : g' = .close nt.id u := by
          unfold Coordinator.closing at hg'
          split at hg'
          · exact List.mem_singleton.mp hg'
          · cases hg'
        rfl
      · obtain rfl := List.mem_singleton.mp hg'
        rfl
    · exact hm.stays g hg
  · obtain rfl : .link 0 (.call u nt.moment nt.argument) = g := Option.some.inj hg
    refine fun _ => ⟨hfresh, hgiven ▸ hu.trans_le hlen, nt, ?_, hr, rfl, rfl⟩
    rw [hnew]
    exact Coordinator.mem_tagged_routed.mpr (.inr ⟨hn, hid⟩)
  · rw [hnew, Coordinator.notices_routed, List.mem_append, Option.mem_toList] at hnt'
    rcases hnt' with hold | hnow
    · exact hm.final nt' hold hr'
    · exact hm.fit _ rfl nt' hnow hr'
  · rw [hissuer]
    exact hm.tasks t task (hgiven ▸ ht)
  · simp only [hissuer]
    exact hentered i (hcalls ▸ hi)
  · rw [hissuer] at ht
    rcases (hreplied _).mp hr' with hr' | heq
    · exact .inl ((hsettled t i ht hr').append _ fun k hk => (hissuer k).trans hk)
    · obtain rfl : t = u := by omega
      exact .inr ⟨hfresh, _, rfl, by simpa [Frame.handles] using hresult⟩
  · exact hm.proper.append fun e he => proper_of_untaken (hquiet e he).1
  · exact hm.presented.append fun e he older p hp => by simp [(hquiet e he).2.2] at hp

end Turns

end EvalSession.Session
