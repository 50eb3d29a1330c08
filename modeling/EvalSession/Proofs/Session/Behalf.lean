import EvalSession.Proofs.Session.Service

/-!
# On whose behalf a task is handed in

A call hands in a task when it is made, and the inspection of a member hands in a second one when the first has its reply.
`issuer` reads the call of each task off the events. Main statement: where an earlier call hands in a task behind one of a
later call, the later call was made before the reply that asks for this task (`overtaken_of_lt`).
-/
namespace EvalSession.Session

open Coordinator (Replied given tagged)

variable {U X : Type}

def Event.taken? : Event U X → Option Nat
  | .link 0 (.submitted t _) => some t
  | _ => none

/-- What a task is handed in for: a call that is made, or the reply to an earlier task. -/
inductive Cause where
  | call (i : Nat)
  | reply (t : Nat)
  deriving DecidableEq

/-- What a task would be handed in for right after these events. -/
def cause? : List (Event U X) → Option Cause
  | .link 0 (.called (.inspection ..) _) :: .link 0 (.told t ..) :: _ => some (.reply t)
  | e :: es => if e.isCall then some (.call (calls es)) else none
  | [] => none

/-- The call on whose behalf a task was handed in. -/
def issuer : List (Event U X) → Nat → Option Nat
  | [], _ => none
  | e :: es, t =>
    if e.taken? = some t then
      match cause? es with
      | some (.call i) => some i
      | some (.reply u) => issuer es u
      | none => none
    else issuer es t

/-- The hook asks for a further task. -/
def asksScope : Hook U → Bool
  | .inspection q _ => !q.expression.scope.isEmpty
  | _ => false

/-- The task inspects a member, and its reply asks for a further task. -/
def Asks (es : List (Event U X)) (t : Nat) : Prop :=
  ∃ task, (given (eventsOf 0 es))[t]? = some task ∧ task.hooks.success.any asksScope = true

/-- The task `w` is the further one of its call, and the call `j` was made before the reply that asked for it. -/
def Overtaken (es : List (Event U X)) (w j : Nat) : Prop :=
  ∃ newer older t i, es = newer ++ older ∧ j < calls older ∧ issuer older t = some i ∧ Asks older t ∧
    ¬ Replied (eventsOf 0 older) (t + 1) ∧ (given (eventsOf 0 older)).length ≤ w ∧ issuer es w = some i

/-- Events in the course of a reply, apart from what callers get to see of it. -/
def Event.dull : Event U X → Bool
  | .link _ (.log _) | .link _ (.told ..) => true
  | .link _ (.called h _) => internal h
  | _ => false

/-- The reply to the task is being handled. All tasks before it have been replied to. -/
def Fresh (es : List (Event U X)) (t : Nat) : Prop :=
  Replied (eventsOf 0 es) (t + 1) ∧ ∃ recent v older, es = recent ++ .link 0 (.routed v) :: older ∧
    (∀ e ∈ recent, e.dull = true) ∧ ¬ Replied (eventsOf 0 older) (t + 1) ∧ ∀ k, 1 ≤ k → k ≤ t → Replied (eventsOf 0 older) k

lemma calls_cons (e : Event U X) (es : List (Event U X)) : calls (e :: es) = calls es + e.isCall.toNat := by
  cases h : e.isCall <;> simp [calls, h]

section Events

variable {e : Event U X} {es new newer : List (Event U X)} {i j t u w : Nat}

lemma replied_append {k : Nat} {es : List (Coordinator.Event (Hook U) X)} (h : Replied es k)
    (newer : List (Coordinator.Event (Hook U) X)) : Replied (newer ++ es) k := by
  obtain ⟨nt, hm, hr⟩ := h
  refine ⟨nt, ?_, hr⟩
  simp only [Coordinator.tagged, Coordinator.notices, Coordinator.gather, List.reverse_append, List.filterMap_append,
    List.filter_append] at hm ⊢
  exact List.mem_append_left _ hm

lemma replied_events_append {k : Nat} (h : Replied (eventsOf 0 es) k) (newer : List (Event U X)) :
    Replied (eventsOf 0 (newer ++ es)) k := by
  rw [eventsOf_append]
  exact replied_append h _

lemma eventsOf_cons (g : Nat) (e : Event U X) (es : List (Event U X)) :
    eventsOf g (e :: es) = (e.of? g).toList ++ eventsOf g es := by
  cases he : e.of? g <;> simp only [eventsOf, he, List.filterMap_cons, Option.toList, List.nil_append, List.cons_append]

lemma given_cons_of_none (h : e.taken? = none) : given (eventsOf 0 (e :: es)) = given (eventsOf 0 es) := by
  rw [eventsOf_cons]
  cases e with
  | link g e =>
    cases g with
    | zero => cases e <;> simp_all [given, Event.taken?]
    | succ g => rfl
  | _ => rfl

lemma given_untaken (h : ∀ e ∈ new, e.taken? = none) : given (eventsOf 0 (new ++ es)) = given (eventsOf 0 es) := by
  induction new with
  | nil => rfl
  | cons e new ih =>
    rw [List.cons_append, given_cons_of_none (h e (by simp)), ih fun e' he' => h e' (by simp [he'])]

lemma given_length_cons (e : Event U X) (es : List (Event U X)) :
    (given (eventsOf 0 (e :: es))).length = (given (eventsOf 0 es)).length + e.taken?.isSome.toNat := by
  cases he : e.taken? with
  | none => rw [given_cons_of_none he]; rfl
  | some t =>
    unfold Event.taken? at he
    split at he
    · simp [eventsOf_cons, given]
    · cases he

lemma given_length_mono (newer es : List (Event U X)) :
    (given (eventsOf 0 es)).length ≤ (given (eventsOf 0 (newer ++ es))).length := by
  induction newer with
  | nil => exact Nat.le_refl _
  | cons e newer ih =>
    rw [List.cons_append, given_length_cons]
    omega

lemma issuer_cons_of_ne (h : e.taken? ≠ some t) : issuer (e :: es) t = issuer es t := if_neg h

lemma issuer_append (h : ∀ e ∈ new, e.taken? = none) (es : List (Event U X)) (t : Nat) : issuer (new ++ es) t = issuer es t := by
  induction new with
  | nil => rfl
  | cons e new ih =>
    rw [List.cons_append, issuer_cons_of_ne (by simp [h e (by simp)]), ih fun e' he => h e' (by simp [he])]

lemma Event.dull.taken (h : e.dull = true) : e.taken? = none := by
  cases e with
  | link g e => cases e <;> simp_all [Event.dull, Event.taken?]
  | _ => rfl

lemma Event.dull.isCall (h : e.dull = true) : e.isCall = false := by
  cases e <;> first | rfl | cases h

lemma Event.isCall.taken (h : e.isCall = true) : e.taken? = none := by
  cases e <;> first | rfl | cases h

lemma calls_uncalled (h : ∀ e ∈ new, e.isCall = false) (es : List (Event U X)) : calls (new ++ es) = calls es := by
  have hzero : calls new = 0 := List.countP_eq_zero.mpr fun e he => by simp [h e he]
  rw [calls_append, hzero, Nat.zero_add]

lemma cause_call (h : cause? es = some (.call i)) : ∃ call older, es = call :: older ∧ call.isCall = true ∧ calls older = i := by
  unfold cause? at h
  split at h
  · cases h
  · rename_i call older _
    simp only [Option.ite_none_right_eq_some, Option.some.injEq, Cause.call.injEq] at h
    exact ⟨call, older, rfl, h⟩
  · cases h

/-- A task is handed in for a call that has just been made, or for the reply to an earlier task of its call. -/
lemma issuer_taken (he : e.taken? = some t) : issuer (e :: es) t = some i ↔
    cause? es = some (.call i) ∨ ∃ u, cause? es = some (.reply u) ∧ issuer es u = some i := by
  rw [issuer, if_pos he]
  cases hcause : cause? es with
  | none => simp
  | some cause => cases cause <;> simp

lemma issuer_lt (h : issuer es t = some i) : i < calls es := by
  induction es generalizing t with
  | nil => cases h
  | cons e es ih =>
    rw [calls_cons]
    by_cases he : e.taken? = some t
    · rcases (issuer_taken he).mp h with hcause | ⟨u, -, hu⟩
      · obtain ⟨call, older, rfl, hcall, rfl⟩ := cause_call hcause
        rw [calls_cons, hcall]
        exact Nat.lt_add_right _ (Nat.lt_succ_self _)
      · exact (ih hu).trans_le (Nat.le_add_right ..)
    · rw [issuer_cons_of_ne he] at h
      exact (ih h).trans_le (Nat.le_add_right ..)

end Events

/-- Every event stands in this relation to those before it. -/
def Throughout (P : List (Event U X) → Event U X → Prop) (es : List (Event U X)) : Prop :=
  ∀ newer e older, es = newer ++ e :: older → P older e

lemma throughout_nil (P : List (Event U X) → Event U X → Prop) : Throughout P [] := by
  intro newer e older h
  simp at h

lemma throughout_cons {P : List (Event U X) → Event U X → Prop} {e : Event U X} {es : List (Event U X)} :
    Throughout P (e :: es) ↔ P es e ∧ Throughout P es := by
  refine ⟨fun h => ⟨h [] e es rfl, fun newer e' older hes => h (e :: newer) e' older (by rw [hes]; rfl)⟩, ?_⟩
  rintro ⟨hhead, htail⟩ newer e' older hes
  cases newer with
  | nil =>
    obtain ⟨rfl, rfl⟩ := List.cons.inj hes
    exact hhead
  | cons _ newer => exact htail newer e' older (List.cons.inj hes).2

lemma Throughout.append {P : List (Event U X) → Event U X → Prop} {es new : List (Event U X)} (h : Throughout P es)
    (hnew : ∀ e ∈ new, ∀ older, P older e) : Throughout P (new ++ es) := by
  induction new with
  | nil => exact h
  | cons e new ih => exact throughout_cons.mpr ⟨hnew e (by simp) _, ih fun e' he => hnew e' (by simp [he])⟩

/-- Tasks are numbered as they are handed in, and a further task of a call is handed in while a reply is handled. -/
structure Proper (es : List (Event U X)) (e : Event U X) : Prop where
  number : ∀ t, e.taken? = some t → t = (given (eventsOf 0 es)).length
  prompt : ∀ t u, e.taken? = some t → cause? es = some (.reply u) → Fresh es u ∧ Asks es u

lemma proper_of_untaken {e : Event U X} (h : e.taken? = none) (es : List (Event U X)) : Proper es e :=
  ⟨fun t ht => by simp [h] at ht, fun t u ht => by simp [h] at ht⟩

section History

variable {e : Event U X} {es new : List (Event U X)} {i j t u w : Nat}

lemma Fresh.append (h : Fresh es t) (hnew : ∀ e ∈ new, e.dull = true) : Fresh (new ++ es) t := by
  obtain ⟨hreplied, recent, v, older, rfl, hrecent, hrest⟩ := h
  refine ⟨replied_events_append hreplied new, new ++ recent, v, older, by simp, fun e he => ?_, hrest⟩
  exact (List.mem_append.mp he).elim (hnew e) (hrecent e)

/-- While a reply is handled, all tasks and calls are those from before it. -/
lemma issuer_recent {recent older : List (Event U X)} {v : Value} (h : ∀ e ∈ recent, e.dull = true) (t : Nat) :
    issuer (recent ++ .link 0 (.routed v) :: older) t = issuer older t := by
  rw [issuer_append fun e he => Event.dull.taken (h e he)]
  rfl

lemma given_recent {recent older : List (Event U X)} {v : Value} (h : ∀ e ∈ recent, e.dull = true) :
    given (eventsOf 0 (recent ++ .link 0 (.routed v) :: older)) = given (eventsOf 0 older) := by
  rw [given_untaken fun e he => Event.dull.taken (h e he)]
  exact given_cons_of_none rfl

lemma recent_unique {recent recent' older older' : List (Event U X)} {v v' : Value} (hr : ∀ e ∈ recent, e.dull = true)
    (hr' : ∀ e ∈ recent', e.dull = true)
    (h : recent ++ .link 0 (.routed v) :: older = recent' ++ .link 0 (.routed v') :: older') : older = older' := by
  induction recent generalizing recent' with
  | nil =>
    cases recent' with
    | nil => exact (List.cons.inj h).2
    | cons e recent' => cases (List.cons.inj h).1 ▸ hr' e (by simp)
  | cons e recent ih =>
    cases recent' with
    | nil => cases (List.cons.inj h).1 ▸ hr e (by simp)
    | cons e' recent' =>
      exact ih (fun x hx => hr x (by simp [hx])) (fun x hx => hr' x (by simp [hx])) (List.cons.inj h).2

lemma Fresh.unique (ht : Fresh es t) (hu : Fresh es u) : t = u := by
  obtain ⟨-, recent, v, older, rfl, hrecent, hunreplied, hall⟩ := ht
  obtain ⟨-, recent', v', older', hes, hrecent', hunreplied', hall'⟩ := hu
  obtain rfl := recent_unique hrecent hrecent' hes
  rcases Nat.lt_trichotomy t u with hlt | heq | hgt
  · exact absurd (hall' (t + 1) (by omega) (by omega)) hunreplied
  · exact heq
  · exact absurd (hall (u + 1) (by omega) (by omega)) hunreplied'

lemma Fresh.cause_ne (h : Fresh es t) : cause? es ≠ some (.call i) := by
  intro hcause
  obtain ⟨call, older, rfl, hcall, -⟩ := cause_call hcause
  obtain ⟨-, recent, v, older', hes, hrecent, -⟩ := h
  cases recent with
  | nil =>
    obtain rfl := (List.cons.inj hes).1
    cases hcall
  | cons e recent =>
    obtain rfl := (List.cons.inj hes).1
    rw [Event.dull.isCall (hrecent call (by simp))] at hcall
    cases hcall

lemma issuer_lt_given (hes : Throughout Proper es) (h : issuer es t = some i) : t < (given (eventsOf 0 es)).length := by
  induction es generalizing t with
  | nil => cases h
  | cons e es ih =>
    obtain ⟨hturn, hes⟩ := throughout_cons.mp hes
    rw [given_length_cons]
    by_cases he : e.taken? = some t
    · rw [he, hturn.number t he]
      exact Nat.lt_succ_self _
    · rw [issuer_cons_of_ne he] at h
      exact (ih hes h).trans_le (Nat.le_add_right ..)

lemma issuer_cons (hes : Throughout Proper (e :: es)) (h : issuer es t = some i) : issuer (e :: es) t = some i := by
  obtain ⟨hturn, hes⟩ := throughout_cons.mp hes
  rw [issuer_cons_of_ne, h]
  intro he
  have := issuer_lt_given hes h
  have := hturn.number t he
  omega

lemma Overtaken.cons (h : Overtaken es w j) (hes : Throughout Proper (e :: es)) : Overtaken (e :: es) w j := by
  obtain ⟨newer, older, t, i, rfl, hj, ht, hasks, hreplied, hw, hi⟩ := h
  exact ⟨e :: newer, older, t, i, rfl, hj, ht, hasks, hreplied, hw, issuer_cons hes hi⟩

/-- A task of an earlier call that is handed in behind one of a later call was overtaken. -/
theorem overtaken_of_lt (hes : Throughout Proper es) (hu : issuer es u = some j) (hw : issuer es w = some i) (huw : u < w)
    (hij : i < j) : Overtaken es w j := by
  -- induction on the events, down to the one that hands in the task of the earlier call
  induction es generalizing w with
  | nil => cases hw
  | cons e es ih =>
    obtain ⟨hturn, hrest⟩ := throughout_cons.mp hes
    by_cases he : e.taken? = some w
    · have hu' : issuer es u = some j := by
        rwa [issuer_cons_of_ne (by simp [he]; omega)] at hu
      rcases (issuer_taken he).mp hw with hcause | ⟨x, hcause, hx⟩
      · obtain ⟨call, older, rfl, hcall, rfl⟩ := cause_call hcause
        rw [issuer_cons_of_ne (by simp [Event.isCall.taken hcall])] at hu'
        have := issuer_lt hu'
        omega
      · obtain ⟨⟨-, recent, v, older, rfl, hrecent, hreplied, -⟩, hasks⟩ := hturn.prompt w x he hcause
        rw [issuer_recent hrecent] at hu' hx
        rw [Asks, given_recent hrecent] at hasks
        refine ⟨e :: recent ++ [.link 0 (.routed v)], older, x, i, by simp, issuer_lt hu', hx, hasks, hreplied, ?_, hw⟩
        rw [hturn.number w he]
        exact given_length_mono (recent ++ [.link 0 (.routed v)]) older |>.trans (by simp)
    · rw [issuer_cons_of_ne he] at hw
      have hlt := issuer_lt_given hrest hw
      have hu' : issuer es u = some j := by
        rwa [issuer_cons_of_ne] at hu
        intro hu
        have := hturn.number u hu
        omega
      exact (ih hrest hu' hw huw).cons hes

end History

/-- The next task is one of the call: the call was made just now, or a reply to a task of it asks for a further one. -/
def Entering (es : List (Event U X)) (i : Nat) : Prop :=
  cause? es = some (.call i) ∨ ∃ u, cause? es = some (.reply u) ∧ issuer es u = some i ∧ Fresh es u ∧ Asks es u

section Entry

variable {es : List (Event U X)} {i j t k : Nat}

lemma Entering.issued (h : Entering es i) (k : Nat) (task : Task (Hook U)) :
    issuer (.link 0 (.submitted k task) :: es) k = some i :=
  (issuer_taken rfl).mpr (h.imp_right fun ⟨u, hu, hi, _⟩ => ⟨u, hu, hi⟩)

lemma Entering.proper (h : Entering es i) (hk : k = (given (eventsOf 0 es)).length) (task : Task (Hook U)) :
    Proper es (.link 0 (.submitted k task)) := by
  refine ⟨fun t ht => (Option.some.inj ht).symm.trans hk, fun t u _ hu => ?_⟩
  rcases h with hcause | ⟨u', hcause, -, hfresh⟩
  · cases hcause.symm.trans hu
  · obtain rfl : u' = u := by simpa using hcause.symm.trans hu
    exact hfresh

lemma Entering.caller (h : Entering es i) (hcall : cause? es = some (.call j)) : i = j := by
  rcases h with hcause | ⟨u, hcause, -⟩
  · simpa using hcause.symm.trans hcall
  · cases hcause.symm.trans hcall

lemma Entering.handled (h : Entering es i) (hfresh : Fresh es t) (ht : issuer es t = some j) : i = j := by
  rcases h with hcause | ⟨u, -, hu, hfresh', -⟩
  · exact absurd hcause hfresh.cause_ne
  · obtain rfl := hfresh.unique hfresh'
    exact Option.some.inj (hu.symm.trans ht)

lemma given_submitted (k : Nat) (task : Task (Hook U)) (es : List (Event U X)) :
    given (eventsOf 0 (.link 0 (.submitted k task) :: es)) = given (eventsOf 0 es) ++ [task] := by
  simp [eventsOf_cons, given]

end Entry

end EvalSession.Session
