import EvalSession.Proofs.Session.Service.Basic

/-!
# Calls while a coordinator works

A task is taken in, dispatched and answered by frames of the link. A call waits at its task in between, and sees one thing
after the other as the task goes through these stages (`Service.linked`).
-/
namespace EvalSession.Session

open Coordinator (Sent Replied given notices requests)

variable {U X : Type} {owner : U → Nat}

/-- What holds of the coordinator of the link. -/
structure Steady (p : Coordinator.Machine (Hook U) X) : Prop where
  progressing : Progressing p
  attended : Coordinator.Attended p
  addressed : Coordinator.Addressed p

lemma owes_append {tasks more : List (Task (Hook U))} {g : Frame U X}
    (h : ∀ j f u, g = .link j f → f.target? = some u → u < tasks.length) :
    g.owes owner (tasks ++ more) = g.owes owner tasks := by
  have hat : ∀ u moment, u < tasks.length → hookAt (tasks ++ more) u moment = hookAt tasks u moment := by
    intro u moment hu
    simp only [hookAt, List.getElem?_append_left hu]
  cases g with
  | link j f =>
    cases f with
    | call u moment argument => simp only [Frame.owes, hat u moment (h j _ u rfl rfl)]
    | close id u => simp only [Frame.owes, hat u .afterRun (h j _ u rfl rfl)]
    | _ => rfl
  | _ => rfl

variable (owner) in
lemma waiting_concat {es es' : List (Coordinator.Event (Hook U) X)} {last : Nat} {task : Task (Hook U)}
    (hlen : last ≤ (given es).length) (hgiven : given es' = given es ++ [task]) (hreplied : ∀ k, Replied es' k ↔ Replied es k)
    (hfresh : ¬ Replied es ((given es).length + 1)) :
    waiting owner es' last = waiting owner es last ++ [(taskCaller owner task, announced task false)] := by
  rw [waiting, hgiven, List.length_append, List.length_singleton, List.range_succ, List.filterMap_append, waiting]
  congr 1
  · refine List.filterMap_congr fun u hu => ?_
    simp only [place, hgiven, hreplied, List.getElem?_append_left (List.mem_range.mp hu)]
  · simp [place, hgiven, hreplied, hfresh, Nat.not_lt.mpr hlen]

section Tasks

variable {s : Session U X} {f : Coordinator.Frame (Hook U) X} {r : List (Frame U X)} {fault : Option Fault}
  {es : List (Event U X)} {move : Move U X} {t : Turn U X} {fs : List (Coordinator.Frame (Hook U) X)}
  {new : List (Coordinator.Event (Hook U) X)} {task : Task (Hook U)}

lemma Steady.targets (hy : Steady ⟨coordinatorOf s 0, f :: framesOf 0 r, none, eventsOf 0 es⟩)
    (hh : Housed ⟨s, .link 0 f :: r, fault, es⟩) (hs : s.links.length = 1) :
    ∀ g ∈ r, ∀ j f' u, g = .link j f' → f'.target? = some u → u < (given (eventsOf 0 es)).length := by
  rintro g hg j f' u rfl hu
  have hj := hh.frames j f' (List.mem_cons_of_mem _ hg)
  obtain rfl : j = 0 := by
    simp only [hs] at hj
    omega
  have hmem : f' ∈ framesOf 0 r := List.mem_filterMap.mpr ⟨_, hg, by simp⟩
  refine (hy.progressing.provided.targets u ?_).trans_le hy.progressing.sound.queued.lastContext_le
  exact List.mem_filterMap.mpr ⟨f', List.mem_cons_of_mem _ hmem, hu⟩

lemma Service.take (hs : Service owner ⟨s, .link 0 (.submit task) :: r, fault, es⟩)
    (hh : Housed ⟨s, .link 0 (.submit task) :: r, fault, es⟩)
    (hy : Steady ⟨coordinatorOf s 0, .submit task :: framesOf 0 r, none, eventsOf 0 es⟩)
    (ht : Linked s 0 (.submit task) fault move t) (hfs : t.frames = fs.map (.link 0))
    (hnew : eventsOf 0 t.events.reverse = new) (hfault : t.fault = none)
    (hlive : (coordinatorOf t.state 0).killed = (coordinatorOf s 0).killed)
    (hlast : (coordinatorOf t.state 0).lastContext = (coordinatorOf s 0).lastContext)
    (hgiven : given (new ++ eventsOf 0 es) = given (eventsOf 0 es) ++ [task])
    (hnotices : notices (new ++ eventsOf 0 es) = notices (eventsOf 0 es))
    (hsight : new.reverse.flatMap (linkSight owner) = []) (hdull : ∀ g ∈ fs, dull g = true) (hone : fs.tail = []) :
    Service owner (Machine.after ⟨s, .link 0 (.submit task) :: r, fault, es⟩ r t) := by
  have hevents : eventsOf 0 (t.events.reverse ++ es) = new ++ eventsOf 0 es := by rw [eventsOf_append, hnew]
  have hlen : (coordinatorOf s 0).lastContext ≤ (given (eventsOf 0 es)).length := hy.progressing.sound.queued.lastContext_le
  have hreplied : ∀ k, Replied (new ++ eventsOf 0 es) k ↔ Replied (eventsOf 0 es) k := fun k => by
    simp only [Replied, Coordinator.tagged, hnotices]
  have hframes : ∀ g ∈ t.frames, ∃ g', dull g' = true ∧ g = .link 0 g' := by
    rw [hfs]
    rintro g hg
    obtain ⟨g', hg', rfl⟩ := List.mem_map.mp hg
    exact ⟨g', hdull g' hg', rfl⟩
  have hserving : Serving owner (Machine.after ⟨s, .link 0 (.submit task) :: r, fault, es⟩ r t) := by
    refine hs.toServing.link ht hfs hnew hfault hlive (fun g hg => (dull_facts owner (hdull g (List.mem_of_mem_head? hg)) _).1)
      (by simp [hone]) (fun more hm => ?_) (by rw [hnotices]; exact hs.final)
    rw [hgiven, List.mem_append, List.mem_singleton] at hm
    rcases hm with hm | rfl
    · exact hs.commissioned more hm
    · exact hs.top _ rfl
  refine ⟨hserving, ?_⟩
  have hfresh : ¬ Replied (eventsOf 0 es) ((given (eventsOf 0 es)).length + 1) := hy.addressed.unreplied (Nat.lt_succ_of_le hlen)
  have hwaiting := waiting_concat owner hlen hgiven hreplied hfresh
  have hroster : Machine.roster owner (Machine.after ⟨s, .link 0 (.submit task) :: r, fault, es⟩ r t) =
      waiting owner (eventsOf 0 es) (coordinatorOf s 0).lastContext ++ [(taskCaller owner task, announced task false)] := by
    have hnone : t.frames.head?.bind (Frame.station? owner (given (new ++ eventsOf 0 es))) = none := by
      rw [Option.bind_eq_none_iff]
      intro g hg
      obtain ⟨g', hg', rfl⟩ := hframes g (List.mem_of_mem_head? hg)
      exact (dull_facts owner hg' _).2.2
    simp only [Machine.roster, Machine.tasks, Machine.after, hs.toServing.station, hevents, hnone, hlast, hwaiting,
      Option.toList_none, List.nil_append]
  have hshown : Machine.shown owner (Machine.after ⟨s, .link 0 (.submit task) :: r, fault, es⟩ r t) =
      Machine.shown owner ⟨s, .link 0 (.submit task) :: r, fault, es⟩ := by
    have hnone : t.frames.flatMap (Frame.owes owner (given (eventsOf 0 es) ++ [task])) = [] := by
      rw [List.flatMap_eq_nil_iff]
      intro g hg
      obtain ⟨g', hg', rfl⟩ := hframes g hg
      exact (dull_facts owner hg' _).2.1
    have hrest : r.flatMap (Frame.owes owner (given (eventsOf 0 es) ++ [task])) =
        r.flatMap (Frame.owes owner (given (eventsOf 0 es))) :=
      List.flatMap_congr fun g hg => owes_append (hy.targets hh hs.single g hg)
    simp only [Machine.shown, Machine.tasks, Machine.after, sights_append, ht.sights, hnew, hsight, hevents, hgiven,
      List.flatMap_append, hnone, hrest, List.flatMap_cons, Frame.owes, List.append_nil, List.nil_append]
  rw [hroster, hshown, hs.toServing.made ht hfs]
  exact hs.books.perm (List.perm_append_singleton ..)

end Tasks

section Hooks

variable {tasks : List (Task (Hook U))} (hc : ∀ task ∈ tasks, ∃ i, Commissioned owner i task)
include hc

lemma call_facts (t : Nat) (moment : Moment) (hm : moment ≠ .success ∧ moment ≠ .error) (argument : Argument) :
    (Frame.link 0 (.call t moment argument) : Frame U X).Apt owner tasks ∧
      (Frame.link 0 (.call t moment argument) : Frame U X).station? owner tasks = none := by
  have huser : ∀ h, hookAt tasks t moment = some h → internal h = false := by
    intro h hh
    obtain ⟨task, ht, hg⟩ := Option.bind_eq_some_iff.mp hh
    obtain ⟨i, hi⟩ := hc task (List.mem_of_getElem? ht)
    refine Bool.eq_false_iff.mpr fun hint => ?_
    exact (hi.internal hg hint).elim hm.1 hm.2
  constructor
  · intro h hh hint
    rw [huser h hh] at hint
    cases hint
  · rw [Frame.station?, Option.map_eq_none_iff, Option.bind_eq_none_iff]
    intro h hh
    have := huser h hh
    cases h <;> first | rfl | cases this

lemma rest_owes {g : Frame U X} (hg : g.rests = true) : ∀ p ∈ g.owes owner tasks, p.2 ≠ .beforeRun := by
  intro p hp
  cases g with
  | link j f =>
    cases f with
    | close id t =>
      cases hh : hookAt tasks t .afterRun with
      | none => simp [Frame.owes, hh, effects] at hp
      | some h =>
        obtain ⟨task, ht, hget⟩ := Option.bind_eq_some_iff.mp hh
        obtain ⟨i, hi⟩ := hc task (List.mem_of_getElem? ht)
        obtain ⟨_, _, _, _, hend⟩ := hi.fails
        have hmem : p ∈ effects owner task.hooks.afterRun := by
          rw [Frame.owes, hh, ← hget] at hp
          exact hp
        have hmem := hend ▸ List.mem_append_right _ hmem
        simp only [List.mem_cons, List.not_mem_nil, or_false] at hmem
        rcases hmem with rfl | rfl <;> simp
    | call => cases hg
    | _ => cases hp
  | call moment hook argument =>
    cases hook with
    | none => cases hp
    | some u => cases moment <;> simp_all [Frame.owes, Frame.rests, mark, note]
  | respond | body => cases hg
  | _ => cases hp

end Hooks

variable (owner) in
lemma waiting_at {es es' : List (Coordinator.Event (Hook U) X)} {last last' t : Nat}
    (hg : (given es').length = (given es).length) (ht : t < (given es).length)
    (ho : ∀ u, u ≠ t → place owner es' last' u = place owner es last u) :
    ∃ others, (waiting owner es last).Perm ((place owner es last t).toList ++ others) ∧
      (waiting owner es' last').Perm ((place owner es' last' t).toList ++ others) := by
  have hperm := List.perm_cons_erase (List.mem_range.mpr ht)
  have hcons : ∀ (f : Nat → Option (Nat × List Moment)) l, (t :: l).filterMap f = (f t).toList ++ l.filterMap f := by
    intro f l
    cases h : f t <;> simp [h]
  refine ⟨((List.range (given es).length).erase t).filterMap (place owner es last), ?_, ?_⟩
  · rw [waiting, ← hcons]
    exact hperm.filterMap _
  · have hsame : ((List.range (given es).length).erase t).filterMap (place owner es last) =
        ((List.range (given es).length).erase t).filterMap (place owner es' last') :=
      List.filterMap_congr fun u hu => (ho u (List.nodup_range.mem_erase_iff.mp hu).1).symm
    rw [waiting, hg, hsame, ← hcons]
    exact hperm.filterMap _

lemma split_account {l seen owed : List Moment} (h : seen ++ owed = l) (hl : ∀ moment ∈ l, moment = .beforeRun)
    (ho : .beforeRun ∉ owed) : seen = l ∧ owed = [] := by
  have hnil : owed = [] := by
    refine List.eq_nil_iff_forall_not_mem.mpr fun moment hm => ho ?_
    exact hl moment (h ▸ List.mem_append_right _ hm) ▸ hm
  simpa [hnil] using h

section Deliveries

variable {s : Session U X} {f : Coordinator.Frame (Hook U) X} {r : List (Frame U X)} {fault : Option Fault}
  {es : List (Event U X)} {move : Move U X} {t : Turn U X} {fs : List (Coordinator.Frame (Hook U) X)}
  {new : List (Coordinator.Event (Hook U) X)}

/-- The call of a task that waits has seen all that there is for it, as a frame below the top owes no announcement. -/
lemma Service.standing (hs : Service owner ⟨s, .link 0 f :: r, fault, es⟩)
    (hquiet : (Frame.link 0 f : Frame U X).owes owner (given (eventsOf 0 es)) = [] ∧
      (Frame.link 0 f : Frame U X).station? owner (given (eventsOf 0 es)) = none)
    {i : Nat} {task : Task (Hook U)} {dispatched : Bool} {others : List (Nat × List Moment)}
    (hold : (waiting owner (eventsOf 0 es) (coordinatorOf s 0).lastContext).Perm ((i, announced task dispatched) :: others)) :
    Booked ((i, announced task dispatched) :: others)
        (fun j => ofCall j (sights owner es ++ r.flatMap (Frame.owes owner (given (eventsOf 0 es)))))
        (Machine.made ⟨s, .link 0 f :: r, fault, es⟩) ∧
      ofCall i (sights owner es) = announced task dispatched ∧
        ofCall i (r.flatMap (Frame.owes owner (given (eventsOf 0 es)))) = [] := by
  have hroster : (Machine.roster owner ⟨s, .link 0 f :: r, fault, es⟩).Perm ((i, announced task dispatched) :: others) := by
    simpa [Machine.roster, Machine.tasks, hquiet.2] using hold
  have hshown : Machine.shown owner ⟨s, .link 0 f :: r, fault, es⟩ =
      sights owner es ++ r.flatMap (Frame.owes owner (given (eventsOf 0 es))) := by
    simp [Machine.shown, Machine.tasks, hquiet.1]
  have hbooks := hs.books.perm hroster.symm
  rw [hshown] at hbooks
  have hsum : ofCall i (sights owner es) ++ ofCall i (r.flatMap (Frame.owes owner (given (eventsOf 0 es)))) =
      announced task dispatched := by
    simpa using (hbooks.pending _ (List.mem_cons_self ..)).2
  refine ⟨hbooks, split_account hsum (by simp [announced]) fun hm => ?_⟩
  obtain ⟨g, hg, hp⟩ := List.mem_flatMap.mp (mem_ofCall hm)
  exact rest_owes hs.commissioned (hs.rest g hg) _ hp rfl

lemma Service.shift (hs : Service owner ⟨s, .link 0 f :: r, fault, es⟩) (ht : Linked s 0 f fault move t)
    (hn : Serving owner (Machine.after ⟨s, .link 0 f :: r, fault, es⟩ r t)) (hfs : t.frames = fs.map (.link 0))
    (hnew : eventsOf 0 t.events.reverse = new) (hf : dull f = true ∨ ∃ v, f = .route v)
    (hgiven : given (new ++ eventsOf 0 es) = given (eventsOf 0 es)) (hsight : new.reverse.flatMap (linkSight owner) = [])
    {u i : Nat} {task : Task (Hook U)} (hu : (given (eventsOf 0 es))[u]? = some task) (hc : Commissioned owner i task)
    (hbefore : ¬ Replied (eventsOf 0 es) (u + 1))
    (hothers : ∀ j, j ≠ u → place owner (new ++ eventsOf 0 es) (coordinatorOf t.state 0).lastContext j =
      place owner (eventsOf 0 es) (coordinatorOf s 0).lastContext j)
    (more : List Moment)
    (hshown : fs.flatMap (fun g => (Frame.link 0 g : Frame U X).owes owner (given (eventsOf 0 es))) =
      more.map fun moment => (i, moment))
    (hplace : (fs.head?.bind (fun g => (Frame.link 0 g : Frame U X).station? owner (given (eventsOf 0 es)))).toList ++
        (place owner (new ++ eventsOf 0 es) (coordinatorOf t.state 0).lastContext u).toList =
          [(i, announced task (u < (coordinatorOf s 0).lastContext) ++ more)] ∨
      (fs.head?.bind (fun g => (Frame.link 0 g : Frame U X).station? owner (given (eventsOf 0 es)))).toList ++
        (place owner (new ++ eventsOf 0 es) (coordinatorOf t.state 0).lastContext u).toList = [] ∧
          Served (announced task (u < (coordinatorOf s 0).lastContext) ++ more)) :
    Service owner (Machine.after ⟨s, .link 0 f :: r, fault, es⟩ r t) := by
  have hevents : eventsOf 0 (t.events.reverse ++ es) = new ++ eventsOf 0 es := by rw [eventsOf_append, hnew]
  have hquiet : (Frame.link 0 f : Frame U X).owes owner (given (eventsOf 0 es)) = [] ∧
      (Frame.link 0 f : Frame U X).station? owner (given (eventsOf 0 es)) = none := by
    rcases hf with hf | ⟨v, rfl⟩
    · exact (dull_facts owner hf _).2
    · exact ⟨rfl, rfl⟩
  have hat : place owner (eventsOf 0 es) (coordinatorOf s 0).lastContext u =
      some (i, announced task (u < (coordinatorOf s 0).lastContext)) := by
    simp [place, hbefore, hu, hc.caller]
  obtain ⟨others, hold, hfresh⟩ := waiting_at owner (congrArg List.length hgiven)
    (List.getElem?_eq_some_iff.mp hu).1 hothers
  rw [hat, Option.toList_some, List.singleton_append] at hold
  -- what the stack still owes the call would come after what is put on it now
  obtain ⟨hbooks, hseen, hnothing⟩ := hs.standing hquiet hold
  have hnow : Machine.shown owner (Machine.after ⟨s, .link 0 f :: r, fault, es⟩ r t) = sights owner es ++
      (more.map (fun moment => (i, moment)) ++ r.flatMap (Frame.owes owner (given (eventsOf 0 es)))) := by
    simp only [Machine.shown, Machine.tasks, Machine.after, sights_append, ht.sights, hnew, hsight, hevents, hgiven, hfs,
      List.flatMap_append, List.flatMap_map, hshown, List.append_nil]
  have hcall : ofCall i (Machine.shown owner (Machine.after ⟨s, .link 0 f :: r, fault, es⟩ r t)) =
      announced task (u < (coordinatorOf s 0).lastContext) ++ more := by
    rw [hnow, ofCall_append, ofCall_append, hseen, hnothing, ofCall_own rfl, List.append_nil]
  have hothercall : ∀ j, j ≠ i → ofCall j (Machine.shown owner (Machine.after ⟨s, .link 0 f :: r, fault, es⟩ r t)) =
      ofCall j (sights owner es ++ r.flatMap (Frame.owes owner (given (eventsOf 0 es)))) := by
    intro j hj
    rw [hnow, ofCall_append, ofCall_append, ofCall_other hj rfl, List.nil_append, ofCall_append]
  have hnext : (Machine.roster owner (Machine.after ⟨s, .link 0 f :: r, fault, es⟩ r t)).Perm
      ((fs.head?.bind (fun g => (Frame.link 0 g : Frame U X).station? owner (given (eventsOf 0 es)))).toList ++
        (place owner (new ++ eventsOf 0 es) (coordinatorOf t.state 0).lastContext u).toList ++ others) := by
    simp only [Machine.roster, Machine.tasks, Machine.after, hs.toServing.station, hevents, hgiven, hfs, List.head?_map,
      Option.bind_map, List.append_assoc]
    exact hfresh.append_left _
  refine ⟨hn, ?_⟩
  rw [hs.toServing.made ht hfs]
  refine Booked.perm (hbooks.replace hothercall ?_) hnext
  rw [hcall]
  exact hplace

lemma still_replied (hnew : ∀ e ∈ new, still e = true) (es : List (Coordinator.Event (Hook U) X)) (k : Nat) :
    Replied (new ++ es) k ↔ Replied es k := by
  simp only [Replied, Coordinator.tagged, still_notices hnew]

lemma Service.opens {u : Nat} (hs : Service owner ⟨s, .link 0 (.dispatch u) :: r, fault, es⟩)
    (hy : Steady ⟨coordinatorOf s 0, .dispatch u :: framesOf 0 r, none, eventsOf 0 es⟩)
    (ht : Linked s 0 (.dispatch u) fault move t)
    (hfs : t.frames = List.map (.link 0) [.call u .beforeRun .nothing, .prepare u ((coordinatorOf s 0).lastContext + 1)])
    (hnew : eventsOf 0 t.events.reverse = [.opened u ((coordinatorOf s 0).lastContext + 1)]) (hfault : t.fault = none)
    (hstate : coordinatorOf t.state 0 = (coordinatorOf s 0).openContext u) :
    Service owner (Machine.after ⟨s, .link 0 (.dispatch u) :: r, fault, es⟩ r t) := by
  obtain ⟨rfl, task, hu⟩ := hy.progressing.sound.queued.dispatching
  have hcommissioned : ∀ task ∈ given (eventsOf 0 es), ∃ i, Commissioned owner i task := hs.commissioned
  obtain ⟨i, hi⟩ := hcommissioned task (List.mem_of_getElem? hu)
  have hstill : ∀ e ∈ ([.opened (coordinatorOf s 0).lastContext ((coordinatorOf s 0).lastContext + 1)] :
      List (Coordinator.Event (Hook U) X)), still e = true := by simp [still]
  have hgiven := still_given hstill (eventsOf 0 es)
  have hreplied := still_replied hstill (eventsOf 0 es)
  have hunreplied : ¬ Replied (eventsOf 0 es) ((coordinatorOf s 0).lastContext + 1) := hy.addressed.unreplied (Nat.lt_succ_self _)
  obtain ⟨hapt, hstation⟩ := call_facts (X := X) hcommissioned (coordinatorOf s 0).lastContext .beforeRun (by simp) .nothing
  have hserving := hs.toServing.link ht hfs hnew hfault (by rw [hstate]; rfl) (by rw [hgiven]; simpa using hapt)
    (by simp [Coordinator.Frame.resumes]) (by rwa [hgiven]) (by rw [still_notices hstill]; exact hs.final)
  refine hs.shift ht hserving hfs hnew (.inl rfl) hgiven (still_sight hstill) hu hi hunreplied (fun j hj => ?_)
    (if task.hooks.beforeRun.isNone then [] else [.beforeRun]) ?_ (.inl ?_)
  · have hlt : j < (coordinatorOf s 0).lastContext + 1 ↔ j < (coordinatorOf s 0).lastContext := by omega
    simp only [place, hgiven, hreplied, hstate, Coordinator.openContext, hlt]
  · have hat : hookAt (given (eventsOf 0 es)) (coordinatorOf s 0).lastContext .beforeRun = task.hooks.beforeRun := by
      simp [hookAt, hu, Hooks.get]
    simp only [List.flatMap_cons, List.flatMap_nil, Frame.owes, List.append_nil, hat, hi.opening]
    split <;> rfl
  · have hafter : place owner ([.opened (coordinatorOf s 0).lastContext ((coordinatorOf s 0).lastContext + 1)] ++ eventsOf 0 es)
        (coordinatorOf t.state 0).lastContext (coordinatorOf s 0).lastContext = some (i, [.beforeRun]) := by
      simp only [place, hgiven, hreplied, hunreplied, hstate, hu, if_false, Option.map_some, hi.caller]
      simp [announced, Coordinator.openContext]
    rw [hafter, List.head?_cons, Option.bind_some, hstation]
    cases hnone : task.hooks.beforeRun.isNone <;> simp [announced, hnone]

lemma addressee {c : Coordinator (Hook U) X} {v : Value} {r : List (Coordinator.Frame (Hook U) X)}
    {es : List (Coordinator.Event (Hook U) X)} {nt : Coordinator.Notice}
    (ha : Coordinator.Addressed ⟨c, .route v :: r, none, es⟩) (hn : Coordinator.notice? v = some nt) :
    ∃ u : Nat, nt.id = some ((u + 1 : Nat) : Int) ∧ c.resolve nt.id = some u ∧ u < c.lastContext ∧
      ¬ Coordinator.Ended es (u + 1) := by
  obtain ⟨k, hid, h1, hk, he, -⟩ := ha.incoming v (.inr rfl) nt hn
  obtain ⟨u, rfl⟩ := Nat.exists_eq_add_of_le' h1
  have ho := ha.owners _ h1 hk he
  simp only [Nat.add_sub_cancel] at ho
  exact ⟨u, hid, by rw [Coordinator.resolve, hid, ho, Option.some_or], hk, he⟩

lemma notice_output {v : Value} {nt : Coordinator.Notice} (hn : Coordinator.notice? v = some nt) (hr : nt.reply = false) :
    nt.moment = .stdout ∨ nt.moment = .stderr := by
  obtain ⟨message, -, hof⟩ := Coordinator.notice_decoded hn
  cases message with
  | log => cases hof
  | reply =>
    obtain rfl := Option.some.inj hof
    cases hr
  | stream id channel text =>
    obtain rfl := Option.some.inj hof
    cases channel
    · exact .inl rfl
    · exact .inr rfl

lemma sight_heard (entries : List Diagnostic) (v : Value) :
    (Coordinator.logs entries ++ [.routed v] : List (Coordinator.Event (Hook U) X)).reverse.flatMap (linkSight owner) = [] := by
  simp [linkSight, Coordinator.logs, List.flatMap_eq_nil_iff]

lemma given_heard (entries : List Diagnostic) (v : Value) (es : List (Coordinator.Event (Hook U) X)) :
    given (Coordinator.logs entries ++ [.routed v] ++ es) = given es := by
  simp [given]

lemma heard_eq (entries : List Diagnostic) (v : Value) (es : List (Coordinator.Event (Hook U) X)) :
    Coordinator.logs entries ++ [.routed v] ++ es = Coordinator.logs entries ++ .routed v :: es := by
  simp

lemma replied_heard {v : Value} {nt : Coordinator.Notice} {u : Nat} (hn : Coordinator.notice? v = some nt)
    (hid : nt.id = some ((u + 1 : Nat) : Int)) (hr : nt.reply = true) (entries : List Diagnostic)
    (es : List (Coordinator.Event (Hook U) X)) (k : Nat) :
    Replied (Coordinator.logs entries ++ [.routed v] ++ es) k ↔ Replied es k ∨ k = u + 1 := by
  rw [heard_eq]
  constructor
  · refine fun h => (Coordinator.replied_routed h).imp_right ?_
    rintro ⟨nt', hnt', hid', -⟩
    obtain rfl : nt = nt' := by simpa [hn] using hnt'
    rw [hid] at hid'
    have heq : ((u + 1 : Nat) : Int) = (k : Int) := by simpa using hid'
    omega
  · rintro (⟨nt', hm, hr'⟩ | rfl)
    · exact ⟨nt', Coordinator.mem_tagged_routed.mpr (.inl hm), hr'⟩
    · exact ⟨nt, Coordinator.mem_tagged_routed.mpr (.inr ⟨hn, hid⟩), hr⟩

lemma Service.hears {v : Value} {entries : List Diagnostic} (hs : Service owner ⟨s, .link 0 (.route v) :: r, fault, es⟩)
    (ht : Linked s 0 (.route v) fault move t) (hfs : t.frames = fs.map (.link 0))
    (hnew : eventsOf 0 t.events.reverse = Coordinator.logs entries ++ [.routed v]) (hfault : t.fault = none)
    (hstate : coordinatorOf t.state 0 = coordinatorOf s 0) (hn : ∀ nt ∈ Coordinator.notice? v, nt.reply = false)
    (hcalls : fs = [] ∨ ∃ u moment argument, fs = [.call u moment argument] ∧ (moment = .stdout ∨ moment = .stderr)) :
    Service owner (Machine.after ⟨s, .link 0 (.route v) :: r, fault, es⟩ r t) := by
  have hcommissioned : ∀ task ∈ given (eventsOf 0 es), ∃ i, Commissioned owner i task := hs.commissioned
  have hfacts : (∀ g ∈ fs.head?, (Frame.link 0 g).Apt owner (given (eventsOf 0 es))) ∧ fs.tail = [] ∧
      fs.flatMap (fun g => (Frame.link 0 g : Frame U X).owes owner (given (eventsOf 0 es))) = [] ∧
        fs.head?.bind (fun g => (Frame.link 0 g : Frame U X).station? owner (given (eventsOf 0 es))) = none := by
    rcases hcalls with rfl | ⟨u, moment, argument, rfl, hm⟩
    · simp
    · obtain ⟨hapt, hstation⟩ := call_facts (X := X) hcommissioned u moment (by rcases hm with rfl | rfl <;> simp) argument
      refine ⟨by simpa using hapt, rfl, ?_, by simpa using hstation⟩
      cases hh : (given (eventsOf 0 es))[u]? with
      | none => simp [Frame.owes, hookAt, hh, effects]
      | some task =>
        obtain ⟨i, hi⟩ := hcommissioned task (List.mem_of_getElem? hh)
        simp [Frame.owes, hookAt, hh, hi.output hm]
  obtain ⟨hapt, htail, howes, hstation⟩ := hfacts
  refine hs.link_pass ht hfs hnew hfault (by rw [hstate]) (by rw [hstate]) (given_heard ..) (fun k => ?_) (fun nt hm hr => ?_)
    hapt (by simp [htail]) ?_ ?_
  · rw [heard_eq]
    constructor
    · refine fun h => (Coordinator.replied_routed h).resolve_right ?_
      rintro ⟨nt, hnt, -, hr⟩
      rw [hn nt hnt] at hr
      cases hr
    · rintro ⟨nt, hm, hr⟩
      exact ⟨nt, Coordinator.mem_tagged_routed.mpr (.inl hm), hr⟩
  · rw [heard_eq, Coordinator.notices_routed, List.mem_append, Option.mem_toList] at hm
    rcases hm with hm | hm
    · exact hs.final nt hm hr
    · rw [hn nt hm] at hr
      cases hr
  · rw [sight_heard, howes]
    rfl
  · rw [hstation]
    rfl

lemma Service.answers {v : Value} {nt : Coordinator.Notice} {u : Nat} {entries : List Diagnostic}
    (hs : Service owner ⟨s, .link 0 (.route v) :: r, fault, es⟩)
    (hy : Steady ⟨coordinatorOf s 0, .route v :: framesOf 0 r, none, eventsOf 0 es⟩)
    (ht : Linked s 0 (.route v) fault move t) (hn : Coordinator.notice? v = some nt)
    (hu : (coordinatorOf s 0).resolve nt.id = some u) (hr : nt.reply = true)
    (hfs : t.frames = (.call u nt.moment nt.argument :: (Coordinator.closing nt u ++ [.advance u])).map (.link 0))
    (hnew : eventsOf 0 t.events.reverse = Coordinator.logs entries ++ [.routed v]) (hfault : t.fault = none)
    (hstate : coordinatorOf t.state 0 = coordinatorOf s 0) :
    Service owner (Machine.after ⟨s, .link 0 (.route v) :: r, fault, es⟩ r t) := by
  have hcommissioned : ∀ task ∈ given (eventsOf 0 es), ∃ i, Commissioned owner i task := hs.commissioned
  obtain ⟨hlast, hmoment, payload, hpayload, haccepts⟩ := hs.top _ rfl nt hn hr
  obtain ⟨u', hid, hu', hlt, hended⟩ := addressee hy.addressed hn
  obtain rfl : u = u' := by simpa [hu] using hu'
  have hlen := hy.progressing.sound.queued.lastContext_le
  obtain ⟨task, htask⟩ : ∃ task, (given (eventsOf 0 es))[u]? = some task := ⟨_, List.getElem?_eq_getElem (hlt.trans_le hlen)⟩
  obtain ⟨i, hi⟩ := hcommissioned task (List.mem_of_getElem? htask)
  have hunreplied : ¬ Replied (eventsOf 0 es) (u + 1) := by
    rintro ⟨nt', hm, hr'⟩
    exact hended ⟨nt', hm, hs.final nt' (List.mem_filter.mp hm).1 hr'⟩
  have hreplied := replied_heard hn hid hr entries (eventsOf 0 es)
  have hclosing : Coordinator.closing nt u ++ [.advance u] =
      ([.close nt.id u, .advance u] : List (Coordinator.Frame (Hook U) X)) := by simp [Coordinator.closing, hlast]
  rw [hclosing] at hfs
  obtain ⟨h, hh, herror, hresult⟩ := hi.result hmoment
  have haccept : Accepts payload h := by
    rcases hmoment with hm | hm
    · exact haccepts hm u task h hid htask (by rwa [hm] at hh)
    · exact herror hm payload
  have hat : hookAt (given (eventsOf 0 es)) u nt.moment = some h := by simp [hookAt, htask, hh]
  have hafter : hookAt (given (eventsOf 0 es)) u .afterRun = task.hooks.afterRun := by simp [hookAt, htask, Hooks.get]
  have hgiven := given_heard entries v (eventsOf 0 es)
  have hserving := hs.toServing.link ht hfs hnew hfault (by rw [hstate])
    (by
      simp only [List.head?_cons, Option.mem_def, Option.some.injEq, forall_eq', hgiven, Frame.Apt, hat]
      exact fun _ => ⟨payload, hpayload, haccept⟩)
    (by simp [Coordinator.Frame.resumes]) (by rwa [hgiven]) (by
      rw [heard_eq, Coordinator.notices_routed]
      intro nt' hm hr'
      rcases List.mem_append.mp hm with hm | hm
      · exact hs.final nt' hm hr'
      · obtain rfl : nt' = nt := by simpa [hn] using hm
        exact hlast)
  have hplace : place owner (Coordinator.logs entries ++ [.routed v] ++ eventsOf 0 es) (coordinatorOf t.state 0).lastContext u =
      none := if_pos ((hreplied _).mpr (.inr rfl))
  have hstation : (Frame.link 0 (.call u nt.moment nt.argument) : Frame U X).station? owner (given (eventsOf 0 es)) =
      (follows? owner h).map fun i => (i, [.beforeRun]) := by rw [Frame.station?, hat, Option.bind_some]
  have howes : ([.call u nt.moment nt.argument, .close nt.id u, .advance u] : List (Coordinator.Frame (Hook U) X)).flatMap
      (fun g => (Frame.link 0 g : Frame U X).owes owner (given (eventsOf 0 es))) =
        effect owner h ++ effects owner task.hooks.afterRun := by
    simp [Frame.owes, hat, hafter, effects]
  have hshift := hs.shift ht hserving hfs hnew (.inr ⟨v, rfl⟩) hgiven (sight_heard ..) htask hi hunreplied (fun j hj => by
    have hne : j + 1 ≠ u + 1 := by omega
    simp only [place, hgiven, hreplied, hne, or_false, hstate])
  simp only [howes, hplace, List.head?_cons, Option.bind_some, hstation, Option.toList_none, List.append_nil] at hshift
  have hannounced : announced task (u < (coordinatorOf s 0).lastContext) = [.beforeRun] := by simp [announced, hlt]
  rw [hannounced] at hshift
  rcases hresult with ⟨hf, he⟩ | ⟨hf, he⟩
  · exact hshift [] (by simpa using he) (.inl (by simp [hf]))
  · exact hshift [nt.moment, .afterRun] (by simpa using he) (.inr ⟨by simp [hf], nt.moment, hmoment, rfl⟩)

lemma Linked.stage {g : Nat} (ht : Linked s g f fault move t) (hf : f.waits = true ∨ fault = none) :
    ∃ own, Passes fault move own ∧ Coordinator.Stage ⟨coordinatorOf s g, [f], none, []⟩ own
      ⟨coordinatorOf t.state g, framesOf g t.frames, t.fault, eventsOf g t.events.reverse⟩ := by
  obtain ⟨own, hown, hstep⟩ := ht.move
  have hnone : (if f.waits then none else fault) = none := by
    rcases hf with hf | hf <;> simp [hf]
  have hone := hstep [] []
  rw [hnone, List.append_nil, List.append_nil] at hone
  exact ⟨own, hown, Coordinator.step_stage hone⟩

lemma Linked.frames_eq {g : Nat} (ht : Linked s g f fault move t) (hfs : framesOf g t.frames = fs)
    (hno : ∀ hook argument, fs ≠ [.awaitHook hook argument]) : t.frames = fs.map (.link g) := by
  obtain ⟨body, fs', hframes, hb, hhook⟩ := ht.frames
  have heq : framesOf g t.frames = fs' := by
    rw [hframes, framesOf_append, framesOf_plain hb, framesOf_link, List.nil_append]
  obtain rfl : fs = fs' := hfs.symm.trans heq
  have hnil : body = [] := by
    by_contra hbody
    obtain ⟨hook, argument, h⟩ := hhook hbody
    exact hno hook argument h
  rw [hframes, hnil, List.nil_append]

lemma hookAt_eq {p : Coordinator.Machine (Hook U) X} (hs : Coordinator.Sound p) (hl : p.state.killed = false) (u : Nat)
    (moment : Moment) : hookAt (given p.events) u moment = p.state.hookOf u moment := by
  cases hu : (given p.events)[u]? with
  | some task => rw [hs.kept.hookOf hu, hookAt, hu, Option.bind_some]
  | none =>
    have hlen := hs.kept.length_eq hl
    have hge := List.getElem?_eq_none_iff.mp hu
    have hnone : p.state.tasks[u]? = none := List.getElem?_eq_none (hlen ▸ hge)
    rw [hookAt, hu, Coordinator.hookOf, hnone]

theorem Service.linked (hs : Service owner ⟨s, .link 0 f :: r, fault, es⟩) (hh : Housed ⟨s, .link 0 f :: r, fault, es⟩)
    (hy : Steady ⟨coordinatorOf s 0, f :: framesOf 0 r, none, eventsOf 0 es⟩) (ht : Linked s 0 f fault move t)
    (htame : ∀ own, Passes fault move own →
      Coordinator.Tame ⟨coordinatorOf s 0, f :: framesOf 0 r, none, eventsOf 0 es⟩ own)
    (hcall : ∀ u moment argument, f = .call u moment argument → (coordinatorOf s 0).hookOf u moment = none) :
    Service owner (Machine.after ⟨s, .link 0 f :: r, fault, es⟩ r t) := by
  have hwaits : f.waits = true ∨ fault = none := by
    cases fault with
    | none => exact .inr rfl
    | some e =>
      exact .inl (Frame.waits_of_catches (hs.fault e rfl).2)
  have hcommissioned : ∀ task ∈ given (eventsOf 0 es), ∃ i, Commissioned owner i task := hs.commissioned
  have hlive : (coordinatorOf s 0).killed = false := hs.live
  obtain ⟨own, hpass, hst⟩ := ht.stage hwaits
  have htm := htame own hpass
  generalize hstate : coordinatorOf t.state 0 = c' at hst
  generalize hfs : framesOf 0 t.frames = fs at hst
  generalize hfault : t.fault = fault' at hst
  generalize hnew : eventsOf 0 t.events.reverse = new at hst
  have hframes := ht.frames_eq hfs
  cases hst with
  | ignored hk => simp [hlive] at hk
  | taken hk hi =>
    exact hs.take hh hy ht (hframes (by simp)) hnew hfault (by rw [hstate]) (by rw [hstate]) (by simp [given])
      (by simp [notices]) (by simp [linkSight]) (by simp [dull]) rfl
  | queued hk hi =>
    exact hs.take hh hy ht (hframes (by simp)) hnew hfault (by rw [hstate]) (by rw [hstate]) (by simp [given])
      (by simp [notices]) (by simp [linkSight, Coordinator.logs]) (by simp) rfl
  | transformed =>
    exact hs.link_dull ht (hframes (by simp)) hnew hfault (by rw [hstate]; rfl) (by rw [hstate]; rfl)
      (by simp [still, Coordinator.logs]) rfl (by simp [dull]) (by simp)
  | draining | next | drained | asked | verbatim | sent | freed | assigned =>
    exact hs.link_dull ht (hframes (by simp)) hnew hfault (by rw [hstate]) (by rw [hstate])
      (by simp [still, Coordinator.logs]) rfl (by simp [dull]) (by simp [Coordinator.Frame.resumes, Coordinator.Frame.waits])
  | opened => exact hs.opens hy ht (hframes (by simp)) hnew hfault hstate
  | failed hit ho =>
    rename_i e u id x code
    have husable : (Frame.link 0 (.loop (Coordinator.errorReply id e)) : Frame U X).Apt owner (given (eventsOf 0 es)) := by
      intro nt hn _
      obtain rfl : _ = nt := Option.some.inj ((Coordinator.errorReply_notice id e).symm.trans hn)
      exact ⟨rfl, .inr rfl, _, rfl, by simp⟩
    exact hs.link_still ht (hframes (by simp)) hnew hfault (by rw [hstate]) (by rw [hstate]) (by simp [still, Coordinator.logs])
      (by simpa using husable) (by simp) (by simp [Frame.owes]) (by simp [Frame.station?])
  | looped =>
    rename_i v hl
    have husable : (Frame.link 0 (.route v) : Frame U X).Apt owner (given (eventsOf 0 es)) := hs.top (.link 0 (.loop v)) rfl
    exact hs.link_still ht (hframes (by simp)) hnew hfault (by rw [hstate]) (by rw [hstate]) (by simp)
      (by simpa using husable) (by simp) (by simp [Frame.owes]) (by simp [Frame.station?])
  | unheard hu =>
    refine hs.hears ht (hframes (by simp)) hnew hfault hstate (fun nt hn => ?_) (.inl rfl)
    obtain ⟨u, -, hres, -⟩ := addressee hy.addressed hn
    exact (hu nt hn u hres).1
  | output hn hres hr hhook =>
    refine hs.hears ht (hframes (by simp)) hnew hfault hstate (fun nt hn' => ?_) (.inr ⟨_, _, _, rfl, notice_output hn hr⟩)
    obtain rfl : _ = nt := Option.some.inj (hn.symm.trans hn')
    exact hr
  | answered hn hres hr => exact hs.answers hy ht hn hres hr (hframes (by simp)) hnew hfault hstate
  | closed =>
    rename_i id u
    obtain ⟨hapt, hstation⟩ := call_facts (X := X) hcommissioned u .afterRun (by simp) .nothing
    exact hs.link_still ht (hframes (by simp)) hnew hfault (by rw [hstate]; simp) (by rw [hstate]; simp)
      (by simp [still, Coordinator.logs]) (by simpa using hapt) (by simp) (by simp [Frame.owes])
      (by simpa [Frame.station?] using hstation)
  | called hhook =>
    rw [hcall _ _ _ rfl] at hhook
    cases hhook
  | killed => exact absurd (hs.top _ rfl) id
  | left h =>
    obtain rfl : fault' = none := h.tame hy.progressing.sound htm hy.progressing.lively
    have hrouter : (coordinatorOf s 0).loopback = .router := hy.addressed.router
    cases h with
    | nested | stale | returned | accepted | contained =>
      exact hs.link_dull ht (hframes (by simp)) hnew hfault (by rw [hstate]) (by rw [hstate]) (by simp [still]) rfl (by simp)
        (by simp)
    | undelivered hl | observed hl =>
      rw [hrouter] at hl
      cases hl
    | unset hu =>
      rename_i u moment argument
      have hnone : hookAt (given (eventsOf 0 es)) u moment = none := (hookAt_eq hy.progressing.sound hlive u moment).trans hu
      exact hs.link_still ht (hframes (by simp)) hnew hfault (by rw [hstate]) (by rw [hstate]) (by simp) (by simp) (by simp)
        (by simp [Frame.owes, hnone, effects]) (by simp [Frame.station?, hnone])
  | started => cases hpass
  | recovered => cases hpass

end Deliveries

end EvalSession.Session
