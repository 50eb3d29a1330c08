import EvalSession.Proofs.Session.Service.Links

/-!
# Calls while the session works

Frames of the session itself hand in the tasks of calls, answer calls without the worker, and run the hooks that the session
sets on its tasks. `service_step` puts the frames of the session and those of the link together.
-/
namespace EvalSession.Session

open Coordinator (Replied given notices)

variable {U X : Type} {owner : U → Nat} {s : Session U X} {f : Frame U X} {r : List (Frame U X)} {fault : Option Fault}
  {es : List (Event U X)} {t : Turn U X}

lemma untouched (hlinks : t.state.links = s.links) (hq : ∀ g e, .link g e ∉ t.events) (es : List (Event U X)) :
    coordinatorOf t.state 0 = coordinatorOf s 0 ∧ eventsOf 0 (t.events.reverse ++ es) = eventsOf 0 es := by
  constructor
  · rw [coordinatorOf, hlinks, coordinatorOf]
  · rw [eventsOf_append, eventsOf_plain (by simpa using hq), List.nil_append]

lemma Serving.plain (hs : Serving owner ⟨s, f :: r, fault, es⟩) (hlinks : t.state.links = s.links)
    (hq : ∀ g e, .link g e ∉ t.events)
    (hfault : ∀ e ∈ t.fault, e.ordinary = true ∧ (t.frames ++ r).head?.any Frame.catches = true)
    (htop : ∀ g ∈ t.frames.head?, g.Apt owner (given (eventsOf 0 es))) (hrest : ∀ g ∈ t.frames.tail, g.rests = true)
    (hprop : Propped (t.frames ++ r)) : Serving owner (Machine.after ⟨s, f :: r, fault, es⟩ r t) := by
  obtain ⟨hstate, hevents⟩ := untouched hlinks hq es
  refine hs.turn (by rw [hlinks]) (by rw [hstate]) hfault (by rwa [hevents]) hrest hprop ?_ ?_
  · rw [hevents]
    exact hs.commissioned
  · rw [hevents]
    exact hs.final

lemma Service.plain (hs : Service owner ⟨s, f :: r, fault, es⟩) (hlinks : t.state.links = s.links)
    (hq : ∀ g e, .link g e ∉ t.events)
    (hfault : ∀ e ∈ t.fault, e.ordinary = true ∧ (t.frames ++ r).head?.any Frame.catches = true)
    (htop : ∀ g ∈ t.frames.head?, g.Apt owner (given (eventsOf 0 es))) (hrest : ∀ g ∈ t.frames.tail, g.rests = true)
    (hprop : Propped (t.frames ++ r))
    (hshown : sights owner t.events.reverse ++ t.frames.flatMap (Frame.owes owner (given (eventsOf 0 es))) =
      f.owes owner (given (eventsOf 0 es)))
    (hstation : t.frames.head?.bind (Frame.station? owner (given (eventsOf 0 es))) = f.station? owner (given (eventsOf 0 es)))
    (hcalls : calls t.events.reverse + (t.frames.head?.any Frame.isCall).toNat = f.isCall.toNat) :
    Service owner (Machine.after ⟨s, f :: r, fault, es⟩ r t) := by
  obtain ⟨hstate, hevents⟩ := untouched hlinks hq es
  exact hs.pass (hs.toServing.plain hlinks hq hfault htop hrest hprop) (by rw [hevents]) (by simp [hevents]) (by rw [hstate])
    hshown hstation hcalls

lemma Service.plain_free (hs : Service owner ⟨s, f :: r, fault, es⟩) (hlinks : t.state.links = s.links)
    (hq : ∀ g e, .link g e ∉ t.events) (hfault : t.fault = none)
    (htop : ∀ g ∈ t.frames.head?, g.Apt owner (given (eventsOf 0 es))) (hrest : ∀ g ∈ t.frames.tail, g.rests = true)
    (hfree : ∀ g ∈ t.frames, g.leans = false)
    (hshown : sights owner t.events.reverse ++ t.frames.flatMap (Frame.owes owner (given (eventsOf 0 es))) =
      f.owes owner (given (eventsOf 0 es)))
    (hstation : t.frames.head?.bind (Frame.station? owner (given (eventsOf 0 es))) = f.station? owner (given (eventsOf 0 es)))
    (hcalls : calls t.events.reverse + (t.frames.head?.any Frame.isCall).toNat = f.isCall.toNat) :
    Service owner (Machine.after ⟨s, f :: r, fault, es⟩ r t) :=
  hs.plain hlinks hq (by simp [hfault]) htop hrest (propped_append hfree hs.propped.2) hshown hstation hcalls

lemma Serving.current (hs : Serving owner ⟨s, f :: r, fault, es⟩) : s.current = 0 := by
  rw [Session.current, hs.single]

lemma Serving.killed (hs : Serving owner ⟨s, f :: r, fault, es⟩) : s.killed = false := by
  have hl : (coordinatorOf s 0).killed = false := hs.live
  simpa [Session.killed, coordinator, link?, hs.current, coordinatorOf] using hl

variable {i : Nat} {hooks : Hooks U}

lemma Owned.respond (ho : Owned owner i hooks) (tasks : List (Task (Hook U))) (result : Object) :
    (Frame.respond hooks result : Frame U X).owes owner tasks =
      [.beforeRun, .success, .afterRun].map fun moment => (i, moment) := by
  have hb := ho.mark .beforeRun (by simp)
  have hr := ho.mark .success (by simp)
  have ha := ho.mark .afterRun (by simp)
  simp only [Hooks.get] at hb hr ha
  simp [Frame.owes, hb, hr, ha]

lemma Service.responds (hs : Service owner ⟨s, f :: r, none, es⟩) (ho : Owned owner i hooks)
    (hstation : f.station? owner (given (eventsOf 0 es)) = some (i, [])) (hf : f.isCall = true)
    (howes : f.owes owner (given (eventsOf 0 es)) = []) {entry : Diagnostic}
    (hentry : Event.isCall (.log entry : Event U X) = true) {result : Object} :
    Service owner (Machine.after ⟨s, f :: r, none, es⟩ r
      { state := s, frames := [.respond hooks result], events := [.log entry] }) := by
  have hserving := hs.toServing.plain (t := { state := s, frames := [.respond hooks result], events := [.log entry] }) rfl
    (by simp) (by simp) (by simp [Frame.Apt]) (by simp) (propped_append (by simp [Frame.leans]) hs.propped.2)
  refine ⟨hserving, ?_⟩
  have hlog : eventsOf 0 (.log entry :: es) = eventsOf 0 es := rfl
  have hunseen : sights owner (.log entry :: es) = sights owner es := by simp [sights, Event.sight]
  have hroster : Machine.roster owner ⟨s, f :: r, none, es⟩ =
      (i, []) :: waiting owner (eventsOf 0 es) (coordinatorOf s 0).lastContext := by
    simp [Machine.roster, Machine.tasks, hstation]
  have hold : Machine.shown owner ⟨s, f :: r, none, es⟩ =
      sights owner es ++ r.flatMap (Frame.owes owner (given (eventsOf 0 es))) := by
    simp [Machine.shown, Machine.tasks, howes]
  have hnew : Machine.shown owner ⟨s, .respond hooks result :: r, none, .log entry :: es⟩ = sights owner es ++
      ([.beforeRun, .success, .afterRun].map (fun moment => (i, moment)) ++
        r.flatMap (Frame.owes owner (given (eventsOf 0 es)))) := by
    simp only [Machine.shown, Machine.tasks, List.flatMap_cons, ho.respond, hlog, hunseen]
  have hbooks := hs.books
  rw [hroster, hold] at hbooks
  have hnothing : ofCall i (sights owner es) = [] ∧ ofCall i (r.flatMap (Frame.owes owner (given (eventsOf 0 es)))) = [] := by
    simpa using (hbooks.pending _ (List.mem_cons_self ..)).2
  have hmade : Machine.made ⟨s, .respond hooks result :: r, none, .log entry :: es⟩ = Machine.made ⟨s, f :: r, none, es⟩ := by
    have hnone : (Frame.respond hooks result : Frame U X).isCall = false := rfl
    simp [Machine.made, calls, hentry, hf, hnone]
  have hwaiting : Machine.roster owner ⟨s, .respond hooks result :: r, none, .log entry :: es⟩ =
      waiting owner (eventsOf 0 es) (coordinatorOf s 0).lastContext := by
    simp [Machine.roster, Machine.tasks, Frame.station?, hlog]
  simp only [Machine.after, List.reverse_singleton, List.singleton_append]
  rw [hmade, hwaiting, hnew]
  refine hbooks.settle (fun j hj => ?_) ?_
  · simp only [ofCall_append, ofCall_other hj rfl, List.nil_append]
  · simp only [ofCall_append, ofCall_own rfl, hnothing, List.nil_append, List.append_nil]
    exact ⟨.success, .inl rfl, rfl⟩

lemma Service.hands {task : Task (Hook U)} (hs : Service owner ⟨s, f :: r, none, es⟩) (hlinks : t.state.links = s.links)
    (hq : ∀ g e, .link g e ∉ t.events) (hunseen : sights owner t.events.reverse = [])
    (hcalls : calls t.events.reverse = f.isCall.toNat) (hframes : t.frames = [s.submit task]) (hfault : t.fault = none)
    (hc : Commissioned owner i task)
    (hstation : f.station? owner (given (eventsOf 0 es)) = some (i, announced task false))
    (howes : f.owes owner (given (eventsOf 0 es)) = []) : Service owner (Machine.after ⟨s, f :: r, none, es⟩ r t) := by
  refine hs.plain_free hlinks hq hfault ?_ (by simp [hframes]) (by simp [hframes, submit, Frame.leans]) ?_ ?_ ?_
  · rw [hframes]
    rintro g hg
    obtain rfl : s.submit task = g := by simpa using hg
    exact ⟨i, hc⟩
  · rw [hunseen, hframes, howes]
    rfl
  · rw [hframes, hstation, ← hc.caller]
    rfl
  · rw [hcalls, hframes]
    rfl

/-- The call has seen nothing while a task of it waits that will announce it. -/
lemma Owned.unannounced (ho : Owned owner i hooks) {task : Task (Hook U)}
    (hb : task.hooks.beforeRun = (hooks.get .beforeRun).map (.user .beforeRun)) : announced task false = [] := by
  have hsome := ho.isSome .beforeRun
  rw [announced, hb, Option.isNone_map, ← Option.not_isSome, hsome]
  rfl

lemma scope_announced (q : Question) (hooks : Hooks U) (report : Nat) :
    announced (scopeTask q hooks report) false = [.beforeRun] := rfl

lemma Service.execute {code : String} {set : Option (Hooks U)} (hs : Service owner ⟨s, .execute code set :: r, none, es⟩) :
    Service owner (Machine.after ⟨s, .execute code set :: r, none, es⟩ r (executeTurn s code set)) := by
  obtain ⟨i, hooks, hset, ho⟩ := hs.top _ rfl
  obtain rfl : set = some hooks := hset
  refine hs.hands rfl (by simp [executeTurn]) (by simp [executeTurn, sights, Event.sight])
    (by simp [executeTurn, calls, Event.isCall, Frame.isCall]) rfl rfl (.run ho) ?_ rfl
  rw [ho.unannounced rfl, Frame.station?, Option.getD_some, ho.caller]

lemma Service.complete {code : List Char} {cursor : Int} {hooks : Hooks U}
    (hs : Service owner ⟨s, .complete code cursor hooks :: r, none, es⟩) :
    Service owner (Machine.after ⟨s, .complete code cursor hooks :: r, none, es⟩ r (completeTurn s code cursor hooks)) := by
  obtain ⟨i, ho⟩ := hs.top _ rfl
  have hstation : (Frame.complete code cursor hooks : Frame U X).station? owner (given (eventsOf 0 es)) = some (i, []) := by
    rw [Frame.station?, ho.caller]
  unfold completeTurn
  split
  · exact hs.responds ho hstation rfl rfl rfl
  · refine hs.hands rfl (by simp) (by simp [sights, Event.sight]) (by simp [calls, Event.isCall, Frame.isCall]) rfl rfl
      (.names ho) ?_ rfl
    rw [ho.unannounced rfl, hstation]

lemma Service.inspect {code : List Char} {cursor : Int} {hooks : Hooks U}
    (hs : Service owner ⟨s, .inspect code cursor hooks :: r, none, es⟩) :
    Service owner (Machine.after ⟨s, .inspect code cursor hooks :: r, none, es⟩ r (inspectTurn s code cursor hooks)) := by
  obtain ⟨i, ho⟩ := hs.top _ rfl
  have hstation : (Frame.inspect code cursor hooks : Frame U X).station? owner (given (eventsOf 0 es)) = some (i, []) := by
    rw [Frame.station?, ho.caller]
  unfold inspectTurn
  split
  · exact hs.responds ho hstation rfl rfl rfl
  · refine hs.hands rfl (by simp) (by simp [sights, Event.sight]) (by simp [calls, Event.isCall, Frame.isCall]) rfl rfl
      (.inspection ho) ?_ rfl
    rw [ho.unannounced rfl, hstation]

lemma Service.respond {hooks : Hooks U} {result : Object} (hs : Service owner ⟨s, .respond hooks result :: r, none, es⟩) :
    Service owner (Machine.after ⟨s, .respond hooks result :: r, none, es⟩ r (respondTurn s hooks result)) := by
  rw [respondTurn, hs.toServing.killed]
  exact hs.plain_free rfl (by simp) rfl (by simp [Frame.Apt]) (by simp [Frame.rests]) (by simp [Frame.leans])
    (by simp [sights, Frame.owes]) (by simp [Frame.station?]) (by simp [calls, Frame.isCall])

lemma Service.calls_hook {contained : Bool} {moment : Moment} {hook : Option U} {argument : Argument}
    (hs : Service owner ⟨s, f :: r, none, es⟩) (howes : f.owes owner (given (eventsOf 0 es)) = mark owner moment hook)
    (hstation : f.station? owner (given (eventsOf 0 es)) = none) (hf : f.isCall = false)
    (hlean : contained = false → r.head?.any Frame.catches = true) :
    Service owner (Machine.after ⟨s, f :: r, none, es⟩ r (callTurn s contained moment hook argument)) := by
  cases hook with
  | none =>
    exact hs.plain_free rfl (by simp [callTurn]) rfl (by simp [callTurn]) (by simp [callTurn]) (by simp [callTurn])
      (by simp [callTurn, sights, howes, mark]) (by simp [callTurn, hstation]) (by simp [callTurn, calls, hf])
  | some u =>
    refine hs.plain rfl (by simp [callTurn]) (by simp [callTurn]) (by simp [callTurn, Frame.Apt]) (by simp [callTurn])
      ⟨fun hl => ?_, hs.propped.2⟩ ?_ ?_ ?_
    · refine hlean ?_
      cases contained with
      | true => cases hl
      | false => rfl
    · rw [howes]
      simp [callTurn, sights, mark, Event.sight, Frame.owes]
    · rw [hstation]
      rfl
    · rw [hf]
      rfl

lemma Service.body {hook : Hook U} {payload : Object} (hs : Service owner ⟨s, .body hook payload :: r, none, es⟩) :
    Service owner (Machine.after ⟨s, .body hook payload :: r, none, es⟩ r (bodyTurn s hook payload)) := by
  obtain ⟨hinternal, haccepts, howned⟩ := hs.top _ rfl
  have hcatch : r.head?.any Frame.catches = true := hs.propped.1 rfl
  cases hook with
  | user => cases hinternal
  | names q success =>
    obtain ⟨result, hresult⟩ := Option.isSome_iff_exists.mp haccepts
    simp only [bodyTurn, namesTurn, hresult]
    exact hs.calls_hook rfl rfl rfl fun _ => hcatch
  | inspection q hooks =>
    obtain ⟨report, hreport⟩ := Option.isSome_iff_exists.mp haccepts
    obtain ⟨i, ho⟩ := howned q hooks rfl
    simp only [bodyTurn, inspectionTurn, hreport]
    cases hscope : q.expression.scope.isEmpty with
    | true =>
      exact hs.plain_free rfl (by simp) rfl (by simp [Frame.Apt]) (by simp [Frame.rests]) (by simp [Frame.leans])
        (by simp [sights, Frame.owes, effect, hscope]) (by simp [Frame.station?, follows?, hscope])
        (by simp [calls, Frame.isCall])
    | false =>
      refine hs.hands rfl (by simp) rfl rfl rfl rfl (.scope ho) ?_ (by simp [Frame.owes, effect, hscope])
      simp [Frame.station?, follows?, hscope, ho.caller, scope_announced]
  | inspectionError hooks =>
    exact hs.plain_free rfl (by simp [bodyTurn]) rfl (by simp [bodyTurn, Frame.Apt]) (by simp [bodyTurn, Frame.rests])
      (by simp [bodyTurn, Frame.leans]) (by simp [bodyTurn, sights, Frame.owes, effect])
      (by simp [bodyTurn, Frame.station?, follows?]) (by simp [bodyTurn, calls, Frame.isCall])
  | scopeInspection report q hooks =>
    obtain ⟨names, hnames⟩ := Option.isSome_iff_exists.mp haccepts
    simp only [bodyTurn, scopeInspectionTurn, hnames]
    exact hs.plain_free rfl (by simp) rfl (by simp [Frame.Apt]) (by simp) (by simp [Frame.leans])
      (by simp [sights, Frame.owes, effect]) (by simp [Frame.station?, follows?]) (by simp [calls, Frame.isCall])

lemma Answers.usable {p : Coordinator.Machine (Hook U) X} {v : Value} (ha : Answers p.events v) (hs : Coordinator.Sound p)
    (hc : ∀ task ∈ given p.events, ∃ i, Commissioned owner i task) : Usable (given p.events) v := by
  intro nt hn hr
  obtain ⟨request, hrequest, hid, -⟩ := ha.1 nt hn
  obtain ⟨message, hd, hof⟩ := Coordinator.notice_decoded hn
  cases message with
  | log => cases hof
  | stream =>
    obtain rfl := Option.some.inj hof
    cases hr
  | reply variant id last payload =>
    obtain rfl := Option.some.inj hof
    obtain ⟨hlast, hfits⟩ := ha.2 variant id last payload hd
    refine ⟨hlast, ?_, payload, rfl, fun hm u task h hid' hu hh => ?_⟩
    · cases variant <;> simp [Coordinator.replyMoment]
    · obtain ⟨u', kept, hk, hu', haction⟩ := hs.request hrequest
      have hfit := hfits request hrequest hid
      obtain rfl : u' = u := by
        have heq : ((request.contextId : Nat) : Int) = ((u + 1 : Nat) : Int) := Option.some.inj (hid.symm.trans hid')
        omega
      obtain rfl : kept = task := Option.some.inj (hu'.symm.trans hu)
      obtain ⟨i, hi⟩ := hc kept (List.mem_of_getElem? hu)
      have hvariant : variant ≠ .error := by
        rintro rfl
        cases hm
      exact hi.accepts hd hvariant (haction ▸ hfit) hh

lemma body_facts (tasks : List (Task (Hook U))) {h : Hook U} {argument : Argument}
    (hapt : internal h = true → ∃ payload, argument = .payload payload ∧ Accepts payload h)
    (howned : ∀ q hooks, h = .inspection q hooks → ∃ i, Owned owner i hooks) :
    internal h = false ∧ (bodyOf h argument : List (Frame U X)) = [] ∨
      internal h = true ∧ ∃ payload, (bodyOf h argument : List (Frame U X)) = [.body h payload] ∧
        (Frame.body h payload : Frame U X).Apt owner tasks := by
  cases hint : internal h with
  | false =>
    cases h <;> simp_all [internal, bodyOf]
  | true =>
    obtain ⟨payload, rfl, ha⟩ := hapt hint
    refine .inr ⟨rfl, payload, ?_, hint, ha, howned⟩
    cases h <;> simp_all [internal, bodyOf]

lemma Service.told {u : Nat} {moment : Moment} {argument : Argument} {h : Hook U} (new : List (Frame U X))
    (hs : Service owner ⟨s, .link 0 (.call u moment argument) :: r, none, es⟩)
    (hat : hookAt (given (eventsOf 0 es)) u moment = some h)
    (htop : ∀ g ∈ new.head?, g.Apt owner (given (eventsOf 0 es))) (hrest : ∀ g ∈ new.tail, g.rests = true)
    (hprop : Propped (new ++ r))
    (hshown : linkSight owner (.called h argument : Coordinator.Event (Hook U) X) ++
      new.flatMap (Frame.owes owner (given (eventsOf 0 es))) = effect owner h)
    (hstation : new.head?.bind (Frame.station? owner (given (eventsOf 0 es))) =
      (follows? owner h).map fun i => (i, [.beforeRun]))
    (hcalls : new.head?.any Frame.isCall = false) :
    Service owner ⟨s.setCoordinator 0 (coordinatorOf s 0), new ++ r, none,
      [.link 0 (.called h argument), .link 0 (.told u moment argument)] ++ es⟩ := by
  have hlt : 0 < s.links.length := by
    rw [hs.single]
    exact Nat.one_pos
  have hstate : coordinatorOf (s.setCoordinator 0 (coordinatorOf s 0)) 0 = coordinatorOf s 0 := coordinatorOf_set s hlt _
  have hevents : eventsOf 0 ([.link 0 (.called h argument), .link 0 (.told u moment argument)] ++ es) =
      .called h argument :: .told u moment argument :: eventsOf 0 es := rfl
  have hgiven : given (.called h argument :: .told u moment argument :: eventsOf 0 es) = given (eventsOf 0 es) := by
    simp [given]
  have hnotices : notices (.called h argument :: .told u moment argument :: eventsOf 0 es) = notices (eventsOf 0 es) := by
    simp [notices]
  refine hs.pass
    (hs.toServing.turn (setCoordinator_length ..) (by rw [hstate]) (by simp) (by rwa [hevents, hgiven]) hrest hprop ?_ ?_)
    (by rw [hevents, hgiven]) (fun k => ?_) (by rw [hstate]) ?_ ?_ ?_
  · rw [hevents, hgiven]
    exact hs.commissioned
  · rw [hevents, hnotices]
    exact hs.final
  · rw [hevents, Replied, Coordinator.tagged, hnotices]
    rfl
  · have hnote : sights owner ([.link 0 (.called h argument), .link 0 (.told u moment argument)] : List (Event U X)) =
        linkSight owner (.called h argument : Coordinator.Event (Hook U) X) := by simp [sights, Event.sight, linkSight]
    rw [hnote, hshown, Frame.owes, hat]
    simp [effects]
  · rw [hstation, Frame.station?, hat]
    rfl
  · simp [hcalls, calls, Event.isCall, Frame.isCall]

lemma called_turn {u : Nat} {moment : Moment} {argument : Argument} {h : Hook U} (hs : 0 < s.links.length)
    (hhook : (coordinatorOf s 0).hookOf u moment = some h)
    (ht : (Frame.link 0 (.call u moment argument)).tick s = some t) :
    t = { state := s.setCoordinator 0 (coordinatorOf s 0)
          frames := bodyOf h argument ++ [.link 0 (.awaitHook h argument)]
          events := [.link 0 (.told u moment argument), .link 0 (.called h argument)] } := by
  have hl := List.getElem?_eq_getElem hs
  have hc : coordinatorOf s 0 = s.links[0].coordinator := by simp [coordinatorOf, hl]
  simp only [Frame.tick, hl, tickLink, ← hc, Coordinator.callTurn, hhook, linkTurn] at ht
  simpa using ht.symm

lemma Service.called {u : Nat} {moment : Moment} {argument : Argument} {h : Hook U}
    (hs : Service owner ⟨s, .link 0 (.call u moment argument) :: r, none, es⟩)
    (hat : hookAt (given (eventsOf 0 es)) u moment = some h) (hhook : (coordinatorOf s 0).hookOf u moment = some h)
    (ht : (Frame.link 0 (.call u moment argument)).tick s = some t) :
    Service owner (Machine.after ⟨s, .link 0 (.call u moment argument) :: r, none, es⟩ r t) := by
  have hlt : 0 < s.links.length := by
    rw [hs.single]
    exact Nat.one_pos
  obtain rfl := called_turn hlt hhook ht
  have howned : ∀ q hooks, h = .inspection q hooks → ∃ i, Owned owner i hooks := by
    intro q hooks hq
    obtain ⟨task, hu, hget⟩ := Option.bind_eq_some_iff.mp hat
    obtain ⟨i, hi⟩ := hs.commissioned task (List.mem_of_getElem? hu)
    exact ⟨i, hi.inspected (hq ▸ hget)⟩
  have hbodies := body_facts (X := X) (given (eventsOf 0 es)) (hs.top _ rfl h hat) howned
  refine hs.told (bodyOf h argument ++ [.link 0 (.awaitHook h argument)]) hat ?_ ?_ ?_ ?_ ?_ ?_ <;>
    rcases hbodies with ⟨hint, hbody⟩ | ⟨hint, payload, hbody, hapt⟩ <;> rw [hbody]
  · simp [Frame.Apt]
  · simpa using hapt
  · simp
  · simp [Frame.rests, Coordinator.Frame.resumes, Coordinator.Frame.waits]
  · exact propped_append (by simp [Frame.leans]) hs.propped.2
  · exact ⟨fun _ => hint, propped_append (by simp [Frame.leans]) hs.propped.2⟩
  · cases h <;> simp_all [internal, linkSight, effect, Frame.owes]
  · cases h <;> simp_all [internal, linkSight, Frame.owes]
  · cases h <;> simp_all [internal, follows?, Frame.station?]
  · rfl
  · rfl
  · rfl

lemma Service.deliver {worker : Nat} {message : Value} {p : Coordinator.Machine (Hook U) X}
    (hs : Service owner ⟨s, .deliver worker message :: r, none, es⟩) (hsound : Coordinator.Sound p)
    (hp : p.events = eventsOf 0 es)
    (ha : ∀ q ∈ (Frame.deliver worker message : Frame U X).hands? s, Answers (eventsOf q.1 es) q.2) :
    Service owner (Machine.after ⟨s, .deliver worker message :: r, none, es⟩ r (deliverTurn s worker message)) := by
  unfold deliverTurn
  split
  · exact hs.plain_free rfl (by simp) rfl (by simp) (by simp) (by simp) (by simp [sights, Event.sight, Frame.owes])
      (by simp [Frame.station?]) (by simp [calls, Event.isCall, Frame.isCall])
  · rename_i g hg
    split
    · exact hs.plain_free rfl (by simp) rfl (by simp) (by simp) (by simp) (by simp [sights, Event.sight, Frame.owes])
        (by simp [Frame.station?]) (by simp [calls, Event.isCall, Frame.isCall])
    · rename_i handler hhandler
      obtain rfl : g = 0 := by
        have hlt := linkOf_lt hg
        have hone : s.links.length = 1 := hs.single
        omega
      have hanswers : Answers p.events message := hp ▸ ha (0, message) (by simp [Frame.hands?, hg, hhandler])
      have hcommissioned : ∀ task ∈ given p.events, ∃ i, Commissioned owner i task := by
        rw [hp]
        exact hs.commissioned
      have husable : Usable (given (eventsOf 0 es)) message := hp ▸ hanswers.usable hsound hcommissioned
      exact hs.plain_free rfl (by simp) rfl (by simpa [Frame.Apt] using husable) (by simp) (by simp [Frame.leans])
        (by simp [sights, Frame.owes]) (by simp [Frame.station?]) (by simp [calls, Frame.isCall])

lemma Service.ended {contained : Bool} {moment : Moment} {u : U} {argument : Argument} {a : Answer}
    (hs : Service owner ⟨s, .awaitCall contained moment u argument :: r, none, es⟩)
    (hordinary : ∀ e, a = .raised e → e.ordinary = true)
    (ht : (Frame.awaitCall contained moment u argument).answer s a = some t) :
    Service owner (Machine.after ⟨s, .awaitCall contained moment u argument :: r, none, es⟩ r t) := by
  cases a with
  | done =>
    obtain rfl := Option.some.inj ht
    exact hs.plain_free rfl (by simp) rfl (by simp) (by simp) (by simp) (by simp [sights, Frame.owes]) (by simp [Frame.station?])
      (by simp [calls, Frame.isCall])
  | raised e =>
    obtain rfl := Option.some.inj ht
    have ho := hordinary e rfl
    cases contained with
    | true =>
      simp only [Frame.callFailed, ho, Bool.and_self, if_true]
      exact hs.plain_free rfl (by simp) rfl (by simp) (by simp) (by simp) (by simp [sights, Event.sight, Frame.owes])
        (by simp [Frame.station?]) (by simp [calls, Event.isCall, Frame.isCall])
    | false =>
      have hcatch : r.head?.any Frame.catches = true := hs.propped.1 rfl
      simp only [Frame.callFailed, Bool.false_and, Bool.false_eq_true, if_false]
      refine hs.plain rfl (by simp) ?_ (by simp) (by simp) hs.propped.2 (by simp [sights, Frame.owes]) (by simp [Frame.station?])
        (by simp [calls, Frame.isCall])
      rintro e' ⟨⟩
      exact ⟨ho, hcatch⟩
  | _ => cases ht

lemma Serving.rests_of_open {m : Machine U X} (hs : Serving owner m) (hh : Housed m) (hopen : m.open? = true) :
    ∀ g ∈ m.stack, g.rests = true := by
  intro g hg
  obtain ⟨s, stack, fault, es⟩ := m
  cases stack with
  | nil => cases hg
  | cons f r =>
    rcases List.mem_cons.mp hg with rfl | hg
    · have hapt := hs.top g rfl
      simp only [Machine.open?, Bool.and_eq_true, Option.isNone_iff_eq_none] at hopen
      cases g with
      | link i f =>
        have hw := waits_of_tick (hh.frames i f (List.mem_cons_self ..)) hopen.1
        cases f <;> simp_all [Frame.rests, Coordinator.Frame.resumes, Coordinator.Frame.waits]
      | awaitCall => rfl
      | awaitTermination | awaitWorker => exact absurd hapt id
      | _ => cases hopen.1
    · exact hs.rest g hg

lemma Service.push {m : Machine U X} (hs : Service owner m) (hh : Housed m) (hopen : m.open? = true)
    {operation : Operation U X} (htop : operation.frame.Apt owner m.tasks) (hlean : operation.frame.leans = false)
    (howes : operation.frame.owes owner m.tasks = [])
    (hcall : operation.frame.station? owner m.tasks = some (calls m.events, []) ∧ operation.frame.isCall = true ∨
      operation.frame.station? owner m.tasks = none ∧ operation.frame.isCall = false) :
    Service owner (m.push operation) := by
  have hrests := hs.toServing.rests_of_open hh hopen
  have hstation : m.stack.head?.bind (Frame.station? owner m.tasks) = none :=
    Option.bind_eq_none_iff.mpr fun g hg => Frame.station_of_rests (hrests g (List.mem_of_mem_head? hg))
  have hnone : m.stack.head?.any Frame.isCall = false := by
    cases hst : m.stack with
    | nil => rfl
    | cons g r => exact Frame.not_isCall (hrests g (hst ▸ List.mem_cons_self ..))
  have hserving : Serving owner (m.push operation) := by
    refine ⟨hs.single, hs.live, by simp [Machine.push], ?_, hrests, ⟨by simp [hlean], hs.propped⟩, hs.commissioned, hs.final⟩
    rintro g hg
    obtain rfl : operation.frame = g := by simpa [Machine.push] using hg
    exact htop
  refine ⟨hserving, ?_⟩
  have hbooks := hs.books
  have hold : m.roster owner = waiting owner (eventsOf 0 m.events) (coordinatorOf m.state 0).lastContext := by
    simp [Machine.roster, hstation]
  have hmade : m.made = calls m.events := by simp [Machine.made, hnone]
  have hshown : (m.push operation).shown owner = m.shown owner := by
    simp only [Machine.shown, Machine.push, Machine.tasks, List.flatMap_cons] at howes ⊢
    rw [howes, List.nil_append]
  rw [hold, hmade] at hbooks
  rw [hshown]
  simp only [Machine.roster, Machine.made, Machine.push, Machine.tasks, List.head?_cons, Option.bind_some, Option.any_some]
    at hcall ⊢
  rcases hcall with ⟨hst, hc⟩ | ⟨hst, hc⟩
  · rw [hst, hc]
    exact hbooks.enter
  · rw [hst, hc]
    exact hbooks

lemma Service.start {m : Machine U X} (hs : Service owner m) (hh : Housed m) (hopen : m.open? = true)
    {operation : Operation U X} (ho : Obliging owner m (.start operation)) : Service owner (m.push operation) := by
  cases operation with
  | execute code set =>
    obtain ⟨hooks, rfl, hown⟩ := ho
    exact hs.push hh hopen ⟨_, hooks, rfl, hown⟩ rfl rfl (.inl ⟨by simp [Operation.frame, Frame.station?, hown.caller], rfl⟩)
  | complete code cursor hooks | inspect code cursor hooks =>
    exact hs.push hh hopen ⟨_, ho⟩ rfl rfl
      (.inl ⟨by rw [Operation.frame, Frame.station?, Owned.caller (i := calls m.events) ho], rfl⟩)
  | assign x | deliver worker message => exact hs.push hh hopen trivial rfl rfl (.inr ⟨rfl, rfl⟩)
  | _ => exact absurd ho id

end EvalSession.Session
