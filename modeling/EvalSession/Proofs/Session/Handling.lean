import EvalSession.Proofs.Session.Passages

/-!
# Replies are handled at once

Once a reply has come in, every move goes on with it until the hook of its task has been called, and the result has been shown
or a further task has been handed in. Main statement: `ordered_step`.
-/
namespace EvalSession.Session

open Coordinator (Replied given tagged notices Sound Addressed)

variable {U X : Type} {owner : U → Nat}

section Links

variable {s : Session U X} {f : Coordinator.Frame (Hook U) X} {r : List (Frame U X)} {fault : Option Fault}
  {es : List (Event U X)} {move : Move U X} {t : Turn U X} {fs : List (Coordinator.Frame (Hook U) X)}

lemma still_quiet {e : Coordinator.Event (Hook U) X} (h : still e = true) : (Event.link 0 e : Event U X).Quiet owner := by
  cases e <;> simp_all [still, Event.Quiet, Event.taken?, Event.isCall, Event.replies, Event.sight, linkSight]

lemma Linked.still_quiet (ht : Linked s 0 f fault move t) (hstill : ∀ e ∈ eventsOf 0 t.events.reverse, still e = true) :
    ∀ e ∈ t.events.reverse, e.Quiet owner := by
  intro e he
  rcases ht.events e (List.mem_reverse.mp he) with ⟨e', rfl⟩ | hh
  · exact Session.still_quiet (hstill e' (List.mem_filterMap.mpr ⟨_, he, rfl⟩))
  · cases e with
    | executed => exact ⟨rfl, rfl, rfl, by simp [Event.sight]⟩
    | log entry => exact ⟨rfl, by cases entry <;> simp_all [Event.isCall], rfl, by simp [Event.sight]⟩
    | _ => cases hh

lemma Ordered.link_idle (hm : Ordered owner ⟨s, .link 0 f :: r, fault, es⟩) (ht : Linked s 0 f fault move t)
    (hfs : t.frames = fs.map (.link 0)) (hlive : (coordinatorOf t.state 0).killed = (coordinatorOf s 0).killed)
    (hstill : ∀ e ∈ eventsOf 0 t.events.reverse, still e = true) (hf : (Frame.link 0 f : Frame U X).handles = false)
    (hhead : ∀ g ∈ fs.head?, (Frame.link 0 g).Fit owner (t.events.reverse ++ es) ∧
      (Frame.link 0 g : Frame U X).handles = false)
    (htail : ∀ g ∈ fs.tail, g.resumes = true) : Ordered owner (Machine.after ⟨s, .link 0 f :: r, fault, es⟩ r t) := by
  refine hm.idle _ _ ht.length hlive (ht.still_quiet hstill) hf (fun g hg => ?_) fun g hg => ?_
  · rw [hfs, List.head?_map, Option.mem_map] at hg
    obtain ⟨g', hg', rfl⟩ := hg
    exact hhead g' hg'
  · rw [hfs, ← List.map_tail, List.mem_map] at hg
    obtain ⟨g', hg', rfl⟩ := hg
    exact htail g' hg'

lemma dull_fit {g : Coordinator.Frame (Hook U) X} (h : dull g = true) (es : List (Event U X)) :
    (Frame.link 0 g).Fit owner es := by
  cases g <;> simp_all [dull, Frame.Fit]

lemma dull_handles {g : Coordinator.Frame (Hook U) X} (h : dull g = true) : (Frame.link 0 g : Frame U X).handles = false := by
  cases g <;> simp_all [dull, Frame.handles]

lemma Ordered.link_dull (hm : Ordered owner ⟨s, .link 0 f :: r, fault, es⟩) (ht : Linked s 0 f fault move t)
    (hf : dull f = true) : Ordered owner (Machine.after ⟨s, .link 0 f :: r, fault, es⟩ r t) := by
  obtain ⟨own, hpass, hstep⟩ := ht.move
  have hst := Coordinator.step_stage (hstep [] [])
  rw [List.append_nil, List.append_nil] at hst
  generalize hstate : coordinatorOf t.state 0 = c' at hst
  generalize hfs : framesOf 0 t.frames = fs at hst
  generalize hnew : eventsOf 0 t.events.reverse = new at hst
  generalize (if f.waits then none else fault) = caught at hst
  generalize t.fault = fault' at hst
  have hframes := ht.frames_eq hfs
  have hidle : (Frame.link 0 f : Frame U X).handles = false := dull_handles hf
  cases hst with
  | draining | next | drained | asked | verbatim | sent | freed | assigned | transformed | broken =>
    refine hm.link_idle ht (hframes (by simp)) (by simp [hstate]) (by simp [hnew, still, Coordinator.logs]) hidle ?_
      (by simp [Coordinator.Frame.resumes, Coordinator.Frame.waits])
    intro g hg
    have hg' : dull g = true := by cases hg <;> rfl
    exact ⟨dull_fit hg' _, dull_handles hg'⟩
  | opened =>
    refine hm.link_idle ht (hframes (by simp)) (by rw [hstate]; rfl) (by simp [hnew, still]) hidle ?_
      (by simp [Coordinator.Frame.resumes])
    rintro g ⟨⟩
    exact ⟨by simp [Frame.Fit, IsResult], by simp [Frame.handles, IsResult]⟩
  | failed hit ho =>
    refine hm.link_idle ht (hframes (by simp)) (by rw [hstate]) (by simp [hnew, still, Coordinator.logs]) hidle ?_ (by simp)
    rintro g ⟨⟩
    refine ⟨fun nt hn _ => ?_, rfl⟩
    obtain rfl : _ = nt := Option.some.inj ((Coordinator.errorReply_notice _ _).symm.trans hn)
    rfl
  | left h =>
    refine hm.link_idle ht (hframes (by simp)) (by rw [hstate]) (fun e he => ?_) hidle (by simp) (by simp)
    rw [hnew] at he
    cases h <;> simp_all [still, Coordinator.logs]
  | started => cases hpass
  | recovered => cases hpass
  | _ => cases hf

lemma Ordered.hears {v : Value} {entries : List Diagnostic} (hm : Ordered owner ⟨s, .link 0 (.route v) :: r, none, es⟩)
    (hn : ∀ nt ∈ Coordinator.notice? v, nt.reply = false)
    (hfs : fs = [] ∨ ∃ u moment argument, fs = [.call u moment argument] ∧ ¬ IsResult moment) :
    Ordered owner ⟨s, fs.map (.link 0) ++ r, none,
      (Coordinator.logs entries).map (.link 0) ++ [.link 0 (.routed v)] ++ es⟩ := by
  refine hm.idle _ _ rfl rfl (fun e he => ?_) rfl ?_ ?_
  · obtain ⟨htaken, hcall, hsight⟩ : e.taken? = none ∧ e.isCall = false ∧ e.sight owner = [] := routed_quiet he
    refine ⟨htaken, hcall, ?_, by simp [hsight]⟩
    rcases List.mem_append.mp he with he | he
    · obtain ⟨e', he', rfl⟩ := List.mem_map.mp he
      obtain ⟨entry, -, rfl⟩ := List.mem_map.mp he'
      rfl
    · obtain rfl := List.mem_singleton.mp he
      cases hv : Coordinator.notice? v with
      | none => simp [Event.replies, hv]
      | some nt => simp [Event.replies, hv, hn nt hv]
  · rcases hfs with rfl | ⟨u, moment, argument, rfl, hmoment⟩
    · simp
    · rintro g ⟨⟩
      exact ⟨fun h => absurd h hmoment, by simpa [Frame.handles] using hmoment⟩
  · rcases hfs with rfl | ⟨u, moment, argument, rfl, -⟩ <;> simp

lemma Ordered.route {v : Value} (hm : Ordered owner ⟨s, .link 0 (.route v) :: r, none, es⟩)
    (hsound : Sound ⟨coordinatorOf s 0, .route v :: framesOf 0 r, none, eventsOf 0 es⟩)
    (ha : Addressed ⟨coordinatorOf s 0, .route v :: framesOf 0 r, none, eventsOf 0 es⟩) :
    Ordered owner (Machine.after ⟨s, .link 0 (.route v) :: r, none, es⟩ r
      (linkTurn s 0 (Coordinator.routeTurn (coordinatorOf s 0) v))) := by
  obtain ⟨entries, he⟩ := Coordinator.routeTurn_eq (coordinatorOf s 0) v
  have hevents : ((Coordinator.Event.routed v :: Coordinator.logs entries).map (Event.link (U := U) (X := X) 0)).reverse =
      (Coordinator.logs entries.reverse).map (.link 0) ++ [.link 0 (.routed v)] := by
    simp [Coordinator.logs]
  simp only [he, Machine.after, linkTurn, hevents, setCoordinator_self]
  cases hn : Coordinator.notice? v with
  | none => exact hm.hears (by simp [hn]) (.inl (by simp [Coordinator.heard, hn]))
  | some nt =>
    obtain ⟨u, hid, hresolve, hu, hended⟩ := addressee ha hn
    cases hr : nt.reply with
    | true =>
      have hframes : Coordinator.heard (coordinatorOf s 0) v =
          .call u nt.moment nt.argument :: (Coordinator.closing nt u ++ [.advance u]) := by
        simp [Coordinator.heard, hn, hresolve, hr]
      rw [hframes]
      exact hm.answered ha hn hr hid hu hsound.queued.lastContext_le hended
    | false =>
      have hmoment : ¬ IsResult nt.moment := by
        rcases notice_output hn hr with h | h <;> simp [h, IsResult]
      refine hm.hears (by simp [hn, hr]) ?_
      cases hhook : (coordinatorOf s 0).hookOf u nt.moment with
      | none => exact .inl (by simp [Coordinator.heard, hn, hresolve, hr, hhook])
      | some h => exact .inr ⟨u, nt.moment, nt.argument, by simp [Coordinator.heard, hn, hresolve, hr, hhook], hmoment⟩

lemma Ordered.loop {v : Value} (hm : Ordered owner ⟨s, .link 0 (.loop v) :: r, none, es⟩)
    (hrouter : (coordinatorOf s 0).loopback = .router) :
    Ordered owner (Machine.after ⟨s, .link 0 (.loop v) :: r, none, es⟩ r
      (linkTurn s 0 (Coordinator.loopTurn (coordinatorOf s 0) v))) := by
  have hturn : Coordinator.loopTurn (coordinatorOf s 0) v = { state := coordinatorOf s 0, frames := [.route v] } := by
    simp [Coordinator.loopTurn, hrouter]
  rw [hturn]
  refine hm.idle _ _ (by simp [linkTurn]) (by simp [linkTurn, setCoordinator_self]) (by simp [linkTurn]) rfl ?_
    (by simp [linkTurn])
  have hfit : (Frame.link 0 (.loop v)).Fit owner es := hm.fit _ rfl
  rintro g ⟨⟩
  exact ⟨hfit, rfl⟩

lemma Ordered.close {id : Option Int} {u : Nat} (hm : Ordered owner ⟨s, .link 0 (.close id u) :: r, none, es⟩)
    (hlt : 0 < s.links.length) :
    Ordered owner (Machine.after ⟨s, .link 0 (.close id u) :: r, none, es⟩ r
      (linkTurn s 0 (Coordinator.closeTurn (coordinatorOf s 0) id u))) := by
  refine hm.idle _ _ (by simp [linkTurn]) (by simp [linkTurn, Coordinator.closeTurn, coordinatorOf_set s hlt]) ?_ rfl ?_
    (by simp [linkTurn, Coordinator.closeTurn])
  · intro e he
    obtain rfl | rfl : e = .link 0 (.closed u id) ∨ e = .link 0 (.log .contextEnded) := by
      simpa [linkTurn, Coordinator.closeTurn] using he
    · exact still_quiet rfl
    · exact still_quiet rfl
  · rintro g ⟨⟩
    exact ⟨by simp [Frame.Fit, IsResult], by simp [Frame.handles, IsResult]⟩

lemma Ordered.submits {task : Task (Hook U)} (hm : Ordered owner ⟨s, .link 0 (.submit task) :: r, none, es⟩)
    (hlt : 0 < s.links.length) (hsound : Sound ⟨coordinatorOf s 0, .submit task :: framesOf 0 r, none, eventsOf 0 es⟩)
    (ha : Addressed ⟨coordinatorOf s 0, .submit task :: framesOf 0 r, none, eventsOf 0 es⟩) :
    Ordered owner (Machine.after ⟨s, .link 0 (.submit task) :: r, none, es⟩ r
      (linkTurn s 0 (Coordinator.submitTurn (coordinatorOf s 0) task))) := by
  have hlive : (coordinatorOf s 0).killed = false := hm.live
  have hlength : (coordinatorOf s 0).tasks.length = (given (eventsOf 0 es)).length := hsound.kept.length_eq hlive
  have hlast : (coordinatorOf s 0).lastContext ≤ (given (eventsOf 0 es)).length := hsound.queued.lastContext_le
  have hunreplied : ¬ Replied (eventsOf 0 es) ((coordinatorOf s 0).tasks.length + 1) :=
    ha.unreplied (by simp only; omega)
  unfold Coordinator.submitTurn
  simp only [hlive, Bool.false_eq_true, if_false]
  split
  · exact hm.taken [] (by simp [linkTurn]) (by simp [linkTurn, coordinatorOf_set s hlt, hlive]) hlength hunreplied
      (by simp) (by simp [linkTurn]) rfl
  · refine hm.taken [.link 0 (.log _)] (by simp [linkTurn]) (by simp [linkTurn, coordinatorOf_set s hlt, hlive])
      hlength hunreplied (by simp) (by simp [linkTurn]) rfl

end Links

section Results

variable {s s' : Session U X} {f : Frame U X} {r new : List (Frame U X)} {fault : Option Fault} {es told : List (Event U X)}
  {t i : Nat} {moment : Moment} {u : U}

lemma note_result (h : IsResult moment) (u : U) : note owner moment u = [(owner u, moment)] := by
  rcases h with rfl | rfl <;> rfl

lemma mem_note {p : Nat × Moment} (h : p ∈ note owner moment u) : p = (owner u, moment) := by
  cases moment <;> simp_all [note]

lemma Presenting.append (h : Presenting owner es t i) (hnew : ∀ e ∈ told, e.dull = true) :
    Presenting owner (told ++ es) t i := by
  have hissuer := issuer_append (fun e he => Event.dull.taken (hnew e he)) es
  refine ⟨h.fresh.append hnew, (hissuer t).trans h.issued, fun j hj => ?_, fun k j hk hj hr => ?_⟩
  · simp only [hissuer]
    exact h.entered j (calls_uncalled (fun e he => Event.dull.isCall (hnew e he)) es ▸ hj)
  · rw [hissuer] at hj
    rw [replied_unreplied fun e he => Event.dull.replies (hnew e he)] at hr
    exact (h.concluded k j hk hj hr).append told fun k hk => (hissuer k).trans hk

/-- While a reply is handled, all others have come to something. -/
lemma Ordered.presenting {m : Machine U X} (hm : Ordered owner m) (hfresh : Fresh m.events t) (hi : issuer m.events t = some i)
    (hf : ∀ g task, m.stack.head? ≠ some (.link g (.submit task))) : Presenting owner m.events t i := by
  refine ⟨hfresh, hi, fun j hj => (hm.entered j hj).resolve_right ?_,
    fun k j hk hj hr => (hm.concluded k j hj hr).resolve_right ?_⟩
  · rintro ⟨-, g, task, hg⟩
    exact hf g task hg
  · rintro ⟨hfresh', -⟩
    exact hk (hfresh'.unique hfresh)

lemma Ordered.shows {shown : Event U X} (hm : Ordered owner ⟨s, f :: r, none, es⟩) (told : List (Event U X))
    (new : List (Frame U X)) (hlinks : s'.links.length = s.links.length)
    (hlive : (coordinatorOf s' 0).killed = (coordinatorOf s 0).killed) (hf : ∀ g task, f ≠ .link g (.submit task))
    (hfresh : Fresh es t) (hi : issuer es t = some i) (hu : owner u = i) (hmoment : IsResult moment)
    (htold : ∀ e ∈ told, e.dull = true) (hshown : shown.taken? = none ∧ shown.isCall = false ∧ shown.replies = false)
    (hsight : shown.sight owner = note owner moment u) (hnew : ∀ g ∈ new, g.stays = true) :
    Ordered owner ⟨s', new ++ r, none, (shown :: told) ++ es⟩ := by
  subst hu
  rw [note_result hmoment] at hsight
  have hpresenting : Presenting owner es t (owner u) := hm.presenting hfresh hi fun g task h => hf g task (Option.some.inj h)
  refine hm.turn new (shown :: told) hlinks hlive (fun e he => ?_) ?_ hf ?_ ?_ (by simp) (fun _ k j hk hj => .inl (.inl ?_))
  · rcases List.mem_cons.mp he with rfl | he
    · exact hshown
    · exact ⟨Event.dull.taken (htold e he), Event.dull.isCall (htold e he), Event.dull.replies (htold e he)⟩
  · refine throughout_cons.mpr ⟨fun p hp _ => ?_, hm.presented.append fun e he older p hp => ?_⟩
    · obtain rfl : p = (owner u, moment) := by simpa [hsight] using hp
      exact ⟨t, hpresenting.append htold⟩
    · rw [Event.dull.sight (htold e he)] at hp
      cases hp
  · exact fun g hg => fit_of_stays (hnew g (List.mem_of_mem_head? hg)) _
  · exact fun g hg => hnew g (List.mem_of_mem_tail hg)
  · obtain rfl := hk.unique hfresh
    obtain rfl := Option.some.inj (hj.symm.trans hi)
    refine ⟨moment, hmoment, ?_⟩
    rw [List.cons_append, sights, List.reverse_cons, List.flatMap_append]
    exact List.mem_append_right _ (by simp [hsight])

lemma Ordered.drops {fault' : Option Fault} (hm : Ordered owner ⟨s, f :: r, none, es⟩)
    (hlinks : s'.links.length = s.links.length) (hlive : (coordinatorOf s' 0).killed = (coordinatorOf s 0).killed)
    (hf : ∀ g task, f ≠ .link g (.submit task)) (hfresh : Fresh es t) (hi : issuer es t = some i) (hforgone : Forgone es i) :
    Ordered owner ⟨s', r, fault', es⟩ := by
  refine hm.turn [] [] hlinks hlive (by simp) hm.presented hf (by simp) (by simp) (by simp) ?_
  intro _ k j hk hj
  obtain rfl := hk.unique hfresh
  obtain rfl := Option.some.inj (hj.symm.trans hi)
  exact .inl (.inr (.inl hforgone))

lemma Ordered.passes {g : Frame U X} (hm : Ordered owner ⟨s, f :: r, none, es⟩) (told : List (Event U X))
    (new : List (Frame U X)) (hlinks : s'.links.length = s.links.length)
    (hlive : (coordinatorOf s' 0).killed = (coordinatorOf s 0).killed) (hf : ∀ g task, f ≠ .link g (.submit task))
    (htold : ∀ e ∈ told, e.dull = true) (hfit : g.Fit owner (told ++ es)) (hg : g.handles = true)
    (hnew : ∀ g ∈ new, g.stays = true) : Ordered owner ⟨s', g :: new ++ r, none, told ++ es⟩ := by
  refine hm.turn (g :: new) told hlinks hlive (fun e he => ?_) ?_ hf ?_ hnew (by simp) fun _ k j hk _ => .inr ⟨?_, g, rfl, hg⟩
  · exact ⟨Event.dull.taken (htold e he), Event.dull.isCall (htold e he), Event.dull.replies (htold e he)⟩
  · refine hm.presented.append fun e he older p hp => ?_
    rw [Event.dull.sight (htold e he)] at hp
    cases hp
  · rintro g' ⟨⟩
    exact hfit
  · exact hk.append htold

end Results

section Hooks

variable {s : Session U X} {r : List (Frame U X)} {es : List (Event U X)} {t i u : Nat} {moment : Moment} {argument : Argument}
  {h : Hook U}

lemma notice_of_tagged {k : Nat} {nt : Coordinator.Notice} (h : nt ∈ tagged (eventsOf 0 es) k) :
    ∃ v, Coordinator.notice? v = some nt := by
  obtain ⟨e, -, he⟩ := List.mem_filterMap.mp (List.mem_filter.mp h).1
  cases e with
  | routed v => exact ⟨v, he⟩
  | _ => cases he

lemma forgone_of_futile {nt : Coordinator.Notice} (hi : issuer es u = some i)
    (hu : u < (given (eventsOf 0 es)).length) (hnt : nt ∈ tagged (eventsOf 0 es) (u + 1)) (hr : nt.reply = true)
    (hfutile : ∀ h ∈ hookAt (given (eventsOf 0 es)) u nt.moment, Futile nt.argument h) : Forgone es i := by
  refine ⟨u, _, nt, hi, List.getElem?_eq_getElem hu, hnt, hr, fun h hh => hfutile h ?_⟩
  rw [hookAt, List.getElem?_eq_getElem hu]
  exact hh

lemma Ordered.unset (hm : Ordered owner ⟨s, .link 0 (.call u moment argument) :: r, none, es⟩)
    (hnone : hookAt (given (eventsOf 0 es)) u moment = none) : Ordered owner ⟨s, r, none, es⟩ := by
  by_cases hmoment : IsResult moment
  · obtain ⟨hfresh, hu, nt, hnt, hr, rfl, -⟩ := hm.fit _ rfl hmoment
    obtain ⟨i, hi, -⟩ := hm.tasks u _ (List.getElem?_eq_getElem hu)
    exact hm.drops rfl rfl (by simp) hfresh hi (forgone_of_futile hi hu hnt hr (by simp [hnone]))
  · exact hm.idle [] [] rfl rfl (by simp) (by simpa [Frame.handles] using hmoment) (by simp) (by simp)

lemma Ordered.called (hm : Ordered owner ⟨s, .link 0 (.call u moment argument) :: r, none, es⟩)
    (hh : hookAt (given (eventsOf 0 es)) u moment = some h) :
    Ordered owner ⟨s, bodyOf h argument ++ [.link 0 (.awaitHook h argument)] ++ r, none,
      .link 0 (.called h argument) :: .link 0 (.told u moment argument) :: es⟩ := by
  obtain ⟨task, htask, hget⟩ := Option.bind_eq_some_iff.mp hh
  obtain ⟨i, hi, hof⟩ := hm.tasks u task htask
  have hhook := hof moment h hget
  by_cases hmoment : IsResult moment
  · obtain ⟨hfresh, hu, nt, hnt, hr, rfl, rfl⟩ := hm.fit _ rfl hmoment
    cases hint : internal h with
    | false =>
      obtain ⟨_, x, rfl⟩ : ∃ moment x, h = .user moment x := by cases h <;> simp_all [internal]
      obtain ⟨rfl, hx⟩ := hhook
      exact hm.shows [.link 0 (.told u _ _)] [.link 0 (.awaitHook _ _)] rfl rfl (by simp) hfresh hi hx
        hmoment (by simp [Event.dull]) ⟨rfl, rfl, rfl⟩ rfl
        (by simp [Frame.stays, Coordinator.Frame.resumes, Coordinator.Frame.waits])
    | true =>
      obtain ⟨v, hn⟩ := notice_of_tagged hnt
      obtain ⟨-, payload, hpayload⟩ := reply_payload hn hr
      have hbody : bodyOf h nt.argument = ([.body h payload] : List (Frame U X)) := by
        rw [hpayload]
        cases h <;> simp_all [bodyOf, internal]
      rw [hbody, hpayload]
      have htold : ∀ e ∈ ([.link 0 (.called h (.payload payload)), .link 0 (.told u nt.moment (.payload payload))] :
          List (Event U X)), e.dull = true := by simp [Event.dull, hint]
      refine hm.passes [.link 0 (.called h (.payload payload)), .link 0 (.told u nt.moment (.payload payload))]
        [.link 0 (.awaitHook h (.payload payload))] rfl rfl (by simp) htold ?_ rfl
        (by simp [Frame.stays, Coordinator.Frame.resumes, Coordinator.Frame.waits])
      refine ⟨hint, u, i, nt.moment, es, hmoment, rfl, hfresh.append htold, ?_, ?_, hhook, fun hfutile => ?_⟩
      · rw [issuer_append fun e he => Event.dull.taken (htold e he), hi]
      · rwa [given_untaken fun e he => Event.dull.taken (htold e he)]
      · refine forgone_of_futile ?_ ?_ (tagged_append hnt _) hr ?_
        · rw [issuer_append fun e he => Event.dull.taken (htold e he), hi]
        · rwa [given_untaken fun e he => Event.dull.taken (htold e he)]
        · rw [given_untaken fun e he => Event.dull.taken (htold e he), hh, hpayload]
          simpa using hfutile
  · obtain ⟨_, x, rfl⟩ : ∃ moment x, h = .user moment x := by
      cases h with
      | user moment x => exact ⟨moment, x, rfl⟩
      | _ => exact absurd (hhook.result rfl) hmoment
    obtain ⟨rfl, hx⟩ := hhook
    refine hm.idle [.link 0 (.awaitHook _ _)] [.link 0 (.called _ _), .link 0 (.told u _ _)] rfl rfl ?_
      (by simpa [Frame.handles] using hmoment) ?_ (by simp)
    · intro e he
      obtain rfl | rfl := List.mem_pair.mp he
      · exact ⟨rfl, rfl, rfl, fun p hp => mem_note hp ▸ hmoment⟩
      · exact still_quiet rfl
    · rintro g ⟨⟩
      exact ⟨trivial, rfl⟩

end Hooks

section Plain

variable {s : Session U X} {f : Frame U X} {r : List (Frame U X)} {es : List (Event U X)} {t i : Nat} {moment : Moment}
  {hook : Option U} {argument : Argument}

lemma Ordered.yields (hm : Ordered owner ⟨s, f :: r, none, es⟩) (hf : ∀ g task, f ≠ .link g (.submit task))
    (hmoment : IsResult moment) (hfresh : Fresh es t) (hi : issuer es t = some i) (hhook : ∀ u ∈ hook, owner u = i)
    (hnone : hook = none → Forgone es i) (contained : Bool) :
    Ordered owner (Machine.after ⟨s, f :: r, none, es⟩ r (callTurn s contained moment hook argument)) := by
  cases hook with
  | none => exact hm.drops rfl rfl hf hfresh hi (hnone rfl)
  | some u =>
    exact hm.shows [] [.awaitCall contained moment u argument] rfl rfl hf hfresh hi (hhook u rfl) hmoment
      (by simp) ⟨rfl, rfl, rfl⟩ rfl (by simp [Frame.stays])

lemma Ordered.call (hm : Ordered owner ⟨s, .call moment hook argument :: r, none, es⟩) :
    Ordered owner (Machine.after ⟨s, .call moment hook argument :: r, none, es⟩ r (callTurn s true moment hook argument)) := by
  by_cases hmoment : IsResult moment
  · obtain ⟨t, i, hfresh, hi, hhook, hnone⟩ := hm.fit _ rfl hmoment
    exact hm.yields (by simp) hmoment hfresh hi hhook hnone true
  · have hidle : (Frame.call moment hook argument : Frame U X).handles = false := by simpa [Frame.handles] using hmoment
    cases hook with
    | none => exact hm.idle [] [] rfl rfl (by simp) hidle (by simp) (by simp)
    | some u =>
      refine hm.idle [.awaitCall true moment u argument] [.called moment u argument] rfl rfl ?_ hidle ?_
        (by simp)
      · rintro e he
        obtain rfl := List.mem_singleton.mp he
        exact ⟨rfl, rfl, rfl, fun p hp => mem_note hp ▸ hmoment⟩
      · rintro g ⟨⟩
        exact ⟨trivial, rfl⟩

/-- A hook that the session has set shows the result, asks for a further task, or cannot use the reply. -/
lemma Ordered.body {h : Hook U} {payload : Object} (hm : Ordered owner ⟨s, .body h payload :: r, none, es⟩) :
    Ordered owner (Machine.after ⟨s, .body h payload :: r, none, es⟩ r (bodyTurn s h payload)) := by
  obtain ⟨hint, t, i, moment, older, hmoment, hes, hfresh, hi, hat, hhook, hfutile⟩ := hm.fit _ rfl
  have hf : ∀ g task, (Frame.body h payload : Frame U X) ≠ .link g (.submit task) := by simp
  have hrefused : ¬ Accepts payload h → Ordered owner ⟨s, r, some .unexpectedShape, es⟩ := fun haccepts =>
    hm.drops rfl rfl hf hfresh hi (hfutile (.inr ⟨payload, rfl, haccepts⟩))
  -- where the hook goes on with a call for a result, it goes to the caller of the task
  have hresult : ∀ (s' : Session U X) (result : Moment) (outlet : Option U) (argument : Argument) (new : List (Frame U X)),
      s'.links = s.links → IsResult result → (∀ u ∈ outlet, owner u = i) → outlet? h = outlet → asksScope h = false →
      (∀ g ∈ new, g.stays = true) → Ordered owner ⟨s', .call result outlet argument :: new ++ r, none, es⟩ := by
    intro s' result outlet argument new hlinks hresult howner houtlet hasks hnew
    refine hm.passes [] new (by rw [hlinks]) (by rw [coordinatorOf, hlinks, coordinatorOf]) hf (by simp) ?_
      (by simpa [Frame.handles] using hresult) hnew
    exact fun _ => ⟨t, i, hfresh, hi, howner, fun hnone => hfutile (.inl ⟨houtlet.trans hnone, hasks⟩)⟩
  cases h with
  | user => cases hint
  | names q success =>
    simp only [bodyTurn, namesTurn]
    split
    · exact hrefused (by simp [Accepts, *])
    · exact hm.yields hf (.inl rfl) hfresh hi hhook.2 (fun hnone => hfutile (.inl ⟨hnone, rfl⟩)) false
  | inspection q hooks =>
    simp only [bodyTurn, inspectionTurn]
    split
    · exact hrefused (by simp [Accepts, *])
    · split
      case _ hscope =>
        exact hresult s .success hooks.success _ [.call .afterRun hooks.afterRun .nothing] rfl (.inl rfl) (hhook.2 .success) rfl
          (by simp [asksScope, hscope]) (by simp [Frame.stays])
      case _ hscope =>
        refine hm.passes [] [] rfl rfl hf (by simp) ?_ rfl (by simp)
        refine ⟨i, taskOf_scope q _ hhook.2, .inr ⟨t, ?_, hi, hfresh, ?_⟩⟩
        · rw [List.nil_append, show es = _ from hes]
          rfl
        · obtain ⟨task, htask, hget⟩ := Option.bind_eq_some_iff.mp hat
          obtain rfl := hhook.1
          refine ⟨task, htask, ?_⟩
          rw [show task.hooks.success = _ from hget]
          simpa [asksScope] using hscope
  | inspectionError hooks =>
    exact hresult s .error hooks.error _ [.call .afterRun hooks.afterRun .nothing] rfl (.inr rfl) (hhook.2 .error) rfl rfl
      (by simp [Frame.stays])
  | scopeInspection report q hooks =>
    simp only [bodyTurn, scopeInspectionTurn]
    split
    · exact hrefused (by simp [Accepts, *])
    · exact hresult _ .success hooks.success _ [] rfl (.inl rfl) (hhook.2 .success) rfl rfl (by simp)

lemma Ordered.execute {code : String} {set : Option (Hooks U)} (hm : Ordered owner ⟨s, .execute code set :: r, none, es⟩) :
    Ordered owner (Machine.after ⟨s, .execute code set :: r, none, es⟩ r (executeTurn s code set)) :=
  hm.made (.log .execute) rfl rfl (taskOf_run (hm.fit _ rfl))

lemma Ordered.complete {code : List Char} {cursor : Int} {hooks : Hooks U}
    (hm : Ordered owner ⟨s, .complete code cursor hooks :: r, none, es⟩) :
    Ordered owner (Machine.after ⟨s, .complete code cursor hooks :: r, none, es⟩ r (completeTurn s code cursor hooks)) := by
  obtain ⟨hsome, hbelong⟩ := hm.fit _ rfl
  obtain ⟨e, he⟩ := Option.isSome_iff_exists.mp hsome
  have hmade := hm.made (.log .complete) rfl rfl (taskOf_names ⟨code, cursor, e⟩ hbelong)
  simp only [Machine.after, completeTurn, he]
  exact hmade

lemma Ordered.inspect {code : List Char} {cursor : Int} {hooks : Hooks U}
    (hm : Ordered owner ⟨s, .inspect code cursor hooks :: r, none, es⟩) :
    Ordered owner (Machine.after ⟨s, .inspect code cursor hooks :: r, none, es⟩ r (inspectTurn s code cursor hooks)) := by
  obtain ⟨hsome, hbelong⟩ := hm.fit _ rfl
  obtain ⟨e, he⟩ := Option.isSome_iff_exists.mp hsome
  have hmade := hm.made (.log .inspect) rfl rfl (taskOf_inspection ⟨code, cursor, e⟩ hbelong)
  simp only [Machine.after, inspectTurn, he]
  exact hmade

/-- Events of a session that are neither calls nor results. -/
def Event.minor : Event U X → Bool
  | .detached _ | .emitted _ | .raised _ | .executed .. | .log .noHandler | .log .handlingFailed => true
  | _ => false

lemma Event.minor.quiet {e : Event U X} (h : e.minor = true) : e.Quiet owner := by
  cases e with
  | log entry => cases entry <;> simp_all [Event.minor, Event.Quiet, Event.taken?, Event.isCall, Event.replies, Event.sight]
  | _ => simp_all [Event.minor, Event.Quiet, Event.taken?, Event.isCall, Event.replies, Event.sight]

lemma Ordered.aside {t : Turn U X} {fault : Option Fault} (hm : Ordered owner ⟨s, f :: r, fault, es⟩)
    (hlinks : t.state.links.length = s.links.length) (hlive : coordinatorOf t.state 0 = coordinatorOf s 0)
    (hminor : ∀ e ∈ t.events, e.minor = true) (hf : f.handles = false)
    (hfit : ∀ g ∈ t.frames.head?, g.Fit owner (t.events.reverse ++ es) ∧ g.handles = false)
    (hstays : ∀ g ∈ t.frames.tail, g.stays = true) : Ordered owner (Machine.after ⟨s, f :: r, fault, es⟩ r t) :=
  hm.idle _ _ hlinks (by rw [hlive]) (fun e he => Event.minor.quiet (hminor e (List.mem_reverse.mp he))) hf hfit hstays

lemma Ordered.deliver {worker : Nat} {message : Value} (hm : Ordered owner ⟨s, .deliver worker message :: r, none, es⟩)
    (hreplies : ∀ p ∈ Frame.hands? s (.deliver worker message : Frame U X), Replies (eventsOf p.1 es) p.2) :
    Ordered owner (Machine.after ⟨s, .deliver worker message :: r, none, es⟩ r (deliverTurn s worker message)) := by
  unfold deliverTurn
  split
  · exact hm.aside rfl rfl (by simp [Event.minor]) rfl (by simp) (by simp)
  · rename_i g hg
    split
    · exact hm.aside rfl rfl (by simp [Event.minor]) rfl (by simp) (by simp)
    · rename_i handler hhandler
      have hfit := (hreplies (g, message) (by simp [Frame.hands?, hg, hhandler])).2
      refine hm.aside rfl rfl (by simp) rfl ?_ (by simp)
      rintro g' ⟨⟩
      exact ⟨hfit, rfl⟩

lemma Ordered.emit {g : Nat} {message : Object} (hm : Ordered owner ⟨s, .emit g message :: r, none, es⟩)
    (hreplies : ∀ p ∈ Frame.hands? s (.emit g message : Frame U X), Replies (eventsOf p.1 es) p.2) :
    Ordered owner (Machine.after ⟨s, .emit g message :: r, none, es⟩ r (emitTurn s g message)) := by
  unfold emitTurn
  split
  · exact hm.aside rfl rfl (by simp [Event.minor]) rfl (by simp) (by simp)
  · rename_i hhandler
    have hfit := (hreplies (g, .object message) (by simp [Frame.hands?, hhandler])).2
    refine hm.aside rfl rfl (by simp) rfl ?_ (by simp)
    rintro g' ⟨⟩
    exact ⟨hfit, rfl⟩
  · exact hm.aside rfl rfl (by simp [Event.minor]) rfl (by simp) (by simp)

lemma Ordered.arrive {channel : Kernel.Channel} {message : Option Value}
    (hm : Ordered owner ⟨s, .arrive channel message :: r, none, es⟩) :
    Ordered owner (Machine.after ⟨s, .arrive channel message :: r, none, es⟩ r (arriveTurn s channel message)) := by
  unfold arriveTurn
  split
  · exact hm.aside rfl rfl (by simp) rfl (by simp) (by simp)
  · split
    · exact hm.aside rfl rfl (by simp) rfl (by simp) (by simp)
    · split
      · exact hm.aside rfl rfl (by simp [Event.minor]) rfl (by simp) (by simp)
      · refine hm.aside (by simp) (coordinatorOf_setKernel ..) (by simp) rfl ?_ ?_
        all_goals
          simp only
          split <;> simp [Frame.Fit, Frame.handles, Frame.stays]

end Plain

section Step

variable {s : Session U X} {r : List (Frame U X)} {fault : Option Fault} {es : List (Event U X)} {t : Turn U X}

lemma Ordered.single_link {g : Nat} {f : Coordinator.Frame (Hook U) X} (hm : Ordered owner ⟨s, .link g f :: r, fault, es⟩)
    (hh : Housed ⟨s, .link g f :: r, fault, es⟩) : g = 0 := by
  have hlt : g < s.links.length := hh.frames g f (List.mem_cons_self ..)
  have hone : s.links.length = 1 := hm.single
  omega

lemma Ordered.link_tick {f : Coordinator.Frame (Hook U) X} (hm : Ordered owner ⟨s, .link 0 f :: r, none, es⟩)
    (hlt : 0 < s.links.length) (hsound : Sound ⟨coordinatorOf s 0, f :: framesOf 0 r, none, eventsOf 0 es⟩)
    (ha : Addressed ⟨coordinatorOf s 0, f :: framesOf 0 r, none, eventsOf 0 es⟩) (ht : (Frame.link 0 f).tick s = some t) :
    Ordered owner (Machine.after ⟨s, .link 0 f :: r, none, es⟩ r t) := by
  have hl := List.getElem?_eq_getElem hlt
  have hc : coordinatorOf s 0 = s.links[0].coordinator := by simp [coordinatorOf, hl]
  simp only [Frame.tick, hl] at ht
  by_cases hf : dull f = true
  · exact hm.link_dull (linked_tick hl ht) hf
  · cases f with
    | submit task =>
      obtain rfl := Option.some.inj ht
      exact hc ▸ hm.submits hlt hsound ha
    | route v =>
      obtain rfl := Option.some.inj ht
      exact hc ▸ hm.route hsound ha
    | loop v =>
      obtain rfl := Option.some.inj ht
      exact hc ▸ hm.loop ha.router
    | close id u =>
      obtain rfl := Option.some.inj ht
      exact hc ▸ hm.close hlt
    | call u moment argument =>
      obtain rfl := Option.some.inj ht
      have hat := hookAt_eq hsound hm.live u moment
      cases hh : (coordinatorOf s 0).hookOf u moment with
      | none =>
        have hnone := hm.unset (hat.trans hh)
        simpa [Machine.after, linkTurn, Coordinator.callTurn, hh, ← hc, setCoordinator_self] using hnone
      | some h =>
        have hcalled := hm.called (hat.trans hh)
        simpa [Machine.after, linkTurn, Coordinator.callTurn, hh, ← hc, setCoordinator_self] using hcalled
    | kill => exact absurd (hm.fit _ rfl) id
    | _ => exact absurd rfl hf

lemma Ordered.tick {f : Frame U X} (hm : Ordered owner ⟨s, f :: r, none, es⟩) (hh : Housed ⟨s, f :: r, none, es⟩)
    (hsound : Sound (Machine.view ⟨s, f :: r, none, es⟩ 0)) (hview : Addressed (Machine.view ⟨s, f :: r, none, es⟩ 0))
    (ha : Answering owner ⟨s, f :: r, none, es⟩ .tick) (ht : f.tick s = some t) :
    Ordered owner (Machine.after ⟨s, f :: r, none, es⟩ r t) := by
  have hfit := hm.fit f rfl
  cases f with
  | link g f =>
    obtain rfl := hm.single_link hh
    rw [view_link s r es (.inl rfl)] at hsound hview
    exact hm.link_tick hh.inhabited hsound hview ht
  | execute =>
    obtain rfl := Option.some.inj ht
    exact hm.execute
  | complete =>
    obtain rfl := Option.some.inj ht
    exact hm.complete
  | inspect =>
    obtain rfl := Option.some.inj ht
    exact hm.inspect
  | assign x =>
    obtain rfl := Option.some.inj ht
    refine hm.aside rfl rfl (by simp) rfl ?_ (by simp)
    rintro g ⟨⟩
    exact ⟨trivial, rfl⟩
  | call =>
    obtain rfl := Option.some.inj ht
    exact hm.call
  | body =>
    obtain rfl := Option.some.inj ht
    exact hm.body
  | deliver =>
    obtain rfl := Option.some.inj ht
    exact hm.deliver ha
  | arrive =>
    obtain rfl := Option.some.inj ht
    exact hm.arrive
  | emit =>
    obtain rfl := Option.some.inj ht
    exact hm.emit ha
  | guarded =>
    obtain rfl := Option.some.inj ht
    exact hm.aside rfl rfl (by simp) rfl (by simp) (by simp)
  | awaitCall => cases ht
  | _ => exact absurd hfit id

lemma Ordered.failed {contained : Bool} {moment : Moment} {u : U} {argument : Argument} (e : Fault)
    (hm : Ordered owner ⟨s, .awaitCall contained moment u argument :: r, fault, es⟩) :
    Ordered owner (Machine.after ⟨s, .awaitCall contained moment u argument :: r, fault, es⟩ r
      (Frame.callFailed s contained moment e)) := by
  unfold Frame.callFailed
  split <;> exact hm.aside rfl rfl (by simp [Event.minor]) rfl (by simp) (by simp)

lemma Ordered.answer {f : Frame U X} {a : Answer} (hm : Ordered owner ⟨s, f :: r, none, es⟩)
    (hh : Housed ⟨s, f :: r, none, es⟩) (ht : f.answer s a = some t) :
    Ordered owner (Machine.after ⟨s, f :: r, none, es⟩ r t) := by
  have hfit := hm.fit f rfl
  cases f with
  | link g f =>
    obtain rfl := hm.single_link hh
    refine hm.link_dull (linked_answer ht) ?_
    simp only [Frame.answer, Frame.answerLink] at ht
    split at ht
    · cases f <;> simp_all [dull, Coordinator.Frame.answer]
    · cases ht
  | awaitCall contained moment u argument =>
    cases a with
    | done =>
      obtain rfl := Option.some.inj ht
      exact hm.aside rfl rfl (by simp) rfl (by simp) (by simp)
    | raised e =>
      obtain rfl := Option.some.inj ht
      exact hm.failed e
    | _ => cases ht
  | awaitTermination | awaitWorker => exact absurd hfit id
  | _ => cases ht

lemma Ordered.unwound {f : Frame U X} {e : Fault} (hm : Ordered owner ⟨s, f :: r, some e, es⟩)
    (hh : Housed ⟨s, f :: r, some e, es⟩) : Ordered owner (Machine.after ⟨s, f :: r, some e, es⟩ r (f.unwind s e)) := by
  have hidle : f.handles = false := hm.calm (by simp) f rfl
  cases f with
  | link g f =>
    obtain rfl := hm.single_link hh
    have hlinked := linked_unwind hh.inhabited f e
    by_cases hf : dull f = true
    · exact hm.link_dull hlinked hf
    · have hlt : 0 < s.links.length := hh.inhabited
      have hl := List.getElem?_eq_getElem hlt
      have hc : coordinatorOf s 0 = s.links[0].coordinator := by simp [coordinatorOf, hl]
      have hturn : Frame.unwind s e (.link 0 f) = linkTurn s 0 { state := coordinatorOf s 0, fault := some e } := by
        simp only [Frame.unwind, hl, hc]
        cases f <;> first | rfl | exact absurd rfl hf
      rw [hturn]
      exact hm.aside (by simp [linkTurn]) (by simp [linkTurn, coordinatorOf_set s hlt]) (by simp [linkTurn]) hidle
        (by simp [linkTurn]) (by simp [linkTurn])
  | awaitCall contained moment u argument => exact hm.failed e
  | guarded =>
    simp only [Frame.unwind]
    split <;> exact hm.aside rfl rfl (by simp [Event.minor]) rfl (by simp) (by simp)
  | _ => exact hm.aside rfl rfl (by simp [Frame.unwind]) hidle (by simp [Frame.unwind]) (by simp [Frame.unwind])

lemma Ordered.stands {m : Machine U X} (hm : Ordered owner m) (hh : Housed m) (hopen : m.open? = true) :
    ∀ f ∈ m.stack, f.stays = true := by
  obtain ⟨s, stack, fault, es⟩ := m
  cases stack with
  | nil => simp
  | cons f r =>
    simp only [Machine.open?, Bool.and_eq_true, Option.isNone_iff_eq_none] at hopen
    have hfit := hm.fit f rfl
    intro g hg
    rcases List.mem_cons.mp hg with rfl | hg
    · cases g with
      | link g f =>
        have hwaits := waits_of_tick (hh.frames g f (List.mem_cons_self ..)) hopen.1
        cases f <;> simp_all [Frame.stays, Coordinator.Frame.resumes, Coordinator.Frame.waits]
      | awaitCall => rfl
      | awaitTermination | awaitWorker => exact absurd hfit id
      | _ => cases hopen.1
    · exact hm.stays g hg

lemma Ordered.push {m : Machine U X} {operation : Operation U X} (hm : Ordered owner m) (hh : Housed m)
    (hopen : m.open? = true) (ha : Answering owner m (.start operation)) : Ordered owner (m.push operation) := by
  have hstands := hm.stands hh hopen
  obtain ⟨hentered, hsettled⟩ := hm.settled fun f hf => handles_of_stays (hstands f (List.mem_of_mem_head? hf))
  refine ⟨hm.single, hm.live, hstands, ?_, fun h => absurd rfl h, hm.final, hm.tasks, fun i hi => .inl (hentered i hi),
    fun k i hk hr => .inl (hsettled k i hk hr), hm.proper, hm.presented⟩
  rintro f ⟨⟩
  cases operation with
  | execute | complete | inspect => exact ha
  | assign | deliver | arrive => trivial
  | _ => exact absurd ha id

/-- Every move that is allowed keeps the order. -/
theorem ordered_step {m n : Machine U X} {move : Move U X} (hh : Housed m) (hsound : Sound (m.view 0))
    (hview : Addressed (m.view 0)) (ha : Answering owner m move) (hstep : m.step move = some n) (hm : Ordered owner m) :
    Ordered owner n := by
  cases step_moved hstep with
  | ticked ht => exact hm.tick hh hsound hview ha ht
  | unwound => exact hm.unwound hh
  | answered ht => exact hm.answer hh ht
  | started hopen => exact hm.push hh hopen ha
  | recovered =>
    exact ⟨hm.single, hm.live, hm.stays, hm.fit, fun h => absurd rfl h, hm.final, hm.tasks, hm.entered, hm.concluded, hm.proper,
      hm.presented⟩

end Step

end EvalSession.Session
