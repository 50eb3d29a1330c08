import EvalSession.Proofs.Session.Handling

/-!
# Requests and results in the order of the calls

The requests that are sent for an earlier call go ahead of those for a later one, and so do the results (`calls_in_order`). There
is one exception: an inspection of a member hands in its second task only when the first has its reply, and calls that were
made by then go ahead of it (`calls_out_of_order`).
-/
namespace EvalSession.Session

open Coordinator (Replied given requests Sound Addressed)

variable {U X : Type} {owner : U → Nat}

/-- The request was sent for the task, and on behalf of the call. -/
def Behalf (es : List (Event U X)) (request : Request) (t i : Nat) : Prop :=
  .link 0 (.opened t request.contextId) ∈ es ∧ issuer es t = some i

/-- Every request is sent on behalf of a call, and ahead of those of later calls, apart from tasks that these are ahead of. -/
structure SentInOrder (ahead : Nat → Nat → Prop) (es : List (Event U X)) : Prop where
  issued : ∀ request ∈ requests (eventsOf 0 es), ∃ t i, Behalf es request t i
  ordered : (requests (eventsOf 0 es)).Pairwise fun earlier later => ∀ t u i j, Behalf es earlier u j → Behalf es later t i →
    i < j → ahead t j

variable (owner) in
/-- The call has been shown its result, or is not shown it. -/
def Settled (es : List (Event U X)) (i : Nat) : Prop :=
  (∃ result, IsResult result ∧ (i, result) ∈ sights owner es) ∨ Forgone es i

variable (owner) in
/-- When a call is shown its result, that is over for the earlier calls, apart from those with a task that it is ahead of. -/
def ShownInOrder (ahead : Nat → Nat → Prop) (es : List (Event U X)) : Prop :=
  ∀ newer e older, es = newer ++ e :: older → ∀ j result, (j, result) ∈ e.sight owner → IsResult result → ∀ i < j,
    (∃ t, issuer es t = some i ∧ ahead t j) ∨
      Settled owner older i ∧ ∀ result', IsResult result' → (i, result') ∉ sights owner newer

section Prefixes

variable {P : List (Event U X) → Event U X → Prop} {es newer : List (Event U X)} {i j t : Nat}

lemma Throughout.older (h : Throughout P (newer ++ es)) : Throughout P es := fun newer' e older hes =>
  h (newer ++ newer') e older (by rw [hes, List.append_assoc])

lemma issuer_kept (hes : Throughout Proper (newer ++ es)) (h : issuer es t = some i) : issuer (newer ++ es) t = some i := by
  induction newer with
  | nil => exact h
  | cons e newer ih => exact issuer_cons hes (ih (throughout_cons.mp hes).2)

lemma Overtaken.kept (hes : Throughout Proper (newer ++ es)) (h : Overtaken es t j) : Overtaken (newer ++ es) t j := by
  induction newer with
  | nil => exact h
  | cons e newer ih => exact (ih (throughout_cons.mp hes).2).cons hes

lemma handled_after {recent older before : List (Event U X)} {v : Value} {e : Event U X} (hrecent : ∀ e ∈ recent, e.dull = true)
    (he : e.sight owner ≠ []) (h : newer ++ e :: before = recent ++ .link 0 (.routed v) :: older) :
    ∃ between, older = between ++ e :: before := by
  induction newer generalizing recent with
  | nil =>
    cases recent with
    | nil =>
      obtain rfl := (List.cons.inj h).1
      exact absurd rfl he
    | cons _ recent =>
      obtain rfl := (List.cons.inj h).1
      exact absurd (Event.dull.sight (hrecent e (by simp))) he
  | cons _ newer ih =>
    cases recent with
    | nil => exact ⟨newer, (List.cons.inj h).2.symm⟩
    | cons _ recent => exact ih (fun x hx => hrecent x (by simp [hx])) (List.cons.inj h).2

lemma sights_cons (e : Event U X) (es : List (Event U X)) : sights owner (e :: es) = sights owner es ++ e.sight owner := by
  simp [sights]

lemma Event.sight_cases (owner : U → Nat) (e : Event U X) : e.sight owner = [] ∨ ∃ p, e.sight owner = [p] := by
  have hnote : ∀ moment u, note owner moment u = [] ∨ ∃ p, note owner moment u = [p] := by
    intro moment u
    cases moment <;> simp [note]
  cases e with
  | link g e =>
    cases e with
    | called h =>
      cases h with
      | user moment u => exact hnote moment u
      | _ => exact .inl rfl
    | _ => exact .inl rfl
  | called moment u => exact hnote moment u
  | _ => exact .inl rfl

lemma sights_split {before after : List (Nat × Moment)} {p : Nat × Moment} (h : sights owner es = before ++ p :: after) :
    ∃ newer e older, es = newer ++ e :: older ∧ p ∈ e.sight owner ∧ sights owner newer = after := by
  induction es generalizing after with
  | nil => simp [sights] at h
  | cons e es ih =>
    rw [sights_cons] at h
    rcases e.sight_cases owner with hnone | ⟨q, hone⟩
    · rw [hnone, List.append_nil] at h
      obtain ⟨newer, e', older, rfl, hp, hafter⟩ := ih h
      exact ⟨e :: newer, e', older, rfl, hp, by rw [sights_cons, hnone, List.append_nil, hafter]⟩
    · rw [hone] at h
      rcases List.eq_nil_or_concat after with rfl | ⟨after, q', rfl⟩
      · obtain ⟨-, hlast⟩ := List.append_inj' h rfl
        exact ⟨[], e, es, rfl, by rw [hone, hlast]; exact List.mem_cons_self .., rfl⟩
      · rw [List.concat_eq_append, ← List.cons_append, ← List.append_assoc] at h
        obtain ⟨hrest, hlast⟩ := List.append_inj' h rfl
        obtain ⟨newer, e', older, rfl, hp, hafter⟩ := ih hrest
        exact ⟨e :: newer, e', older, rfl, hp, by rw [sights_cons, hone, hlast, hafter, List.concat_eq_append]⟩

end Prefixes

section Results

variable {es newer older : List (Event U X)} {e : Event U X} {i j u w : Nat}

lemma Fresh.replied (h : Fresh es u) (hw : w ≤ u) : Replied (eventsOf 0 es) (w + 1) := by
  obtain ⟨hreplied, recent, v, older, rfl, -, -, hall⟩ := h
  rcases Nat.lt_or_eq_of_le hw with hlt | rfl
  · rw [List.append_cons]
    exact replied_events_append (hall (w + 1) (by omega) (by omega)) _
  · exact hreplied

/-- When a call is about to be shown its result, each earlier one is settled or has a task that was overtaken. -/
lemma Presenting.settled (h : Presenting owner es u j) (hes : Throughout Proper es) (hij : i < j) (hw : issuer es w = some i) :
    Settled owner es i ∨ ∃ t, issuer es t = some i ∧ Overtaken es t j := by
  -- from one task of the earlier call to its next, as far as the one whose reply is handled
  induction hn : u - w using Nat.strong_induction_on generalizing w with
  | _ n ih =>
    rcases Nat.lt_trichotomy w u with hlt | rfl | hgt
    · rcases h.concluded w i (by omega) hw (h.fresh.replied hlt.le) with hshown | hforgone | ⟨k, hk, hnext⟩
      · exact .inl (.inl hshown)
      · exact .inl (.inr hforgone)
      · exact ih (u - k) (by omega) hnext rfl
    · obtain rfl := Option.some.inj (hw.symm.trans h.issued)
      exact absurd hij (Nat.lt_irrefl _)
    · exact .inr ⟨w, hw, overtaken_of_lt hes h.issued hw hgt hij⟩

/-- An earlier call that is shown a result later than a later one was overtaken. -/
lemma Presenting.late (h : Presenting owner older u j) (he : e.sight owner ≠ []) (hes : Throughout Proper (newer ++ e :: older))
    (hlate : Presenting owner (newer ++ e :: older) w i) (hij : i < j) : Overtaken (newer ++ e :: older) w j := by
  have hu : issuer (newer ++ e :: older) u = some j := by
    rw [List.append_cons] at hes ⊢
    exact issuer_kept hes h.issued
  refine overtaken_of_lt hes hu hlate.issued ?_ hij
  obtain ⟨-, recent, v, before, hsplit, hrecent, hunreplied, -⟩ := hlate.fresh
  obtain ⟨between, rfl⟩ := handled_after hrecent he hsplit
  by_contra hle
  refine hunreplied ?_
  rw [List.append_cons]
  exact replied_events_append (h.fresh.replied (Nat.le_of_not_lt hle)) _

lemma Ordered.shownInOrder {m : Machine U X} (hm : Ordered owner m) : ShownInOrder owner (Overtaken m.events) m.events := by
  rintro newer e older hes j result hj hresult i hij
  have hproper : Throughout Proper (newer ++ e :: older) := hes ▸ hm.proper
  obtain ⟨u, hu⟩ := hm.presented newer e older hes (j, result) hj hresult
  have hsight : e.sight owner ≠ [] := List.ne_nil_of_mem hj
  by_cases hovertaken : ∃ t, issuer m.events t = some i ∧ Overtaken m.events t j
  · exact .inl hovertaken
  refine .inr ⟨?_, fun result' hresult' hi => hovertaken ?_⟩
  · obtain ⟨w, hw⟩ := hu.entered i (hij.trans (issuer_lt hu.issued))
    refine (hu.settled (throughout_cons.mp hproper.older).2 hij hw).resolve_right fun ⟨t, ht, h⟩ => hovertaken ⟨t, ?_⟩
    rw [hes, List.append_cons]
    rw [List.append_cons] at hproper
    exact ⟨issuer_kept hproper ht, h.kept hproper⟩
  · obtain ⟨before, after, hsights⟩ := List.append_of_mem hi
    obtain ⟨newest, e', between, rfl, hlate, -⟩ := sights_split hsights
    have hsplit : newest ++ e' :: between ++ e :: older = newest ++ e' :: (between ++ e :: older) := by simp
    rw [hsplit] at hes hproper
    obtain ⟨w, hw⟩ := hm.presented newest e' _ hes (i, result') hlate hresult'
    rw [List.append_cons] at hproper
    rw [hes, List.append_cons]
    exact ⟨w, issuer_kept hproper hw.issued, (hu.late hsight hproper.older hw hij).kept hproper⟩

end Results

section Requests

variable {m : Machine U X}

lemma mem_eventsOf {es : List (Event U X)} {e : Coordinator.Event (Hook U) X} : e ∈ eventsOf 0 es ↔ .link 0 e ∈ es := by
  constructor
  · intro h
    obtain ⟨e', he', hof⟩ := List.mem_filterMap.mp h
    cases e' <;> simp_all
  · exact fun h => List.mem_filterMap.mpr ⟨_, h, by simp⟩

lemma Ordered.sentInOrder (hm : Ordered owner m) (hs : Sound (m.view 0)) (ha : Addressed (m.view 0)) :
    SentInOrder (Overtaken m.events) m.events := by
  constructor
  · intro request hrequest
    obtain ⟨h1, hle⟩ := ha.sent request.contextId ⟨request, hrequest, rfl⟩
    have hmem : request.contextId - 1 ∈ Coordinator.gather Coordinator.Event.opened? (m.view 0).events :=
      hs.queued.opened ▸ List.mem_range.mpr (by omega)
    obtain ⟨e, he, hopened⟩ := List.mem_filterMap.mp hmem
    obtain ⟨id, rfl⟩ : ∃ id, e = .opened (request.contextId - 1) id := by
      cases e <;> simp_all
    obtain rfl : id = request.contextId := (hs.opened_id (List.mem_reverse.mp he)).trans (Nat.sub_add_cancel h1)
    have hlt := hs.queued.lastContext_le
    obtain ⟨i, hi, -⟩ := hm.tasks (request.contextId - 1) _ (List.getElem?_eq_getElem (show _ < _ from by
      simp only [Machine.view] at hlt hle
      omega))
    exact ⟨_, i, mem_eventsOf.mp (List.mem_reverse.mp he), hi⟩
  · have hids := hs.ledger.story.contextIds.1
    rw [← Coordinator.requests_eq, List.pairwise_map] at hids
    refine hids.imp ?_
    rintro earlier later hlt t u i j ⟨hu, hj⟩ ⟨ht, hi⟩ hij
    have := hs.opened_id (mem_eventsOf.mpr hu)
    have := hs.opened_id (mem_eventsOf.mpr ht)
    exact overtaken_of_lt hm.proper hj hi (by omega) hij

end Requests

section Runs

variable {worker : Worker} {transform : Option X} {restartable : Bool} {documentation : Documentation.Index} {m : Machine U X}
  {moves : List (Move U X)}

lemma Answering.honest {m : Machine U X} {move : Move U X} (ha : Answering owner m move) : Honest m move := by
  cases move with
  | tick => exact fun p hp => (ha p hp).1
  | start | answer | recover => trivial

variable (owner) in
/-- What holds of a session while calls are made and answered. -/
structure Proceeding (m : Machine U X) : Prop extends Ordered owner m where
  housed : Housed m
  sound : Sound (m.view 0)
  addressed : Addressed (m.view 0)

lemma proceeding_start :
    Proceeding owner ({ state := Session.make worker transform restartable documentation } : Machine U X) where
  single := rfl
  live := rfl
  stays := by simp
  fit := by simp
  calm := by simp
  final := by simp [eventsOf, Coordinator.notices]
  tasks := by simp [eventsOf, given]
  entered := by simp [calls]
  concluded := by simp [issuer]
  proper := throughout_nil _
  presented := throughout_nil _
  housed := housed_start ..
  sound := view_start _ _ _ _ Coordinator.sound_fresh 0 Nat.one_pos
  addressed := view_start _ _ _ _ Coordinator.addressed_fresh 0 Nat.one_pos

lemma proceeding_step {n : Machine U X} {move : Move U X} (ha : Answering owner m move) (hstep : m.step move = some n)
    (hm : Proceeding owner m) : Proceeding owner n := by
  have hst := step_stage hm.housed hstep
  obtain ⟨hsound, haddressed⟩ := (view_step hst hm.housed hm.housed.inhabited).invariant
    (I := fun p => Sound p ∧ Addressed p) honest_restricts
    (fun hown hown' h => ⟨Coordinator.sound_step hown' h.1, Coordinator.addressed_step hown' h.1 hown h.2⟩) ha.honest
    ⟨hm.sound, hm.addressed⟩
  exact ⟨ordered_step hm.housed hm.sound hm.addressed ha hstep hm.toOrdered, housed_step hst hm.housed, hsound, haddressed⟩

/-- In every run of a session over a worker that answers, requests are sent and results are shown in the order of the calls,
but for inspections of a member that are overtaken. -/
theorem calls_in_order
    (hf : Follows Machine.step (Answering owner) { state := Session.make worker transform restartable documentation } moves)
    (hr : Machine.run { state := Session.make worker transform restartable documentation } moves = some m) :
    SentInOrder (Overtaken m.events) m.events ∧ ShownInOrder owner (Overtaken m.events) m.events := by
  rw [Machine.run_eq] at hr
  have hm := run_invariant proceeding_step hf hr proceeding_start
  exact ⟨hm.toOrdered.sentInOrder hm.sound hm.addressed, hm.toOrdered.shownInOrder⟩

end Runs

/-- A member is inspected, and a name is inspected in a second call while the first request waits for its reply. -/
def memberAndName : List (Move Nat Nat) :=
  let described (id : Int) : Value := .object [("id", .int id), ("end", .bool true), ("inspection", .object [])]
  List.flatten [[.start (.inspect "a.b".toList 3 (sixHooks 0))], List.replicate 6 .tick, [.answer .done, .tick, .tick,
    .answer .done, .tick, .start (.inspect "x".toList 1 (sixHooks 1)), .tick, .tick, .start (.deliver 0 (described 1))],
    List.replicate 13 .tick, [.answer .done, .tick, .tick, .answer .done, .tick, .start (.deliver 0 (described 2))],
    List.replicate 5 .tick, [.answer .done, .tick, .answer .done], List.replicate 10 .tick, [.answer .done, .tick,
    .start (.deliver 0 (described 3))], List.replicate 5 .tick, [.answer .done, .tick, .tick, .tick, .answer .done, .tick,
    .tick, .tick]]

theorem memberAndName_in_order :
    ∃ m, Machine.run { state := Session.make (.remote 0) none false ⟨[], []⟩ } memberAndName = some m ∧
      (requests (eventsOf 0 m.events)).length = 3 ∧ SentInOrder (Overtaken m.events) m.events ∧
        ShownInOrder (· / 6) (Overtaken m.events) m.events := by
  have h : (Machine.run { state := Session.make (.remote 0) none false ⟨[], []⟩ } memberAndName).isSome = true := by
    decide +kernel
  have hm := (Option.some_get h).symm
  exact ⟨_, hm, rfl, calls_in_order (by decide +kernel) hm⟩

/-- The names for a completion come in a form that cannot be used, and a program is run in a second call. -/
def unusableNames : List (Move Nat Nat) :=
  let answer (id : Int) (more : Object) : Value := .object ([("id", .int id), ("end", .bool true), ("mime", .object [])] ++ more)
  List.flatten [[.start (.complete "x".toList 1 (sixHooks 0))], List.replicate 6 .tick, [.answer .done, .tick, .tick,
    .answer .done, .tick, .start (.deliver 0 (answer 1 [("names", .int 5)]))], List.replicate 7 .tick, [.answer .done, .tick,
    .tick, .tick, .start (.execute "b" (some (sixHooks 1)))], List.replicate 6 .tick, [.answer .done, .tick, .tick,
    .answer .done, .tick, .start (.deliver 0 (answer 2 [])), .tick, .tick, .tick, .answer .done, .tick, .tick, .answer .done,
    .tick, .tick, .tick]]

/-- In the first run the second request of the inspection stands behind the second call, which gets its result first. In the
second run the first call never gets one. -/
theorem calls_out_of_order :
    (Follows Machine.step (Answering (· / 6)) { state := Session.make (.remote 0) none false ⟨[], []⟩ } memberAndName ∧
      ∃ m, Machine.run { state := Session.make (.remote 0) none false ⟨[], []⟩ } memberAndName = some m ∧
        ¬ SentInOrder (fun _ _ => False) m.events ∧ ¬ ShownInOrder (· / 6) (fun _ _ => False) m.events) ∧
    Follows Machine.step (Answering (· / 6)) { state := Session.make (.remote 0) none false ⟨[], []⟩ } unusableNames ∧
      ∃ m, Machine.run { state := Session.make (.remote 0) none false ⟨[], []⟩ } unusableNames = some m ∧
        (1, .success) ∈ sights (· / 6) m.events ∧ ∀ result, IsResult result → (0, result) ∉ sights (· / 6) m.events := by
  refine ⟨⟨by decide +kernel, ?_⟩, by decide +kernel, ?_⟩
  · have h : (Machine.run { state := Session.make (.remote 0) none false ⟨[], []⟩ } memberAndName).isSome = true := by
      decide +kernel
    obtain ⟨m, hm⟩ := Option.isSome_iff_exists.mp h
    have hrequests : ∀ m ∈ Machine.run { state := Session.make (.remote 0) none false ⟨[], []⟩ } memberAndName,
        requests (eventsOf 0 m.events) = [⟨.inspect, "a.b", 1⟩, ⟨.inspect, "x", 2⟩, ⟨.inspect, "a", 3⟩] := by decide +kernel
    have hissuers : ∀ m ∈ Machine.run { state := Session.make (.remote 0) none false ⟨[], []⟩ } memberAndName,
        .link 0 (.opened 1 2) ∈ m.events ∧ .link 0 (.opened 2 3) ∈ m.events ∧ issuer m.events 1 = some 1 ∧
          issuer m.events 2 = some 0 := by decide +kernel
    have hsights : ∀ m ∈ Machine.run { state := Session.make (.remote 0) none false ⟨[], []⟩ } memberAndName,
        sights (· / 6) m.events =
          [(0, .beforeRun), (1, .beforeRun)] ++ (1, .success) :: [(1, .afterRun), (0, .success), (0, .afterRun)] := by
      decide +kernel
    refine ⟨m, hm, fun hsent => ?_, fun hshown => ?_⟩
    · obtain ⟨hx, ha, hone, hzero⟩ := hissuers m hm
      have hordered := hsent.ordered
      rw [hrequests m hm] at hordered
      simp only [List.pairwise_cons] at hordered
      exact hordered.2.1 ⟨.inspect, "a", 3⟩ (by simp) 2 1 0 1 ⟨hx, hone⟩ ⟨ha, hzero⟩ Nat.one_pos
    · obtain ⟨newer, e, older, hes, he, hlater⟩ := sights_split (hsights m hm)
      obtain ⟨_, -, hfalse⟩ | ⟨-, hnever⟩ := hshown newer e older hes 1 .success he (.inl rfl) 0 Nat.one_pos
      · exact hfalse
      · exact hnever .success (.inl rfl) (by simp [hlater])
  · have h : (Machine.run { state := Session.make (.remote 0) none false ⟨[], []⟩ } unusableNames).isSome = true := by
      decide +kernel
    obtain ⟨m, hm⟩ := Option.isSome_iff_exists.mp h
    have hsights : ∀ m ∈ Machine.run { state := Session.make (.remote 0) none false ⟨[], []⟩ } unusableNames,
        sights (· / 6) m.events = [(0, .beforeRun), (0, .afterRun), (1, .beforeRun), (1, .success), (1, .afterRun)] := by
      decide +kernel
    refine ⟨m, hm, by simp [hsights m hm], ?_⟩
    rintro result (rfl | rfl) <;> simp [hsights m hm]

end EvalSession.Session
