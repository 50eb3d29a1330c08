import EvalSession.Proofs.Coordinator.Contexts
import EvalSession.Proofs.Coordinator.Order
import EvalSession.Proofs.Coordinator.Raising

/-!
# How slot, table and counter stand to each other

Hooks, the transform and sending may do what they like, and messages may carry any id. Main statement: between operations
the table lists dispatched tasks under the numbers of their dispatches, the task in the slot is the one dispatched last,
and no drain is left unfinished. That the task in the slot is also in the table has two exceptions: a hook has let out a fault
that is not contained, or the task was foreclosed. A last reply with an id that has not been given out belongs to the
task dispatched last; if the hook that is told of it dispatches the task that gets the id, the reply closes its context.
-/
namespace EvalSession.Coordinator

variable {H X : Type}

/-- A last reply with the id of a task was taken in before the task was dispatched. -/
def Forestalled (es : List (Event H X)) (t : Nat) : Prop :=
  ∃ newer older, es = newer ++ .opened t (t + 1) :: older ∧ Ended older (t + 1)

/-- Such a reply has closed the context of the task, in the name of a task dispatched earlier. -/
def Foreclosed (es : List (Event H X)) (t : Nat) : Prop :=
  ∃ newer older, es = newer ++ .opened t (t + 1) :: older ∧ Ended older (t + 1) ∧
    ∃ u < t, .closed u (some ((t + 1 : Nat) : Int)) ∈ newer

/-- What keeps the context of the task in the slot open while work is in progress. -/
structure Holding (m : Machine H X) : Prop where
  ascending : (m.state.contexts.map Prod.fst).Pairwise (· < ·)
  /-- A context is about to be closed because a reply has ended it. -/
  ended : ∀ (k u : Nat), .close (some (k : Int)) u ∈ m.stack → Ended m.events k
  /-- It is its own task that an open context is about to be closed for, or an earlier one. -/
  closer : ∀ t u, .close (some ((t + 1 : Nat) : Int)) u ∈ m.stack → (t + 1, t) ∈ m.state.contexts →
    u = t ∨ u < t ∧ Forestalled m.events t
  slot : ∀ t, m.state.inFlight = some t →
    (t + 1, t) ∈ m.state.contexts ∨ .advance t ∈ m.stack ∨ Foreclosed m.events t ∨ Escape m.events

section Steps

variable {c : Coordinator H X} {r : List (Frame H X)} {es es' : List (Event H X)} {m n : Machine H X} {move : Move H X}
  {t u : Nat}

lemma Forestalled.grow (h : Forestalled es t) (hs : es <:+ es') : Forestalled es' t := by
  obtain ⟨newer, older, rfl, hended⟩ := h
  obtain ⟨more, rfl⟩ := hs
  exact ⟨more ++ newer, older, by rw [List.append_assoc], hended⟩

lemma Foreclosed.grow (h : Foreclosed es t) (hs : es <:+ es') : Foreclosed es' t := by
  obtain ⟨newer, older, rfl, hended, u, hu, hm⟩ := h
  obtain ⟨more, rfl⟩ := hs
  exact ⟨more ++ newer, older, by rw [List.append_assoc], hended, u, hu, List.mem_append_right _ hm⟩

lemma Forestalled.foreclosed (h : Forestalled es t) (hu : u < t) (entries : List Diagnostic) :
    Foreclosed (.closed u (some ((t + 1 : Nat) : Int)) :: (logs entries ++ es)) t := by
  obtain ⟨newer, older, rfl, hended⟩ := h
  exact ⟨.closed u (some ((t + 1 : Nat) : Int)) :: (logs entries ++ newer), older, by simp, hended, u, hu,
    List.mem_cons_self ..⟩

lemma Holding.keep (hh : Holding m) (hc : n.state.contexts = m.state.contexts) (he : m.events <:+ n.events)
    (hs : ∀ f ∈ n.stack, f ∈ m.stack ∨ ∀ id u, f ≠ .close id u)
    (hi : ∀ t, n.state.inFlight = some t →
      m.state.inFlight = some t ∧ (.advance t ∈ m.stack → .advance t ∈ n.stack ∨ Escape m.events)) : Holding n := by
  have hclose : ∀ id u, .close id u ∈ n.stack → .close id u ∈ m.stack := fun id u hf =>
    (hs _ hf).resolve_right fun h => h id u rfl
  refine ⟨hc ▸ hh.ascending, fun k u hf => (hh.ended k u (hclose _ _ hf)).grow he, fun t u hf hm => ?_, fun t ht => ?_⟩
  · exact (hh.closer t u (hclose _ _ hf) (hc ▸ hm)).imp_right fun h => ⟨h.1, h.2.grow he⟩
  · obtain ⟨ht, hadv⟩ := hi t ht
    rw [hc]
    rcases hh.slot t ht with h | h | h | h
    · exact .inl h
    · exact .inr ((hadv h).imp_right fun h => .inr (h.mono he.subset))
    · exact .inr (.inr (.inl (h.grow he)))
    · exact .inr (.inr (.inr (h.mono he.subset)))

/-- A frame that is left for good does not free the slot, unless a fault that came out of a hook takes it off. -/
lemma Leaves.frees {fault fault' : Option Fault} {f : Frame H X} {quiet : List (Event H X)}
    (h : Leaves c fault move f fault' quiet) (hk : Shaken [] ⟨c, f :: r, fault, es⟩) (hi : c.inFlight = some t)
    (hf : f = .advance t) : Escape es := by
  subst hf
  cases h with
  | stale hne => exact absurd hi hne
  | unwound =>
    obtain ⟨new, rfl, hesc⟩ := ((hk (by simp) _ rfl).resolve_left (by simp [Frame.waits])).resolve_left
      (by simp [Frame.isLoop])
    simpa using hesc

lemma Holding.open (hh : Holding ⟨c, .dispatch t :: r, none, es⟩) (hs : Sound ⟨c, .dispatch t :: r, none, es⟩)
    (ht : Tabled ⟨c, .dispatch t :: r, none, es⟩) :
    Holding ⟨c.openContext t, .call t .beforeRun .nothing :: .prepare t (c.lastContext + 1) :: r, none,
      .opened t (c.lastContext + 1) :: es⟩ := by
  obtain ⟨rfl, -⟩ := hs.queued.dispatching
  have hgrow : es <:+ .opened c.lastContext (c.lastContext + 1) :: es := List.suffix_cons ..
  refine ⟨?_, fun k u hf => (hh.ended k u (by simpa using hf)).grow hgrow, fun t u hf hm => ?_, fun t hi => ?_⟩
  · have hlt : ∀ k ∈ c.contexts.map Prod.fst, k < c.lastContext + 1 := by
      intro k hk
      obtain ⟨e, hm, rfl⟩ := List.mem_map.mp hk
      exact Nat.lt_succ_of_le (ht.entries e hm).2
    simpa [openContext, List.pairwise_append, hh.ascending] using hlt
  · have hf : .close (some ((t + 1 : Nat) : Int)) u ∈ r := by simpa using hf
    rcases List.mem_append.mp hm with hm | hm
    · exact (hh.closer t u (List.mem_cons_of_mem _ hf) hm).imp_right fun h => ⟨h.1, h.2.grow hgrow⟩
    · -- the reply was taken in when the id had not been given out
      obtain ⟨-, rfl⟩ : t + 1 = c.lastContext + 1 ∧ t = c.lastContext := by simpa using hm
      have hu : u < c.lastContext := ht.targets u (List.mem_filterMap.mpr ⟨_, List.mem_cons_of_mem _ hf, rfl⟩)
      exact .inr ⟨hu, [], es, rfl, hh.ended _ u (List.mem_cons_of_mem _ hf)⟩
  · obtain rfl : c.lastContext = t := by simpa [openContext] using hi
    exact .inl (by simp [openContext])

lemma Holding.close {id : Option Int} (hh : Holding ⟨c, .close id u :: r, none, es⟩)
    (hseat : Seated (.close id u :: r)) :
    Holding ⟨c.closeContext id, .call u .afterRun .nothing :: r, none,
      .closed u id :: (logs [.contextEnded] ++ es)⟩ := by
  have hgrow : es <:+ .closed u id :: (logs [.contextEnded] ++ es) :=
    (List.suffix_append ..).trans (List.suffix_cons ..)
  have hsub : (c.closeContext id).contexts.Sublist c.contexts := by
    cases id with
    | none => exact List.Sublist.refl _
    | some id => exact List.filter_sublist
  have hstack : ∀ {f : Frame H X}, f ∈ .call u .afterRun .nothing :: r → (∀ moment argument, f ≠ .call u moment argument) →
      f ∈ .close id u :: r := fun hf hne =>
    List.mem_cons_of_mem _ ((List.mem_cons.mp hf).resolve_left (hne _ _))
  refine ⟨hh.ascending.sublist (hsub.map _), fun k v hf => ?_, fun t v hf hm => ?_, fun t hi => ?_⟩
  · exact (hh.ended k v (hstack hf (by simp))).grow hgrow
  · exact (hh.closer t v (hstack hf (by simp)) (hsub.subset hm)).imp_right fun h => ⟨h.1, h.2.grow hgrow⟩
  rcases hh.slot t (by simpa using hi) with hm | hadv | h | h
  · by_cases hid : id = some ((t + 1 : Nat) : Int)
    · subst hid
      rcases hh.closer t u (List.mem_cons_self ..) hm with rfl | ⟨hu, hearly⟩
      · exact .inr (.inl (List.mem_cons_of_mem _ (List.mem_of_mem_head? hseat.1)))
      · exact .inr (.inr (.inl (hearly.foreclosed hu _)))
    · refine .inl ?_
      cases id with
      | none => exact hm
      | some id => exact List.mem_filter.mpr ⟨hm, decide_eq_true fun h => hid (congrArg some h.symm)⟩
  · exact .inr (.inl (List.mem_cons_of_mem _ (by simpa using hadv)))
  · exact .inr (.inr (.inl (h.grow hgrow)))
  · exact .inr (.inr (.inr (h.mono hgrow.subset)))

lemma Holding.answer {v : Value} {nt : Notice} (hh : Holding ⟨c, .route v :: r, none, es⟩)
    (ht : Tabled ⟨c, .route v :: r, none, es⟩) (hn : notice? v = some nt) (hres : c.resolve nt.id = some u)
    (entries : List Diagnostic) :
    Holding ⟨c, .call u nt.moment nt.argument :: (closing nt u ++ .advance u :: r), none,
      logs entries ++ .routed v :: es⟩ := by
  have hgrow : es <:+ logs entries ++ .routed v :: es := (List.suffix_cons ..).trans (List.suffix_append ..)
  have hclose : ∀ id w, .close id w ∈ .call u nt.moment nt.argument :: (closing nt u ++ .advance u :: r) →
      (nt.last = true ∧ id = nt.id ∧ w = u) ∨ (.close id w : Frame H X) ∈ r := by
    intro id w hf
    simp only [List.mem_cons, List.mem_append, reduceCtorEq, false_or] at hf
    refine hf.imp_left fun hf => ?_
    have hlast : nt.last = true := by
      by_contra hl
      simp [closing, hl] at hf
    cases mem_closing hf
    exact ⟨hlast, rfl, rfl⟩
  refine ⟨hh.ascending, fun k w hf => ?_, fun t w hf hm => ?_, fun t hi => ?_⟩
  · rcases hclose _ w hf with ⟨hl, hid, -⟩ | hf
    · exact ⟨nt, mem_tagged_routed.mpr (.inr ⟨hn, hid.symm⟩), hl⟩
    · exact (hh.ended k w (List.mem_cons_of_mem _ hf)).grow hgrow
  · rcases hclose _ w hf with ⟨-, hid, rfl⟩ | hf
    · -- an open context leads to its own task
      have hown := (ht.resolve_entry hm).2
      rw [hid, hres, Option.some.injEq] at hown
      exact .inl hown
    · exact (hh.closer t w (List.mem_cons_of_mem _ hf) hm).imp_right fun h => ⟨h.1, h.2.grow hgrow⟩
  · refine (hh.slot t hi).imp_right (.imp (fun hadv => ?_) (.imp (·.grow hgrow) (·.mono hgrow.subset)))
    have hadv : .advance t ∈ r := by simpa using hadv
    simp [hadv]

theorem holding_step (h : Stage m move n) (hs : Sound m) (ht : Tabled m) (hk : Shaken [] m) (hh : Holding m) :
    Holding n := by
  have hgrow := h.grows
  cases h with
  | opened => exact hh.open hs ht
  | closed => exact hh.close hs.shape.seated
  | answered hn hres hr => exact hh.answer ht hn hres _
  | left h =>
    refine hh.keep rfl hgrow (fun f hf => .inl (List.mem_cons_of_mem _ hf)) fun t hi => ⟨hi, fun hadv => ?_⟩
    rcases List.mem_cons.mp hadv with hf | hadv
    · exact .inr (h.frees hk hi hf.symm)
    · exact .inl hadv
  | started =>
    rename_i operation _
    refine hh.keep rfl hgrow (fun f hf => ?_) fun t hi => ⟨hi, fun hadv => .inl (List.mem_cons_of_mem _ hadv)⟩
    rcases List.mem_cons.mp hf with rfl | hf
    · exact .inr (by cases operation <;> simp [Operation.frame])
    · exact .inl hf
  | recovered => exact hh.keep rfl hgrow (fun f hf => .inl hf) fun t hi => ⟨hi, .inl⟩
  | _ => exact hh.keep rfl hgrow (by simp +contextual) (by simp +contextual)

end Steps

theorem holding_fresh (x : Option X) : Holding (Machine.fresh (H := H) x) := by
  constructor <;> simp [Machine.fresh]

/-- How queue, slot, table and counter stand to each other. -/
structure Consistent (m : Machine H X) : Prop where
  counted : m.dispatched.length = m.state.lastContext
  /-- The ids of open contexts have been given out, each to the task whose dispatch has that number. -/
  entries : ∀ e ∈ m.state.contexts, 1 ≤ e.1 ∧ e.1 ≤ m.state.lastContext ∧ m.dispatched[e.1 - 1]? = some e.2
  ascending : (m.state.contexts.map Prod.fst).Pairwise (· < ·)
  /-- No task is in the table twice. -/
  single : (m.state.contexts.map Prod.snd).Nodup
  last : m.state.lastTask = m.dispatched.getLast?
  /-- The slot is free, or held by the task dispatched last, whose context is open. -/
  slot : ∀ t, m.state.inFlight = some t → m.state.lastTask = some t ∧
    ((m.state.lastContext, t) ∈ m.state.contexts ∨ Foreclosed m.events t ∨ Escape m.events)
  waiting : ∀ t ∈ m.state.pending, ∀ k, (k, t) ∉ m.state.contexts
  rested : m.state.draining = false

lemma Holding.consistent {m : Machine H X} (hh : Holding m) (hs : Sound m) (ht : Tabled m) (hst : m.stack = []) :
    Consistent m := by
  have hq := hs.queued
  have hd : m.dispatched = List.range m.state.lastContext := by
    rw [Machine.dispatched, hq.opened, hst]
    exact List.append_nil _
  refine ⟨by simp [hd], fun e he => ?_, hh.ascending, ?_, ?_, fun t hi => ?_, fun t hp k hm => ?_, ?_⟩
  · obtain ⟨hid, hle⟩ := ht.entries e he
    exact ⟨by omega, hle, by rw [hd, List.getElem?_range (by omega)]; simp [hid]⟩
  · -- the id of a context tells its task
    have hsnd : m.state.contexts.map Prod.fst = (m.state.contexts.map Prod.snd).map (· + 1) := by
      rw [List.map_map]
      exact List.map_congr_left fun e he => (ht.entries e he).1
    have hnodup := hh.ascending.imp (fun h => Nat.ne_of_lt h)
    rw [hsnd] at hnodup
    exact List.Nodup.of_map _ hnodup
  · rw [hd]
    cases hl : m.state.lastContext with
    | zero =>
      refine Option.eq_none_iff_forall_ne_some.mpr fun t hlast => ?_
      have := (hq.last t).mp hlast
      omega
    | succ k => simpa [List.range_succ] using (hq.last k).mpr hl.symm
  · have hlast := hq.slot t hi
    refine ⟨(hq.last t).mpr hlast, ?_⟩
    rw [← hlast]
    exact (hh.slot t hi).imp_right fun h => h.resolve_left (by simp [hst])
  · -- a queued task comes after all that have been dispatched
    have hnodup := List.nodup_range.sublist hq.inOrder.sublist
    obtain ⟨hid, hle⟩ := ht.entries _ hm
    have hmem : t ∈ List.range m.state.lastContext ++ begun m.stack :=
      List.mem_append_left _ (List.mem_range.mpr (by simp only at hid hle; omega))
    exact (List.nodup_append.mp hnodup).2.2 t hmem t hp rfl
  · cases hd : m.state.draining with
    | false => rfl
    | true => simpa [hst, hd] using hs.shape.loops

lemma shaken_fresh (x : Option X) : Shaken [] (Machine.fresh (H := H) x) := by
  simp [Shaken, Machine.fresh]

lemma run_contexts {m n : Machine H X} {moves : List (Move H X)} {k : Nat} (hr : m.run moves = some n)
    (hk : k ≤ m.state.lastContext) :
    k ≤ n.state.lastContext ∧ ((∀ u, (k, u) ∉ m.state.contexts) → ∀ u, (k, u) ∉ n.state.contexts) := by
  rw [Machine.run_eq] at hr
  refine run_keeps
    (I := fun p => k ≤ p.state.lastContext ∧ ((∀ u, (k, u) ∉ m.state.contexts) → ∀ u, (k, u) ∉ p.state.contexts)) ?_ hr
    ⟨hk, id⟩
  rintro p move q hst ⟨hp, hgone⟩
  obtain ⟨hq, hstep⟩ := contexts_step (step_stage hst) hp
  exact ⟨hq, fun h => hstep (hgone h)⟩

/-- Hooks, the transform and sending may start operations and raise as they like, and the worker may send anything: between
operations the coordinator is consistent, and an id that has been taken out of the table never comes back. -/
theorem run_consistent {x : Option X} {moves : List (Move H X)} {m : Machine H X}
    (hr : (Machine.fresh x).run moves = some m) :
    (m.stack = [] → Consistent m) ∧
      ∀ first second third p q, moves = first ++ second ++ third → (Machine.fresh x).run first = some p →
        (Machine.fresh x).run (first ++ second) = some q → ∀ id t, (id, t) ∈ p.state.contexts →
          (∀ u, (id, u) ∉ q.state.contexts) → ∀ u, (id, u) ∉ m.state.contexts := by
  have hreach : ∀ {moves : List (Move H X)} {m : Machine H X}, (Machine.fresh x).run moves = some m →
      (Sound m ∧ Tabled m) ∧ Shaken [] m ∧ Holding m := by
    intro moves m hr
    rw [Machine.run_eq] at hr
    refine run_keeps (I := fun m => (Sound m ∧ Tabled m) ∧ Shaken [] m ∧ Holding m) ?_ hr
      ⟨⟨sound_fresh x, (provided_fresh x).toTabled⟩, shaken_fresh x, holding_fresh x⟩
    rintro m move n hst ⟨⟨hs, ht⟩, hk, hh⟩
    have h := step_stage hst
    exact ⟨⟨sound_step h hs, tabled_step h hs ht⟩, shaken_step h hs List.nil_suffix hk, holding_step h hs ht hk hh⟩
  refine ⟨fun hst => ?_, fun first second third p q hm hp hq id t hopen hgone => ?_⟩
  · obtain ⟨⟨hs, ht⟩, -, hh⟩ := hreach hr
    exact hh.consistent hs ht hst
  · subst hm
    have hle : id ≤ p.state.lastContext := ((hreach hp).1.2.entries _ hopen).2
    have hrest : q.run third = some m := by
      rw [Machine.run_eq, List.foldlM_append, ← Machine.run_eq, hq] at hr
      rw [Machine.run_eq]
      exact hr
    have hmid : p.run second = some q := by
      rw [Machine.run_eq, List.foldlM_append, ← Machine.run_eq, hp] at hq
      rw [Machine.run_eq]
      exact hq
    exact (run_contexts hrest (run_contexts hmid hle).1).2 hgone

def lastNote (id : Int) : Value := .object [("id", .int id), ("end", .bool true), ("mime", .object [])]

/-- The transform raises a fault that leaves the drain loop. -/
def brokenOff : List (Move Nat Nat) :=
  List.flatten [[.start (.submit ⟨.run, .string "a", { afterRun := some 1 }⟩)], List.replicate 6 .tick,
    [.answer (.raised (.thrown ⟨"KeyboardInterrupt", "", "KeyboardInterrupt()", [], false⟩)), .tick]]

/-- An id that was never given out frees the slot for a second task; the id of the first one then closes its context. -/
def misaddressed : List (Move Nat Nat) :=
  List.flatten [[.start (.submit ⟨.inspect, .string "b", {}⟩), .tick, .start (.route (lastNote 9)), .tick, .tick, .tick,
      .tick, .answer .done], List.replicate 7 .tick, [.answer .done, .tick, .start (.route (lastNote 1)), .tick, .tick, .tick,
      .tick, .answer .done, .tick]]

/-- The last reply comes once more, and frees the slot again. -/
def repeated : List (Move Nat Nat) := .start (.route (lastNote 1)) :: List.replicate 7 .tick

theorem repeated_consistent :
    ∃ p q m, (Machine.fresh (some 7)).run brokenOff = some p ∧ p.stack = [] ∧ p.fault.isSome = true ∧
      p.state.contexts = [(1, 0)] ∧ (Machine.fresh (some 7)).run (brokenOff ++ misaddressed) = some q ∧
      q.state.contexts = [(2, 1)] ∧ (Machine.fresh (some 7)).run (brokenOff ++ misaddressed ++ repeated) = some m ∧
      m.stack = [] ∧ Consistent m ∧ ∀ u, (1, u) ∉ m.state.contexts := by
  have hp : ((Machine.fresh (some 7)).run brokenOff).map (fun p => (p.stack, p.fault.isSome, p.state.contexts)) =
      some ([], true, [(1, 0)]) := by decide +kernel
  have hq : ((Machine.fresh (some 7)).run (brokenOff ++ misaddressed)).map (fun q => q.state.contexts) =
      some [(2, 1)] := by decide +kernel
  have hm : ((Machine.fresh (some 7)).run (brokenOff ++ misaddressed ++ repeated)).map Machine.stack = some [] := by
    decide +kernel
  obtain ⟨p, hp, hpstate⟩ := Option.map_eq_some_iff.mp hp
  obtain ⟨q, hq, hqstate⟩ := Option.map_eq_some_iff.mp hq
  obtain ⟨m, hm, hmstack⟩ := Option.map_eq_some_iff.mp hm
  obtain ⟨hpstack, hpfault, hpcontexts⟩ : p.stack = [] ∧ p.fault.isSome = true ∧ p.state.contexts = [(1, 0)] := by
    simpa using hpstate
  obtain ⟨hidle, hgone⟩ := run_consistent hm
  exact ⟨p, q, m, hp, hpstack, hpfault, hpcontexts, hq, hqstate, hm, hmstack, hidle hmstack,
    hgone _ _ _ p q rfl hp hq 1 0 (by simp [hpcontexts]) (by simp [hqstate])⟩

/-- A last reply with the id that is given out next comes in; the hook that is told of it dispatches a second task. -/
def foreclosing : List (Move Nat Nat) :=
  List.flatten [[.start (.submit ⟨.run, .string "a", { error := some 0, afterRun := some 1 }⟩)], List.replicate 7 .tick,
    [.answer .done, .tick, .start (.route (lastNote 1)), .tick, .tick, .tick, .tick, .answer .done],
    List.replicate 3 .tick,
    [.start (.route (.object [("id", .int 2), ("end", .bool true),
        ("error", .object [("ename", .string "E"), ("evalue", .string "e")])])), .tick, .tick,
      .start (.submit ⟨.run, .string "b", {}⟩)],
    List.replicate 7 .tick, [.answer .done, .tick, .answer .done, .tick, .tick, .answer .done, .tick]]

/-- Then the second task holds the slot, and has lost its entry in the table. -/
theorem foreclosing_unlisted :
    ∃ m, (Machine.fresh none).run foreclosing = some m ∧ m.stack = [] ∧ m.fault = none ∧ ¬ Escape m.events ∧
      m.state.inFlight = some 1 ∧ m.state.lastContext = 2 ∧ m.state.contexts = [] := by
  have h : ((Machine.fresh none).run foreclosing).isSome = true := by decide +kernel
  have hm := (Option.some_get h).symm
  set m := ((Machine.fresh none).run foreclosing).get h
  have hnone : (m.events.any fun | .escaped .. => true | _ => false) = false := rfl
  refine ⟨m, hm, rfl, rfl, ?_, rfl, rfl, rfl⟩
  rintro ⟨hook, f, hmem, -⟩
  exact List.any_eq_false.mp hnone _ hmem rfl

end EvalSession.Coordinator
