import EvalSession.Proofs.Coordinator.Progress

/-!
# Last replies

A reply that ends its context is concluded once the router has taken it in, whatever hooks do in the meantime: the hook for it
is called, the context is closed, the task is told that its run is over, and it leaves the slot. The frames for what is left of
this wait below the hook that is called, and nothing but a fault that is not contained gets past that hook.
-/
namespace EvalSession.Coordinator

variable {H X : Type}

/-- Outside code raises ordinary faults only. -/
def Ordinary (_ : Machine H X) : Move H X → Prop
  | .answer (.raised e) => e.ordinary = true
  | _ => True

instance (m : Machine H X) (move : Move H X) : Decidable (Ordinary m move) :=
  match move with
  | .answer (.raised e) => inferInstanceAs (Decidable (e.ordinary = true))
  | .answer .done | .answer (.code _) | .tick | .start _ | .recover => isTrue trivial

/-- A hook that is called from the frames of `base` has not come to its end. -/
def Held (base : List (Frame H X)) (m : Machine H X) : Prop :=
  ∃ above hook argument, m.stack = above ++ .awaitHook hook argument :: base

/-- The hook that a task has for a moment has been called since `m`, if it has one. -/
def Reached (m : Machine H X) (t : Nat) (moment : Moment) (argument : Argument) (n : Machine H X) : Prop :=
  ∃ new, n.events = new ++ m.events ∧ ∀ h, m.state.hookOf t moment = some h → .told t moment argument ∈ new

/-- The last reply has reached its task, its context is closed, and the task is not in the slot. -/
structure Concluded (m : Machine H X) (t k : Nat) (moment : Moment) (argument : Argument) (n : Machine H X) : Prop where
  result : Reached m t moment argument n
  ended : Reached m t .afterRun .nothing n
  closed : ∀ u, (k, u) ∉ n.state.contexts
  freed : n.state.inFlight ≠ some t

/-- Tasks keep their hooks, ids of contexts are not used again, and no fault is on its way that is not contained. -/
structure Retains (m : Machine H X) (t k : Nat) (n : Machine H X) : Prop where
  task : t < n.state.tasks.length
  hooks : ∀ moment, n.state.hookOf t moment = m.state.hookOf t moment
  opened : k ≤ n.state.lastContext
  fault : ∀ e ∈ n.fault, e.ordinary = true
  events : m.events <:+ n.events

/-- How far the last reply has come. -/
inductive Concluding (m : Machine H X) (t k : Nat) (moment : Moment) (argument : Argument) (n : Machine H X) : Prop
  | calling (hs : n.stack = .call t moment argument :: .close (some k) t :: .advance t :: m.stack) (hf : n.fault = none)
  | telling (hs : Held (.close (some k) t :: .advance t :: m.stack) n) (hr : Reached m t moment argument n)
  | closing (hs : n.stack = .close (some k) t :: .advance t :: m.stack) (hf : n.fault = none)
      (hr : Reached m t moment argument n)
  | ending (hs : n.stack = .call t .afterRun .nothing :: .advance t :: m.stack) (hf : n.fault = none)
      (hr : Reached m t moment argument n) (hc : ∀ u, (k, u) ∉ n.state.contexts)
  | resting (hs : Held (.advance t :: m.stack) n) (hr : Reached m t moment argument n)
      (he : Reached m t .afterRun .nothing n) (hc : ∀ u, (k, u) ∉ n.state.contexts)
  | advancing (hs : n.stack = .advance t :: m.stack) (hf : n.fault = none) (hr : Reached m t moment argument n)
      (he : Reached m t .afterRun .nothing n) (hc : ∀ u, (k, u) ∉ n.state.contexts)

section Steps

variable {m n p : Machine H X} {move : Move H X} {t k : Nat} {moment : Moment} {argument : Argument}
  {f : Frame H X} {r base : List (Frame H X)}

lemma step_below (hs : n.stack = f :: r) (h : Stage n move p) : r <:+ p.stack := by
  obtain ⟨c, stack, fault, es⟩ := n
  obtain rfl : stack = f :: r := hs
  cases h with
  | started => exact (List.suffix_cons f r).trans (List.suffix_cons _ _)
  | recovered => exact List.suffix_cons f r
  | left => exact List.suffix_refl r
  | @answered _ _ nt t => exact ⟨.call t nt.moment nt.argument :: (closing nt t ++ [.advance t]), by simp⟩
  | _ => first
    | exact List.suffix_refl _
    | exact List.suffix_cons _ _
    | exact (List.suffix_cons _ _).trans (List.suffix_cons _ _)

/-- A hook that is called comes to its end, and then nothing is on its way to the frames below. -/
lemma Held.step (hh : Held base n) (hf : ∀ e ∈ n.fault, e.ordinary = true) (ha : Ordinary n move)
    (h : Stage n move p) : Held base p ∨ p.stack = base ∧ p.fault = none := by
  obtain ⟨above, hook, argument, hs⟩ := hh
  cases above with
  | cons f above =>
    obtain ⟨new, hnew⟩ := step_below hs h
    exact .inl ⟨new ++ above, hook, argument, by simp [← hnew]⟩
  | nil =>
    obtain ⟨c, stack, fault, es⟩ := n
    obtain rfl : stack = .awaitHook hook argument :: base := hs
    cases h with
    | started => exact .inl ⟨[_], hook, argument, rfl⟩
    | recovered => exact .inl ⟨[], hook, argument, rfl⟩
    | left h =>
      cases h with
      | returned => exact .inr ⟨rfl, rfl⟩
      | contained => exact .inr ⟨rfl, rfl⟩
      | unwound hw => cases hw
      | escaped hit ho =>
        rcases hit with ⟨rfl, -⟩ | ⟨-, rfl⟩
        · simp [hf _ rfl] at ho
        · simp [show _ = true from ha] at ho

lemma Hit.ordinary {fault : Option Fault} {e : Fault} (h : Hit fault move e) (hf : ∀ e ∈ fault, e.ordinary = true)
    (ha : Ordinary n move) : e.ordinary = true := by
  rcases h with ⟨rfl, -⟩ | ⟨-, rfl⟩
  · exact hf e rfl
  · exact ha

lemma fault_step (h : Stage n move p) (ha : Ordinary n move) (hf : ∀ e ∈ n.fault, e.ordinary = true) :
    ∀ e ∈ p.fault, e.ordinary = true := by
  cases h with
  | left h =>
    cases h with
    | refused => simp [Fault.ordinary]
    | escaped hit | aborted hit | unsent hit => simpa using hit.ordinary hf ha
    | unwound => simpa using hf
    | _ => simp
  | broken => exact hf
  | _ => simp [Machine.push]

lemma hookOf_step (h : Stage n move p) (ht : t < n.state.tasks.length) :
    t < p.state.tasks.length ∧ ∀ moment, p.state.hookOf t moment = n.state.hookOf t moment := by
  cases h with
  | ignored | taken | queued =>
    refine ⟨ht.trans_le (by simp), fun moment => ?_⟩
    simp only [hookOf, List.getElem?_append_left ht]
  | transformed =>
    refine ⟨by simpa [setCode] using ht, fun moment => ?_⟩
    simp only [hookOf, setCode, List.getElem?_modify]
    split <;> simp [Option.bind_map]
  | closed => simpa [hookOf] using ht
  | started | recovered => exact ⟨ht, fun _ => rfl⟩
  | _ => exact ⟨ht, fun _ => rfl⟩

lemma contexts_step (h : Stage n move p) (hk : k ≤ n.state.lastContext) :
    k ≤ p.state.lastContext ∧ ((∀ u, (k, u) ∉ n.state.contexts) → ∀ u, (k, u) ∉ p.state.contexts) := by
  cases h with
  | opened =>
    refine ⟨Nat.le_succ_of_le hk, fun hc u hm => ?_⟩
    rcases List.mem_append.mp hm with hm | hm
    · exact hc u hm
    · obtain ⟨rfl, -⟩ : k = _ ∧ u = _ := by simpa using hm
      exact absurd hk (Nat.not_succ_le_self _)
  | @closed c id =>
    refine ⟨by simpa using hk, fun hc u hm => hc u ?_⟩
    cases id with
    | none => exact hm
    | some id => exact List.mem_of_mem_filter hm
  | started | recovered => exact ⟨hk, fun hc => hc⟩
  | _ => exact ⟨hk, fun hc => hc⟩

lemma Retains.step (hk : Retains m t k n) (ha : Ordinary n move) (h : Stage n move p) : Retains m t k p := by
  obtain ⟨htask, hhooks, hopened, hf, hes⟩ := hk
  obtain ⟨htask', hhooks'⟩ := hookOf_step h htask
  exact ⟨htask', fun moment => (hhooks' moment).trans (hhooks moment), (contexts_step h hopened).1, fault_step h ha hf,
    hes.trans h.grows⟩

lemma Reached.grow (hr : Reached m t moment argument n) (h : n.events <:+ p.events) : Reached m t moment argument p := by
  obtain ⟨new, hn, htold⟩ := hr
  obtain ⟨more, hp⟩ := h
  exact ⟨more ++ new, by rw [← hp, hn, List.append_assoc], fun h' hh => List.mem_append_right _ (htold h' hh)⟩

lemma call_step (hk : Retains m t k n) (hs : n.stack = .call t moment argument :: base) (hf : n.fault = none)
    (h : Stage n move p) :
    (Held base p ∨ p.stack = base ∧ p.fault = none) ∧ Reached m t moment argument p ∧ p.state = n.state := by
  obtain ⟨-, hhooks, -, -, new, hnew⟩ := hk
  obtain ⟨c, stack, fault, es⟩ := n
  obtain rfl : stack = .call t moment argument :: base := hs
  obtain rfl : fault = none := hf
  obtain rfl : es = new ++ m.events := hnew.symm
  cases h with
  | started ho => cases ho
  | recovered ho => cases ho
  | called hh =>
    rename_i h'
    refine ⟨.inl ⟨[], h', argument, rfl⟩, ⟨.called h' argument :: .told t moment argument :: new, rfl, ?_⟩, rfl⟩
    simp
  | left h =>
    cases h with
    | unset hh =>
      refine ⟨.inr ⟨rfl, rfl⟩, ⟨new, rfl, fun h' hh' => ?_⟩, rfl⟩
      rw [← hhooks moment] at hh'
      cases hh.symm.trans hh'

lemma Concluding.step (hc : Concluding m t k moment argument n) (hk : Retains m t k n) (ha : Ordinary n move)
    (h : Stage n move p) : Concluding m t k moment argument p ∨ Concluded m t k moment argument p := by
  have hgrows := h.grows
  have hgone := (contexts_step h hk.opened).2
  cases hc with
  | calling hs hf =>
    obtain ⟨hheld | ⟨hs', hf'⟩, hr, -⟩ := call_step hk hs hf h
    · exact .inl (.telling hheld hr)
    · exact .inl (.closing hs' hf' hr)
  | telling hs hr =>
    rcases hs.step hk.fault ha h with hheld | ⟨hs', hf'⟩
    · exact .inl (.telling hheld (hr.grow hgrows))
    · exact .inl (.closing hs' hf' (hr.grow hgrows))
  | closing hs hf hr =>
    have hr' := hr.grow hgrows
    obtain ⟨c, stack, fault, es⟩ := n
    obtain rfl : stack = .close (some (k : Int)) t :: .advance t :: m.stack := hs
    obtain rfl : fault = none := hf
    cases h with
    | started ho => cases ho
    | recovered ho => cases ho
    | closed => exact .inl (.ending rfl rfl hr' fun u hm => by simp [closeContext] at hm)
    | left h => cases h
  | ending hs hf hr hc =>
    obtain ⟨hheld | ⟨hs', hf'⟩, he, hstate⟩ := call_step hk hs hf h
    · exact .inl (.resting hheld (hr.grow hgrows) he (hstate ▸ hc))
    · exact .inl (.advancing hs' hf' (hr.grow hgrows) he (hstate ▸ hc))
  | resting hs hr he hc =>
    rcases hs.step hk.fault ha h with hheld | ⟨hs', hf'⟩
    · exact .inl (.resting hheld (hr.grow hgrows) (he.grow hgrows) (hgone hc))
    · exact .inl (.advancing hs' hf' (hr.grow hgrows) (he.grow hgrows) (hgone hc))
  | advancing hs hf hr he hc =>
    refine .inr ⟨hr.grow hgrows, he.grow hgrows, hgone hc, ?_⟩
    obtain ⟨c, stack, fault, es⟩ := n
    obtain rfl : stack = .advance t :: m.stack := hs
    obtain rfl : fault = none := hf
    cases h with
    | started ho => cases ho
    | recovered ho => cases ho
    | freed => simp
    | left h =>
      cases h with
      | stale hi => exact hi

lemma Concluding.busy (hc : Concluding m t k moment argument n) : n.stack ≠ m.stack := by
  intro he
  have hlen : n.stack.length = m.stack.length := congrArg List.length he
  cases hc with
  | calling hs | closing hs | ending hs | advancing hs =>
    rw [hs] at hlen
    simp only [List.length_cons] at hlen
    omega
  | telling hs | resting hs =>
    obtain ⟨above, hook, argument, hs⟩ := hs
    rw [hs] at hlen
    simp only [List.length_append, List.length_cons] at hlen
    omega

lemma concluding_run {moves : List (Move H X)} (hc : Concluding m t k moment argument n) (hk : Retains m t k n)
    (hf : Follows Machine.step Ordinary n moves) (hr : n.run moves = some p) (hp : p.stack = m.stack) :
    ∃ first rest q, moves = first ++ rest ∧ n.run first = some q ∧ Concluded m t k moment argument q := by
  induction moves generalizing n with
  | nil =>
    obtain rfl : n = p := Option.some.inj hr
    exact absurd hp hc.busy
  | cons move rest ih =>
    obtain ⟨n', hn, hr⟩ := Option.bind_eq_some_iff.mp hr
    have hstage := step_stage hn
    rcases hc.step hk hf.1 hstage with hc | hdone
    · obtain ⟨first, later, q, rfl, hq, hdone⟩ := ih hc (hk.step hf.1 hstage) (hf.2 n' hn) hr
      exact ⟨move :: first, later, q, rfl, by simp [Machine.run, hn, hq], hdone⟩
    · exact ⟨[move], rest, n', rfl, by simp [Machine.run, hn], hdone⟩

end Steps

/-- A last reply with the id of an open context that is given to the router of a coordinator is concluded by the time the
coordinator is back where it was, whatever has been started and whatever hooks have raised until then. -/
theorem last_concluded {x : Option X} {before moves : List (Move H X)} {m n : Machine H X} {v : Value} {variant : Variant}
    {t k : Nat} {payload : Object} (hm : (Machine.fresh x).run before = some m)
    (hd : Message.decode v = .ok (.reply variant (some k) true payload)) (ht : m.state.owner? (some k) = some t)
    (hf : Follows Machine.step Ordinary (m.push (.route v)) moves) (hn : (m.push (.route v)).run moves = some n)
    (hb : n.stack = m.stack) :
    ∃ first rest p, moves = first ++ rest ∧ (m.push (.route v)).run first = some p ∧
      Concluded m t k (replyMoment variant) (.payload payload) p := by
  obtain ⟨hs, htab⟩ : Sound m ∧ Tabled m := by
    rw [Machine.run_eq] at hm
    refine run_invariant (I := fun m => Sound m ∧ Tabled m) ?_
      (follows_of_mem (fun _ _ _ => trivial) _ : Follows _ (fun _ _ => True) _ before) hm
      ⟨sound_fresh x, (provided_fresh x).toTabled⟩
    exact fun _ hst hi => ⟨sound_step (step_stage hst) hi.1, tabled_step (step_stage hst) hi.1 hi.2⟩
  obtain ⟨e, he, rfl⟩ := Option.map_eq_some_iff.mp ht
  have hentry := htab.entries e (List.mem_of_find?_eq_some he)
  obtain rfl : e.1 = k := by simpa using List.find?_some he
  have htask : e.2 < m.state.tasks.length := by
    have hlast := hs.queued.lastContext_le
    have hkept := hs.kept.length
    omega
  have hnotice : notice? v = some ⟨some e.1, replyMoment variant, .payload payload, true, true⟩ := by
    simp [notice?, hd, noticeOf?]
  have hresolve : m.state.resolve (some e.1) = some e.2 := by simp [resolve, ht]
  cases moves with
  | nil =>
    obtain rfl : m.push (.route v) = n := Option.some.inj hn
    exact absurd hb (List.cons_ne_self _ _)
  | cons move rest =>
    obtain ⟨n', hn', hr⟩ := Option.bind_eq_some_iff.mp hn
    have hstage := step_stage hn'
    have hrest := hf.2 n' hn'
    obtain ⟨c, stack, fault, es⟩ := m
    obtain ⟨entries, rfl⟩ : ∃ entries, n' = ⟨c, .call e.2 (replyMoment variant) (.payload payload) ::
        .close (some e.1) e.2 :: .advance e.2 :: stack, none, logs entries ++ .routed v :: es⟩ := by
      cases hstage with
      | started ho => cases ho
      | recovered ho => cases ho
      | unheard hu => cases (hu _ hnotice e.2 hresolve).1
      | output hnt _ hreply =>
        cases hnotice.symm.trans hnt
        cases hreply
      | answered hnt htask =>
        cases hnotice.symm.trans hnt
        cases hresolve.symm.trans htask
        exact ⟨_, rfl⟩
      | left h => cases h
    have hcalling : Concluding ⟨c, stack, fault, es⟩ e.2 e.1 (replyMoment variant) (.payload payload)
        ⟨c, .call e.2 (replyMoment variant) (.payload payload) :: .close (some e.1) e.2 :: .advance e.2 :: stack, none,
          logs entries ++ .routed v :: es⟩ := .calling rfl rfl
    obtain ⟨first, later, q, rfl, hq, hdone⟩ := concluding_run hcalling
      ⟨htask, fun _ => rfl, hentry.2, by simp, ⟨logs entries ++ [.routed v], by simp⟩⟩ hrest hr hb
    exact ⟨move :: first, later, q, rfl, by simp [Machine.run, hn', hq], hdone⟩

end EvalSession.Coordinator
