import EvalSession.Proofs.Coordinator.Order

/-!
# After a kill

A killed coordinator opens no further context. Only a dispatch that was under way when the kill came may still come to its
request: neither the hook before the run nor the transform is followed by another look at the flag.
-/
namespace EvalSession.Coordinator

variable {H X : Type}

/-- The contexts of dispatches that have still to come to their requests. -/
def unsent (stack : List (Frame H X)) : List Nat := stack.filterMap fun f => f.running?.map Prod.snd

@[simp] lemma unsent_nil : unsent ([] : List (Frame H X)) = [] := rfl

@[simp] lemma unsent_cons (f : Frame H X) (stack : List (Frame H X)) :
    unsent (f :: stack) = (f.running?.map Prod.snd).toList ++ unsent stack := by
  cases h : f.running?.map Prod.snd <;> simp only [unsent, h, List.filterMap_cons, Option.toList, List.nil_append,
    List.cons_append]

/-- No dispatch is called after a kill. -/
def Halted (m : Machine H X) : Prop := m.state.killed = true → begun m.stack = []

theorem halted_step {m n : Machine H X} {move : Move H X} (h : Stage m move n) (hs : Shape m) (hh : Halted m) : Halted n := by
  cases h with
  | left h =>
    have hb := h.begun_none hs
    intro hk
    have := hh hk
    rw [begun_cons, hb] at this
    exact this
  | next hk =>
    intro hk'
    exact absurd (hk'.symm.trans hk) (by simp)
  | killed =>
    intro _
    refine List.filterMap_eq_nil_iff.mpr fun f hf => ?_
    have := hs.seated.resumes f hf
    cases f <;> first | rfl | cases this
  | started =>
    rename_i operation _
    cases operation <;> exact hh
  | recovered => exact hh
  | answered =>
    intro hk
    simpa [begun_closing] using hh hk
  | opened =>
    intro hk
    have := hh hk
    simp at this
  | _ =>
    intro hk
    simpa using hh (by simpa using hk)

/-- What has been sent since a coordinator was killed belongs to a dispatch that was under way. -/
structure Spent (m n : Machine H X) : Prop where
  killed : n.state.killed = true
  lastContext : n.state.lastContext = m.state.lastContext
  late : ∃ late, requests n.events = requests m.events ++ late ∧
    (late.map Request.contextId ++ unsent n.stack).Sublist (unsent m.stack)

lemma spent_refl {m : Machine H X} (hk : m.state.killed = true) : Spent m m := ⟨hk, rfl, [], by simp⟩

lemma Spent.keep {m n p : Machine H X} (h : Spent m n) (hk : n.state.killed = true → p.state.killed = true)
    (hl : p.state.lastContext = n.state.lastContext) (hr : requests p.events = requests n.events)
    (hs : (unsent p.stack).Sublist (unsent n.stack)) : Spent m p := by
  obtain ⟨late, hlate, hsub⟩ := h.late
  exact ⟨hk h.killed, hl.trans h.lastContext, late, hr.trans hlate, (hs.append_left _).trans hsub⟩

theorem spent_step {m n p : Machine H X} {move : Move H X} (h : Stage n move p) (hh : Halted n) (hs : Spent m n) :
    Spent m p := by
  cases h with
  | left h =>
    exact hs.keep id rfl (gather_silent _ h.silent _) ((List.sublist_cons_self ..).filterMap _)
  | next hk => exact absurd (hs.killed.symm.trans hk) (by simp)
  | opened =>
    have := hh hs.killed
    simp at this
  | sent h =>
    rename_i c t id request r es
    obtain ⟨text, -, rfl⟩ := request_code h
    obtain ⟨late, hlate, hsub⟩ := hs.late
    refine ⟨hs.killed, hs.lastContext, late ++ [⟨c.actionOf t, text, id⟩], ?_, ?_⟩
    · have : requests (.sent ⟨c.actionOf t, text, id⟩ :: (logs [.dispatching (c.actionOf t)] ++ es)) =
          requests es ++ [⟨c.actionOf t, text, id⟩] := by simp [requests]
      rw [this, hlate, List.append_assoc]
    · simpa using hsub
  | answered =>
    refine hs.keep id rfl (by simp [requests]) ?_
    unfold closing
    split <;> simp
  | started =>
    rename_i operation _
    refine hs.keep id rfl rfl ?_
    cases operation <;> exact List.Sublist.refl _
  | recovered => exact hs.keep id rfl rfl (List.Sublist.refl _)
  | _ => exact hs.keep (by simp) (by simp) (by simp [requests]) (by simp)

lemma Shape.unsent_le {m : Machine H X} (h : Shape m) : (unsent m.stack).length ≤ 1 := by
  have hd := h.seated.dispatches_le
  have hl := h.loops
  have hb := Bool.toNat_le (c := m.state.draining)
  have : (unsent m.stack).length ≤ m.stack.countP Frame.dispatches := by
    rw [unsent, List.length_filterMap_eq_countP]
    refine List.countP_mono_left fun f _ hf => ?_
    cases f <;> simp_all [Frame.dispatches]
  omega

/-- After a kill nothing is sent but, at most, the request of the dispatch that was under way. -/
theorem Spent.requests_eq {m n : Machine H X} (h : Spent m n) (hs : Shape m) :
    requests n.events = requests m.events ∨
      ∃ r, requests n.events = requests m.events ++ [r] ∧ ∃ f ∈ m.stack, ∃ t, f.running? = some (t, r.contextId) := by
  obtain ⟨late, hlate, hsub⟩ := h.late
  have hsub := (List.sublist_append_left _ _).trans hsub
  have hlen := hsub.length_le.trans hs.unsent_le
  rw [List.length_map] at hlen
  match late, hlen with
  | [], _ => exact .inl (by simpa using hlate)
  | [r], _ =>
    have hmem : r.contextId ∈ unsent m.stack := hsub.subset (by simp)
    obtain ⟨f, hf, hr⟩ := List.mem_filterMap.mp hmem
    obtain ⟨⟨t, id⟩, hp, rfl⟩ := Option.map_eq_some_iff.mp hr
    exact .inr ⟨r, hlate, f, hf, t, hp⟩

end EvalSession.Coordinator
