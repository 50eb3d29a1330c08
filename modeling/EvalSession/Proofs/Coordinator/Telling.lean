import EvalSession.Proofs.Coordinator.Addressing

/-!
# Which hooks of a task are called

`script` is the sequence of calls that the messages of its own context ask for; what a task has been told, and what the
frames on the stack still owe it, make up this script. Main statement: over an honest worker a run is `Demultiplexed`,
however the messages of different contexts are interleaved. Only a fault that is not contained can keep a task from being
told that its run is over.
-/
namespace EvalSession.Coordinator

variable {H X : Type}

def due (hooks : Hooks H) (moment : Moment) (argument : Argument) : List (Moment × Argument) :=
  if (hooks.get moment).isSome then [(moment, argument)] else []

/-- The calls that a message asks for; after the last reply the run is over. -/
def response (hooks : Hooks H) (nt : Notice) : List (Moment × Argument) :=
  due hooks nt.moment nt.argument ++ if nt.last then due hooks .afterRun .nothing else []

def script (hooks : Hooks H) (nts : List Notice) : List (Moment × Argument) :=
  due hooks .beforeRun .nothing ++ nts.flatMap (response hooks)

@[simp] def Event.told? : Event H X → Option (Nat × Moment × Argument)
  | .told t moment argument => some (t, moment, argument)
  | _ => none

@[simp] def Event.called? : Event H X → Option (H × Argument)
  | .called h argument => some (h, argument)
  | _ => none

instance : Discreet (H := H) (X := X) Event.told? := ⟨fun e he => by cases e <;> simp_all⟩
instance : Discreet (H := H) (X := X) Event.called? := ⟨fun e he => by cases e <;> simp_all⟩

def allTold (es : List (Event H X)) : List (Nat × Moment × Argument) := gather Event.told? es

/-- The calls made on one task, in their order. -/
def told (es : List (Event H X)) (t : Nat) : List (Moment × Argument) :=
  ((allTold es).filter fun p => p.1 = t).map Prod.snd

def hookCall (tasks : List (Task H)) (p : Nat × Moment × Argument) : Option (H × Argument) :=
  (tasks[p.1]?.bind fun task => task.hooks.get p.2.1).map fun h => (h, p.2.2)

/-- What a frame has still to tell a task. -/
def Frame.owes (hooks : Hooks H) (t : Nat) : Frame H X → List (Moment × Argument)
  | .call u moment argument => if u = t then due hooks moment argument else []
  | .close _ u => if u = t then due hooks .afterRun .nothing else []
  | _ => []

def owed (hooks : Hooks H) (t : Nat) (stack : List (Frame H X)) : List (Moment × Argument) :=
  stack.flatMap (Frame.owes hooks t)

@[simp] lemma owed_nil (hooks : Hooks H) (t : Nat) : owed hooks t ([] : List (Frame H X)) = [] := rfl

@[simp] lemma owed_cons (hooks : Hooks H) (t : Nat) (f : Frame H X) (stack : List (Frame H X)) :
    owed hooks t (f :: stack) = f.owes hooks t ++ owed hooks t stack := List.flatMap_cons

/-- A hook has let out a fault that is not contained. -/
def Escape (es : List (Event H X)) : Prop := ∃ h f, .escaped h f ∈ es ∧ f.ordinary = false

lemma Escape.mono {es es' : List (Event H X)} (h : Escape es) (hs : es ⊆ es') : Escape es' :=
  h.imp fun _ h => h.imp fun _ h => ⟨hs h.1, h.2⟩

/-- Such a fault has kept the task from being told that its run is over. -/
def Forsaken (m : Machine H X) (t : Nat) (hooks : Hooks H) : Prop :=
  Escape m.events ∧ Ended m.events (t + 1) ∧ owed hooks t m.stack = [] ∧
    told m.events t ++ due hooks .afterRun .nothing = script hooks (tagged m.events (t + 1))

def Balanced (m : Machine H X) (t : Nat) (hooks : Hooks H) : Prop :=
  told m.events t ++ owed hooks t m.stack = script hooks (tagged m.events (t + 1)) ∨ Forsaken m t hooks

structure Demultiplexed (m : Machine H X) : Prop where
  /-- Hooks are called for what their tasks are told, and for nothing else. -/
  calls : gather Event.called? m.events = (allTold m.events).filterMap (hookCall (given m.events))
  /-- Only dispatched tasks are told anything. -/
  started : ∀ p ∈ allTold m.events, p.1 < m.state.lastContext
  balanced : ∀ t task, t < m.state.lastContext → (given m.events)[t]? = some task → Balanced m t task.hooks

lemma Balanced.keep {m n : Machine H X} {t : Nat} {hooks : Hooks H} (hb : Balanced m t hooks)
    (hsub : m.events ⊆ n.events) (htold : told n.events t = told m.events t)
    (ho : owed hooks t n.stack = owed hooks t m.stack) (htag : tagged n.events (t + 1) = tagged m.events (t + 1)) :
    Balanced n t hooks := by
  rw [Balanced, Forsaken, htold, ho, htag, Ended, htag]
  refine hb.imp_right ?_
  rintro ⟨he, hrest⟩
  exact ⟨he.mono hsub, hrest⟩

@[simp] def Frame.closes? : Frame H X → Option Nat
  | .close _ t => some t
  | _ => none

structure Telling (m : Machine H X) : Prop extends Demultiplexed m where
  targets : ∀ t moment argument, .call t moment argument ∈ m.stack → t < m.state.lastContext
  once : (m.stack.filterMap Frame.closes?).Nodup
  /-- A fault on its way through frames that do not wait has come out of a hook. -/
  shaken : m.fault ≠ none → ∀ f, m.stack.head? = some f → f.waits = true ∨ f.isLoop = true ∨ Escape m.events

/-- Events that tell no task anything, and take nothing in. -/
@[simp] def Event.aside : Event H X → Bool
  | .submitted .. | .told .. | .called .. | .routed _ => false
  | _ => true

@[simp] def Frame.clear : Frame H X → Bool
  | .call .. | .close .. => false
  | _ => true

/-- A move that tells no task anything, and takes nothing in. -/
structure Mute (m n : Machine H X) : Prop where
  allTold : allTold n.events = allTold m.events
  called : gather Event.called? n.events = gather Event.called? m.events
  given : given n.events = given m.events
  tagged : ∀ k, tagged n.events k = tagged m.events k
  grown : m.events ⊆ n.events
  lastContext : n.state.lastContext = m.state.lastContext

lemma Mute.told {m n : Machine H X} (h : Mute m n) (t : Nat) : told n.events t = told m.events t := by
  rw [Coordinator.told, h.allTold, Coordinator.told]

lemma Mute.balanced {m n : Machine H X} (h : Mute m n) {t : Nat} {hooks : Hooks H}
    (ho : owed hooks t n.stack = owed hooks t m.stack) (hb : Balanced m t hooks) : Balanced n t hooks :=
  hb.keep h.grown (h.told t) ho (h.tagged (t + 1))

lemma Telling.keep {m n : Machine H X} (ht : Telling m) (h : Mute m n)
    (ho : ∀ (hooks : Hooks H) t, (given m.events)[t]?.map Task.hooks = some hooks →
      owed hooks t n.stack = owed hooks t m.stack)
    (hc : ∀ t moment argument, .call t moment argument ∈ n.stack → t < m.state.lastContext)
    (hn : (n.stack.filterMap Frame.closes?).Sublist (m.stack.filterMap Frame.closes?))
    (hf : n.fault ≠ none → ∀ f, n.stack.head? = some f → f.waits = true ∨ f.isLoop = true ∨ Escape n.events) :
    Telling n where
  calls := by rw [h.called, h.allTold, h.given, ht.calls]
  started := by
    rw [h.allTold, h.lastContext]
    exact ht.started
  balanced := fun t task hlt hg => by
    rw [h.lastContext] at hlt
    rw [h.given] at hg
    exact h.balanced (ho task.hooks t (by simp [hg])) (ht.balanced t task hlt hg)
  targets := fun t moment argument hm => h.lastContext ▸ hc t moment argument hm
  once := ht.once.sublist hn
  shaken := hf

lemma Telling.pass {c c' : Coordinator H X} {fault fault' : Option Fault} {f : Frame H X} {r : List (Frame H X)}
    {es es' : List (Event H X)} (new : List (Frame H X)) (ht : Telling ⟨c, f :: r, fault, es⟩)
    (h : Mute ⟨c, f :: r, fault, es⟩ ⟨c', new ++ r, fault', es'⟩)
    (ho : ∀ (hooks : Hooks H) t, (given es)[t]?.map Task.hooks = some hooks → owed hooks t new = f.owes hooks t)
    (hc : ∀ t moment argument, .call t moment argument ∈ new → t < c.lastContext)
    (hn : (new.filterMap Frame.closes?).Sublist f.closes?.toList)
    (hf : fault' ≠ none → ∀ g, (new ++ r).head? = some g → g.waits = true ∨ g.isLoop = true ∨ Escape es') :
    Telling ⟨c', new ++ r, fault', es'⟩ := by
  refine ht.keep h (fun hooks t hg => ?_) (fun t moment argument hm => ?_) ?_ hf
  · have := ho hooks t hg
    simp only [owed, List.flatMap_append, List.flatMap_cons] at this ⊢
    rw [this]
  · rcases List.mem_append.mp hm with hm | hm
    · exact hc t moment argument hm
    · exact ht.targets t moment argument (List.mem_cons_of_mem _ hm)
  · have hfr : List.filterMap Frame.closes? (f :: r) = f.closes?.toList ++ List.filterMap Frame.closes? r := by
      cases hcl : f.closes? <;> simp only [List.filterMap_cons, hcl, Option.toList, List.nil_append, List.cons_append]
    simp only [List.filterMap_append, hfr]
    exact hn.append_right _

lemma Event.aside_of_silent {e : Event H X} (h : e.silent = true) : e.aside = true := by cases e <;> simp_all

lemma gather_aside {α : Type} {f : Event H X → Option α} (hf : ∀ e : Event H X, e.aside = true → f e = none)
    {more : List (Event H X)} (hm : ∀ e ∈ more, e.aside = true) (es : List (Event H X)) :
    gather f (more ++ es) = gather f es := gather_none (fun e he => hf e (hm e he)) es

lemma mute_aside {c c' : Coordinator H X} {stack stack' : List (Frame H X)} {fault fault' : Option Fault}
    {es : List (Event H X)} (more : List (Event H X)) (hm : ∀ e ∈ more, e.aside = true) (hl : c'.lastContext = c.lastContext) :
    Mute ⟨c, stack, fault, es⟩ ⟨c', stack', fault', more ++ es⟩ where
  allTold := gather_aside (fun e he => by cases e <;> first | rfl | cases he) hm es
  called := gather_aside (fun e he => by cases e <;> first | rfl | cases he) hm es
  given := gather_aside (fun e he => by cases e <;> first | rfl | cases he) hm es
  tagged := fun k => by
    have hnone : notices (more ++ es) = notices es :=
      gather_aside (fun e he => by cases e <;> first | rfl | cases he) hm es
    simp only [Coordinator.tagged, hnone]
  grown := by simp
  lastContext := hl

lemma Telling.yield {c c' : Coordinator H X} {fault : Option Fault} {f : Frame H X} {r : List (Frame H X)}
    {es : List (Event H X)} (new : List (Frame H X)) (more : List (Event H X)) (ht : Telling ⟨c, f :: r, fault, es⟩)
    (hl : c'.lastContext = c.lastContext) (hf : f.clear = true) (hnew : ∀ g ∈ new, g.clear = true)
    (hm : ∀ e ∈ more, e.aside = true) : Telling ⟨c', new ++ r, none, more ++ es⟩ := by
  have howes : ∀ (g : Frame H X), g.clear = true → ∀ (hooks : Hooks H) t, g.owes hooks t = [] := fun g hg hooks t => by
    cases g <;> first | rfl | cases hg
  refine ht.pass new (mute_aside more hm hl) (fun hooks t _ => ?_) (fun t moment argument h => ?_) ?_ (by simp)
  · rw [howes f hf hooks t]
    exact List.flatMap_eq_nil_iff.mpr fun g hg => howes g (hnew g hg) hooks t
  · cases hnew _ h
  · have hnil : new.filterMap Frame.closes? = [] := List.filterMap_eq_nil_iff.mpr fun g hg => by
      have := hnew g hg
      cases g <;> first | rfl | cases this
    rw [hnil]
    exact List.nil_sublist _

lemma Kept.hookOf {m : Machine H X} (hk : Kept m) {t : Nat} {task : Task H} (ht : (given m.events)[t]? = some task)
    (moment : Moment) : m.state.hookOf t moment = task.hooks.get moment := by
  obtain ⟨kept, hkt, -, hh, -⟩ := hk.same t task ht
  simp [Coordinator.hookOf, hkt, hh]

lemma owed_eq_nil {hooks : Hooks H} {t : Nat} {stack : List (Frame H X)}
    (hcall : ∀ moment argument, .call t moment argument ∉ stack) (hclose : t ∉ stack.filterMap Frame.closes?) :
    owed hooks t stack = [] := by
  refine List.flatMap_eq_nil_iff.mpr fun f hf => ?_
  cases f with
  | call u moment argument =>
    refine if_neg ?_
    rintro rfl
    exact hcall moment argument hf
  | close id u =>
    refine if_neg ?_
    rintro rfl
    exact hclose (List.mem_filterMap.mpr ⟨_, hf, rfl⟩)
  | _ => rfl

lemma Seated.call_not_mem {f : Frame H X} {r : List (Frame H X)} (h : Seated (f :: r)) (t : Nat) (moment : Moment)
    (argument : Argument) : .call t moment argument ∉ r := by
  intro hm
  have := h.resumes _ hm
  simp [Frame.resumes, Frame.waits] at this

/-- A fault takes the end of a context off the stack. -/
lemma Telling.forsake {c : Coordinator H X} {id : Option Int} {u : Nat} {e : Fault} {r : List (Frame H X)}
    {es : List (Event H X)} (hs : Sound ⟨c, .close id u :: r, some e, es⟩)
    (ha : Addressed ⟨c, .close id u :: r, some e, es⟩)
    (ht : Telling ⟨c, .close id u :: r, some e, es⟩) : Telling ⟨c, r, some e, es⟩ := by
  have hesc : Escape es := by
    simpa [Frame.waits, Frame.isLoop] using ht.shaken (by simp) _ rfl
  have honce : (u :: r.filterMap Frame.closes?).Nodup := by simpa [List.filterMap_cons] using ht.once
  rw [List.nodup_cons] at honce
  have hcall := hs.shape.seated.call_not_mem
  refine ⟨⟨ht.calls, ht.started, fun t task hlt hg => ?_⟩,
    fun t moment argument hm => absurd hm (hcall t moment argument), honce.2, fun _ _ _ => .inr (.inr hesc)⟩
  by_cases hut : u = t
  · subst hut
    have hnil : owed task.hooks u r = [] := owed_eq_nil (hcall u) honce.1
    have hend := (ha.closes id u (List.mem_cons_self ..)).2
    refine .inr ⟨hesc, hend, hnil, ?_⟩
    rcases ht.balanced u task hlt hg with hb | ⟨-, -, -, hb⟩
    · simpa [Frame.owes, hnil] using hb
    · exact hb
  · exact (ht.balanced t task hlt hg).keep (fun _ he => he) rfl (by simp [Frame.owes, hut]) rfl

lemma Telling.leave {c : Coordinator H X} {fault fault' : Option Fault} {move : Move H X} {f : Frame H X}
    {quiet es : List (Event H X)} {r : List (Frame H X)} (h : Leaves c fault move f fault' quiet)
    (hs : Sound ⟨c, f :: r, fault, es⟩) (ha : Addressed ⟨c, f :: r, fault, es⟩) (ht : Telling ⟨c, f :: r, fault, es⟩) :
    Telling ⟨c, r, fault', quiet ++ es⟩ := by
  have hmute : Mute ⟨c, f :: r, fault, es⟩ ⟨c, r, fault', quiet ++ es⟩ := mute_aside _ (fun e he => e.aside_of_silent (h.silent e he)) rfl
  have hseat := hs.shape.seated
  have hloop : f.dispatches = true → ∀ g, r.head? = some g → g.isLoop = true := by
    intro hd g hg
    obtain rfl : .drainLoop = g := by simpa [hseat.1.loop hd] using hg
    rfl
  cases h with
  | unset hh =>
    rename_i u moment argument
    refine ht.pass [] hmute (fun hooks t hg => ?_) (by simp) (by simp) (by simp)
    obtain ⟨task, htask, rfl⟩ := Option.map_eq_some_iff.mp hg
    by_cases hut : u = t
    · subst hut
      have hnone : task.hooks.get moment = none := (hs.kept.hookOf htask moment).symm.trans hh
      simp [Frame.owes, due, hnone]
    · simp [Frame.owes, hut]
  | unwound hg hl =>
    have hres := hs.shape.settled (by simp) _ rfl
    have hesc := ht.shaken (by simp) _ rfl
    cases f with
    | close id u => exact ht.forsake hs ha
    | prepare | advance =>
      refine ht.pass [] hmute (fun _ _ _ => rfl) (by simp) (by simp) fun _ g _ => .inr (.inr ?_)
      simpa [Frame.waits, Frame.isLoop] using hesc
    | _ => simp_all [Frame.resumes]
  | escaped hf ho =>
    exact ht.pass [] hmute (fun _ _ _ => rfl) (by simp) (by simp)
      fun _ g _ => .inr (.inr ⟨_, _, List.mem_cons_self .., ho⟩)
  | refused | aborted | unsent =>
    exact ht.pass [] hmute (fun _ _ _ => rfl) (by simp) (by simp) fun _ g hg => .inr (.inl (hloop rfl g hg))
  | _ => exact ht.pass [] hmute (fun _ _ _ => rfl) (by simp) (by simp) (by simp)

lemma script_concat (hooks : Hooks H) (nts : List Notice) (nt : Notice) :
    script hooks (nts ++ [nt]) = script hooks nts ++ response hooks nt := by
  simp [script]

lemma Addressed.addressee {c : Coordinator H X} {v : Value} {r : List (Frame H X)} {es : List (Event H X)} {nt : Notice}
    (ha : Addressed ⟨c, .route v :: r, none, es⟩) (hn : notice? v = some nt) :
    ∃ t, c.resolve nt.id = some t ∧ nt.id = some ((t + 1 : Nat) : Int) ∧ t < c.lastContext ∧ ¬ Ended es (t + 1) := by
  obtain ⟨k, hid, h1, hk, he, -⟩ := ha.incoming v (.inr rfl) nt hn
  have ho := ha.owners k h1 hk he
  have hk' : k - 1 + 1 = k := Nat.sub_add_cancel h1
  refine ⟨k - 1, by simp only [resolve, hid, ho, Option.some_or], by rw [hk', hid], ?_, by rwa [hk']⟩
  simp only at hk
  omega

structure Answers (tasks : List (Task H)) (nt : Notice) (t : Nat) (new : List (Frame H X)) : Prop where
  own : ∀ task, tasks[t]? = some task → owed task.hooks t new = response task.hooks nt
  other : ∀ u, u ≠ t → ∀ hooks : Hooks H, owed hooks u new = []
  targets : ∀ u moment argument, .call u moment argument ∈ new → u = t
  closes : (new.filterMap Frame.closes?).Sublist [t]

lemma answers_closing (tasks : List (Task H)) (nt : Notice) (t : Nat) :
    Answers tasks nt t (.call t nt.moment nt.argument :: (closing nt t ++ [.advance t]) : List (Frame H X)) := by
  unfold closing
  cases hl : nt.last <;>
    refine ⟨fun task hg => by simp [Frame.owes, response, hl], fun u hu hooks => ?_, by simp +contextual,
      by simp [List.filterMap_cons]⟩ <;>
    simp [Frame.owes, Ne.symm hu]

/-- What a message asks for is called when it comes: the frames below owe its task nothing. -/
lemma Telling.respond {c : Coordinator H X} {v : Value} {r : List (Frame H X)} {es : List (Event H X)}
    (ha : Addressed ⟨c, .route v :: r, none, es⟩) (hseat : Seated (.route v :: r))
    (ht : Telling ⟨c, .route v :: r, none, es⟩) (entries : List Diagnostic) (new : List (Frame H X))
    (hnone : notice? v = none → new = [])
    (hsome : ∀ nt t, notice? v = some nt → c.resolve nt.id = some t → Answers (given es) nt t new) :
    Telling ⟨c, new ++ r, none, logs entries ++ .routed v :: es⟩ := by
  have htold : allTold (logs entries ++ .routed v :: es) = allTold es := by simp [allTold]
  have hgiven : given (logs entries ++ .routed v :: es) = given es := by simp [given]
  have hkeep : ∀ t, t < c.lastContext → (∀ nt, notice? v = some nt → nt.id ≠ some ((t + 1 : Nat) : Int)) →
      (∀ hooks : Hooks H, owed hooks t new = []) → ∀ hooks, Balanced ⟨c, .route v :: r, none, es⟩ t hooks →
        Balanced ⟨c, new ++ r, none, logs entries ++ .routed v :: es⟩ t hooks := by
    intro t _ hid ho hooks hb
    have howed : owed hooks t (new ++ r) = owed hooks t (.route v :: r) := by
      rw [owed, List.flatMap_append, ← owed, ho hooks]
      rfl
    have htag : tagged (logs entries ++ .routed v :: es) (t + 1) = tagged es (t + 1) := tagged_other hid
    exact hb.keep (by simp) (by simp only [told, htold]) howed htag
  cases hn : notice? v with
  | none =>
    obtain rfl := hnone hn
    refine ⟨⟨?_, fun p hp => ht.started p (htold ▸ hp), fun t task hlt hg => ?_⟩, ?_, ht.once, by simp⟩
    · simpa [htold, hgiven] using ht.calls
    · exact hkeep t hlt (by simp [hn]) (fun _ => rfl) _ (ht.balanced t task hlt (hgiven ▸ hg))
    · exact fun t moment argument hm => absurd hm (hseat.call_not_mem t moment argument)
  | some nt =>
    obtain ⟨t, hres, hid, hlt, hopen⟩ := ha.addressee hn
    have hans := hsome nt t hn hres
    have hclose : t ∉ r.filterMap Frame.closes? := by
      intro hm
      obtain ⟨f, hf, hft⟩ := List.mem_filterMap.mp hm
      cases f with
      | close id u =>
        obtain rfl : u = t := by simpa using hft
        exact hopen (ha.closes id u (List.mem_cons_of_mem _ hf)).2
      | _ => cases hft
    have hrest : ∀ hooks : Hooks H, owed hooks t r = [] := fun hooks => owed_eq_nil (hseat.call_not_mem t) hclose
    refine ⟨⟨?_, fun p hp => ht.started p (htold ▸ hp), fun u task hu hg => ?_⟩, fun u moment argument hm => ?_, ?_,
      by simp⟩
    · simpa [htold, hgiven] using ht.calls
    · rw [hgiven] at hg
      by_cases hut : u = t
      · subst hut
        have hnew : owed task.hooks u (new ++ r) = response task.hooks nt := by
          rw [owed, List.flatMap_append, ← owed, ← owed, hrest, hans.own task hg, List.append_nil]
        refine .inl ?_
        rcases ht.balanced u task hlt hg with hb | ⟨-, hend, -⟩
        · have hb' : told es u = script task.hooks (tagged es (u + 1)) := by simpa [Frame.owes, hrest] using hb
          simp only [told, htold, hnew, tagged_own hn hid, script_concat]
          rw [← hb']
          rfl
        · exact absurd hend hopen
      · refine hkeep u hu (fun nt' hn' => ?_) (hans.other u hut) _ (ht.balanced u task hu hg)
        obtain rfl : nt = nt' := by simpa [hn] using hn'
        rw [hid]
        intro h
        have : t + 1 = u + 1 := by exact_mod_cast Option.some.inj h
        omega
    · rcases List.mem_append.mp hm with hm | hm
      · exact hans.targets u moment argument hm ▸ hlt
      · exact absurd hm (hseat.call_not_mem u moment argument)
    · rw [List.filterMap_append, List.nodup_append]
      refine ⟨(List.nodup_singleton t).sublist hans.closes, by simpa [List.filterMap_cons] using ht.once, ?_⟩
      rintro a ha' b hb rfl
      obtain rfl := List.mem_singleton.mp (hans.closes.subset ha')
      exact hclose hb

lemma Telling.untold {m : Machine H X} (ht : Telling m) {t : Nat} (hlt : m.state.lastContext ≤ t) :
    told m.events t = [] := by
  have : (allTold m.events).filter (fun p => p.1 = t) = [] := by
    refine List.filter_eq_nil_iff.mpr fun p hp => ?_
    have := ht.started p hp
    simp only [decide_eq_true_eq]
    omega
  rw [told, this, List.map_nil]

lemma Telling.take {c : Coordinator H X} {es es' : List (Event H X)} {f : Frame H X} {r r' : List (Frame H X)}
    {task : Task H} (hs : Sound ⟨c, f :: r, none, es⟩) (ht : Telling ⟨c, f :: r, none, es⟩)
    (hg : given es' = given es ++ [task]) (htold : allTold es' = allTold es)
    (hcalled : gather Event.called? es' = gather Event.called? es) (htag : ∀ k, tagged es' k = tagged es k) (hsub : es ⊆ es')
    (howed : ∀ (hooks : Hooks H) t, owed hooks t r' = owed hooks t (f :: r))
    (hc : ∀ t moment argument, .call t moment argument ∉ r')
    (hn : r'.filterMap Frame.closes? = (f :: r).filterMap Frame.closes?) :
    Telling ⟨{ c with tasks := c.tasks ++ [task], pending := c.pending ++ [c.tasks.length] }, r', none, es'⟩ := by
  have hle := hs.queued.lastContext_le
  refine ⟨⟨?_, fun p hp => ht.started p (htold ▸ hp), fun t new hlt hnew => ?_⟩, fun t m a hm => absurd hm (hc t m a),
    hn ▸ ht.once, by simp⟩
  · rw [hcalled, ht.calls, htold, hg]
    refine List.filterMap_congr fun p hp => ?_
    have hlt : p.1 < (given es).length := (ht.started p hp).trans_le hle
    simp only [hookCall, List.getElem?_append_left hlt]
  · have hlt' : t < (given es).length := hlt.trans_le hle
    have hold : (given es)[t]? = some new := by
      rw [← hnew, hg, List.getElem?_append_left hlt']
    exact (ht.balanced t new hlt hold).keep hsub (by simp only [told, htold]) (howed _ t) (htag _)

/-- A task is told nothing before its dispatch, and is owed the hook before the run then. -/
lemma Telling.dispatch {c : Coordinator H X} {t : Nat} {r : List (Frame H X)} {es : List (Event H X)}
    (hs : Sound ⟨c, .dispatch t :: r, none, es⟩) (ha : Addressed ⟨c, .dispatch t :: r, none, es⟩)
    (ht : Telling ⟨c, .dispatch t :: r, none, es⟩) :
    Telling ⟨c.openContext t, .call t .beforeRun .nothing :: .prepare t (c.lastContext + 1) :: r, none,
      .opened t (c.lastContext + 1) :: es⟩ := by
  obtain ⟨rfl, -⟩ := hs.queued.dispatching
  have hseat := hs.shape.seated
  have htold : allTold (.opened c.lastContext (c.lastContext + 1) :: es) = allTold es := by simp [allTold]
  have htag : ∀ k, tagged (.opened c.lastContext (c.lastContext + 1) :: es) k = tagged es k := fun k => by
    simp [tagged, notices]
  have hrest : ∀ hooks : Hooks H, owed hooks c.lastContext r = [] := fun hooks => by
    refine owed_eq_nil (hseat.call_not_mem _) fun hm => ?_
    obtain ⟨f, hf, hft⟩ := List.mem_filterMap.mp hm
    cases f with
    | close id u =>
      have hlt : u < c.lastContext := ha.close_lt (List.mem_cons_of_mem _ hf)
      simp only [Frame.closes?, Option.some.injEq] at hft
      omega
    | _ => cases hft
  refine ⟨⟨?_, fun p hp => ?_, fun t task hlt hg => ?_⟩, fun t moment argument hm => ?_, ?_, by simp⟩
  · simpa [htold, given] using ht.calls
  · exact (ht.started p (htold ▸ hp)).trans (Nat.lt_succ_self _)
  · rw [show given (.opened c.lastContext (c.lastContext + 1) :: es) = given es by simp [given]] at hg
    rcases Nat.lt_or_ge t c.lastContext with hlt' | hge
    · have hne : c.lastContext ≠ t := by omega
      exact (ht.balanced t task hlt' hg).keep (by simp) (by simp only [told, htold]) (by simp [Frame.owes, hne]) (htag _)
    · obtain rfl : t = c.lastContext := by
        simp only [openContext] at hlt
        omega
      have h1 : told es c.lastContext = [] := ht.untold (Nat.le_refl _)
      have h2 : tagged es (c.lastContext + 1) = [] := ha.untagged (Nat.lt_succ_self _)
      refine .inl ?_
      have hnew : told (.opened c.lastContext (c.lastContext + 1) :: es) c.lastContext = [] := by
        rw [told, htold, ← told, h1]
      simp [hnew, htag, h2, hrest, Frame.owes, script]
  · simp only [List.mem_cons, Frame.call.injEq, reduceCtorEq, false_or] at hm
    rcases hm with ⟨rfl, -, -⟩ | hm
    · exact Nat.lt_succ_self _
    · exact absurd hm (hseat.call_not_mem t moment argument)
  · simpa [List.filterMap_cons] using ht.once

/-- The call of a hook pays what the frame owed. -/
lemma Telling.call {c : Coordinator H X} {t : Nat} {moment : Moment} {argument : Argument} {h : H}
    {r : List (Frame H X)} {es : List (Event H X)} (hh : c.hookOf t moment = some h)
    (hs : Sound ⟨c, .call t moment argument :: r, none, es⟩) (ht : Telling ⟨c, .call t moment argument :: r, none, es⟩) :
    Telling ⟨c, .awaitHook h argument :: r, none, .called h argument :: .told t moment argument :: es⟩ := by
  have hseat := hs.shape.seated
  have hlt := ht.targets t moment argument (List.mem_cons_self ..)
  have htold : allTold (.called h argument :: .told t moment argument :: es) =
      allTold es ++ [(t, moment, argument)] := by simp [allTold]
  have htag : ∀ k, tagged (.called h argument :: .told t moment argument :: es) k = tagged es k := fun k => by
    simp [tagged, notices]
  have hgiven : given (.called h argument :: .told t moment argument :: es) = given es := by simp [given]
  have hget : ∀ task, (given es)[t]? = some task → task.hooks.get moment = some h := fun task hg =>
    (hs.kept.hookOf hg moment).symm.trans hh
  refine ⟨⟨?_, fun p hp => ?_, fun u task hu hg => ?_⟩, fun u m a hm => ?_, ?_, by simp⟩
  · obtain ⟨task, htask⟩ : ∃ task, (given es)[t]? = some task :=
      ⟨_, List.getElem?_eq_getElem (hlt.trans_le hs.queued.lastContext_le)⟩
    have hcall : hookCall (given es) (t, moment, argument) = some (h, argument) := by
      simp [hookCall, htask, hget task htask]
    have hcalls := ht.calls
    simp only at hcalls
    simp [htold, hgiven, List.filterMap_append, hcalls, hcall]
  · simp only [htold, List.mem_append, List.mem_singleton] at hp
    rcases hp with hp | rfl
    · exact ht.started p hp
    · exact hlt
  · rw [hgiven] at hg
    by_cases hut : t = u
    · subst hut
      have hdue : due task.hooks moment argument = [(moment, argument)] := by simp [due, hget task hg]
      rcases ht.balanced t task hu hg with hb | ⟨-, -, hnil, -⟩
      · refine .inl ?_
        simp only [owed_cons, Frame.owes, if_true, hdue] at hb
        simpa [told, htold, htag, Frame.owes] using hb
      · simp [Frame.owes, hdue] at hnil
    · exact (ht.balanced u task hu hg).keep (by simp) (by simp [told, htold, hut]) (by simp [Frame.owes, hut]) (htag _)
  · exact absurd (by simpa using hm) (hseat.call_not_mem u m a)
  · simpa [List.filterMap_cons] using ht.once

section Cases

variable {c : Coordinator H X} {v : Value} {nt : Notice} {t : Nat} {r : List (Frame H X)} {es : List (Event H X)}
  {entries : List Diagnostic}

lemma Telling.unheard (ht : Telling ⟨c, .route v :: r, none, es⟩) (hs : Sound ⟨c, .route v :: r, none, es⟩)
    (ha : Addressed ⟨c, .route v :: r, none, es⟩) (hu : Unheard c v) :
    Telling ⟨c, r, none, logs entries ++ .routed v :: es⟩ := by
  refine ht.respond ha hs.shape.seated _ [] (fun _ => rfl) fun nt t hn hres => ?_
  obtain ⟨hr, hh⟩ := hu nt hn t hres
  refine ⟨fun task hg => ?_, fun _ _ _ => rfl, by simp, by simp⟩
  have hnone : task.hooks.get nt.moment = none := (hs.kept.hookOf hg nt.moment).symm.trans hh
  simp [response, due, hnone, last_of_output hn hr]

lemma Telling.output (ht : Telling ⟨c, .route v :: r, none, es⟩) (hs : Sound ⟨c, .route v :: r, none, es⟩)
    (ha : Addressed ⟨c, .route v :: r, none, es⟩) (hn : notice? v = some nt) (hres : c.resolve nt.id = some t)
    (hr : nt.reply = false) :
    Telling ⟨c, .call t nt.moment nt.argument :: r, none, logs entries ++ .routed v :: es⟩ := by
  refine ht.respond ha hs.shape.seated entries [.call t nt.moment nt.argument] (by simp [hn]) fun nt' t' hn' hres' => ?_
  obtain rfl : nt = nt' := by simpa [hn] using hn'
  obtain rfl : t = t' := by simpa [hres] using hres'
  refine ⟨fun task hg => by simp [Frame.owes, response, last_of_output hn hr], fun u hu hooks => ?_, by simp +contextual,
    by simp [List.filterMap_cons]⟩
  simp [Frame.owes, Ne.symm hu]

lemma Telling.answered (ht : Telling ⟨c, .route v :: r, none, es⟩) (hs : Sound ⟨c, .route v :: r, none, es⟩)
    (ha : Addressed ⟨c, .route v :: r, none, es⟩) (hn : notice? v = some nt) (hres : c.resolve nt.id = some t) :
    Telling ⟨c, .call t nt.moment nt.argument :: (closing nt t ++ .advance t :: r), none,
      logs entries ++ .routed v :: es⟩ := by
  have := ht.respond ha hs.shape.seated entries _ (by simp [hn]) fun nt' t' hn' hres' => by
    obtain rfl : nt = nt' := by simpa [hn] using hn'
    obtain rfl : t = t' := by simpa [hres] using hres'
    exact answers_closing (given es) nt t
  simpa using this

/-- Closing a context and the call after it owe the same. -/
lemma Telling.close {id : Option Int} (ht : Telling ⟨c, .close id t :: r, none, es⟩)
    (ha : Addressed ⟨c, .close id t :: r, none, es⟩) :
    Telling ⟨c.closeContext id, .call t .afterRun .nothing :: r, none, .closed t id :: (logs [.contextEnded] ++ es)⟩ := by
  refine ht.pass [.call t .afterRun .nothing] (mute_aside [_, _] (by simp) (by simp)) (fun _ _ _ => ?_)
    (fun u moment argument hm => ?_) (by simp [List.filterMap_cons]) (by simp)
  · simp [Frame.owes]
  · obtain ⟨rfl, -⟩ : u = t ∧ _ := by simpa using hm
    exact ha.close_lt (List.mem_cons_self ..)

/-- The drain loop gives up its flag, and lets the fault go on to what stands below, which waits. -/
lemma Telling.broken {f : Fault} (ht : Telling ⟨c, .drainLoop :: r, some f, es⟩)
    (hseat : Seated (.drainLoop :: r)) : Telling ⟨{ c with draining := false }, r, some f, es⟩ := by
  refine ht.pass [] (mute_aside [] (by simp) rfl) (fun _ _ _ => rfl) (by simp) (by simp) fun _ g hg => ?_
  have hout : Frame.Outside r.head? := hseat.1
  rw [show r.head? = some g from hg] at hout
  exact .inl hout

lemma Telling.start {m : Machine H X} {operation : Operation H X} (ht : Telling m) :
    Telling (m.push operation.frame) := by
  refine ht.keep ⟨rfl, rfl, rfl, fun _ => rfl, fun _ he => he, rfl⟩ (fun hooks t _ => ?_) (fun t moment argument hm => ?_)
    ?_ (by simp [Machine.push])
  · cases operation <;> rfl
  · rcases List.mem_cons.mp hm with hm | hm
    · cases operation <;> cases hm
    · exact ht.targets t moment argument hm
  · cases operation <;> simp [Machine.push, Operation.frame, List.filterMap_cons]

end Cases

theorem telling_step {m n : Machine H X} {move : Move H X} (h : Stage m move n) (hs : Sound m) (ha : Addressed m)
    (ht : Telling m) : Telling n := by
  have hseat := hs.shape.seated
  cases h with
  | left h => exact ht.leave h hs ha
  | taken =>
    refine ht.take hs (by simp [given]) (by simp [allTold]) (by simp) (by simp [tagged, notices]) (by simp) (fun _ _ => rfl)
      (fun t moment argument hm => ?_) rfl
    exact hseat.call_not_mem t moment argument (by simpa using hm)
  | queued =>
    exact ht.take hs (by simp [given]) (by simp [allTold]) (by simp) (by simp [tagged, notices]) (by simp) (fun _ _ => rfl)
      hseat.call_not_mem rfl
  | opened => exact ht.dispatch hs ha
  | called hh => exact ht.call hh hs
  | unheard hu => exact ht.unheard hs ha hu
  | output hn hres hr => exact ht.output hs ha hn hres hr
  | answered hn hres => exact ht.answered hs ha hn hres
  | closed => exact ht.close ha
  | draining => exact ht.yield [.drainLoop] [] rfl rfl (by simp) (by simp)
  | next => exact ht.yield [.dispatch _, .drainLoop] [] rfl rfl (by simp) (by simp)
  | drained => exact ht.yield [] [] rfl rfl (by simp) (by simp)
  | asked => exact ht.yield [.awaitTransform ..] [_, _] rfl rfl (by simp) (by simp)
  | verbatim => exact ht.yield [.send ..] [_] rfl rfl (by simp) (by simp)
  | transformed => exact ht.yield [.send ..] [_, _] rfl rfl (by simp) (by simp)
  | failed => exact ht.yield [.loop _] [_] rfl rfl (by simp) (by simp)
  | sent => exact ht.yield [.awaitSend _] [_, _] rfl rfl (by simp) (by simp)
  | looped => exact ht.yield [.route _] [] rfl rfl (by simp) (by simp)
  | freed => exact ht.yield [.drain] [] rfl rfl (by simp) (by simp)
  | ignored | killed => exact ht.yield [] (logs _) rfl rfl (by simp) (by simp [logs])
  | assigned => exact ht.yield [] [_] rfl rfl (by simp) (by simp)
  | broken => exact ht.broken hseat
  | started => exact ht.start
  | recovered =>
    exact ht.keep ⟨rfl, rfl, rfl, fun _ => rfl, fun _ he => he, rfl⟩ (fun _ _ _ => rfl) ht.targets (List.Sublist.refl _)
      (by simp)

theorem telling_fresh (x : Option X) : Telling (Machine.fresh (H := H) x) where
  calls := rfl
  started := by simp [Machine.fresh, allTold]
  balanced := fun t _ hlt _ => absurd hlt (Nat.not_lt_zero t)
  targets := by simp [Machine.fresh]
  once := List.nodup_nil
  shaken := by simp [Machine.fresh]

/-- Hooks may start operations and raise as they like, and messages of open contexts may come in any order: over an honest
worker every task is told what the messages of its own context say. -/
theorem run_demultiplexed {x : Option X} {moves : List (Move H X)} {m : Machine H X}
    (hf : Follows Machine.step Honest (Machine.fresh x) moves) (hr : (Machine.fresh x).run moves = some m) :
    Demultiplexed m ∧ ∀ t id, .opened t id ∈ m.events → id = t + 1 := by
  rw [Machine.run_eq] at hr
  obtain ⟨hs, -, ht⟩ : Sound m ∧ Addressed m ∧ Telling m := by
    refine run_invariant (I := fun m => Sound m ∧ Addressed m ∧ Telling m) ?_ hf hr
      ⟨sound_fresh x, addressed_fresh x, telling_fresh x⟩
    rintro m move n hon hst ⟨hs, ha, ht⟩
    have h := step_stage hst
    exact ⟨sound_step h hs, addressed_step h hs hon ha, telling_step h hs ha ht⟩
  refine ⟨ht.toDemultiplexed, fun t id hm => hs.ledger.story.opened_id (List.mem_filterMap.mpr ?_)⟩
  exact ⟨_, List.mem_reverse.mpr hm, rfl⟩

/-- A reply that leaves the context open. -/
def partialReply : Value := .object [("id", .int 1), ("mime", .object [])]

def lastReply : Value :=
  .object [("id", .int 1), ("end", .bool true), ("error", .object [("ename", .string "E"), ("evalue", .string "e")])]

/-- A first task is answered while its context stays open. -/
def answeredOpen : List (Move Nat Nat) :=
  List.flatten [[.start (.submit ⟨.run, .string "a", { error := some 0, afterRun := some 1 }⟩)], List.replicate 6 .tick,
    [.answer (.code (.string "a")), .tick, .answer .done, .tick, .start (.route partialReply)], List.replicate 5 .tick]

/-- The last reply to it comes in while a second task is being sent. -/
def answeredLate : List (Move Nat Nat) :=
  List.flatten [answeredOpen, [.start (.submit ⟨.run, .string "b", {}⟩)], List.replicate 6 .tick,
    [.answer (.code (.string "b")), .tick, .start (.route lastReply), .tick, .tick, .answer .done, .tick, .tick,
      .answer .done, .tick, .answer .done, .tick]]

theorem answeredLate_demultiplexed :
    ∃ m, (Machine.fresh (some 7)).run answeredLate = some m ∧ Demultiplexed m ∧ m.stack = [] ∧ m.state.inFlight = some 1 ∧
      (told m.events 0).map Prod.fst = [.error, .afterRun] ∧ told m.events 1 = [] := by
  have h : ((Machine.fresh (some 7)).run answeredLate).isSome = true := by decide +kernel
  have hm := (Option.some_get h).symm
  exact ⟨_, hm, (run_demultiplexed (by decide +kernel) hm).1, rfl, rfl, rfl, rfl⟩

/-- The hook for the last reply submits a second task, and lets a fault of its transform out that is not contained. -/
def interrupted : List (Move Nat Nat) :=
  List.flatten [answeredOpen, [.start (.route lastReply), .tick, .tick, .start (.submit ⟨.run, .string "b", {}⟩)],
    List.replicate 6 .tick, [.answer (.raised (.thrown ⟨"KeyboardInterrupt", "", "KeyboardInterrupt()", [], false⟩))],
    List.replicate 4 .tick]

/-- Then the first task is not told that its run is over. -/
theorem interrupted_forsakes :
    ∃ m task, Follows Machine.step Honest (Machine.fresh (some 7)) interrupted ∧
      (Machine.fresh (some 7)).run interrupted = some m ∧ m.stack = [] ∧ (given m.events)[0]? = some task ∧
      told m.events 0 ≠ script task.hooks (tagged m.events 1) := by
  have h : ((Machine.fresh (some 7)).run interrupted).isSome = true := by decide +kernel
  have hm := (Option.some_get h).symm
  set m := ((Machine.fresh (some 7)).run interrupted).get h
  have hg : (given m.events)[0]? = some ⟨.run, .string "a", { error := some 0, afterRun := some 1 }⟩ := rfl
  have htold : (told m.events 0).length = 1 := rfl
  have hscript : (script { error := some 0, afterRun := some 1 } (tagged m.events 1)).length = 2 := rfl
  refine ⟨m, _, by decide +kernel, hm, rfl, hg, fun he => ?_⟩
  rw [he, hscript] at htold
  cases htold

end EvalSession.Coordinator
