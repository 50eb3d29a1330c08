import EvalSession.Proofs.Coordinator.Telling
import EvalSession.Proofs.Session.Replies

/-!
# Calls and what they get to see

A call of a caller is known by its number, which its hooks belong to. It has at most one place where it waits: a frame that
is still to hand in its task, or a task that has not been replied to. `Booked` relates the list of these places to what the
calls have seen; it changes in four ways only.
-/
namespace EvalSession.Session

variable {U X : Type} (owner : U → Nat)

/-- Every hook is set, and belongs to the call. -/
def Owned (i : Nat) (hooks : Hooks U) : Prop := ∀ moment, ∃ u ∈ hooks.get moment, owner u = i

instance (i : Nat) (hooks : Hooks U) : Decidable (Owned owner i hooks) :=
  decidable_of_iff (∀ moment ∈ Moment.all, ∃ u ∈ hooks.get moment, owner u = i)
    ⟨fun h moment => h moment (by cases moment <;> simp [Moment.all]), fun h moment _ => h moment⟩

/-- The call that a hook belongs to, with the moment; output on the way is not counted. -/
def note (moment : Moment) (u : U) : List (Nat × Moment) :=
  match moment with
  | .stdout | .stderr => []
  | _ => [(owner u, moment)]

def mark (moment : Moment) (hook : Option U) : List (Nat × Moment) := hook.toList.flatMap (note owner moment)

/-- What the hooks of callers see when a hook of a task is called, before anything else happens. -/
def effect : Hook U → List (Nat × Moment)
  | .user moment u => note owner moment u
  | .names _ success => mark owner .success success
  | .inspection q hooks =>
    if q.expression.scope.isEmpty then mark owner .success hooks.success ++ mark owner .afterRun hooks.afterRun else []
  | .inspectionError hooks => mark owner .error hooks.error ++ mark owner .afterRun hooks.afterRun
  | .scopeInspection _ _ hooks => mark owner .success hooks.success

def effects (hook : Option (Hook U)) : List (Nat × Moment) := hook.toList.flatMap (effect owner)

def linkSight : Coordinator.Event (Hook U) X → List (Nat × Moment)
  | .called (.user moment u) _ => note owner moment u
  | _ => []

def Event.sight : Event U X → List (Nat × Moment)
  | .link _ e => linkSight owner e
  | .called moment u _ => note owner moment u
  | _ => []

/-- The calls of hooks of callers, in their order. -/
def sights (es : List (Event U X)) : List (Nat × Moment) := es.reverse.flatMap (Event.sight owner)

def ofCall (i : Nat) (l : List (Nat × Moment)) : List Moment := (l.filter fun p => p.1 = i).map Prod.snd

/-- The moments that the hooks of a call have been called for, apart from output on the way. -/
def seen (es : List (Event U X)) (i : Nat) : List Moment := ofCall i (sights owner es)

/-- One announcement, one result, and the end of the run. -/
def Served (l : List Moment) : Prop :=
  ∃ result, (result = .success ∨ result = .error) ∧ l = [.beforeRun, result, .afterRun]

@[simp] lemma ofCall_nil (i : Nat) : ofCall i [] = [] := rfl

@[simp] lemma ofCall_append (i : Nat) (l l' : List (Nat × Moment)) : ofCall i (l ++ l') = ofCall i l ++ ofCall i l' := by
  simp [ofCall]

lemma mem_ofCall {i : Nat} {l : List (Nat × Moment)} {moment : Moment} (h : moment ∈ ofCall i l) : (i, moment) ∈ l := by
  simpa [ofCall] using h

lemma ofCall_own {i : Nat} {l : List (Nat × Moment)} {moments : List Moment} (h : l = moments.map fun moment => (i, moment)) :
    ofCall i l = moments := by
  subst h
  simp [ofCall, List.filter_map, Function.comp_def]

lemma ofCall_other {i j : Nat} (hne : j ≠ i) {l : List (Nat × Moment)} {moments : List Moment}
    (h : l = moments.map fun moment => (i, moment)) : ofCall j l = [] := by
  subst h
  simp [ofCall, List.filter_map, Function.comp_def, hne.symm]

/-- The places where calls wait and what has been seen of them, when so many calls have been made. -/
structure Booked (roster : List (Nat × List Moment)) (account : Nat → List Moment) (made : Nat) : Prop where
  single : (roster.map Prod.fst).Nodup
  pending : ∀ p ∈ roster, p.1 < made ∧ account p.1 = p.2
  served : ∀ i < made, i ∈ roster.map Prod.fst ∨ Served (account i)
  unborn : ∀ i, made ≤ i → account i = []

section Books

variable {roster roster' : List (Nat × List Moment)} {account account' : Nat → List Moment} {made i : Nat}
  {l l' : List Moment}

lemma Booked.perm (h : Booked roster account made) (hp : roster'.Perm roster) : Booked roster' account made where
  single := (hp.map _).nodup_iff.mpr h.single
  pending := fun p hm => h.pending p (hp.subset hm)
  served := fun j hj => (h.served j hj).imp_left fun hm => (hp.map _).mem_iff.mpr hm
  unborn := h.unborn

lemma Booked.enter (h : Booked roster account made) : Booked ((made, []) :: roster) account (made + 1) where
  single := by
    rw [List.map_cons, List.nodup_cons]
    refine ⟨fun hm => ?_, h.single⟩
    obtain ⟨p, hp, hpm⟩ := List.mem_map.mp hm
    exact absurd (h.pending p hp).1 (by omega)
  pending := by
    intro p hm
    rcases List.mem_cons.mp hm with rfl | hm
    · exact ⟨Nat.lt_succ_self _, h.unborn _ (Nat.le_refl _)⟩
    · exact ⟨(h.pending p hm).1.trans (Nat.lt_succ_self _), (h.pending p hm).2⟩
  served := by
    intro j hj
    rcases Nat.lt_succ_iff_lt_or_eq.mp hj with hlt | rfl
    · exact (h.served j hlt).imp_left (List.mem_cons_of_mem _)
    · exact .inl (List.mem_cons_self ..)
  unborn := fun j hj => h.unborn j (Nat.le_of_succ_le hj)

lemma Booked.others (h : Booked ((i, l) :: roster) account made) (ho : ∀ j, j ≠ i → account' j = account j) :
    (∀ p ∈ roster, p.1 < made ∧ account' p.1 = p.2) ∧ (∀ j < made, j ≠ i → j ∈ roster.map Prod.fst ∨ Served (account' j)) ∧
      ∀ j, made ≤ j → account' j = [] := by
  have hi := (h.pending (i, l) (List.mem_cons_self ..)).1
  have hsingle := h.single
  rw [List.map_cons, List.nodup_cons] at hsingle
  refine ⟨fun p hm => ?_, fun j hj hne => ?_, fun j hj => ?_⟩
  · have hne : p.1 ≠ i := by
      rintro hpi
      exact hsingle.1 (List.mem_map.mpr ⟨p, hm, hpi⟩)
    rw [ho p.1 hne]
    exact h.pending p (List.mem_cons_of_mem _ hm)
  · rw [ho j hne]
    refine (h.served j hj).imp_left fun hm => ?_
    rw [List.map_cons] at hm
    exact (List.mem_cons.mp hm).resolve_left hne
  · have hne : j ≠ i := by
      simp only at hi
      omega
    rw [ho j hne]
    exact h.unborn j hj

lemma Booked.advance (h : Booked ((i, l) :: roster) account made) (ho : ∀ j, j ≠ i → account' j = account j)
    (hi : account' i = l') : Booked ((i, l') :: roster) account' made := by
  obtain ⟨hpending, hserved, hunborn⟩ := h.others ho
  refine ⟨h.single, fun p hm => ?_, fun j hj => ?_, hunborn⟩
  · rcases List.mem_cons.mp hm with rfl | hm
    · exact ⟨(h.pending (i, l) (List.mem_cons_self ..)).1, hi⟩
    · exact hpending p hm
  · by_cases hji : j = i
    · exact .inl (by simp [hji])
    · exact (hserved j hj hji).imp_left fun hm => by simp [hm]

lemma Booked.settle (h : Booked ((i, l) :: roster) account made) (ho : ∀ j, j ≠ i → account' j = account j)
    (hi : Served (account' i)) : Booked roster account' made := by
  obtain ⟨hpending, hserved, hunborn⟩ := h.others ho
  have hsingle := h.single
  rw [List.map_cons, List.nodup_cons] at hsingle
  refine ⟨hsingle.2, hpending, fun j hj => ?_, hunborn⟩
  by_cases hji : j = i
  · exact .inr (hji ▸ hi)
  · exact hserved j hj hji

lemma Booked.replace (h : Booked ((i, l) :: roster) account made) (ho : ∀ j, j ≠ i → account' j = account j)
    {new : List (Nat × List Moment)} (hn : new = [(i, account' i)] ∨ new = [] ∧ Served (account' i)) :
    Booked (new ++ roster) account' made := by
  rcases hn with rfl | ⟨rfl, hi⟩
  · exact h.advance ho rfl
  · exact h.settle ho hi

end Books

def caller (hooks : Hooks U) : Nat := (hooks.stdout.map owner).getD 0

/-- The call that a task serves; the session leaves the hook for the standard output as it is. -/
def taskCaller (task : Task (Hook U)) : Nat :=
  match task.hooks.stdout with
  | some (.user _ u) => owner u
  | _ => 0

/-- The call for which a further task follows. -/
def follows? : Hook U → Option Nat
  | .inspection q hooks => if q.expression.scope.isEmpty then none else some (caller owner hooks)
  | _ => none

/-- What the call of a task has seen while the task waits for its reply. -/
def announced (task : Task (Hook U)) (dispatched : Bool) : List Moment :=
  if dispatched || task.hooks.beforeRun.isNone then [.beforeRun] else []

/-- The tasks that a session hands in for a call. -/
inductive Commissioned (i : Nat) : Task (Hook U) → Prop
  | run {code hooks} (h : Owned owner i hooks) : Commissioned i (runTask code (some hooks))
  | names {q hooks} (h : Owned owner i hooks) : Commissioned i (namesTask q hooks)
  | inspection {q hooks} (h : Owned owner i hooks) : Commissioned i (inspectionTask q hooks)
  | scope {q hooks report} (h : Owned owner i hooks) : Commissioned i (scopeTask q hooks report)

/-- It is a hook of the session itself. -/
def internal : Hook U → Bool
  | .user .. => false
  | _ => true

variable {owner} {i : Nat} {hooks : Hooks U} {task : Task (Hook U)}

lemma Owned.mark (h : Owned owner i hooks) (moment : Moment) (hm : moment ≠ .stdout ∧ moment ≠ .stderr) :
    mark owner moment (hooks.get moment) = [(i, moment)] := by
  obtain ⟨u, hu, rfl⟩ := h moment
  rw [Option.mem_def] at hu
  cases moment <;> simp_all [Session.mark, note]

lemma Owned.caller (h : Owned owner i hooks) : caller owner hooks = i := by
  obtain ⟨u, hu, rfl⟩ := h .stdout
  rw [Option.mem_def, Hooks.get] at hu
  simp [Session.caller, hu]

@[simp] lemma effects_user (moment : Moment) (hook : Option U) :
    effects owner (hook.map (.user moment)) = mark owner moment hook := by
  cases hook <;> rfl

lemma Owned.effects (h : Owned owner i hooks) (moment : Moment) (hm : moment ≠ .stdout ∧ moment ≠ .stderr) :
    effects owner ((hooks.get moment).map (.user moment)) = [(i, moment)] := by
  rw [effects_user, h.mark moment hm]

lemma Owned.isSome (h : Owned owner i hooks) (moment : Moment) : (hooks.get moment).isSome = true := by
  obtain ⟨u, hu, -⟩ := h moment
  rw [Option.mem_def.mp hu]
  rfl

section Tasks

variable (hc : Commissioned owner i task)
include hc

lemma Commissioned.caller : taskCaller owner task = i := by
  have hstd : ∃ hooks, Owned owner i hooks ∧ task.hooks.stdout = hooks.stdout.map (.user .stdout) := by
    cases hc <;> exact ⟨_, ‹_›, rfl⟩
  obtain ⟨hooks, ho, hs⟩ := hstd
  obtain ⟨u, hu, rfl⟩ := ho .stdout
  rw [Option.mem_def, Hooks.get] at hu
  simp [taskCaller, hs, hu]

lemma Commissioned.opening :
    effects owner task.hooks.beforeRun = if task.hooks.beforeRun.isNone then [] else [(i, .beforeRun)] := by
  cases hc with
  | run h | names h | inspection h =>
    rename_i hooks
    change effects owner ((hooks.get .beforeRun).map (.user .beforeRun)) =
      if ((hooks.get .beforeRun).map (Hook.user .beforeRun)).isNone then [] else [(i, .beforeRun)]
    rw [h.effects .beforeRun (by simp), Option.isNone_map, ← Option.not_isSome, h.isSome]
    rfl
  | scope => rfl

lemma Commissioned.output {moment : Moment} (hm : moment = .stdout ∨ moment = .stderr) :
    effects owner (task.hooks.get moment) = [] := by
  have hcallers : ∀ hooks : Hooks U, effects owner ((hooks.get moment).map (.user moment)) = [] := by
    intro hooks
    rcases hm with rfl | rfl <;> cases hooks.get _ <;> rfl
  rcases hm with rfl | rfl <;> cases hc <;> exact hcallers _

lemma Commissioned.internal {moment : Moment} {h : Hook U} (hh : task.hooks.get moment = some h) (hf : internal h = true) :
    moment = .success ∨ moment = .error := by
  have hcallers : ∀ {hooks : Hooks U} {moment : Moment}, (hooks.get moment).map (.user moment) ≠ some h := by
    intro hooks moment hm
    obtain ⟨u, -, rfl⟩ := Option.map_eq_some_iff.mp hm
    cases hf
  cases moment with
  | success => exact .inl rfl
  | error => exact .inr rfl
  | beforeRun | afterRun | stdout | stderr =>
    exfalso
    cases hc <;> first
      | exact hcallers hh
      | cases hh

lemma Commissioned.inspected {moment : Moment} {q : Question} {hooks : Hooks U}
    (hh : task.hooks.get moment = some (.inspection q hooks)) : Owned owner i hooks := by
  rcases hc.internal hh rfl with rfl | rfl
  · cases hc with
    | inspection h =>
      obtain ⟨rfl, rfl⟩ : _ = q ∧ _ = hooks := by simpa using Option.some.inj hh
      exact h
    | run =>
      obtain ⟨u, -, hu⟩ := Option.map_eq_some_iff.mp hh
      cases hu
    | names | scope => cases hh
  · cases hc <;> first
      | cases hh
      | (obtain ⟨u, -, hu⟩ := Option.map_eq_some_iff.mp hh
         cases hu)

lemma Commissioned.fails : ∃ h, task.hooks.error = some h ∧ follows? owner h = none ∧ (∀ payload, Accepts payload h) ∧
    effect owner h ++ effects owner task.hooks.afterRun = [(i, .error), (i, .afterRun)] := by
  cases hc with
  | run ho | names ho | scope ho =>
    rename_i hooks
    obtain ⟨u, hu, rfl⟩ := ho .error
    refine ⟨.user .error u, congrArg (Option.map (Hook.user .error)) hu, rfl, fun _ => trivial, ?_⟩
    exact congrArg (effect owner (.user .error u) ++ ·) (ho.effects .afterRun (by simp))
  | inspection ho =>
    rename_i hooks
    refine ⟨.inspectionError hooks, rfl, rfl, fun _ => trivial, ?_⟩
    have he := ho.mark .error (by simp)
    have ha := ho.mark .afterRun (by simp)
    exact congrArg₂ (fun a b => (a ++ b) ++ []) he ha

lemma Commissioned.succeeds : ∃ h, task.hooks.success = some h ∧
    (follows? owner h = some i ∧ effect owner h ++ effects owner task.hooks.afterRun = [] ∨
      follows? owner h = none ∧
        effect owner h ++ effects owner task.hooks.afterRun = [(i, .success), (i, .afterRun)]) := by
  cases hc with
  | run ho =>
    rename_i hooks
    obtain ⟨u, hu, rfl⟩ := ho .success
    refine ⟨.user .success u, congrArg (Option.map (Hook.user .success)) hu, .inr ⟨rfl, ?_⟩⟩
    exact congrArg (effect owner (.user .success u) ++ ·) (ho.effects .afterRun (by simp))
  | names ho =>
    rename_i q hooks
    refine ⟨.names q hooks.success, rfl, .inr ⟨rfl, ?_⟩⟩
    exact congrArg₂ (· ++ ·) (ho.mark .success (by simp)) (ho.effects .afterRun (by simp))
  | scope ho =>
    rename_i q hooks report
    refine ⟨.scopeInspection report q hooks, rfl, .inr ⟨rfl, ?_⟩⟩
    exact congrArg₂ (· ++ ·) (ho.mark .success (by simp)) (ho.effects .afterRun (by simp))
  | inspection ho =>
    rename_i q hooks
    refine ⟨.inspection q hooks, rfl, ?_⟩
    change _ ∧ _ ++ [] = _ ∨ _ ∧ _ ++ [] = _
    rw [List.append_nil]
    cases hs : q.expression.scope.isEmpty with
    | false => exact .inl ⟨by simp [follows?, hs, ho.caller], by simp [effect, hs]⟩
    | true =>
      have hsuccess := ho.mark .success (by simp)
      have hafter := ho.mark .afterRun (by simp)
      simp only [Hooks.get] at hsuccess hafter
      exact .inr ⟨by simp [follows?, hs], by simp [effect, hs, hsuccess, hafter]⟩

/-- The result of a task ends its call, or is followed by a further task of it. -/
lemma Commissioned.result {moment : Moment} (hm : moment = .success ∨ moment = .error) :
    ∃ h, task.hooks.get moment = some h ∧ (moment = .error → ∀ payload, Accepts payload h) ∧
      (follows? owner h = some i ∧ effect owner h ++ effects owner task.hooks.afterRun = [] ∨
        follows? owner h = none ∧ effect owner h ++ effects owner task.hooks.afterRun = [(i, moment), (i, .afterRun)]) := by
  rcases hm with rfl | rfl
  · obtain ⟨h, hh, hresult⟩ := hc.succeeds
    exact ⟨h, hh, by simp, hresult⟩
  · obtain ⟨h, hh, hf, ha, he⟩ := hc.fails
    exact ⟨h, hh, fun _ => ha, .inr ⟨hf, he⟩⟩

lemma Commissioned.accepts {v : Value} {variant : Variant} {id : Option Int} {last : Bool} {payload : Object}
    (hd : Message.decode v = .ok (.reply variant id last payload)) (hv : variant ≠ .error)
    (hfit : fits task.action variant payload = true) {h : Hook U} (hh : task.hooks.success = some h) : Accepts payload h := by
  cases hc with
  | run =>
    obtain ⟨u, -, rfl⟩ := Option.map_eq_some_iff.mp hh
    trivial
  | names =>
    rename_i q hooks _
    obtain rfl := Option.some.inj hh
    have hn : variant = .nameList := by
      cases variant <;> simp_all [fits, namesTask, Task.build]
    subst hn
    exact accepts_names hd q
  | inspection =>
    rename_i q hooks _
    obtain rfl := Option.some.inj hh
    have hi : variant = .inspection := by
      cases variant <;> simp_all [fits, inspectionTask, Task.build]
    subst hi
    exact accepts_inspection hd q
  | scope =>
    obtain rfl := Option.some.inj hh
    have hi : variant = .inspection ∧ constructorsListed payload = true := by
      cases variant <;> simp_all [fits, scopeTask, Task.build]
    obtain ⟨rfl, hl⟩ := hi
    exact accepts_scope hd hl

end Tasks

end EvalSession.Session
