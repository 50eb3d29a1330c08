import EvalSession.Proofs.Coordinator.Shape

/-!
# The ledger of a coordinator

`Dispatch` lists the events that one dispatch can leave in a trace; `Dispatches` strings those of all tasks together,
without gaps and without overlap. `Sound` collects what holds of every machine: how its stack is built, which tasks it
keeps, where each of them is queued, and how far the dispatch under way has got.
-/
namespace EvalSession.Coordinator

variable {H X : Type}

@[simp] def Event.ofDispatch? : Event H X → Option (Event H X)
  | .opened t id => some (.opened t id)
  | .ready id x => some (.ready id x)
  | .transforming x code => some (.transforming x code)
  | .transformed id code => some (.transformed id code)
  | .sent request => some (.sent request)
  | _ => none

instance : Discreet (H := H) (X := X) Event.ofDispatch? := ⟨fun e he => by cases e <;> simp_all⟩

def dispatchEvents (es : List (Event H X)) : List (Event H X) := gather Event.ofDispatch? es

/-- The events of the dispatch of one task, as far as it got. The context has the number after that of the task. A
transform that is in force when the hook before the run is over is called once, and what it returns is sent. -/
inductive Dispatch (task : Task H) (t : Nat) : List (Event H X) → Prop
  | opened : Dispatch task t [.opened t (t + 1)]
  | verbatim {x} (h : task.action = .run → x = none) :
      Dispatch task t [.opened t (t + 1), .ready (t + 1) x]
  | verbatimSent {x code} (h : task.action = .run → x = none) (hc : task.code = .string code) :
      Dispatch task t [.opened t (t + 1), .ready (t + 1) x, .sent ⟨task.action, code, t + 1⟩]
  | asked {x} (h : task.action = .run) :
      Dispatch task t [.opened t (t + 1), .ready (t + 1) (some x), .transforming x task.code]
  | transformed {x v} (h : task.action = .run) :
      Dispatch task t
        [.opened t (t + 1), .ready (t + 1) (some x), .transforming x task.code, .transformed (t + 1) v]
  | transformedSent {x code} (h : task.action = .run) :
      Dispatch task t
        [.opened t (t + 1), .ready (t + 1) (some x), .transforming x task.code, .transformed (t + 1) (.string code),
          .sent ⟨.run, code, t + 1⟩]

/-- The events of the dispatches of some tasks, one after the other. -/
inductive Dispatches : List (Task H) → List (Event H X) → Prop
  | none : Dispatches [] []
  | next {tasks es task block} (prior : Dispatches tasks es) (own : Dispatch task tasks.length block) :
      Dispatches (tasks ++ [task]) (es ++ block)

lemma requests_eq (es : List (Event H X)) : requests es = (dispatchEvents es).filterMap Event.request? := by
  simp only [requests, dispatchEvents, gather, List.filterMap_filterMap]
  refine congrArg₂ List.filterMap (funext fun e => ?_) rfl
  cases e <;> rfl

lemma Dispatch.contextId {task : Task H} {t : Nat} {block : List (Event H X)} (h : Dispatch task t block) :
    (block.filterMap Event.request?).map Request.contextId <+: [t + 1] := by
  cases h <;> simp [List.filterMap_cons]

/-- At most one request is sent for each of the tasks, and in their order. -/
lemma Dispatches.contextIds {tasks : List (Task H)} {es : List (Event H X)} (h : Dispatches tasks es) :
    ((es.filterMap Event.request?).map Request.contextId).Pairwise (· < ·) ∧
      ∀ id ∈ (es.filterMap Event.request?).map Request.contextId, id ≤ tasks.length := by
  induction h with
  | none => simp
  | next prior own ih =>
    obtain ⟨hp, hle⟩ := ih
    have hsub := own.contextId.sublist
    rw [List.filterMap_append, List.map_append]
    refine ⟨List.pairwise_append.mpr ⟨hp, (List.pairwise_singleton _ _).sublist hsub, fun a ha b hb => ?_⟩,
      fun id hid => ?_⟩
    · have := hle a ha
      have := List.mem_singleton.mp (hsub.subset hb)
      omega
    · rw [List.length_append, List.length_singleton]
      rcases List.mem_append.mp hid with hid | hid
      · exact (hle id hid).trans (Nat.le_succ _)
      · exact (List.mem_singleton.mp (hsub.subset hid)).le

lemma Dispatch.request {task : Task H} {t : Nat} {block : List (Event H X)} (h : Dispatch task t block) {r : Request}
    (hr : .sent r ∈ block) : r.contextId = t + 1 ∧ r.action = task.action := by
  cases h <;> simp_all

lemma Dispatches.request {tasks : List (Task H)} {es : List (Event H X)} (h : Dispatches tasks es) {r : Request}
    (hr : .sent r ∈ es) : ∃ t task, r.contextId = t + 1 ∧ tasks[t]? = some task ∧ r.action = task.action := by
  induction h with
  | none => cases hr
  | next prior own ih =>
    rename_i tasks es task block
    rcases List.mem_append.mp hr with hr | hr
    · obtain ⟨t, earlier, hid, ht, ha⟩ := ih hr
      exact ⟨t, earlier, hid, by rw [List.getElem?_append_left (List.getElem?_eq_some_iff.mp ht).1, ht], ha⟩
    · obtain ⟨hid, ha⟩ := own.request hr
      exact ⟨tasks.length, task, hid, List.getElem?_concat_length, ha⟩

lemma Dispatch.opened_id {task : Task H} {t u id : Nat} {block : List (Event H X)} (h : Dispatch task t block)
    (hm : .opened u id ∈ block) : id = u + 1 := by
  cases h <;> simp_all

lemma Dispatches.opened_id {tasks : List (Task H)} {es : List (Event H X)} (h : Dispatches tasks es) {t id : Nat}
    (hm : .opened t id ∈ es) : id = t + 1 := by
  induction h with
  | none => cases hm
  | next prior own ih => exact (List.mem_append.mp hm).elim ih own.opened_id

@[simp] def Frame.begun? : Frame H X → Option Nat
  | .dispatch t => some t
  | _ => none

/-- The task of a dispatch that has been called and has not opened a context yet. -/
def begun (stack : List (Frame H X)) : List Nat := stack.filterMap Frame.begun?

@[simp] lemma begun_cons (f : Frame H X) (stack : List (Frame H X)) :
    begun (f :: stack) = f.begun?.toList ++ begun stack := by
  cases h : f.begun? <;> simp only [begun, h, List.filterMap_cons, Option.toList, List.nil_append, List.cons_append]

@[simp] def Frame.running? : Frame H X → Option (Nat × Nat)
  | .prepare t id | .awaitTransform t id .. | .send t id => some (t, id)
  | _ => none

/-- What the dispatch of a task has left in the trace when it has got to this frame. -/
def Frame.Left (task : Task H) (code : Value) (t : Nat) (block : List (Event H X)) : Frame H X → Prop
  | .prepare .. => code = task.code ∧ block = [.opened t (t + 1)]
  | .awaitTransform _ _ x c =>
    task.action = .run ∧ c = task.code ∧
      block = [.opened t (t + 1), .ready (t + 1) (some x), .transforming x task.code]
  | .send .. =>
    (∃ x, (task.action = .run → x = none) ∧ code = task.code ∧ block = [.opened t (t + 1), .ready (t + 1) x]) ∨
      ∃ x, task.action = .run ∧
        block = [.opened t (t + 1), .ready (t + 1) (some x), .transforming x task.code, .transformed (t + 1) code]
  | _ => True

/-- The tasks as the coordinator keeps them: only the code of one that has been dispatched may differ. -/
structure Kept (m : Machine H X) : Prop where
  length : (given m.events).length ≤ m.state.tasks.length
  length_eq : m.state.killed = false → m.state.tasks.length = (given m.events).length
  same : ∀ t task, (given m.events)[t]? = some task →
    ∃ kept, m.state.tasks[t]? = some kept ∧ kept.action = task.action ∧ kept.hooks = task.hooks ∧
      (m.state.lastContext ≤ t → kept.code = task.code)

structure Queued (m : Machine H X) : Prop where
  numbered : gather Event.number? m.events = List.range (given m.events).length
  opened : gather Event.opened? m.events = List.range m.state.lastContext
  inOrder : List.range m.state.lastContext ++ begun m.stack ++ m.state.pending <+: List.range (given m.events).length
  complete : m.state.killed = false →
    List.range m.state.lastContext ++ begun m.stack ++ m.state.pending = List.range (given m.events).length
  slot : ∀ t, m.state.inFlight = some t → t + 1 = m.state.lastContext
  last : ∀ t, m.state.lastTask = some t ↔ t + 1 = m.state.lastContext
  free : begun m.stack = [] ∨ m.state.inFlight = none

/-- Where the dispatch of a frame stands, and what it has left in the trace so far. -/
def UnderWay (c : Coordinator H X) (es : List (Event H X)) (f : Frame H X) : Prop :=
  ∀ t id, f.running? = some (t, id) → id = t + 1 ∧ id = c.lastContext ∧
    ∃ task prior block, (given es)[t]? = some task ∧ Dispatches ((given es).take t) prior ∧
      dispatchEvents es = prior ++ block ∧ f.Left task (c.codeOf t) t block

structure Ledger (m : Machine H X) : Prop where
  story : Dispatches ((given m.events).take m.state.lastContext) (dispatchEvents m.events)
  running : ∀ f ∈ m.stack, UnderWay m.state m.events f

lemma begun_nil_of_calm {stack : List (Frame H X)} (h : ∀ f ∈ stack, f.dispatches = false) : begun stack = [] := by
  rw [begun, List.filterMap_eq_nil_iff]
  intro f hf
  have := h f hf
  cases f <;> first | rfl | cases this

lemma Leaves.begun_none {c : Coordinator H X} {fault fault' : Option Fault} {move : Move H X} {f : Frame H X}
    {quiet : List (Event H X)} {r : List (Frame H X)} {es : List (Event H X)} (h : Leaves c fault move f fault' quiet)
    (hs : Shape ⟨c, f :: r, fault, es⟩) : f.begun? = none := by
  cases h with
  | unwound =>
    have := hs.settled (by simp) f rfl
    cases f <;> first | rfl | cases this
  | _ => rfl

lemma begun_closing (nt : Notice) (t : Nat) (r : List (Frame H X)) :
    begun (closing nt t ++ r) = begun r := by
  unfold closing
  split <;> simp

lemma range_prefix_succ {n k t : Nat} {rest : List Nat} (h : List.range n ++ t :: rest <+: List.range k) : t = n := by
  have hlt : n < (List.range n ++ t :: rest).length := by simp
  have := h.getElem hlt
  simpa using this

/-- The task that is being dispatched is the first one without a context. -/
lemma Queued.dispatching {c : Coordinator H X} {t : Nat} {fault : Option Fault} {r : List (Frame H X)}
    {es : List (Event H X)} (hq : Queued ⟨c, .dispatch t :: r, fault, es⟩) :
    t = c.lastContext ∧ ∃ task, (given es)[t]? = some task := by
  have hin := hq.inOrder
  simp only [begun_cons, Frame.begun?, Option.toList_some, List.cons_append, List.nil_append, List.append_assoc] at hin
  obtain rfl := range_prefix_succ hin
  have hlt : c.lastContext < (given es).length := by
    have := hin.length_le
    simp only [List.length_append, List.length_cons, List.length_range] at this
    omega
  exact ⟨rfl, _, List.getElem?_eq_getElem hlt⟩

theorem queued_step {m n : Machine H X} {move : Move H X} (h : Stage m move n) (hs : Shape m) (hk : Kept m)
    (hq : Queued m) : Queued n := by
  obtain ⟨hn, ho, hi, hc, hsl, hl, hf⟩ := hq
  cases h with
  | left h =>
    have hb := h.begun_none hs
    have hr := h.silent
    simp only [given, begun_cons, hb, Option.toList_none, List.nil_append] at *
    constructor <;> simpa only [given, gather_silent _ hr]
  | taken hk' | queued hk' =>
    have hlen := hk.length_eq hk'
    have he := hc hk'
    simp only [given, begun_cons, Frame.begun?, Option.toList_none, List.nil_append] at *
    have hnew := congrArg (· ++ [(gather Event.task? ‹List (Event H X)›).length]) he
    simp only [List.append_assoc, ← List.range_succ] at hnew
    exact ⟨by simp [given, hlen, hn, List.range_succ], by simpa using ho, by simp [given, hlen, hnew],
      fun _ => by simp [given, hlen, hnew], hsl, hl, by simpa using hf⟩
  | next hk' hi' hp =>
    have hb := begun_nil_of_calm fun f hf => (hs.calm_below_loop rfl f hf).1
    have he := hc hk'
    simp only [begun_cons, Frame.begun?, Option.toList_none, hp, hb, List.append_nil] at hi he
    exact ⟨hn, ho, by simpa [hb] using hi, fun _ => by simpa [hb] using he, hsl, hl, .inr hi'⟩
  | opened =>
    have hb := begun_nil_of_calm (hs.calm_below rfl rfl)
    simp only [begun_cons, Frame.begun?, Option.toList_some, List.cons_append, List.nil_append, hb,
      List.append_assoc] at hi hc
    obtain rfl := range_prefix_succ hi
    refine ⟨by simpa [given] using hn, by simp [ho, openContext, List.range_succ], ?_, ?_, ?_, ?_, ?_⟩
    · simpa [openContext, List.range_succ, hb, given] using hi
    · intro hk'
      simpa [openContext, List.range_succ, hb, given] using hc hk'
    · intro t ht
      simp only [openContext, Option.some.injEq] at ht ⊢
      omega
    · intro t
      simp only [openContext, Option.some.injEq]
      omega
    · simp [hb]
  | killed =>
    simp only [given, begun_cons, Frame.begun?, Option.toList_none, List.nil_append] at *
    exact ⟨by simpa [given] using hn, by simpa using ho,
      by simpa [given] using (List.prefix_append _ _).trans hi, by simp, hsl, hl, hf⟩
  | started =>
    rename_i operation _
    cases operation <;> exact ⟨hn, ho, hi, hc, hsl, hl, hf⟩
  | recovered => exact ⟨hn, ho, hi, hc, hsl, hl, hf⟩
  | _ =>
    simp only [given, begun_cons, Frame.begun?, Option.toList_none, List.nil_append] at *
    constructor <;> simp_all [begun_closing, given]

lemma given_silent {quiet : List (Event H X)} (hq : ∀ e ∈ quiet, e.silent = true) (es : List (Event H X)) :
    given (quiet ++ es) = given es := gather_silent _ hq es

lemma dispatchEvents_silent {quiet : List (Event H X)} (hq : ∀ e ∈ quiet, e.silent = true) (es : List (Event H X)) :
    dispatchEvents (quiet ++ es) = dispatchEvents es := gather_silent _ hq es

lemma Kept.same_append {m : Machine H X} (hk : Kept m) {t : Nat} {task : Task H} (ht : (given m.events)[t]? = some task)
    (more : List (Task H)) :
    ∃ kept, (m.state.tasks ++ more)[t]? = some kept ∧ kept.action = task.action ∧ kept.hooks = task.hooks ∧
      (m.state.lastContext ≤ t → kept.code = task.code) := by
  obtain ⟨kept, hg, hrest⟩ := hk.same t task ht
  exact ⟨kept, by rw [List.getElem?_append_left (List.getElem?_eq_some_iff.mp hg).1, hg], hrest⟩

lemma Kept.keep {m n : Machine H X} (hk : Kept m) (ht : n.state.tasks = m.state.tasks)
    (hl : n.state.lastContext = m.state.lastContext) (hlive : n.state.killed = false → m.state.killed = false)
    (hg : given n.events = given m.events) : Kept n := by
  refine ⟨?_, fun h => ?_, ?_⟩
  · rw [ht, hg]
    exact hk.length
  · rw [ht, hg]
    exact hk.length_eq (hlive h)
  · rw [ht, hg, hl]
    exact hk.same

lemma Kept.take {c : Coordinator H X} {es es' : List (Event H X)} {f : Frame H X} {r r' : List (Frame H X)}
    {task : Task H} (hk : Kept ⟨c, f :: r, none, es⟩) (hc : c.killed = false)
    (hg : given es' = given es ++ [task]) :
    Kept ⟨{ c with tasks := c.tasks ++ [task], pending := c.pending ++ [c.tasks.length] }, r', none, es'⟩ := by
  have hlen := hk.length_eq hc
  refine ⟨by simp [hg, hlen], fun _ => by simp [hg, hlen], fun t new ht => ?_⟩
  simp only [hg] at ht
  rcases Nat.lt_or_ge t (given es).length with hlt | hge
  · rw [List.getElem?_append_left hlt] at ht
    exact hk.same_append ht [task]
  · obtain ⟨ht', rfl⟩ : t = (given es).length ∧ task = new := by
      rw [List.getElem?_append_right hge, List.getElem?_singleton] at ht
      split at ht <;> simp_all
      omega
    exact ⟨task, by rw [ht', ← hlen]; exact List.getElem?_concat_length, rfl, rfl, fun _ => rfl⟩

theorem kept_step {m n : Machine H X} {move : Move H X} (h : Stage m move n) (hl : Ledger m) (hk : Kept m) : Kept n := by
  cases h with
  | left h =>
    have hg := given_silent h.silent
    exact ⟨by simpa [hg] using hk.length, by simpa [hg] using hk.length_eq, by simpa [hg] using hk.same⟩
  | ignored hc =>
    refine ⟨?_, by simp [hc], fun t task ht => hk.same_append (by simpa [given] using ht) _⟩
    have := hk.length
    simp only [given, gather_logs, List.length_append, List.length_singleton] at this ⊢
    omega
  | taken hc hi => exact hk.take hc (by simp [given])
  | queued hc hi => exact hk.take hc (by simp [given])
  | opened =>
    refine ⟨by simpa [given, openContext] using hk.length, by simpa [given, openContext] using hk.length_eq,
      fun t task ht => ?_⟩
    obtain ⟨kept, hg, ha, hh, hc⟩ := hk.same t task (by simpa [given] using ht)
    exact ⟨kept, hg, ha, hh, fun hle => hc (Nat.le_of_succ_le hle)⟩
  | transformed =>
    rename_i c t id x code v r es
    obtain ⟨hid, hlast, -⟩ := hl.running _ (List.mem_cons_self ..) t id rfl
    refine ⟨by simpa [given, setCode] using hk.length, by simpa [given, setCode] using hk.length_eq,
      fun u task hu => ?_⟩
    obtain ⟨kept, hg, ha, hh, hc⟩ := hk.same u task (by simpa [given] using hu)
    simp only at hg hc hlast
    by_cases hut : t = u
    · refine ⟨{ kept with code := v }, by simp [setCode, hut, hg], ha, hh, fun hle => ?_⟩
      simp only [setCode_lastContext] at hle
      omega
    · exact ⟨kept, by simp [setCode, hut, hg], ha, hh, hc⟩
  | started =>
    rename_i operation _
    cases operation <;> exact ⟨hk.length, hk.length_eq, hk.same⟩
  | recovered => exact ⟨hk.length, hk.length_eq, hk.same⟩
  | closed => exact hk.keep (by simp) (by simp) (by simp) (by simp [given])
  | _ => exact hk.keep rfl rfl (by simp) (by simp [given])

lemma Queued.lastContext_le {m : Machine H X} (hq : Queued m) : m.state.lastContext ≤ (given m.events).length := by
  have := hq.inOrder.length_le
  simp only [List.length_append, List.length_range] at this
  omega

lemma Frame.running_none {f : Frame H X} (h : f.dispatches = false) : f.running? = none := by
  cases f <;> first | rfl | cases h

lemma UnderWay.of_none {c : Coordinator H X} {es : List (Event H X)} {f : Frame H X} (h : f.running? = none) :
    UnderWay c es f := by
  intro t id hr
  rw [h] at hr
  cases hr

lemma UnderWay.congr {c c' : Coordinator H X} {es es' : List (Event H X)} {f : Frame H X} (h : UnderWay c es f)
    (hg : given es <+: given es') (hd : dispatchEvents es' = dispatchEvents es) (hl : c'.lastContext = c.lastContext)
    (hc : ∀ t, t < (given es).length → c'.codeOf t = c.codeOf t) : UnderWay c' es' f := by
  intro t id hr
  obtain ⟨hid, hlast, task, prior, block, ht, hp, he, hleft⟩ := h t id hr
  have hlt := (List.getElem?_eq_some_iff.mp ht).1
  refine ⟨hid, hlast.trans hl.symm, task, prior, block, ?_, ?_, hd.trans he, hc t hlt ▸ hleft⟩
  · obtain ⟨more, hm⟩ := hg
    rw [← hm, List.getElem?_append_left hlt, ht]
  · obtain ⟨more, hm⟩ := hg
    rwa [← hm, List.take_append_of_le_length hlt.le]

lemma Dispatches.extend {es prior block : List (Event H X)} {t : Nat} {task : Task H} (ht : (given es)[t]? = some task)
    (hp : Dispatches ((given es).take t) prior) (hb : Dispatch task t block) :
    Dispatches ((given es).take (t + 1)) (prior ++ block) := by
  have hlen : ((given es).take t).length = t := by
    simpa using (List.getElem?_eq_some_iff.mp ht).1.le
  rw [List.take_add_one, ht]
  exact .next hp (hlen.symm ▸ hb)

lemma Ledger.go {c c' : Coordinator H X} {es es' : List (Event H X)} {f f' : Frame H X} {r : List (Frame H X)}
    {t id : Nat} (hl : Ledger ⟨c, f :: r, none, es⟩) (hr : f.running? = some (t, id)) (hcalm : ∀ g ∈ r, g.dispatches = false)
    (hg : given es' = given es) (hlast : c'.lastContext = c.lastContext)
    (hf' : id = t + 1 → ∀ task block, (given es)[t]? = some task → f.Left task (c.codeOf t) t block →
      ∃ more, dispatchEvents es' = dispatchEvents es ++ more ∧ Dispatch task t (block ++ more) ∧
        ∀ u id', f'.running? = some (u, id') → u = t ∧ id' = id ∧ f'.Left task (c'.codeOf t) t (block ++ more)) :
    Ledger ⟨c', f' :: r, none, es'⟩ := by
  obtain ⟨hid, hid', task, prior, block, ht, hp, he, hleft⟩ := hl.running f (List.mem_cons_self ..) t id hr
  obtain ⟨more, hmore, hd, hrun⟩ := hf' hid task block ht hleft
  simp only at hid' he ht hp
  have he' : dispatchEvents es' = prior ++ (block ++ more) := by rw [hmore, he, List.append_assoc]
  refine ⟨?_, ?_⟩
  · have := Dispatches.extend ht hp hd
    simp only [he', hg, hlast, ← hid', hid]
    exact this
  · intro g hgm
    rcases List.mem_cons.mp hgm with rfl | hgm
    · intro u id' hu
      obtain ⟨rfl, rfl, hleft'⟩ := hrun u id' hu
      exact ⟨hid, hid'.trans hlast.symm, task, prior, block ++ more, hg ▸ ht, hg ▸ hp, he', hleft'⟩
    · exact .of_none (Frame.running_none (hcalm g hgm))

/-- The ledger is kept by what neither takes tasks in nor has to do with a dispatch. -/
lemma Ledger.keep {m n : Machine H X} (hl : Ledger m) (hg : given n.events = given m.events)
    (hd : dispatchEvents n.events = dispatchEvents m.events) (hlast : n.state.lastContext = m.state.lastContext)
    (ht : n.state.tasks = m.state.tasks) (hs : ∀ f ∈ n.stack, f ∈ m.stack ∨ f.running? = none) : Ledger n := by
  refine ⟨by rw [hg, hd, hlast]; exact hl.story, fun f hf => ?_⟩
  rcases hs f hf with hf | hf
  · exact (hl.running f hf).congr (by rw [hg]) hd hlast fun t _ => by simp [codeOf, ht]
  · exact .of_none hf

lemma Ledger.take {c : Coordinator H X} {es es' : List (Event H X)} {f : Frame H X} {r r' : List (Frame H X)}
    {task : Task H} (hl : Ledger ⟨c, f :: r, none, es⟩) (hk : Kept ⟨c, f :: r, none, es⟩)
    (hq : Queued ⟨c, f :: r, none, es⟩) (hg : given es' = given es ++ [task])
    (hd : dispatchEvents es' = dispatchEvents es) (hr : ∀ f ∈ r', f ∈ r ∨ f.running? = none) :
    Ledger ⟨{ c with tasks := c.tasks ++ [task], pending := c.pending ++ [c.tasks.length] }, r', none, es'⟩ := by
  refine ⟨?_, fun f hf => ?_⟩
  · have hle := hq.lastContext_le
    simp only [hg, hd] at hle ⊢
    rw [List.take_append_of_le_length hle]
    exact hl.story
  · rcases hr f hf with hf | hf
    · refine (hl.running f (List.mem_cons_of_mem _ hf)).congr (by simp [hg]) hd rfl fun t ht => ?_
      have hlen : t < c.tasks.length := ht.trans_le hk.length
      simp [codeOf, List.getElem?_append_left hlen]
    · exact .of_none hf

lemma request_code {action : Action} {code : Value} {id : Nat} {request : Request}
    (h : Request.make action code id = .ok request) : ∃ text, code = .string text ∧ request = ⟨action, text, id⟩ := by
  cases code <;> simp_all [Request.make, Field.within, Field.string, Field.fail, Except.map]

lemma Ledger.dispatch {c : Coordinator H X} {t : Nat} {r : List (Frame H X)} {es : List (Event H X)}
    (hl : Ledger ⟨c, .dispatch t :: r, none, es⟩) (hs : Shape ⟨c, .dispatch t :: r, none, es⟩)
    (hk : Kept ⟨c, .dispatch t :: r, none, es⟩) (hq : Queued ⟨c, .dispatch t :: r, none, es⟩) :
    Ledger ⟨c.openContext t, .call t .beforeRun .nothing :: .prepare t (c.lastContext + 1) :: r, none,
      .opened t (c.lastContext + 1) :: es⟩ := by
  have hcalm := hs.calm_below rfl rfl
  obtain ⟨rfl, task, ht⟩ := hq.dispatching
  obtain ⟨kept, hkt, hact, -, hcode⟩ := hk.same _ task ht
  have hd : dispatchEvents (.opened c.lastContext (c.lastContext + 1) :: es) =
      dispatchEvents es ++ [.opened c.lastContext (c.lastContext + 1)] := by simp [dispatchEvents]
  refine ⟨?_, fun f hf => ?_⟩
  · simpa [openContext, hd, given] using Dispatches.extend ht hl.story .opened
  · simp only [List.mem_cons] at hf
    rcases hf with rfl | rfl | hf
    · exact .of_none rfl
    · rintro u id ⟨⟩
      exact ⟨rfl, rfl, task, _, _, by simpa [given] using ht, by simpa [given] using hl.story, hd,
        by simpa [codeOf, openContext, hkt] using hcode (Nat.le_refl _), rfl⟩
    · exact .of_none (Frame.running_none (hcalm f hf))

lemma Ledger.send {c : Coordinator H X} {t id : Nat} {request : Request} {r : List (Frame H X)} {es : List (Event H X)}
    (hl : Ledger ⟨c, .send t id :: r, none, es⟩) (hs : Shape ⟨c, .send t id :: r, none, es⟩)
    (hk : Kept ⟨c, .send t id :: r, none, es⟩) (h : Request.make (c.actionOf t) (c.codeOf t) id = .ok request) :
    Ledger ⟨c, .awaitSend request :: r, none, .sent request :: (logs [.dispatching (c.actionOf t)] ++ es)⟩ := by
  refine hl.go rfl (hs.calm_below rfl rfl) (by simp [given]) rfl fun hid task block ht hleft => ?_
  obtain ⟨text, hcode, rfl⟩ := request_code h
  obtain ⟨kept, hkt, hact, -⟩ := hk.same t task ht
  have haction : c.actionOf t = task.action := by simp [actionOf, hkt, hact]
  refine ⟨[.sent ⟨c.actionOf t, text, id⟩], by simp [dispatchEvents], ?_, by simp⟩
  rw [haction, hid]
  rcases hleft with ⟨x, hx, hc, rfl⟩ | ⟨x, hrun, rfl⟩
  · exact .verbatimSent hx (hc.symm.trans hcode)
  · rw [hcode, hrun]
    exact .transformedSent hrun

theorem ledger_step {m n : Machine H X} {move : Move H X} (h : Stage m move n) (hs : Shape m) (hk : Kept m)
    (hq : Queued m) (hl : Ledger m) : Ledger n := by
  cases h with
  | left h =>
    exact hl.keep (given_silent h.silent _) (dispatchEvents_silent h.silent _) rfl rfl
      fun f hf => .inl (List.mem_cons_of_mem _ hf)
  | ignored =>
    refine ⟨by simpa [given, dispatchEvents] using hl.story, fun f hf => ?_⟩
    refine (hl.running f (List.mem_cons_of_mem _ hf)).congr (by simp [given]) (by simp [dispatchEvents]) rfl fun t ht => ?_
    simp [codeOf, List.getElem?_append_left (ht.trans_le hk.length)]
  | taken => exact hl.take hk hq (by simp [given]) (by simp [dispatchEvents]) (by simp +contextual)
  | queued => exact hl.take hk hq (by simp [given]) (by simp [dispatchEvents]) (by simp +contextual)
  | opened => exact hl.dispatch hs hk hq
  | asked ha hx =>
    rename_i c t id x r es
    refine hl.go rfl (hs.calm_below rfl rfl) (by simp [given]) rfl fun hid task block ht hleft => ?_
    obtain ⟨hcode, rfl⟩ := hleft
    obtain ⟨kept, hkt, hact, -⟩ := hk.same t task ht
    have hrun : task.action = .run := by simpa [actionOf, hkt, hact] using ha
    refine ⟨[.ready id (some x), .transforming x (c.codeOf t)], by simp [dispatchEvents], ?_, ?_⟩
    · rw [hid, hcode]
      exact .asked hrun
    · rintro u id' ⟨⟩
      exact ⟨rfl, rfl, hrun, hcode, by simp [hid, hcode]⟩
  | verbatim h =>
    rename_i c t id r es
    refine hl.go rfl (hs.calm_below rfl rfl) (by simp [given]) rfl fun hid task block ht hleft => ?_
    obtain ⟨hcode, rfl⟩ := hleft
    obtain ⟨kept, hkt, hact, -⟩ := hk.same t task ht
    have hrun : task.action = .run → c.transform = none := fun ha => h (by simp [actionOf, hkt, hact, ha])
    refine ⟨[.ready id c.transform], by simp [dispatchEvents], by rw [hid]; exact .verbatim hrun, ?_⟩
    rintro u id' ⟨⟩
    exact ⟨rfl, rfl, .inl ⟨c.transform, hrun, hcode, by simp [hid]⟩⟩
  | transformed =>
    rename_i c t id x code v r es
    refine hl.go rfl (hs.calm_below rfl rfl) (by simp [given]) rfl fun hid task block ht hleft => ?_
    obtain ⟨hrun, rfl, rfl⟩ := hleft
    obtain ⟨kept, hkt, -⟩ := hk.same t task ht
    refine ⟨[.transformed id v], by simp [dispatchEvents], by rw [hid]; exact .transformed hrun, ?_⟩
    rintro u id' ⟨⟩
    exact ⟨rfl, rfl, .inr ⟨x, hrun, by simp [hid, codeOf, setCode, hkt]⟩⟩
  | sent h => exact hl.send hs hk h
  | answered =>
    rename_i nt t r es entries _ _ _
    refine hl.keep (by simp [given]) (by simp [dispatchEvents]) rfl rfl fun f hf => ?_
    have hclosing : f ∈ closing nt t → f.running? = none := by
      unfold closing
      split <;> simp +contextual
    simp only [List.mem_cons, List.mem_append] at hf
    rcases hf with rfl | hf | rfl | hf
    · exact .inr rfl
    · exact .inr (hclosing hf)
    · exact .inr rfl
    · exact .inl (List.mem_cons_of_mem _ hf)
  | started =>
    rename_i operation _
    refine hl.keep rfl rfl rfl rfl fun f hf => ?_
    rcases List.mem_cons.mp hf with rfl | hf
    · exact .inr (by cases operation <;> rfl)
    · exact .inl hf
  | recovered => exact hl.keep rfl rfl rfl rfl fun f hf => .inl hf
  | _ =>
    refine hl.keep (by simp [given]) (by simp [dispatchEvents]) (by simp) (by simp) ?_
    simp +contextual

/-- What holds of every machine. -/
structure Sound (m : Machine H X) : Prop where
  shape : Shape m
  kept : Kept m
  queued : Queued m
  ledger : Ledger m

/-- A context has the number after that of its task. -/
lemma Sound.opened_id {m : Machine H X} (hs : Sound m) {t k : Nat} (h : .opened t k ∈ m.events) : k = t + 1 :=
  hs.ledger.story.opened_id (List.mem_filterMap.mpr ⟨_, List.mem_reverse.mpr h, rfl⟩)

theorem sound_fresh (x : Option X) : Sound (Machine.fresh (H := H) x) where
  shape := ⟨trivial, rfl, by simp [Machine.fresh]⟩
  kept := ⟨by simp [Machine.fresh, given], by simp [Machine.fresh, given], by simp [Machine.fresh, given]⟩
  queued := by constructor <;> simp [Machine.fresh, given, begun]
  ledger := ⟨.none, by simp [Machine.fresh]⟩

theorem sound_step {m n : Machine H X} {move : Move H X} (h : Stage m move n) (hs : Sound m) : Sound n :=
  ⟨shape_step h hs.shape, kept_step h hs.ledger hs.kept, queued_step h hs.shape hs.kept hs.queued,
    ledger_step h hs.shape hs.kept hs.queued hs.ledger⟩

end EvalSession.Coordinator
