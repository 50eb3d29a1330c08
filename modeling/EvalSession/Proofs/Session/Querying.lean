import EvalSession.Proofs.Kernel.Queries
import EvalSession.Proofs.Session.Delivery
import EvalSession.Proofs.Session.Kernels

/-!
# What a kernel evaluates for a session

Main statement: a live session that has nothing to do makes its kernel evaluate the query of a completion with the scope left
of the cursor in it, and that of an inspection with what is matched there, each as it stands (`queries_evaluated`). The hook
before the run comes first; what it does meanwhile makes no difference to the query.
-/
namespace EvalSession

namespace Expression

/-- No scope spells the one of names at top level, which ends in a call. -/
lemma scope_ne_globalScope {code : List Char} {cursor : Int} {e : Expression} (h : parse code cursor = some e) :
    String.ofList e.scope ≠ Query.globalScope := by
  intro hglobal
  have hscope : e.scope = Query.globalScope.toList := by rw [← hglobal, String.toList_ofList]
  have hlast : Query.globalScope.toList.getLast? = some ')' := by decide
  have hends := scope_endsClosed h ')' (by rw [hscope, hlast, Option.mem_def])
  exact absurd hends (by decide)

end Expression

namespace Session

open Coordinator (given)

variable {U X : Type}

/-- What a kernel is asked to execute: the message id, the code and the options. -/
def Event.execution? : Event U X → Option (String × String × Object)
  | .executed messageId code options => some (messageId, code, options)
  | _ => none

def executions (es : List (Event U X)) : List (String × String × Object) := es.reverse.filterMap Event.execution?

/-- How a kernel is made to evaluate an expression: it runs no code, silently, and replies with the value. -/
def evaluation (text : String) : String × Object :=
  ("", [("silent", .bool true), ("store_history", .bool false),
    ("user_expressions", .object [(Kernel.resultKey, .string text)]), ("allow_stdin", .bool false)])

/-- What is left of the dispatch of a task when its hook before the run has come to its end. -/
def dispatching (g t id : Nat) (r : List (Frame U X)) : List (Frame U X) :=
  .link g (.prepare t id) :: .link g .drainLoop :: r

/-- The kernel of the link is made to evaluate the text, and nothing else changes in the session. -/
def Evaluates (b n : Machine U X) (g : Nat) (text : String) : Prop :=
  ∃ k request, workerOf b.state g = some (.kernel k) ∧
    n.state = b.state.setKernel g (k.register request k.nextMessageId) ∧
    executions n.events = executions b.events ++ [(k.nextMessageId, evaluation text)]

/-- The hook before the run is about to be called, and nothing has been executed yet. If there is none, or if it comes to its
end, the kernel evaluates the text; so it does whatever else has been done by then. -/
structure Queries (m p : Machine U X) (t id : Nat) (hook : Option U) (text : String) : Prop where
  announcing : p.stack = .link m.state.current (.call t .beforeRun .nothing) :: dispatching m.state.current t id m.stack
  unasked : p.fault = none ∧ executions p.events = executions m.events
  announced : ∀ {a : Answer}, (Move.answer a : Move U X).mild = true → ∃ b, p.run (telling hook a) = some b ∧
    b.stack = dispatching m.state.current t id m.stack ∧ b.fault = none ∧ executions b.events = executions m.events
  evaluated : ∀ {later : List (Move U X)} {b : Machine U X}, p.run later = some b →
    b.stack = dispatching m.state.current t id m.stack → b.fault = none →
      ∃ n, b.run [.tick, .tick, .tick] = some n ∧ n.stack = .link m.state.current .drainLoop :: m.stack ∧
        n.fault = none ∧ Evaluates b n m.state.current text

/-- A kernel that takes the task evaluates this text. -/
structure Poses (task : Task (Hook U)) (hook : Option U) (text : String) : Prop where
  beforeRun : task.hooks.beforeRun = hook.map (.user .beforeRun)
  action : task.action ≠ .run
  code : ∃ code, task.code = .string code ∧ ∀ id, Kernel.execution ⟨task.action, code, id⟩ = evaluation text

lemma namesTask_poses {code : List Char} {cursor : Int} {e : Expression} (he : Expression.parse code cursor = some e)
    (hooks : Hooks U) : Poses (namesTask ⟨code, cursor, e⟩ hooks) hooks.beforeRun (Query.ofScope e.scope) where
  beforeRun := rfl
  action := by simp [namesTask, Task.build]
  code := by
    refine ⟨_, rfl, fun id => ?_⟩
    rw [← Query.names_ofScope (Expression.scope_ne_globalScope he)]
    rfl

lemma inspectionTask_poses (q : Question) (hooks : Hooks U) :
    Poses (inspectionTask q hooks) hooks.beforeRun (Query.ofText q.expression.matchedText) where
  beforeRun := rfl
  action := by simp [inspectionTask, Task.build]
  code := by
    refine ⟨_, rfl, fun id => ?_⟩
    rw [Query.ofText, ← Query.inspection_eq]
    rfl

lemma executions_append (es new : List (Event U X)) :
    executions (new.reverse ++ es) = executions es ++ new.filterMap Event.execution? := by
  simp [executions]

lemma executions_links (g : Nat) (es : List (Coordinator.Event (Hook U) X)) :
    (es.map (Event.link (U := U) g)).filterMap Event.execution? = [] := by
  simp [List.filterMap_map, Event.execution?, Function.comp_def]

section Dispatch

variable {worker : Worker} {transform : Option X} {restartable : Bool} {documentation : Documentation.Index}
  {moves : List (Move U X)} {m : Machine U X} {k : Kernel} {g t id : Nat} {r : List (Frame U X)} {task : Task (Hook U)}
  {hook : Option U} {text : String}

/-- Whatever has been done while the hook before the run had control, the dispatch of a query goes on to its evaluation. -/
lemma evaluates_of_dispatching
    (hr : Machine.run { state := Session.make worker transform restartable documentation } moves = some m)
    (hstack : m.stack = dispatching g t id r) (hfault : m.fault = none) (hk : workerOf m.state g = some (.kernel k))
    (ht : (given (eventsOf g m.events))[t]? = some task) (hq : Poses task hook text) :
    ∃ n, m.run [.tick, .tick, .tick] = some n ∧ n.stack = .link g .drainLoop :: r ∧ n.fault = none ∧
      Evaluates m n g text := by
  obtain ⟨l, hl, hworker⟩ := Option.map_eq_some_iff.mp hk
  have hsound := (links_halted hr g (List.getElem?_eq_some_iff.mp hl).1).1
  have hcoordinator : coordinatorOf m.state g = l.coordinator := by simp [coordinatorOf, hl]
  obtain ⟨code, hcode, hexecution⟩ := hq.code
  -- the dispatch under way has left the code of the task as it was
  have hprepare : .prepare t id ∈ framesOf g m.stack := by simp [hstack, dispatching]
  obtain ⟨-, -, own, -, -, hown, -, -, hleft, -⟩ := hsound.ledger.running _ hprepare t id rfl
  obtain rfl : task = own := Option.some.inj (ht.symm.trans hown)
  obtain ⟨kept, hkept, haction, -⟩ := hsound.kept.same t task ht
  have hkept : l.coordinator.tasks[t]? = some kept := hcoordinator ▸ hkept
  have hleft : l.coordinator.codeOf t = task.code := hcoordinator ▸ hleft
  have hsame : kept.code = .string code := by
    rw [← hcode, ← hleft, Coordinator.codeOf, hkept]
    rfl
  have hask : Path (m.state.setCoordinator g l.coordinator) (.link g (.prepare t id) :: .link g .drainLoop :: r) _ _ _ _ :=
    .ask hl hkept hsame (haction ▸ hq.action)
  rw [setCoordinator_same hl] at hask
  have htaken : (Frame.link g (.awaitSend ⟨kept.action, code, id⟩)).tick m.state =
      some (transmitTurn m.state g k ⟨kept.action, code, id⟩ none) := by
    simp [Frame.tick, hl, tickLink, hworker]
  obtain ⟨hrun, -⟩ := (hask.trans (.of_tick htaken rfl)) m.events
  have hmachine : m = ⟨m.state, .link g (.prepare t id) :: .link g .drainLoop :: r, none, m.events⟩ := by
    obtain ⟨s, stack, fault, es⟩ := m
    cases hstack
    cases hfault
    rfl
  refine ⟨_, (congrArg (Machine.run · _) hmachine).trans hrun, rfl, rfl, k, _, hk, rfl, ?_⟩
  have hnew : (k.nextMessageId, Kernel.execution ⟨kept.action, code, id⟩) = (k.nextMessageId, evaluation text) := by
    rw [haction, hexecution]
  rw [executions_append, ← hnew]
  rfl

lemma given_run {n : Machine U X} (hm : Housed m) (hn : m.run moves = some n) (hg : g < m.state.links.length)
    (ht : (given (eventsOf g m.events))[t]? = some task) : (given (eventsOf g n.events))[t]? = some task := by
  have hprefix : given (m.view g).events <+: given (n.view g).events :=
    view_keeps (I := fun p => given (m.view g).events <+: given p.events) unrestricted
      (fun _ hs h => h.trans hs.given_prefix) hm (follows_of_mem (fun _ _ _ => trivial) _) hn hg List.prefix_rfl
  obtain ⟨more, hmore⟩ := hprefix
  have hmore : given (eventsOf g m.events) ++ more = given (eventsOf g n.events) := hmore
  rw [← hmore, List.getElem?_append_left (List.getElem?_eq_some_iff.mp ht).1, ht]

/-- Where a task that is handed in has been engaged, and its hook before the run is about to be called. -/
def Machine.engage (m : Machine U X) (task : Task (Hook U)) (entry : Diagnostic) : Machine U X :=
  let c := m.state.coordinator
  let t := c.tasks.length
  let id := c.lastContext + 1
  { state := m.state.setCoordinator m.state.current { c.engage task with draining := true }
    stack := .link m.state.current (.call t .beforeRun .nothing) :: dispatching m.state.current t id m.stack
    events := .link m.state.current (.opened t id) :: .link m.state.current (.submitted t task) :: .log entry :: m.events }

lemma engage_run {l : Link U X} (hl : m.state.link? = some l) (hopen : m.open? = true)
    (hidle : m.state.coordinator.Vacant) {operation : Operation U X} {entry : Diagnostic}
    (htick : operation.frame.tick m.state = some ⟨m.state, [m.state.submit task], [.log entry], none⟩) :
    m.run (.start operation :: List.replicate 5 .tick) = some (m.engage task entry) := by
  have hlink : m.state.links[m.state.current]? = some l := hl
  have hcoordinator := coordinator_of_link hl
  have hsubmit := Path.submit (r := m.stack) hlink hidle task
  have hsame : m.state.setCoordinator m.state.current m.state.coordinator = m.state := by
    rw [hcoordinator, setCoordinator_same hlink]
  rw [hsame] at hsubmit
  obtain ⟨hticks, -⟩ := ((Path.of_tick htick rfl).trans hsubmit) m.events
  have hstart : m.step (.start operation) = some (m.push operation) := by simp [Machine.step, hopen]
  rw [Machine.run, hstart]
  exact hticks

variable {l : Link U X} {entry : Diagnostic} {a : Answer}

lemma engage_announced (hl : m.state.link? = some l) (hq : Poses task hook text)
    (ha : (Move.answer a : Move U X).mild = true) :
    ∃ b, (m.engage task entry).run (telling hook a) = some b ∧
      b.stack = dispatching m.state.current m.state.coordinator.tasks.length (m.state.coordinator.lastContext + 1) m.stack ∧
      b.fault = none ∧ executions b.events = executions (m.engage task entry).events := by
  have hhook : Coordinator.hookOf { m.state.coordinator.engage task with draining := true }
      m.state.coordinator.tasks.length .beforeRun = hook.map (.user .beforeRun) := by
    rw [Coordinator.hookOf, engage_task]
    exact hq.beforeRun
  obtain ⟨es, hpath, -⟩ := Path.tell (X := X) (l := l) (s := m.state) hl hhook ha
  obtain ⟨hrun, -⟩ := hpath (m.engage task entry).events
  exact ⟨_, hrun, rfl, rfl, by rw [executions_append, executions_links, List.append_nil]⟩

lemma given_engage
    (hr : Machine.run { state := Session.make worker transform restartable documentation } moves = some m)
    (hidle : m.state.coordinator.Vacant) :
    (given (eventsOf m.state.current (m.engage task entry).events))[m.state.coordinator.tasks.length]? = some task := by
  have hsound := (links_halted hr m.state.current (current_lt (housed_run (housed_start ..) hr).inhabited)).1
  have hlength : m.state.coordinator.tasks.length = (given (eventsOf m.state.current m.events)).length :=
    hsound.kept.length_eq hidle.killed
  have hgiven : given (eventsOf m.state.current (m.engage task entry).events) =
      given (eventsOf m.state.current m.events) ++ [task] := by
    simp [Machine.engage, eventsOf, given, List.filterMap_cons]
  rw [hgiven, hlength, List.getElem?_concat_length]

lemma queries_of_vacant
    (hr : Machine.run { state := Session.make worker transform restartable documentation } moves = some m)
    (hopen : m.open? = true) (hidle : m.state.coordinator.Vacant) (hk : m.state.kernel? = some k)
    {operation : Operation U X}
    (htick : operation.frame.tick m.state = some ⟨m.state, [m.state.submit task], [.log entry], none⟩)
    (hq : Poses task hook text) :
    ∃ p t id, m.run (.start operation :: List.replicate 5 .tick) = some p ∧ Queries m p t id hook text := by
  obtain ⟨l, hl, -⟩ := link_of_kernel hk
  have hg := (List.getElem?_eq_some_iff.mp hl).1
  have hengaged := engage_run hl hopen hidle htick
  have hreached : Machine.run { state := Session.make worker transform restartable documentation }
      (moves ++ .start operation :: List.replicate 5 .tick) = some (m.engage task entry) := by
    rw [run_append, hr]
    exact hengaged
  have hkernel : workerOf (m.engage task entry).state m.state.current = some (.kernel k) :=
    (workerOf_setCoordinator ..).trans (workerOf_current hk)
  have hquiet : executions (m.engage task entry).events = executions m.events := by
    simp [Machine.engage, executions, Event.execution?]
  refine ⟨_, _, _, hengaged, rfl, ⟨rfl, hquiet⟩, fun ha => hquiet ▸ engage_announced hl hq ha, ?_⟩
  intro later b hb hstack hfault
  obtain ⟨k', hk'⟩ := kernel_run hb (prompt_run hreached) hkernel
  have hlater : Machine.run { state := Session.make worker transform restartable documentation }
      ((moves ++ .start operation :: List.replicate 5 .tick) ++ later) = some b := by
    rw [run_append, hreached]
    exact hb
  have htask := given_run (housed_run (housed_start ..) hreached) hb ((setCoordinator_length ..).symm ▸ hg)
    (given_engage hr hidle)
  exact evaluates_of_dispatching hlater hstack hfault hk' htask hq

lemma Queries.executed {p : Machine U X} (h : Queries m p t id hook text) (ha : (Move.answer a : Move U X).mild = true) :
    ∃ n messageId, p.run (telling hook a ++ [.tick, .tick, .tick]) = some n ∧
      executions n.events = executions m.events ++ [(messageId, evaluation text)] := by
  obtain ⟨b, hb, hstack, hfault, hquiet⟩ := h.announced ha
  obtain ⟨n, hn, -, -, k', -, -, -, hexecutions⟩ := h.evaluated hb hstack hfault
  refine ⟨n, k'.nextMessageId, ?_, hquiet ▸ hexecutions⟩
  rw [run_append, hb]
  exact hn

/-- A live session that has nothing to do makes its kernel evaluate, when the hook before the run has come to its end, the
query of a completion or of an inspection: the fixed one for the names at top level exactly when there is no scope, and else
the fixed text with the scope, or with what is matched, put before its last parenthesis as it stands. So different scopes,
and different matched texts, make it evaluate different queries. -/
theorem queries_evaluated
    (hr : Machine.run { state := Session.make worker transform restartable documentation } moves = some m)
    (hopen : m.open? = true) (hidle : m.state.coordinator.Vacant) (hk : m.state.kernel? = some k)
    {code : List Char} {cursor : Int} {e : Expression} (he : Expression.parse code cursor = some e) (hooks : Hooks U) :
    (∃ p t id, m.run (.start (.complete code cursor hooks) :: List.replicate 5 .tick) = some p ∧
      Queries m p t id hooks.beforeRun (Query.ofScope e.scope)) ∧
    (∃ p t id, m.run (.start (.inspect code cursor hooks) :: List.replicate 5 .tick) = some p ∧
      Queries m p t id hooks.beforeRun (Query.ofText e.matchedText)) ∧
    String.ofList e.scope ≠ Query.globalScope ∧ (Query.ofScope e.scope = Query.globalNames ↔ e.scope = []) ∧
    Function.Injective Query.ofScope ∧ Function.Injective Query.ofText := by
  have hcomplete : (Frame.complete code cursor hooks).tick m.state =
      some ⟨m.state, [m.state.submit (namesTask ⟨code, cursor, e⟩ hooks)], [.log .complete], none⟩ := by
    simp [Frame.tick, completeTurn, he]
  have hinspect : (Frame.inspect code cursor hooks).tick m.state =
      some ⟨m.state, [m.state.submit (inspectionTask ⟨code, cursor, e⟩ hooks)], [.log .inspect], none⟩ := by
    simp [Frame.tick, inspectTurn, he]
  have hglobal : Query.ofScope [] = Query.globalNames := if_pos rfl
  refine ⟨queries_of_vacant hr hopen hidle hk hcomplete (namesTask_poses he hooks),
    queries_of_vacant hr hopen hidle hk hinspect (inspectionTask_poses _ hooks), Expression.scope_ne_globalScope he, ?_,
    Query.ofScope_injective, Query.ofText_injective⟩
  rw [← hglobal]
  exact Query.ofScope_injective.eq_iff

end Dispatch

/-- What is matched holds quotes, and in braces the name of a place. -/
def braced : List Char := "x = d[\"\x7bscope\x7d\"].n".toList

theorem braced_evaluated :
    ∃ p n p' n' : Machine Nat Nat,
      Machine.run { state := Session.make (.kernel {}) none false ⟨[], []⟩ }
        (.start (.complete braced 18 { beforeRun := some 3 }) :: List.replicate 5 .tick) = some p ∧
      p.run [.tick, .answer .done, .tick, .tick, .tick] = some n ∧
      (executions n.events).map Prod.snd =
        [evaluation (String.ofList Query.namesHead ++ "d[\"\x7bscope\x7d\"]" ++ ")")] ∧
      Machine.run { state := Session.make (.kernel {}) none false ⟨[], []⟩ }
        (.start (.inspect braced 18 {}) :: List.replicate 5 .tick) = some p' ∧
      p'.run [.tick, .tick, .tick, .tick] = some n' ∧
      (executions n'.events).map Prod.snd =
        [evaluation (String.ofList Query.inspectionHead ++ "d[\"\x7bscope\x7d\"].n" ++ ")")] := by
  have he : Expression.parse braced 18 = some
      ⟨"d[\"\x7bscope\x7d\"].n".toList, "d[\"\x7bscope\x7d\"]".toList, some .attribute, ['n']⟩ := by decide +kernel
  have hm : Machine.run { state := Session.make (.kernel {}) none false ⟨[], []⟩ } ([] : List (Move Nat Nat)) = some _ := rfl
  have hidle := vacant_of_rest hm rfl rfl rfl rfl
  have ha : (Move.answer .done : Move Nat Nat).mild = true := rfl
  obtain ⟨⟨p, t, id, hp, hnames⟩, -⟩ := queries_evaluated hm rfl hidle rfl he { beforeRun := some 3 }
  obtain ⟨-, ⟨p', t', id', hp', hinspection⟩, -⟩ := queries_evaluated hm rfl hidle rfl he {}
  obtain ⟨n, messageId, hn, hexecuted⟩ := hnames.executed ha
  obtain ⟨n', messageId', hn', hexecuted'⟩ := hinspection.executed ha
  have hscope : Query.ofScope "d[\"\x7bscope\x7d\"]".toList =
      String.ofList Query.namesHead ++ "d[\"\x7bscope\x7d\"]" ++ ")" := by
    rw [Query.ofScope, if_neg (by decide), String.ofList_toList]
  have hmatched : Query.ofText "d[\"\x7bscope\x7d\"].n".toList =
      String.ofList Query.inspectionHead ++ "d[\"\x7bscope\x7d\"].n" ++ ")" := by
    rw [Query.ofText, String.ofList_toList]
  refine ⟨p, n, p', n', hp, hn, ?_, hp', hn', ?_⟩
  · rw [hexecuted, ← hscope]
    rfl
  · rw [hexecuted', ← hmatched]
    rfl

end Session

end EvalSession
