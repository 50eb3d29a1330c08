import EvalSession.Proofs.Documentation.Families
import EvalSession.Proofs.Expression.Locality
import EvalSession.Proofs.Session.Delivery
import EvalSession.Proofs.Session.Reports

/-!
# Inspections that are delivered

Main statement: whatever else goes on, an answer to the request of an inspection without a scope is passed on with the entry of
what is matched, and an answer to the request of the scope passes on the inspection of the member with the entry that the
first of its types has for it, or else with the last one that an earlier answer to that request has found
(`inspection_delivered`).
-/
namespace EvalSession

namespace Expression

lemma matchedText_plain {code : List Char} {cursor : Int} {e : Expression} (he : parse code cursor = some e)
    (hs : e.scope = []) : '.' ∉ e.matchedText := by
  have hparses := (parse_eq_iff code cursor _).mp he
  generalize code.take (bound code cursor) = text at hparses
  cases hparses with
  | nothing | blank => exact List.not_mem_nil
  | bare _ hselects _ =>
    rcases hselects.ident with rfl | hident
    · exact List.not_mem_nil
    · exact hident.not_mem (by decide)
  | member _ _ hscope => exact absurd (hs ▸ hscope.1) not_chain_nil

end Expression

namespace Session

open Inspection (Chain Reported entryIn)

variable {U X : Type}

def Requested (s : Session U X) (g t : Nat) (task : Task (Hook U)) : Prop := (coordinatorOf s g).tasks[t]? = some task

/-- What brings a message to the router of a link: its worker delivers it, or the current kernel makes it of what arrives. -/
inductive Heard (s : Session U X) (g : Nat) (o : Object) : Operation U X → Prop
  | delivered {w : Nat} (h : s.linkOf? w = some g) (hh : (handlerOf s g).isSome) : Heard s g o (.deliver w (.object o))
  | received {operation : Operation U X} (h : Handover s o operation) (hg : s.current = g)
      (hh : handlerOf s g = some .router) : Heard s g o operation

/-- The operation brings an answer to the request of an inspection, with or without its id, while outside code has control. -/
structure Answered (b : Machine U X) (g t : Nat) (operation : Operation U X) (payload : Object) : Prop where
  control : b.open? = true
  message : ∃ o given last, Heard b.state g o operation ∧
    Message.decode (.object o) = .ok (.reply .inspection given last payload) ∧
      (coordinatorOf b.state g).resolve given = some t

/-- The operation leads to the call of the hook for the success, with the inspected payload and this entry, and to nothing else
until the hook has control. -/
def Receives (b : Machine U X) (operation : Operation U X) (u : U) (q : Question) (payload : Object) (entry : Option Object) :
    Prop :=
  ∃ moves n result, Way b [.start operation] moves n ∧ n.open? = true ∧
    deeds n.events = deeds b.events ++ [.called .success u (.payload result)] ∧ Reported q payload entry result

section Stretches

variable {s : Session U X} {g : Nat} {l : Link U X} {r : List (Frame U X)} {o payload : Object} {operation : Operation U X}

lemma Stretch.enter (hl : s.links[g]? = some l) (task : Task (Hook U)) :
    ∃ c frames, Stretch s (.link g (.submit task) :: r) [.tick] (s.setCoordinator g c) (frames ++ r) [] ∧
      c.tasks = l.coordinator.tasks ++ [task] ∧ ∀ f ∈ frames, ∀ j, ¬ f.cites j := by
  have htick : (Frame.link g (.submit task)).tick s = some (linkTurn s g (Coordinator.submitTurn l.coordinator task)) := by
    simp [Frame.tick, hl, tickLink, Coordinator.Frame.tick]
  have hturn : (Coordinator.submitTurn l.coordinator task).fault = none ∧
      (Coordinator.submitTurn l.coordinator task).state.tasks = l.coordinator.tasks ++ [task] ∧
      (((Coordinator.submitTurn l.coordinator task).events.map (Event.link (U := U) (X := X) g)).filterMap Event.deed? = []) ∧
      ∀ f ∈ (Coordinator.submitTurn l.coordinator task).frames, f = .drain := by
    cases hk : l.coordinator.killed <;> cases hi : l.coordinator.inFlight <;>
      simp [Coordinator.submitTurn, hk, hi, Event.deed?]
  obtain ⟨hfault, htasks, hdeeds, hframes⟩ := hturn
  have henter := Stretch.of_tick (r := r) htick hfault
  simp only [linkTurn, hdeeds] at henter
  refine ⟨_, _, henter, htasks, fun f hf j hj => ?_⟩
  obtain ⟨fc, hfc, rfl⟩ := List.mem_map.mp hf
  obtain rfl := hframes fc hfc
  exact hj

lemma Stretch.hand (s : Session U X) (r : List (Frame U X)) (u : U) (argument : Argument) :
    Stretch s (.call .success (some u) argument :: r) [.tick] s (.awaitCall true .success u argument :: r)
      [.called .success u argument] := by
  have htick : (Frame.call .success (some u) argument).tick s =
      some ⟨s, [.awaitCall true .success u argument], [.called .success u argument], none⟩ := rfl
  exact .of_tick htick rfl

lemma Heard.arrives (h : Heard s g o operation) (hl : s.links[g]? = some l) :
    ∃ before s' below, Reworked s s' g ∧ doings before = [] ∧ (∀ f ∈ below, f = .guarded) ∧
      ∀ r, Stretch s (operation.frame :: r) before s' (.link g (.route (.object o)) :: (below ++ r)) [] := by
  cases h with
  | @delivered w hw hh =>
    have hdelivered : (Frame.deliver w (.object o)).tick s = some ⟨s, [.link g (.route (.object o))], [], none⟩ := by
      obtain ⟨handler, hhandler⟩ := Option.isSome_iff_exists.mp hh
      simp [Frame.tick, deliverTurn, hw, hhandler]
    exact ⟨[.tick], s, [], .refl s g, rfl, by simp, fun r => .of_tick hdelivered rfl⟩
  | received h hg hh =>
    subst hg
    have hhandler : l.handler = some .router := by simpa [handlerOf, hl] using hh
    obtain ⟨before, -, s', below, hsame, hbefore, -, hbelow, harrive, -⟩ := h.arrives hl hhandler
    exact ⟨before, s', below, hsame, hbefore, hbelow, harrive⟩

end Stretches

section Answers

variable {b : Machine U X} {g t : Nat} {operation : Operation U X} {payload : Object} {hook : Hook U}

lemma Answered.leads (h : Answered b g t operation payload) (hh : (coordinatorOf b.state g).hookOf t .success = some hook)
    (hown : internal hook = true) :
    ∃ before s' below, Reworked b.state s' g ∧ doings before = [] ∧ (∀ f ∈ below, ∀ j, ¬ f.cites j) ∧
      Stretch b.state (operation.frame :: b.stack) before s' (.body hook payload :: (below ++ b.stack)) [] := by
  obtain ⟨o, given, last, hheard, hdecode, hresolve⟩ := h.message
  have hlt := (lt_of_hookOf hh).1
  have hl := List.getElem?_eq_getElem hlt
  have hc : coordinatorOf b.state g = b.state.links[g].coordinator := by simp [coordinatorOf, hl]
  obtain ⟨before, s', below, hsame, hbefore, hbelow, harrive⟩ := hheard.arrives hl
  obtain ⟨w, hl'⟩ := hsame.link hl
  have hmessage := harrive b.stack
  rw [hc] at hresolve hh
  have hheed := Stretch.heed (r := below ++ b.stack) hl' hdecode (by simp) hresolve
  have hbody := Stretch.embody hl' hh hown payload
    ((if last then [.link g (.close given t)] else []) ++ .link g (.advance t) :: (below ++ b.stack))
  have hcoordinator := setCoordinator_same hl'
  dsimp only at hcoordinator
  rw [hcoordinator] at hheed hbody
  refine ⟨before ++ ([.tick] ++ [.tick]), s', .link g (.awaitHook hook (.payload payload)) ::
    ((if last then [.link g (.close given t)] else []) ++ .link g (.advance t) :: below), hsame, by simp [hbefore], ?_, ?_⟩
  · have hclosing : ∀ f ∈ (if last then [.link g (.close given t)] else [] : List (Frame U X)), ∀ j, ¬ f.cites j := by
      cases last <;> simp [Frame.cites]
    intro f hf j hj
    rcases List.mem_cons.mp hf with rfl | hf
    · exact hj
    rcases List.mem_append.mp hf with hf | hf
    · exact hclosing f hf j hj
    rcases List.mem_cons.mp hf with rfl | hf
    · exact hj
    · obtain rfl := hbelow f hf
      exact hj
  · simpa using hmessage.trans (hheed.trans hbody)

lemma Answered.described (h : Answered b g t operation payload) :
    ∃ fields, payload.get? "inspection" = some (.object fields) := by
  obtain ⟨o, given, last, -, hdecode, -⟩ := h.message
  exact inspected hdecode

variable {q : Question} {hooks : Hooks U} {u : U} {entry : Option Object} {result report : Object} {names : List (List Char)}

lemma receives_of_stretch {moves : List (Move U X)} {s' : Session U X} {r : List (Frame U X)} (hcontrol : b.open? = true)
    (h : Stretch b.state (operation.frame :: b.stack) moves s' (.call .success (some u) (.payload result) :: r) [])
    (hmoves : doings moves = []) (hresult : Reported q payload entry result) : Receives b operation u q payload entry := by
  have hhand := Stretch.hand s' r u (.payload result)
  obtain ⟨es, hway, hdeeds⟩ := (h.trans hhand).way operation [] hcontrol (by simp [hmoves])
  exact ⟨_, _, result, hway, rfl, hdeeds, hresult⟩

lemma Answered.plain (h : Answered b g t operation payload)
    (hh : (coordinatorOf b.state g).hookOf t .success = some (.inspection q hooks)) (hscope : q.expression.scope = [])
    (hplain : '.' ∉ q.expression.matchedText) (hd : b.state.documentation.Regular) (hu : hooks.success = some u) :
    Receives b operation u q payload (b.state.documentation.entry? (String.ofList q.expression.matchedText)) := by
  obtain ⟨fields, hfields⟩ := h.described
  obtain ⟨report, hreport⟩ : ∃ report, Inspection.withQuestion q payload = some report :=
    ⟨_, Inspection.withQuestion_eq hfields⟩
  obtain ⟨before, s', below, hsame, hbefore, -, hlead⟩ := h.leads hh rfl
  have hfound : Inspection.found s'.documentation q.expression.matchedText =
      b.state.documentation.entry? (String.ofList q.expression.matchedText) := by
    rw [hsame.documentation, Inspection.found_plain hd hplain]
  have hreported : (Frame.body (.inspection q hooks) payload).tick s' = some ⟨s',
      [.call .success (some u) (.payload (Inspection.withEntry report
        (b.state.documentation.entry? (String.ofList q.expression.matchedText)))), .call .afterRun hooks.afterRun .nothing],
      [], none⟩ := by
    simp [Frame.tick, bodyTurn, inspectionTurn, hreport, hscope, hfound, hu]
  have hbody := Stretch.of_tick (r := below ++ b.stack) hreported rfl
  exact receives_of_stretch h.control (hlead.trans hbody) (by simp [hbefore]) (Inspection.reported_withEntry hreport hfields _)

/-- An answer to the request of the scope passes the inspection of the member on. -/
lemma Answered.passed_on {base : Machine U X} {j : Nat} {first : Object} (h : Answered b g t operation payload)
    (hfiled : Filed base g t j q hooks report b) (hchain : Chain payload names) (hd : b.state.documentation.Regular)
    (hu : hooks.success = some u) (hfirst : ∃ fields, first.get? "inspection" = some (.object fields))
    (hreport : Inspection.withQuestion q first = some report) :
    ∃ new, b.events = new ++ base.events ∧ Receives b operation u q first
      ((names.findSome? (b.state.documentation.memberEntry? q.expression.selector)).or
        ((answersTo g t new).findSome? (entryIn b.state.documentation q.expression.selector))) := by
  obtain ⟨fields, hfields⟩ := hfirst
  obtain ⟨new, he, hstanding⟩ := hfiled.progress
  refine ⟨new, he, ?_⟩
  rw [← hfiled.documentation] at hstanding
  cases hstanding with
  | @due _ _ _ hs =>
    have hcontrol := h.control
    simp [Machine.open?, hs, Frame.tick] at hcontrol
  | settled _ hkept =>
    obtain ⟨before, s', below, hsame, hbefore, -, hlead⟩ := h.leads hfiled.held rfl
    rw [← hsame.reports] at hkept
    have hfound : Inspection.memberEntry s'.documentation names q.expression.selector =
        names.findSome? (b.state.documentation.memberEntry? q.expression.selector) := by
      rw [hsame.documentation, Inspection.memberEntry_eq hd hchain.plain]
    have hpassed : (Frame.body (.scopeInspection j q hooks) payload).tick s' = some
        ⟨(bodyTurn s' (.scopeInspection j q hooks) payload).state, [.call .success (some u) (.payload
          (Inspection.withEntry report ((names.findSome? (b.state.documentation.memberEntry? q.expression.selector)).or
            ((answersTo g t new).findSome? (entryIn b.state.documentation q.expression.selector)))))], [], none⟩ := by
      simp [Frame.tick, bodyTurn, scopeInspectionTurn, Inspection.constructors_chain hchain, hkept, hfound,
        Inspection.withEntry_withEntry, hu]
    have hbody := Stretch.of_tick (r := below ++ b.stack) hpassed rfl
    exact receives_of_stretch h.control (hlead.trans hbody) (by simp [hbefore])
      (Inspection.reported_withEntry hreport hfields _)

lemma sole_of_new {s s' : Session U X} {j : Nat} (hnumbers : ∀ i u moment k, reportOf s i u moment = some k → k < j)
    (hothers : ∀ i, i ≠ g → coordinatorOf s' i = coordinatorOf s i)
    (htasks : (coordinatorOf s' g).tasks = (coordinatorOf s g).tasks ++ [scopeTask q hooks j]) {i u : Nat} {moment : Moment}
    (h : reportOf s' i u moment = some j) : i = g ∧ u = (coordinatorOf s g).tasks.length ∧ moment = .success := by
  have hold : reportOf s i u moment ≠ some j := fun hj => lt_irrefl j (hnumbers i u moment j hj)
  by_cases hi : i = g
  · subst hi
    obtain ⟨hook, hhook, hreport⟩ := Option.bind_eq_some_iff.mp h
    obtain ⟨task, htask, hget⟩ := Option.bind_eq_some_iff.mp hhook
    rw [htasks] at htask
    rcases Nat.lt_trichotomy u (coordinatorOf s i).tasks.length with hlt | rfl | hgt
    · rw [List.getElem?_append_left hlt] at htask
      exact absurd (by rw [reportOf, Coordinator.hookOf, htask, Option.bind_some, hget, Option.bind_some, hreport]) hold
    · obtain rfl : scopeTask q hooks j = task := by simpa using htask
      exact ⟨rfl, rfl, (scopeTask_report (by rw [hget, Option.bind_some, hreport])).1⟩
    · rw [List.getElem?_eq_none (by simpa using hgt)] at htask
      cases htask
  · exact absurd (by rw [reportOf, ← hothers i hi]; exact h) hold

/-- With a scope the request of the scope is handed in, and outside code sees nothing of that. -/
lemma Answered.asks_scope (h : Answered b g t operation payload) (hh : Housed b) (hn : Numbered b)
    (hhook : (coordinatorOf b.state g).hookOf t .success = some (.inspection q hooks)) (hscope : q.expression.scope ≠ [])
    (hreport : Inspection.withQuestion q payload = some report) :
    ∃ moves n, Way b [.start operation] moves n ∧ deeds n.events = deeds b.events ∧
      Requested n.state b.state.current b.state.coordinator.tasks.length (scopeTask q hooks b.state.reports.length) ∧
        Filed n b.state.current b.state.coordinator.tasks.length b.state.reports.length q hooks report n := by
  obtain ⟨before, s', below, hsame, hbefore, hbelow, hlead⟩ := h.leads hhook rfl
  have hcurrent : s'.current = b.state.current := current_congr hsame.length
  have hreported : (Frame.body (.inspection q hooks) payload).tick s' = some ⟨{ s' with reports := s'.reports ++ [report] },
      [.link s'.current (.submit (scopeTask q hooks s'.reports.length))], [], none⟩ := by
    simp [Frame.tick, bodyTurn, inspectionTurn, hreport, hscope, submit]
  have hbody := Stretch.of_tick (r := below ++ b.stack) hreported rfl
  have hlt : s'.current < s'.links.length := current_lt (hsame.length ▸ hh.inhabited)
  obtain ⟨c, frames, henter, htasks, hframes⟩ := Stretch.enter (s := { s' with reports := s'.reports ++ [report] })
    (r := below ++ b.stack) (List.getElem?_eq_getElem hlt) (scopeTask q hooks s'.reports.length)
  obtain ⟨es, hway, hdeeds⟩ := (hlead.trans (hbody.trans henter)).way operation [] h.control (by simp [hbefore])
  have hc : b.state.coordinator = s'.links[s'.current].coordinator := by
    have hcoordinator : b.state.coordinator = coordinatorOf b.state b.state.current := rfl
    rw [hcoordinator, ← hsame.coordinators, ← hcurrent]
    simp [coordinatorOf, hlt]
  rw [← hc, hsame.reports] at htasks
  have hset : coordinatorOf (Session.setCoordinator { s' with reports := s'.reports ++ [report] } s'.current c)
      b.state.current = c := by
    rw [← hcurrent]
    exact coordinatorOf_set { s' with reports := s'.reports ++ [report] } hlt c
  have hnew : ¬ Citing b.state.reports.length (frames ++ (below ++ b.stack)) := by
    rw [Citing.append, Citing.append]
    rintro (⟨f, hf, hj⟩ | ⟨f, hf, hj⟩ | hj)
    · exact hframes f hf _ hj
    · exact hbelow f hf _ hj
    · exact (hn.frames _ hj).ne rfl
  refine ⟨_, _, hway, by simpa using hdeeds, ?_, rfl, ?_, fun i u moment hj => ?_, [], rfl, .settled hnew ?_⟩
  · rw [Requested, hset, htasks, List.getElem?_concat_length]
  · rw [Coordinator.hookOf, hset, htasks, List.getElem?_concat_length]
    rfl
  · refine sole_of_new hn.tasks (fun i hi => ?_) (hset.symm ▸ htasks) hj
    rw [← hsame.coordinators i]
    exact coordinatorOf_other { s' with reports := s'.reports ++ [report] } (hcurrent ▸ hi.symm) c
  · rw [← hsame.reports]
    exact List.getElem?_concat_length

/-- What an answer leads to when the expression has a scope: the scope is asked for, and every answer to that passes the
inspection of the member on, with the entry of the first type that has one or else with the last one found before. -/
def Defers (documentation : Documentation.Index) (b : Machine U X) (operation : Operation U X) (u : U) (q : Question)
    (hooks : Hooks U) (payload : Object) : Prop :=
  ∃ moves n, Way b [.start operation] moves n ∧ deeds n.events = deeds b.events ∧
    Requested n.state b.state.current b.state.coordinator.tasks.length (scopeTask q hooks b.state.reports.length) ∧
    ∀ {later : List (Move U X)} {b' : Machine U X} {operation' : Operation U X} {payload' : Object}
      {names : List (List Char)}, n.run later = some b' →
        Answered b' b.state.current b.state.coordinator.tasks.length operation' payload' → Chain payload' names →
          ∃ new, b'.events = new ++ n.events ∧ Receives b' operation' u q payload
            ((names.findSome? (documentation.memberEntry? q.expression.selector)).or
              ((answersTo b.state.current b.state.coordinator.tasks.length new).findSome?
                (entryIn documentation q.expression.selector)))

end Answers

section Inspecting

variable {worker : Worker} {transform : Option X} {restartable : Bool} {documentation : Documentation.Index}
  {moves : List (Move U X)} {m : Machine U X} {code : List Char} {cursor : Int} {e : Expression} {hooks : Hooks U} {u : U}

lemma inspect_requested (hh : Housed m) (ho : m.open? = true) (he : Expression.parse code cursor = some e) :
    ∃ n, m.run [.start (.inspect code cursor hooks), .tick, .tick] = some n ∧
      Requested n.state m.state.current m.state.coordinator.tasks.length (inspectionTask ⟨code, cursor, e⟩ hooks) := by
  have hlt := current_lt hh.inhabited
  have hinspected : (Frame.inspect code cursor hooks).tick m.state = some ⟨m.state,
      [.link m.state.current (.submit (inspectionTask ⟨code, cursor, e⟩ hooks))], [.log .inspect], none⟩ := by
    simp [Frame.tick, inspectTurn, he, submit]
  have hinspect := Stretch.of_tick (r := m.stack) hinspected rfl
  obtain ⟨c, frames, henter, htasks, -⟩ := Stretch.enter (r := m.stack) (List.getElem?_eq_getElem hlt)
    (inspectionTask ⟨code, cursor, e⟩ hooks)
  obtain ⟨es, hway, -⟩ := (hinspect.trans henter).way (.inspect code cursor hooks) [] ho rfl
  have hc : m.state.coordinator = m.state.links[m.state.current].coordinator := by
    rw [coordinator, link?, List.getElem?_eq_getElem hlt]
    rfl
  refine ⟨_, hway.run, ?_⟩
  rw [Requested, coordinatorOf_set _ hlt, htasks, hc, List.getElem?_concat_length]

/-- What an inspection is answered with gets to the hook for the success: the payload of the worker with the question in it and
the entry of what is matched. Behind a scope the scope is inspected first, and nothing but the entry is taken from that. -/
theorem inspection_delivered
    (hr : Machine.run { state := Session.make worker transform restartable documentation } moves = some m)
    (hd : documentation.Regular) (ho : m.open? = true) (he : Expression.parse code cursor = some e)
    (hu : hooks.success = some u) :
    ∃ n, m.run [.start (.inspect code cursor hooks), .tick, .tick] = some n ∧
      Requested n.state m.state.current m.state.coordinator.tasks.length (inspectionTask ⟨code, cursor, e⟩ hooks) ∧
      ∀ {later : List (Move U X)} {b : Machine U X} {operation : Operation U X} {payload : Object},
        n.run later = some b → Answered b m.state.current m.state.coordinator.tasks.length operation payload →
          (e.scope = [] → Receives b operation u ⟨code, cursor, e⟩ payload
            (documentation.entry? (String.ofList e.matchedText))) ∧
          (e.scope ≠ [] → Defers documentation b operation u ⟨code, cursor, e⟩ hooks payload) := by
  have hhoused := housed_run (housed_start ..) hr
  obtain ⟨n, hn, hrequested⟩ := inspect_requested hhoused ho he
  refine ⟨n, hn, hrequested, fun {later b operation payload} hb hanswered => ?_⟩
  have hn' := housed_run hhoused hn
  have hb' := housed_run hn' hb
  -- all that has led to the answer is one run from the start
  have hstart : Machine.run { state := Session.make worker transform restartable documentation }
      (moves ++ ([.start (.inspect code cursor hooks), .tick, .tick] ++ later)) = some b := by
    rw [run_append, hr, Option.bind_some, run_append, hn, Option.bind_some, hb]
  have hdocumentation : b.state.documentation = documentation := documentation_run (housed_start ..) hstart
  have hhook : (coordinatorOf b.state m.state.current).hookOf m.state.coordinator.tasks.length .success =
      some (.inspection ⟨code, cursor, e⟩ hooks) := by
    refine hookOf_run hn' hb ?_
    rw [Coordinator.hookOf, hrequested]
    rfl
  refine ⟨fun hscope => ?_, fun hscope => ?_⟩
  · have hreceives := hanswered.plain hhook hscope (Expression.matchedText_plain he hscope) (hdocumentation ▸ hd) hu
    rwa [hdocumentation] at hreceives
  · obtain ⟨fields, hfields⟩ := hanswered.described
    have hreport := Inspection.withQuestion_eq (q := ⟨code, cursor, e⟩) hfields
    obtain ⟨asking, p, hway, hdeeds, hscoped, hfiled⟩ := hanswered.asks_scope hb' (numbered_run hstart) hhook hscope hreport
    have hp := housed_run hb' hway.run
    refine ⟨asking, p, hway, hdeeds, hscoped, fun {later' b' operation' payload' names} hlater hanswered' hchain => ?_⟩
    have hdocumentation' : b'.state.documentation = documentation :=
      (documentation_run hp hlater).trans ((documentation_run hb' hway.run).trans hdocumentation)
    have hpassed := hanswered'.passed_on (filed_run hp hfiled hlater) hchain (hdocumentation' ▸ hd) hu ⟨fields, hfields⟩ hreport
    rwa [hdocumentation'] at hpassed

end Inspecting

def exceptions : Documentation.Index := ⟨[("BaseException.args", [("description", .string "The arguments.")])],
  Documentation.defaultRules⟩

lemma exceptions_regular : exceptions.Regular := ⟨rfl, by simp [exceptions]⟩

def described : Object := [("inspection", .object [("string", .string "(1,)"), ("type", .string "tuple")])]

def memberMessage : Object := ("id", .int 1) :: ("end", .bool true) :: described

def scopeMessage (id : Int) (last : Bool) (types : List Value) : Object :=
  [("id", .int id), ("inspection", .object [("constructorList", .list types)]), ("end", .bool last)]

/-- The member of an exception is inspected, and another task is handed in before the worker has answered. -/
def interrupting : List (Move Nat Nat) :=
  List.flatten [[.start (.inspect "err.args".toList 8 { success := some 5 })], List.replicate 8 .tick, [.answer .done, .tick,
    .start (.execute "x" none), .tick, .tick]]

/-- The answer comes; the other task is run before the scope is asked for. -/
def describing : List (Move Nat Nat) := .start (.deliver 0 (.object memberMessage)) :: List.replicate 15 .tick

def executing : List (Move Nat Nat) :=
  List.flatten [[.answer .done, .tick, .start (.deliver 0 (.object [("id", .int 2), ("end", .bool true), ("mime", .object [])]))],
    List.replicate 12 .tick, [.answer .done, .tick]]

theorem interrupting_delivered :
    ∃ b p b' hearing n result, Machine.run { state := Session.make (.remote 0) none true exceptions } interrupting = some b ∧
      b.run describing = some p ∧ p.run executing = some b' ∧
      doings hearing = [.start (.deliver 0 (.object (scopeMessage 3 true [.string "KeyError", .string "Exception"])))] ∧
      b'.run hearing = some n ∧ deeds n.events = deeds b'.events ++ [.called .success 5 (.payload result)] ∧
      result.get? "doc" = some (.object [("description", .string "The arguments.")]) := by
  have h : (Machine.run { state := Session.make (.remote 0) none true exceptions } interrupting).isSome = true := by
    decide +kernel
  have hb := (Option.some_get h).symm
  have h' : (Machine.run { state := Session.make (.remote 0) none true exceptions } (interrupting ++ describing)).isSome =
      true := by decide +kernel
  have hp := (Option.some_get h').symm
  have h'' : (Machine.run { state := Session.make (.remote 0) none true exceptions }
      (interrupting ++ describing ++ executing)).isSome = true := by decide +kernel
  have hb' := (Option.some_get h'').symm
  have he : Expression.parse "err.args".toList 8 = some ⟨"err.args".toList, "err".toList, some .attribute, "args".toList⟩ := by
    decide +kernel
  have hstart : Machine.run ({ state := Session.make (.remote 0) none true exceptions } : Machine Nat Nat) [] = some _ := rfl
  have hsuccess : ({ success := some 5 } : Hooks Nat).success = some 5 := rfl
  obtain ⟨n, hn, -, hleads⟩ := inspection_delivered hstart exceptions_regular rfl he hsuccess
  have hlater : n.run (interrupting.drop 3) = some (Option.get _ h) := run_split hb hn
  have hmember : Answered (Option.get _ h) 0 0 (.deliver 0 (.object memberMessage)) described :=
    ⟨rfl, memberMessage, some 1, true, .delivered rfl rfl, rfl, rfl⟩
  obtain ⟨moves, q, hway, -, -, hscope⟩ := (hleads hlater hmember).2 (by decide)
  have hfollows : Follows Machine.step Attentive (Option.get _ h) describing :=
    ⟨.inr rfl, fun _ _ => follows_of_mem (fun _ hm _ => .inl (List.eq_of_mem_replicate hm)) _⟩
  obtain ⟨rest, hrest⟩ := hway.reaches rfl hfollows (run_split hp hb) rfl
  have hlater' : q.run (rest ++ executing) = some (Option.get _ h'') := by
    rw [run_append, hrest, Option.bind_some]
    exact run_split hb' hp
  have hanswered : Answered (Option.get _ h'') 0 2
      (.deliver 0 (.object (scopeMessage 3 true [.string "KeyError", .string "Exception"])))
      [("inspection", .object [("constructorList", .list [.string "KeyError", .string "Exception"])])] :=
    ⟨rfl, _, some 3, true, .delivered rfl rfl, rfl, rfl⟩
  have hchain : Chain [("inspection", .object [("constructorList", .list [.string "KeyError", .string "Exception"])])]
      ["KeyError".toList, "Exception".toList] :=
    ⟨⟨_, rfl, .inr rfl⟩, by decide⟩
  obtain ⟨new, -, hearing, n', result, hway', -, hdeeds, hresult⟩ := hscope hlater' hanswered hchain
  have hentry : ["KeyError".toList, "Exception".toList].findSome? (exceptions.memberEntry? "args".toList) =
      some [("description", .string "The arguments.")] := by decide +kernel
  have hdoc := hresult.doc
  rw [hentry] at hdoc
  exact ⟨_, _, _, hearing, n', result, hb, run_split hp hb, run_split hb' hp, hway'.doings, hway'.run, hdeeds, hdoc⟩

/-- The scope is answered once, with a type that has an entry, and the run of its request goes on. -/
def foundOnce : List (Move Nat Nat) :=
  List.flatten [[.start (.inspect "err.args".toList 8 { success := some 5 })], List.replicate 8 .tick, [.answer .done, .tick,
    .start (.deliver 0 (.object memberMessage))], List.replicate 15 .tick, [.answer .done, .tick,
    .start (.deliver 0 (.object (scopeMessage 2 false [.string "KeyError"])))], List.replicate 5 .tick, [.answer .done],
    List.replicate 4 .tick]

/-- The answer after that has no types, and the entry of the one before is passed on again. -/
theorem foundOnce_kept :
    ∃ b n result, Machine.run { state := Session.make (.remote 0) none true exceptions } foundOnce = some b ∧
      Requested b.state 0 1 (scopeTask ⟨"err.args".toList, 8, ⟨"err.args".toList, "err".toList, some .attribute,
        "args".toList⟩⟩ { success := some 5 } 0) ∧
      answersTo 0 0 b.events = [described] ∧
      Answered b 0 1 (.deliver 0 (.object (scopeMessage 2 true [])))
        [("inspection", .object [("constructorList", .list [])])] ∧
      Chain [("inspection", .object [("constructorList", .list [])])] [] ∧
      b.run (.start (.deliver 0 (.object (scopeMessage 2 true []))) :: List.replicate 5 .tick) = some n ∧
      deeds n.events = deeds b.events ++ [.called .success 5 (.payload result)] ∧
      ¬ Reported ⟨"err.args".toList, 8, ⟨"err.args".toList, "err".toList, some .attribute, "args".toList⟩⟩ described none
        result := by
  have h : (Machine.run { state := Session.make (.remote 0) none true exceptions } foundOnce).isSome = true := by
    decide +kernel
  have hb := (Option.some_get h).symm
  have h' : (Machine.run { state := Session.make (.remote 0) none true exceptions }
      (foundOnce ++ .start (.deliver 0 (.object (scopeMessage 2 true []))) :: List.replicate 5 .tick)).isSome = true := by
    decide +kernel
  have hn := (Option.some_get h').symm
  refine ⟨_, _, [("inspection", .object [("string", .string "(1,)"), ("type", .string "tuple"), ("code", .string "err.args"),
    ("cursorPos", .int 8), ("matchedText", .string "err.args")]), ("doc", .object [("description", .string "The arguments.")])],
    hb, rfl, rfl, ⟨rfl, _, some 2, true, .delivered rfl rfl, rfl, rfl⟩, ⟨⟨_, rfl, .inr rfl⟩, by simp⟩, run_split hn hb, rfl, ?_⟩
  exact fun hresult => absurd hresult.doc (by decide)

end Session

end EvalSession
