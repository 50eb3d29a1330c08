import EvalSession.Proofs.Completion.Range
import EvalSession.Proofs.Session.Attuned
import EvalSession.Proofs.Session.Closing
import EvalSession.Proofs.Session.Forward
import EvalSession.Proofs.Session.Replies

/-!
# Completions that are delivered

Main statement: a live session that has nothing to do sends the query of a completion at once, and calls the hook for the
success once when the names arrive, with the list that the names and the expression determine.
-/
namespace EvalSession

/-- A message that ends a request with the names it asked for, and perhaps with keys; it has the id of the request or none,
and what further fields it has is left open. -/
structure NamesReply (o : Object) (id : Nat) (names : List String) (keys : Option (List String)) : Prop where
  variant : Variant.of o = .nameList
  id : ∃ given, Message.readId o = .ok given ∧ ∀ k ∈ given, k = (id : Int)
  last : Message.readEnd o = .ok true
  names : o.get? "names" = some (.list (names.map .string))
  keys : match keys with
    | some ks => o.get? "keys" = some (.list (ks.map .string))
    | none => o.get? "keys" = none ∨ o.get? "keys" = some .null

namespace Completion

/-- What is offered behind the operator of an expression: the keys inside a subscript, if there is a list of them, and the
names elsewhere. -/
def offering (e : Expression) (names : List String) (keys : Option (List String)) : List (List Char) :=
  (if e.rightOp = [] then names else keys.getD names).map String.toList

/-- The completion is what the offered names determine: behind the scope and the operator stand, in their order, those that
go on from the selector. -/
structure Offers (q : Question) (names : List (List Char)) (completion : Object) : Prop where
  delivered : ∃ fields, completion = [("completion", .object fields)] ∧
    Object.get? fields "list" = some (.list ((list q.expression names).map text)) ∧
    Object.get? fields "code" = some (text q.code) ∧ Object.get? fields "cursorPos" = some (.int q.cursor) ∧
    Object.get? fields "matchedText" = some (text q.expression.matchedText)
  member : q.expression.scope ≠ [] → list q.expression names =
    (names.filter q.expression.selector.isPrefixOf).map (entry q.expression)
  /-- At top level the reserved words are offered too, and nothing is offered twice. -/
  top : q.expression.scope = [] → list q.expression names =
      ((names ++ reservedWords.map String.toList).eraseDups.filter q.expression.selector.isPrefixOf).map
        (entry q.expression) ∧
    (list q.expression names).Nodup
  matched : ∀ t ∈ list q.expression names, q.expression.matchedText <+: t

end Completion

lemma Completion.offers_result {code : List Char} {cursor : Int} {e : Expression}
    (he : Expression.parse code cursor = some e) (names : List (List Char)) :
    Offers ⟨code, cursor, e⟩ names (result ⟨code, cursor, e⟩ (list e names)) where
  delivered := ⟨_, rfl, rfl, rfl, rfl, rfl⟩
  member := fun h => by
    rw [list_eq, matching, candidates_of_scope h]
  top := fun h => ⟨by rw [list_eq, matching, candidates_of_top h], nodup_list h names⟩
  matched := matchedText_prefix (Expression.matchedText_span he).1

namespace NamesReply

variable {o : Object} {id : Nat} {names : List String} {keys : Option (List String)}

lemma decoded (h : NamesReply o id names keys) : ∃ given payload,
    Message.decode (.object o) = .ok (.reply .nameList given true payload) ∧ (∀ k ∈ given, k = (id : Int)) ∧
      ∀ e, Completion.names? e payload = some (Completion.offering e names keys) := by
  obtain ⟨given, hid, hgiven⟩ := h.id
  have hstrings : ∀ texts : List String, Field.strings (.list (texts.map .string)) = .ok texts := fun texts =>
    Coordinator.stringsFrom_map texts 0
  have hextra : (Message.extras .nameList o).get? "keys" = none := Session.get?_extras (by simp [Message.declared]) o
  have hnames := h.names
  have hkeys := h.keys
  refine ⟨given, ("names", .list (names.map .string)) :: (keys.toList.map fun ks => ("keys", .list (ks.map .string))) ++
    Message.extras .nameList o, ?_, hgiven, fun e => ?_⟩
  · have hcontent : Message.readContent .nameList o = .ok
        (("names", .list (names.map .string)) :: (keys.toList.map fun ks => ("keys", .list (ks.map .string)))) := by
      cases keys with
      | none =>
        rcases hkeys with hkeys | hkeys <;>
          simp [Message.readContent, Field.required, Field.optional, hnames, hkeys, hstrings, Field.nullable, Field.within,
            Field.both, Except.map]
      | some ks =>
        simp [Message.readContent, Field.required, Field.optional, hnames, hkeys, hstrings, Field.nullable, Field.within,
          Field.both, Except.map]
    simp [Message.decode, h.variant, Message.readObject, Message.readReply, hid, h.last, hcontent, Field.both, Except.map]
  · have hoffered : Completion.offered e (("names", .list (names.map .string)) ::
        (keys.toList.map fun ks => ("keys", .list (ks.map .string))) ++ Message.extras .nameList o) =
        .list ((if e.rightOp = [] then names else keys.getD names).map .string) := by
      unfold Completion.offered
      cases hop : e.rightOp with
      | nil => simp [Object.get?]
      | cons c rest =>
        cases keys with
        | none =>
          simp only [Object.get?, Option.map_eq_none_iff] at hextra
          simp [Object.get?, hextra]
        | some ks => simp [Object.get?]
    simp only [Completion.names?, hoffered, Value.items?, Option.bind_some, Session.mapM_texts, Completion.offering]

end NamesReply

namespace Session

open Completion (Offers offering)

variable {U X : Type}

/-- A live session that has nothing to do. -/
structure Ready (m : Machine U X) : Prop where
  killed : m.state.killed = false
  heard : handlerOf m.state m.state.current = some .router
  stack : m.stack = []
  inFlight : m.state.coordinator.inFlight = none
  pending : m.state.coordinator.pending = []

def query (q : Question) (id : Nat) : Request :=
  ⟨.listNames, if q.expression.scope.isEmpty then Query.globalScope else String.ofList q.expression.scope, id⟩

/-- The query of a completion waits for its reply, and no other task is about to start. -/
structure Awaiting (s : Session U X) (q : Question) (hooks : Hooks U) (id : Nat) : Prop where
  heard : handlerOf s s.current = some .router
  waits : ∃ t, s.coordinator.inFlight = some t ∧ s.coordinator.owner? (some (id : Int)) = some t ∧
    s.coordinator.lastTask = some t ∧ s.coordinator.tasks[t]? = some (namesTask q hooks)
  alone : s.coordinator.draining = true ∨ s.coordinator.pending = []

/-- What brings a message of the current worker: a remote worker delivers it, or a kernel makes it of what arrives. -/
inductive Handover (s : Session U X) (o : Object) : Operation U X → Prop
  | remote {w : Nat} (h : s.linkOf? w = some s.current) : Handover s o (.deliver w (.object o))
  | kernel {k : Kernel} {channel : Kernel.Channel} {message : Value} (hk : s.kernel? = some k) (hl : k.listening = true)
      (he : (k.receive channel message).emitted = some o) : Handover s o (.arrive channel (some message))

/-- The same session, but for the worker of a link. -/
structure Reworked (s s' : Session U X) (g : Nat) : Prop where
  length : s'.links.length = s.links.length
  link : ∀ {l}, s.links[g]? = some l → ∃ w, s'.links[g]? = some { l with worker := w }
  coordinators : ∀ i, coordinatorOf s' i = coordinatorOf s i
  reports : s'.reports = s.reports
  documentation : s'.documentation = s.documentation

lemma Reworked.refl (s : Session U X) (g : Nat) : Reworked s s g := ⟨rfl, fun {l} h => ⟨l.worker, h⟩, fun _ => rfl, rfl, rfl⟩

lemma Reworked.setKernel (s : Session U X) (g : Nat) (k : Kernel) : Reworked s (s.setKernel g k) g :=
  ⟨setKernel_length .., fun h => ⟨_, setKernel_link h⟩, fun _ => coordinatorOf_setKernel .., rfl, rfl⟩

section Hearing

variable {s : Session U X} {g : Nat} {l : Link U X} {c : Coordinator (Hook U) X} {r : List (Frame U X)} {a : Answer}
  {o : Object} {operation : Operation U X}

lemma Stretch.settle {q : Question} {u : U} {argument argument' : Argument} (hl : s.links[g]? = some l)
    (ha : (Move.answer a : Move U X).mild = true) :
    Stretch s (.awaitCall false .success u argument :: .link g (.awaitHook (.names q (some u)) argument') :: r)
      [.answer a, .tick] s r [] := by
  have hwaits : (Frame.awaitCall false .success u argument).tick s = none := rfl
  cases a with
  | done =>
    have hanswer : (Frame.awaitCall false .success u argument).answer s .done = some ⟨s, [], [], none⟩ := rfl
    have htick : (Frame.link g (.awaitHook (.names q (some u)) argument')).tick s = some ⟨s, [], [], none⟩ := by
      simp [Frame.tick, hl, tickLink]
    exact (Stretch.of_answer (r := .link g _ :: r) hwaits hanswer rfl).trans (.of_tick htick rfl)
  | raised e =>
    have hordinary : e.ordinary = true := ha
    intro es
    refine ⟨.link g (.raised (.names q (some u))) :: es, ?_,
      ⟨attentive_of_waits hwaits .., fun _ _ => ⟨.inl rfl, fun _ _ => trivial⟩⟩, by simp [deeds, Event.deed?]⟩
    simp [Machine.run, Machine.step, Machine.answer, Machine.tick, Machine.after, Frame.answer, Frame.callFailed,
      Frame.unwind, hl, linkTurn, Coordinator.Frame.unwind, Coordinator.Frame.hookFailed, hordinary,
      setCoordinator_same hl]
  | _ => cases ha

lemma Stretch.embody {hook : Hook U} {t : Nat} (hl : s.links[g]? = some l) (hh : c.hookOf t .success = some hook)
    (hown : internal hook = true) (payload : Object) (r : List (Frame U X)) :
    Stretch (s.setCoordinator g c) (.link g (.call t .success (.payload payload)) :: r) [.tick] (s.setCoordinator g c)
      (.body hook payload :: .link g (.awaitHook hook (.payload payload)) :: r) [] := by
  have hlink := setCoordinator_link hl c
  have hbody : (bodyOf hook (.payload payload) : List (Frame U X)) = [.body hook payload] := by
    cases hook <;> first | rfl | cases hown
  have hcalled : (Frame.link g (.call t .success (.payload payload))).tick (s.setCoordinator g c) =
      some ⟨s.setCoordinator g c, [.body hook payload, .link g (.awaitHook hook (.payload payload))],
        [.link g (.told t .success (.payload payload)), .link g (.called hook (.payload payload))], none⟩ := by
    simp [Frame.tick, hlink, tickLink, hh, Coordinator.callTurn, linkTurn, setCoordinator_twice, hbody]
  have hunseen : List.filterMap Event.deed? [(.link g (.told t .success (.payload payload)) : Event U X),
      .link g (.called hook (.payload payload))] = [] := by
    cases hook <;> first | rfl | cases hown
  have hcall := Stretch.of_tick (r := r) hcalled rfl
  dsimp only at hcall
  rwa [hunseen] at hcall

lemma Stretch.offer {q : Question} {u : U} {payload completion : Object} {t : Nat} (hl : s.links[g]? = some l)
    (hh : c.hookOf t .success = some (.names q (some u))) (hc : Completion.ofPayload q payload = some completion)
    (ha : (Move.answer a : Move U X).mild = true) :
    Stretch (s.setCoordinator g c) (.link g (.call t .success (.payload payload)) :: r) [.tick, .tick, .answer a, .tick]
      (s.setCoordinator g c) r [.called .success u (.payload completion)] := by
  have hlink := setCoordinator_link hl c
  have hmade : (Frame.body (.names q (some u)) payload).tick (s.setCoordinator g c) =
      some ⟨s.setCoordinator g c, [.awaitCall false .success u (.payload completion)],
        [.called .success u (.payload completion)], none⟩ := by
    simp [Frame.tick, bodyTurn, namesTurn, hc, callTurn]
  have hcall := Stretch.embody hl hh rfl payload r
  have hbody := Stretch.of_tick (r := .link g (.awaitHook (.names q (some u)) (.payload payload)) :: r) hmade rfl
  exact hcall.trans (hbody.trans (.settle hlink ha))

lemma Handover.arrives (h : Handover s o operation) (hl : s.link? = some l) (hh : l.handler = some .router) :
    ∃ before after s' below, Reworked s s' s.current ∧ doings before = [] ∧ doings after = [] ∧
      (∀ f ∈ below, f = .guarded) ∧
      (∀ r, Stretch s (operation.frame :: r) before s' (.link s.current (.route (.object o)) :: (below ++ r)) []) ∧
      ∀ (s'' : Session U X) r, Stretch s'' (below ++ r) after s'' r [] := by
  have hlink : s.links[s.current]? = some l := hl
  cases h with
  | @remote n hn =>
    have hdelivered : (Frame.deliver n (.object o)).tick s =
        some ⟨s, [.link s.current (.route (.object o))], [], none⟩ := by
      simp [Frame.tick, deliverTurn, hn, handlerOf, hlink, hh]
    exact ⟨[.tick], [], s, [], .refl s _, rfl, rfl, by simp, fun r => .of_tick hdelivered rfl, fun s'' r => .refl s'' r⟩
  | @kernel k channel message hk hlistening he =>
    have hquiet : (k.receive channel message).fault = none :=
      (Kernel.receive_quiet k channel message).resolve_left (by simp [he])
    have harrived : (Frame.arrive channel (some message)).tick s =
        some ⟨s.setKernel s.current (k.receive channel message).kernel, [.emit s.current o, .guarded], [], none⟩ := by
      simp [Frame.tick, arriveTurn, hk, hlistening, he, hquiet]
    have hemitted : (Frame.emit s.current o).tick (s.setKernel s.current (k.receive channel message).kernel) =
        some ⟨s.setKernel s.current (k.receive channel message).kernel, [.link s.current (.route (.object o))], [], none⟩ := by
      simp [Frame.tick, emitTurn, handlerOf, setKernel_link hlink, hh]
    refine ⟨[.tick, .tick], [.tick], s.setKernel s.current (k.receive channel message).kernel, [.guarded],
      .setKernel .., rfl, rfl, by simp, fun r => ?_, fun s'' r => ?_⟩
    · have harrive := Stretch.of_tick (r := r) harrived rfl
      exact harrive.trans (.of_tick hemitted rfl)
    · have hguarded : (Frame.guarded : Frame U X).tick s'' = some ⟨s'', [], [], none⟩ := rfl
      exact .of_tick hguarded rfl

end Hearing

/-- However the names get here: the hook for the success is called once, with the completion that they determine, and the
hook after the run is called behind it. -/
def Completes (b : Machine U X) (q : Question) (hooks : Hooks U) (u : U) (id : Nat) : Prop :=
  ∀ {o : Object} {names : List String} {keys : Option (List String)} {operation : Operation U X} {a a' : Answer},
    NamesReply o id names keys → Handover b.state o operation → (Move.answer a : Move U X).mild = true →
      (Move.answer a' : Move U X).mild = true →
        ∃ hearing n completion, Way b (.start operation :: .answer a :: answering hooks.afterRun a') hearing n ∧
          n.stack = b.stack ∧ n.fault = none ∧ n.state.coordinator.inFlight = none ∧
          deeds n.events = deeds b.events ++
            .called .success u (.payload completion) :: Deed.calls hooks.afterRun .afterRun .nothing ∧
          Offers q (offering q.expression names keys) completion

section Links

variable {s : Session U X}

lemma link_of_heard (h : handlerOf s s.current = some .router) :
    ∃ l, s.link? = some l ∧ l.handler = some .router ∧ s.coordinator = l.coordinator := by
  obtain ⟨l, hl, hh⟩ := Option.bind_eq_some_iff.mp h
  have hlink : s.link? = some l := hl
  exact ⟨l, hlink, hh, by rw [coordinator, hlink]; rfl⟩

lemma coordinator_of_link {l : Link U X} (h : s.link? = some l) : s.coordinator = l.coordinator := by
  rw [coordinator, h]
  rfl

end Links

/-- A completion that waits for its names is completed by them. -/
theorem completes_of_awaiting {b : Machine U X} {code : List Char} {cursor : Int} {e : Expression} {hooks : Hooks U}
    {u : U} {id : Nat} (ho : b.open? = true) (hw : Awaiting b.state ⟨code, cursor, e⟩ hooks id)
    (he : Expression.parse code cursor = some e) (hu : hooks.success = some u) :
    Completes b ⟨code, cursor, e⟩ hooks u id := by
  intro o names keys operation a a' hreply hover ha ha'
  obtain ⟨l, hl, hh, hcoordinator⟩ := link_of_heard hw.heard
  obtain ⟨t, hbusy, howner, hlast, htask⟩ := hw.waits
  have halone := hw.alone
  rw [hcoordinator] at hbusy howner hlast htask halone
  obtain ⟨given, payload, hdecode, hgiven, hnames⟩ := hreply.decoded
  obtain ⟨before, after, s', below, hsame, hbefore, hafter, -, harrive, hleave⟩ := hover.arrives hl hh
  obtain ⟨w, hl'⟩ := hsame.link hl
  -- the message finds the task by its id, or as the one that was dispatched last
  have hresolve : l.coordinator.resolve given = some t := by
    cases given with
    | none => simpa [Coordinator.resolve, Coordinator.owner?] using hlast
    | some k =>
      obtain rfl := hgiven k rfl
      rw [Coordinator.resolve, howner, Option.some_or]
  have hsuccess : l.coordinator.hookOf t .success = some (.names ⟨code, cursor, e⟩ (some u)) := by
    rw [Coordinator.hookOf, htask, ← hu]
    rfl
  have hafterRun : l.coordinator.hookOf t .afterRun = hooks.afterRun.map (.user .afterRun) := by
    rw [Coordinator.hookOf, htask]
    rfl
  have hpayload : Completion.ofPayload ⟨code, cursor, e⟩ payload =
      some (Completion.result ⟨code, cursor, e⟩ (Completion.list e (offering e names keys))) := by
    rw [Completion.ofPayload, hnames, Option.map_some]
  have hclosed : (l.coordinator.closeContext given).inFlight = some t ∧
      (l.coordinator.closeContext given).draining = l.coordinator.draining ∧
      (l.coordinator.closeContext given).pending = l.coordinator.pending := by
    cases given <;> exact ⟨hbusy, rfl, rfl⟩
  -- the message, the hook of the session, the end of the run, and the way back to where the worker had been waited for
  have hmessage := harrive b.stack
  rw [← setCoordinator_same hl'] at hmessage
  have hheed := Stretch.heed (r := below ++ b.stack) hl' hdecode (by simp) hresolve
  have hoffer := Stretch.offer (r := .link b.state.current (.close given t) :: .link b.state.current (.advance t) ::
    (below ++ b.stack)) hl' hsuccess hpayload ha
  have hconclude := Stretch.conclude (r := .link b.state.current (.advance t) :: (below ++ b.stack)) given hl' hafterRun
    ha'
  have hvacate := Stretch.vacate (r := below ++ b.stack) hl' hclosed.1 (by rw [hclosed.2.1, hclosed.2.2]; exact halone)
  have hback := hconclude.trans (hvacate.trans (hleave _ _))
  obtain ⟨es, hway, hdeeds⟩ := (hmessage.trans (hheed.trans (hoffer.trans hback))).way operation
    (.answer a :: answering hooks.afterRun a') ho (by simp [hbefore, hafter])
  refine ⟨_, _, _, hway, rfl, rfl, ?_, ?_, Completion.offers_result he _⟩
  · have hlast : (s'.setCoordinator b.state.current { l.coordinator.closeContext given with inFlight := none }).link? =
        some { l with worker := w, coordinator := { l.coordinator.closeContext given with inFlight := none } } := by
      rw [link?, current_congr ((setCoordinator_length ..).trans hsame.length), setCoordinator_link hl']
    rw [coordinator_of_link hlast]
  · simpa using hdeeds

section Asking

variable {worker : Worker} {transform : Option X} {restartable : Bool} {documentation : Documentation.Index}
  {moves : List (Move U X)} {m : Machine U X}

lemma contexts_le
    (hr : Machine.run { state := Session.make worker transform restartable documentation } moves = some m) {g : Nat}
    (hg : g < m.state.links.length) :
    ∀ e ∈ (coordinatorOf m.state g).contexts, e.1 ≤ (coordinatorOf m.state g).lastContext := by
  have hfresh : ∀ x, Coordinator.Sound (H := Hook U) (X := X) (.fresh x) ∧ Coordinator.Tabled (H := Hook U) (.fresh x) :=
    fun x => ⟨Coordinator.sound_fresh x, (Coordinator.provided_fresh x).toTabled⟩
  have h := view_invariant (I := fun p => Coordinator.Sound p ∧ Coordinator.Tabled p) unrestricted hfresh
    (fun _ hs h => ⟨Coordinator.sound_step hs h.1, Coordinator.tabled_step hs h.1 h.2⟩) (housed_start ..)
    (follows_of_mem (fun _ _ _ => trivial) _) hr
    (view_start (I := fun p => Coordinator.Sound p ∧ Coordinator.Tabled p) _ _ _ _ hfresh) g hg
  exact fun e he => (h.2.entries e he).2

lemma vacant_of_rest
    (hr : Machine.run { state := Session.make worker transform restartable documentation } moves = some m)
    (hk : m.state.killed = false) (hstack : m.stack = []) (hflight : m.state.coordinator.inFlight = none)
    (hpending : m.state.coordinator.pending = []) : m.state.coordinator.Vacant := by
  have hsound := (links_halted hr m.state.current (current_lt (housed_run (housed_start ..) hr).inhabited)).1
  have hloops : (framesOf m.state.current m.stack).countP Coordinator.Frame.isLoop = m.state.coordinator.draining.toNat :=
    hsound.shape.loops
  refine ⟨hk, ?_, hpending, hflight⟩
  rw [hstack, framesOf_nil, List.countP_nil] at hloops
  exact Bool.toNat_eq_zero.mp hloops.symm

lemma Ready.vacant (h : Ready m)
    (hr : Machine.run { state := Session.make worker transform restartable documentation } moves = some m) :
    m.state.coordinator.Vacant :=
  vacant_of_rest hr h.killed h.stack h.inFlight h.pending

/-- A session that is not killed is ready when it has nothing to do, unless outside code has taken its handler away. -/
theorem ready_of_idle
    (hr : Machine.run { state := Session.make worker transform restartable documentation } moves = some m)
    (hf : Follows Machine.step Orderly { state := Session.make worker transform restartable documentation } moves)
    (hk : m.state.killed = false) (hstack : m.stack = []) (hflight : m.state.coordinator.inFlight = none)
    (hpending : m.state.coordinator.pending = []) : Ready m := by
  rw [Machine.run_eq] at hr
  have h := run_invariant (I := fun m : Machine U X => Housed m ∧ Poised m.state m.stack m.fault)
    (fun ha hs h => ⟨housed_step (step_stage h.1 hs) h.1, poised_step h.1.inhabited ha hs h.2⟩) hf hr
    ⟨housed_start .., .steady (attuned_attach _ worker) (by simp)⟩
  have hheard := (h.2.suspended (by simp [Machine.suspended, hstack])).1.heard
  rw [hk] at hheard
  exact ⟨hk, hheard, hstack, hflight, hpending⟩

variable {c : Coordinator (Hook U) X} {q : Question} {hooks : Hooks U}

lemma owner?_engage (hc : ∀ e ∈ c.contexts, e.1 ≤ c.lastContext) (task : Task (Hook U)) :
    (c.engage task).owner? (some ((c.lastContext + 1 : Nat) : Int)) = some c.tasks.length := by
  have hnone : c.contexts.find? (fun e => (e.1 : Int) = (c.lastContext : Int) + 1) = none := by
    refine List.find?_eq_none.mpr fun e he => ?_
    have := hc e he
    simp only [decide_eq_true_eq]
    omega
  simp [Coordinator.owner?, Coordinator.engage, Coordinator.openContext, List.find?_append, hnone]

lemma awaiting_engaged {s : Session U X} {l : Link U X} {draining : Bool} (hl : s.link? = some l)
    (hh : l.handler = some .router) (hc : c.Vacant) (hle : ∀ e ∈ c.contexts, e.1 ≤ c.lastContext)
    (he : l.coordinator = { c.engage (namesTask q hooks) with draining := draining }) :
    Awaiting s q hooks (c.lastContext + 1) := by
  refine ⟨?_, ⟨c.tasks.length, ?_⟩, ?_⟩
  · have hbind : handlerOf s s.current = s.link?.bind Link.handler := rfl
    rw [hbind, hl, Option.bind_some, hh]
  · rw [coordinator_of_link hl, he]
    exact ⟨rfl, owner?_engage hle _, rfl, engage_task ..⟩
  · rw [coordinator_of_link hl, he]
    exact .inr hc.pending

/-- How a completion is asked for: the hook before the run is called, and the worker gets the query; the session waits for
the reply from then on, also when the worker has taken the query. -/
structure Asked (m held n : Machine U X) (q : Question) (hooks : Hooks U) (id : Nat) : Prop where
  sending : held.stack = [.link m.state.current (.awaitSend (query q id)), .link m.state.current .drainLoop]
  shown : deeds held.events = deeds m.events ++
    (Deed.calls hooks.beforeRun .beforeRun .nothing ++ [.asked m.state.current (query q id)])
  awaiting : held.fault = none ∧ Awaiting held.state q hooks id
  idle : n.stack = [] ∧ n.fault = none ∧ deeds n.events = deeds held.events ∧ Awaiting n.state q hooks id

theorem asked_of_ready (h : Ready m)
    (hr : Machine.run { state := Session.make worker transform restartable documentation } moves = some m)
    {code : List Char} {cursor : Int} {e : Expression} (he : Expression.parse code cursor = some e) {a : Answer}
    (ha : (Move.answer a : Move U X).mild = true) :
    ∃ asking held n, Way m (.start (.complete code cursor hooks) :: answering hooks.beforeRun a) asking held ∧
      held.run [accepting held.state, .tick] = some n ∧
      Asked m held n ⟨code, cursor, e⟩ hooks (m.state.coordinator.lastContext + 1) := by
  obtain ⟨l, hl, hh, hcoordinator⟩ := link_of_heard h.heard
  have hvacant := h.vacant hr
  have hle : ∀ e ∈ m.state.coordinator.contexts, e.1 ≤ m.state.coordinator.lastContext :=
    contexts_le hr (handlerOf_lt h.heard)
  have hopen : m.open? = true := by simp [Machine.open?, h.stack]
  rw [hcoordinator] at hvacant hle ⊢
  have hlink : m.state.links[m.state.current]? = some l := hl
  have hcompleted : (Frame.complete code cursor hooks).tick m.state = some ⟨m.state,
      [.link m.state.current (.submit (namesTask ⟨code, cursor, e⟩ hooks))], [.log .complete], none⟩ := by
    simp [Frame.tick, completeTurn, he, submit]
  have hcomplete := Stretch.of_tick (r := m.stack) hcompleted rfl
  have hcode : (namesTask ⟨code, cursor, e⟩ hooks).code =
      .string (query ⟨code, cursor, e⟩ (l.coordinator.lastContext + 1)).code := rfl
  have hbefore : (namesTask ⟨code, cursor, e⟩ hooks).hooks.beforeRun = hooks.beforeRun.map (.user .beforeRun) := rfl
  have haction : (namesTask ⟨code, cursor, e⟩ hooks).action ≠ .run := by simp [namesTask, Task.build]
  have hcommission := Stretch.commission (r := m.stack) hlink hvacant hcode haction hbefore ha
  rw [setCoordinator_same hlink] at hcommission
  obtain ⟨es, hway, hdeeds⟩ := (hcomplete.trans hcommission).way (.complete code cursor hooks)
    (answering hooks.beforeRun a) hopen (by simp)
  have hheld : (m.state.setCoordinator m.state.current
      { l.coordinator.engage (namesTask ⟨code, cursor, e⟩ hooks) with draining := true }).link? = some
        { l with coordinator := { l.coordinator.engage (namesTask ⟨code, cursor, e⟩ hooks) with draining := true } } := by
    rw [link?, current_congr (setCoordinator_length ..), setCoordinator_link hlink]
  obtain ⟨s', w, haccept, hl'⟩ := Stretch.accept (r := m.stack)
    (query ⟨code, cursor, e⟩ (l.coordinator.lastContext + 1)) hheld rfl
  rw [current_congr (setCoordinator_length ..)] at haccept
  obtain ⟨es', hrun, -, hdeeds'⟩ := haccept es
  refine ⟨_, _, _, hway, hrun, ?_⟩
  exact {
    sending := by rw [h.stack]; rfl
    shown := hdeeds
    awaiting := ⟨rfl, awaiting_engaged hheld hh hvacant hle rfl⟩
    idle := ⟨h.stack, rfl, by simpa using hdeeds', awaiting_engaged hl' hh hvacant hle rfl⟩ }

/-- A live session that has nothing to do sends the query of a completion at once; and whenever the session has control while
the query waits, a reply with names leads to one call of the hook for the success, with the completion of those names. -/
theorem completion_delivered (h : Ready m)
    (hr : Machine.run { state := Session.make worker transform restartable documentation } moves = some m)
    {code : List Char} {cursor : Int} {e : Expression} (he : Expression.parse code cursor = some e) {u : U}
    (hu : hooks.success = some u) {a : Answer} (ha : (Move.answer a : Move U X).mild = true) :
    (∃ asking held n, Way m (.start (.complete code cursor hooks) :: answering hooks.beforeRun a) asking held ∧
      held.run [accepting held.state, .tick] = some n ∧
      Asked m held n ⟨code, cursor, e⟩ hooks (m.state.coordinator.lastContext + 1)) ∧
    ∀ b : Machine U X, b.open? = true →
      Awaiting b.state ⟨code, cursor, e⟩ hooks (m.state.coordinator.lastContext + 1) →
        Completes b ⟨code, cursor, e⟩ hooks u (m.state.coordinator.lastContext + 1) :=
  ⟨asked_of_ready h hr he ha, fun _ ho hw => completes_of_awaiting ho hw he hu⟩

end Asking

def executed : List (Move Nat Nat) :=
  List.flatten [[.start (.execute "import os" none)], List.replicate 8 .tick, [.answer .done, .tick,
    .start (.deliver 0 (.object [("id", .int 1), ("end", .bool true), ("mime", .object [])]))], List.replicate 8 .tick]

def querying : List (Move Nat Nat) :=
  List.flatten [[.start (.complete "os.pa".toList 5 { success := some 5, afterRun := some 6 })], List.replicate 8 .tick,
    [.answer .done, .tick]]

def namesMessage : Object :=
  [("id", .int 2), ("names", .list [.string "pardir", .string "sep", .string "path"]), ("keys", .null), ("took", .int 3),
    ("end", .bool true)]

theorem executed_delivered :
    ∃ m b completion hearing n, Machine.run { state := Session.make (.remote 0) none true ⟨[], []⟩ } executed = some m ∧
      m.run querying = some b ∧ deeds b.events = deeds m.events ++ [.asked 0 ⟨.listNames, "os", 2⟩] ∧
      doings hearing = [.start (.deliver 0 (.object namesMessage)), .answer .done, .answer .done] ∧
      Machine.run b hearing = some n ∧ n.stack = [] ∧
      deeds n.events = deeds b.events ++ [.called .success 5 (.payload completion), .called .afterRun 6 .nothing] ∧
      Offers ⟨"os.pa".toList, 5, ⟨"os.pa".toList, "os".toList, some .attribute, "pa".toList⟩⟩
        ["pardir".toList, "sep".toList, "path".toList] completion := by
  have h : (Machine.run { state := Session.make (.remote 0) none true ⟨[], []⟩ } executed).isSome = true := by
    decide +kernel
  have hf : Follows Machine.step Orderly { state := Session.make (.remote 0) none true ⟨[], []⟩ } executed := by
    decide +kernel
  have hm := (Option.some_get h).symm
  have h' : (((Machine.run { state := Session.make (.remote 0) none true ⟨[], []⟩ } executed).get
      (by decide +kernel)).run querying).isSome = true := by decide +kernel
  have hb := (Option.some_get h').symm
  have he : Expression.parse "os.pa".toList 5 = some ⟨"os.pa".toList, "os".toList, some .attribute, "pa".toList⟩ := by
    decide +kernel
  have hreply : NamesReply namesMessage 2 ["pardir", "sep", "path"] none :=
    ⟨rfl, ⟨some 2, rfl, by simp⟩, rfl, rfl, .inr rfl⟩
  have hu : ({ success := some 5, afterRun := some 6 } : Hooks Nat).success = some 5 := rfl
  have ha : (Move.answer .done : Move Nat Nat).mild = true := rfl
  obtain ⟨-, hcompletes⟩ := completion_delivered (ready_of_idle hm hf rfl rfl rfl rfl) hm he hu ha
  have hhandover : Handover (Option.get _ h').state namesMessage (.deliver 0 (.object namesMessage)) := .remote rfl
  obtain ⟨hearing, n, completion, hway, hstack, -, -, hdeeds, hoffers⟩ :=
    hcompletes (Option.get _ h') rfl ⟨rfl, ⟨1, rfl, rfl, rfl, rfl⟩, .inr rfl⟩ hreply hhandover ha ha
  exact ⟨_, _, completion, hearing, n, hm, hb, rfl, hway.doings, hway.run, hstack, hdeeds, hoffers⟩

end Session

end EvalSession
