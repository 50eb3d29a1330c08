import EvalSession.Proofs.Coordinator.Renaming
import EvalSession.Proofs.Session.Stage

/-!
# A session behind earlier links

`s.onto past` is the session `s` with the links and the reports of `past` before its own: only the numbers of links
and reports change. A session works on its last link alone, so it does the same behind the links of an earlier one, as
long as nobody listens to the workers of these.
-/
namespace EvalSession

variable {U X : Type}

def Hook.onto (past : Session U X) : Hook U → Hook U
  | .scopeInspection report q hooks => .scopeInspection (past.reports.length + report) q hooks
  | hook => hook

def Link.onto (past : Session U X) (l : Link U X) : Link U X :=
  { l with coordinator := l.coordinator.map (Hook.onto past) }

namespace Session

def onto (s past : Session U X) : Session U X :=
  { s with links := past.links ++ s.links.map (Link.onto past), reports := past.reports ++ s.reports }

def Frame.onto (past : Session U X) : Frame U X → Frame U X
  | .link g f => .link (past.links.length + g) (f.map (Hook.onto past))
  | .emit g message => .emit (past.links.length + g) message
  | .body hook payload => .body (hook.onto past) payload
  | f => f

def Event.onto (past : Session U X) : Event U X → Event U X
  | .link g e => .link (past.links.length + g) (e.map (Hook.onto past))
  | .act (g := g) a => .act (g := past.links.length + g) a
  | e => e

def Turn.onto (past : Session U X) (t : Turn U X) : Turn U X where
  state := t.state.onto past
  frames := t.frames.map (Frame.onto past)
  events := t.events.map (Event.onto past)
  fault := t.fault

/-- Nobody listens to any worker. -/
def Deaf (s : Session U X) : Prop := ∀ g, handlerOf s g = none

/-- The session has workers of its own, and none that the earlier one had. -/
structure Apart (past s : Session U X) : Prop where
  inhabited : 0 < s.links.length
  strange : ∀ n, (past.linkOf? n).isSome = true → s.linkOf? n = none

section States

variable (past s : Session U X)

lemma getElem?_onto (g : Nat) : (s.onto past).links[past.links.length + g]? = s.links[g]?.map (Link.onto past) := by
  simp [onto, List.getElem?_append_right]

lemma current_onto (h : 0 < s.links.length) : (s.onto past).current = past.links.length + s.current := by
  simp only [current, onto, List.length_append, List.length_map]
  omega

lemma link?_onto (h : 0 < s.links.length) : (s.onto past).link? = s.link?.map (Link.onto past) := by
  rw [link?, current_onto past s h, getElem?_onto, link?]

lemma coordinatorOf_onto (g : Nat) :
    coordinatorOf (s.onto past) (past.links.length + g) = (coordinatorOf s g).map (Hook.onto past) := by
  rw [coordinatorOf, getElem?_onto, coordinatorOf]
  cases s.links[g]? <;> rfl

lemma killed_onto (h : 0 < s.links.length) : (s.onto past).killed = s.killed := by
  rw [killed, coordinator, link?_onto past s h, killed, coordinator]
  cases s.link? <;> rfl

lemma kernel?_onto (h : 0 < s.links.length) : (s.onto past).kernel? = s.kernel? := by
  rw [kernel?, link?_onto past s h, kernel?]
  cases s.link? <;> rfl

lemma handlerOf_onto (g : Nat) : handlerOf (s.onto past) (past.links.length + g) = handlerOf s g := by
  rw [handlerOf, getElem?_onto, handlerOf]
  cases s.links[g]? <;> rfl

lemma modify_behind {α : Type} (l l' : List α) (i : Nat) (f : α → α) :
    (l ++ l').modify (l.length + i) f = l ++ l'.modify i f := by
  induction l with
  | nil => simp
  | cons a l ih => simp [Nat.add_right_comm, ih]

lemma modify_onto (g : Nat) (f f' : Link U X → Link U X) (h : ∀ l, f' (l.onto past) = (f l).onto past) :
    (s.onto past).links.modify (past.links.length + g) f' =
      past.links ++ (s.links.modify g f).map (Link.onto past) := by
  rw [onto, modify_behind, modify_map (Link.onto past) h]

lemma setCoordinator_onto (g : Nat) (c : Coordinator (Hook U) X) :
    (s.onto past).setCoordinator (past.links.length + g) (c.map (Hook.onto past)) =
      (s.setCoordinator g c).onto past := by
  have h := modify_onto past s g (fun l => { l with coordinator := c }) (fun l => { l with coordinator := c.map _ })
    fun _ => rfl
  rw [setCoordinator, h]
  rfl

lemma setKernel_onto (g : Nat) (k : Kernel) :
    (s.onto past).setKernel (past.links.length + g) k = (s.setKernel g k).onto past := by
  have h := modify_onto past s g (fun l => { l with worker := .kernel k }) (fun l => { l with worker := .kernel k })
    fun _ => rfl
  rw [setKernel, h]
  rfl

lemma setHandler_onto (g : Nat) (handler : Option Handler) :
    (s.onto past).setHandler (past.links.length + g) handler = (s.setHandler g handler).onto past := by
  have h := modify_onto past s g (fun l => { l with handler := handler }) (fun l => { l with handler := handler })
    fun _ => rfl
  rw [setHandler, h]
  rfl

lemma attach_onto (worker : Worker) : (s.onto past).attach worker = (s.attach worker).onto past := by
  simp [attach, onto, Link.onto, Coordinator.map]

end States

section Tasks

variable (past : Session U X)

lemma callers_onto (hooks : Hooks U) : (callers hooks).map (Hook.onto past) = callers hooks := by
  simp [callers, Hooks.ofMoments, Hooks.map, Function.comp_def, Hook.onto]

lemma runTask_onto (code : String) (hooks : Option (Hooks U)) :
    (runTask code hooks).map (Hook.onto past) = runTask code hooks := by
  rw [runTask, Task.build_map]
  cases hooks <;> simp [callers_onto]

lemma namesTask_onto (q : Question) (hooks : Hooks U) :
    (namesTask q hooks).map (Hook.onto past) = namesTask q hooks := by
  simp [namesTask, Task.build_map, callers_onto, Hook.onto]

lemma inspectionTask_onto (q : Question) (hooks : Hooks U) :
    (inspectionTask q hooks).map (Hook.onto past) = inspectionTask q hooks := by
  simp [inspectionTask, Task.build_map, callers_onto, Hook.onto]

lemma scopeTask_onto (q : Question) (hooks : Hooks U) (report : Nat) :
    (scopeTask q hooks report).map (Hook.onto past) = scopeTask q hooks (past.reports.length + report) := by
  simp [scopeTask, Task.build_map, callers_onto, Hook.onto]

end Tasks

section Turns

variable (past : Session U X) {s : Session U X}

lemma linkTurn_onto (s : Session U X) (g : Nat) (t : Coordinator.Turn (Hook U) X) :
    linkTurn (s.onto past) (past.links.length + g) (t.map (Hook.onto past)) = (linkTurn s g t).onto past := by
  simp only [linkTurn, Coordinator.Turn.map, setCoordinator_onto, Turn.onto, List.map_map]
  rfl

lemma bodyOf_onto (hook : Hook U) (argument : Argument) :
    bodyOf (hook.onto past) argument = (bodyOf hook argument : List (Frame U X)).map (Frame.onto past) := by
  cases hook <;> cases argument <;> rfl

lemma transmitTurn_onto (s : Session U X) (g : Nat) (k : Kernel) (r : Request) (messageId : Option String) :
    transmitTurn (s.onto past) (past.links.length + g) k r messageId = (transmitTurn s g k r messageId).onto past := by
  simp only [transmitTurn, setKernel_onto]
  rfl

lemma tickLink_onto (s : Session U X) (g : Nat) (l : Link U X) (f : Coordinator.Frame (Hook U) X) :
    tickLink (s.onto past) (past.links.length + g) (l.onto past) (f.map (Hook.onto past)) =
      (tickLink s g l f).map (Turn.onto past) := by
  have hown : ((f.map (Hook.onto past)).tick (l.onto past).coordinator).map
      (linkTurn (s.onto past) (past.links.length + g)) =
        ((f.tick l.coordinator).map (linkTurn s g)).map (Turn.onto past) := by
    rw [Link.onto, Coordinator.tick_map, Option.map_map, Option.map_map]
    exact congrArg (Option.map · _) (funext fun t => linkTurn_onto past s g t)
  cases f with
  | awaitSend r =>
    cases hw : l.worker with
    | remote n => simp only [tickLink, Coordinator.Frame.map, Link.onto, hw]; rfl
    | kernel k =>
      simp only [tickLink, Coordinator.Frame.map, Link.onto, hw, transmitTurn_onto]
      rfl
  | awaitHook hook argument => cases hook <;> rfl
  | call task moment argument =>
    have hbody :
        (((l.onto past).coordinator.hookOf task moment).toList.flatMap (bodyOf · argument) : List (Frame U X)) =
          ((l.coordinator.hookOf task moment).toList.flatMap (bodyOf · argument)).map (Frame.onto past) := by
      rw [Link.onto, Coordinator.hookOf_map]
      cases l.coordinator.hookOf task moment <;> simp [bodyOf_onto]
    simp only [tickLink, Coordinator.Frame.map, hbody]
    rw [Link.onto, Coordinator.callTurn_map, linkTurn_onto]
    simp [Turn.onto]
  | _ => exact hown

lemma submit_onto (hs : 0 < s.links.length) (task : Task (Hook U)) :
    (s.onto past).submit (task.map (Hook.onto past)) = (s.submit task).onto past := by
  simp only [submit, current_onto past s hs]
  rfl

lemma executeTurn_onto (hs : 0 < s.links.length) (code : String) (hooks : Option (Hooks U)) :
    executeTurn (s.onto past) code hooks = (executeTurn s code hooks).onto past := by
  have h := submit_onto past hs (runTask code hooks)
  rw [runTask_onto] at h
  simp only [executeTurn, h]
  rfl

lemma completeTurn_onto (hs : 0 < s.links.length) (code : List Char) (cursor : Int) (hooks : Hooks U) :
    completeTurn (s.onto past) code cursor hooks = (completeTurn s code cursor hooks).onto past := by
  unfold completeTurn
  cases Expression.parse code cursor with
  | none => rfl
  | some e =>
    have h := submit_onto past hs (namesTask ⟨code, cursor, e⟩ hooks)
    rw [namesTask_onto] at h
    simp only [h]
    rfl

lemma inspectTurn_onto (hs : 0 < s.links.length) (code : List Char) (cursor : Int) (hooks : Hooks U) :
    inspectTurn (s.onto past) code cursor hooks = (inspectTurn s code cursor hooks).onto past := by
  unfold inspectTurn
  cases Expression.parse code cursor with
  | none => rfl
  | some e =>
    have h := submit_onto past hs (inspectionTask ⟨code, cursor, e⟩ hooks)
    rw [inspectionTask_onto] at h
    simp only [h]
    rfl

lemma respondTurn_onto (hs : 0 < s.links.length) (hooks : Hooks U) (result : Object) :
    respondTurn (s.onto past) hooks result = (respondTurn s hooks result).onto past := by
  simp only [respondTurn, killed_onto past s hs]
  split <;> rfl

lemma callTurn_onto (s : Session U X) (contained : Bool) (moment : Moment) (hook : Option U) (argument : Argument) :
    callTurn (s.onto past) contained moment hook argument = (callTurn s contained moment hook argument).onto past := by
  cases hook <;> rfl

lemma inspectionTurn_onto (hs : 0 < s.links.length) (q : Question) (hooks : Hooks U) (payload : Object) :
    inspectionTurn (s.onto past) q hooks payload = (inspectionTurn s q hooks payload).onto past := by
  unfold inspectionTurn
  cases Inspection.withQuestion q payload with
  | none => rfl
  | some report =>
    have hlength : (s.onto past).reports.length = past.reports.length + s.reports.length := by simp [onto]
    have hreports : { s.onto past with reports := (s.onto past).reports ++ [report] } =
        ({ s with reports := s.reports ++ [report] } : Session U X).onto past := by simp [onto]
    have h := submit_onto past hs (scopeTask q hooks s.reports.length)
    rw [scopeTask_onto] at h
    simp only [hlength, hreports, h]
    split <;> rfl

lemma scopeInspectionTurn_onto (s : Session U X) (report : Nat) (q : Question) (hooks : Hooks U) (payload : Object) :
    scopeInspectionTurn (s.onto past) (past.reports.length + report) q hooks payload =
      (scopeInspectionTurn s report q hooks payload).onto past := by
  unfold scopeInspectionTurn
  cases Inspection.constructors payload with
  | none => rfl
  | some names =>
    have hget : (s.onto past).reports[past.reports.length + report]? = s.reports[report]? := by
      simp [onto, List.getElem?_append_right]
    have hset : ∀ result, (s.onto past).reports.set (past.reports.length + report) result =
        past.reports ++ s.reports.set report result := by
      intro result
      simp [onto, List.set_append_right]
    simp only [hget, hset]
    rfl

lemma bodyTurn_onto (hs : 0 < s.links.length) (hook : Hook U) (payload : Object) :
    bodyTurn (s.onto past) (hook.onto past) payload = (bodyTurn s hook payload).onto past := by
  cases hook with
  | user moment hook => rfl
  | names q success =>
    simp only [Hook.onto, bodyTurn, namesTurn]
    split
    · rfl
    · exact callTurn_onto past s ..
  | inspection q hooks => exact inspectionTurn_onto past hs q hooks payload
  | inspectionError hooks => rfl
  | scopeInspection report q hooks => exact scopeInspectionTurn_onto past s report q hooks payload

lemma linkOf?_onto (s : Session U X) (n : Nat) :
    (s.onto past).linkOf? n = (past.linkOf? n).or ((s.linkOf? n).map (past.links.length + ·)) := by
  simp only [linkOf?, onto, List.findIdx?_append, List.findIdx?_map, Nat.add_comm]
  rfl

lemma deliverTurn_onto (hd : past.Deaf) (hap : Apart past s) (n : Nat) (message : Value) :
    deliverTurn (s.onto past) n message = (deliverTurn s n message).onto past := by
  unfold deliverTurn
  rw [linkOf?_onto]
  cases hp : past.linkOf? n with
  | some g =>
    have hnone : handlerOf (s.onto past) g = none := by
      rw [handlerOf, onto, List.getElem?_append_left (linkOf_lt hp)]
      exact hd g
    simp only [Option.some_or, hnone, hap.strange n (by simp [hp])]
    rfl
  | none =>
    cases s.linkOf? n with
    | none => rfl
    | some g =>
      simp only [Option.none_or, Option.map_some, handlerOf_onto]
      cases handlerOf s g <;> rfl

lemma emitTurn_onto (s : Session U X) (g : Nat) (message : Object) :
    emitTurn (s.onto past) (past.links.length + g) message = (emitTurn s g message).onto past := by
  simp only [emitTurn, handlerOf_onto]
  split <;> rfl

lemma arriveTurn_onto (hs : 0 < s.links.length) (channel : Kernel.Channel) (message : Option Value) :
    arriveTurn (s.onto past) channel message = (arriveTurn s channel message).onto past := by
  simp only [arriveTurn, kernel?_onto past s hs, current_onto past s hs]
  split
  · rfl
  split
  · rfl
  split
  · rfl
  · rename_i k _ _ _ m
    simp only [setKernel_onto]
    cases (k.receive channel m).emitted <;> rfl

lemma terminateTurn_onto (hs : 0 < s.links.length) (signal : String) (ending : Ending) :
    terminateTurn (s.onto past) signal ending = (terminateTurn s signal ending).onto past := by
  unfold terminateTurn
  rw [link?_onto past s hs]
  cases hl : s.link? with
  | none => rfl
  | some l =>
    simp only [Option.map_some, Link.onto]
    split
    · rfl
    · rename_i k _
      have hcurrent := current_onto past (s.setKernel s.current (k.terminate signal).kernel) (by simpa using hs)
      simp only [current_onto past s hs, setKernel_onto, hcurrent, setHandler_onto]
      cases (k.terminate signal).acts.isEmpty <;> cases (k.terminate signal).status <;>
        simp [Turn.onto, Frame.onto, Event.onto]

lemma finishTurn_onto (s : Session U X) (ending : Ending) (status : Kernel.ExitStatus) :
    finishTurn (s.onto past) ending status = (finishTurn s ending status).onto past := by
  cases ending with
  | stop => rfl
  | kill notify => cases notify <;> rfl
  | restart notify => rfl

lemma endTurn_onto (hs : 0 < s.links.length) (signal : String) (ending : Ending) :
    endTurn (s.onto past) signal ending = (endTurn s signal ending).onto past := by
  simp only [endTurn, current_onto past s hs]
  rfl

variable {past}

theorem tick_onto (hd : past.Deaf) (hap : Apart past s) (f : Frame U X) :
    (f.onto past).tick (s.onto past) = (f.tick s).map (Turn.onto past) := by
  have hs := hap.inhabited
  cases f with
  | link g f =>
    simp only [Frame.onto, Frame.tick, getElem?_onto]
    cases s.links[g]? with
    | none => rfl
    | some l => exact tickLink_onto past s g l f
  | execute code hooks => exact congrArg some (executeTurn_onto past hs code hooks)
  | complete code cursor hooks => exact congrArg some (completeTurn_onto past hs code cursor hooks)
  | inspect code cursor hooks => exact congrArg some (inspectTurn_onto past hs code cursor hooks)
  | assign x =>
    simp only [Frame.onto, Frame.tick, current_onto past s hs]
    rfl
  | respond hooks result => exact congrArg some (respondTurn_onto past hs hooks result)
  | call moment hook argument => exact congrArg some (callTurn_onto past s true moment hook argument)
  | body hook payload => exact congrArg some (bodyTurn_onto past hs hook payload)
  | deliver n message => exact congrArg some (deliverTurn_onto past hd hap n message)
  | arrive channel message => exact congrArg some (arriveTurn_onto past hs channel message)
  | emit g message => exact congrArg some (emitTurn_onto past s g message)
  | guarded => rfl
  | transmit fields messageId =>
    simp only [Frame.onto, Frame.tick, kernel?_onto past s hs, current_onto past s hs]
    split
    · rfl
    · rfl
    · exact congrArg some (transmitTurn_onto past s ..)
  | install handler =>
    simp only [Frame.onto, Frame.tick, current_onto past s hs, setHandler_onto]
    rfl
  | kill signal notify => exact congrArg some (endTurn_onto past hs signal (.kill notify))
  | restart signal notify =>
    have hr : (s.onto past).restartable = s.restartable := rfl
    simp only [Frame.onto, Frame.tick, hr]
    split
    · exact congrArg some (endTurn_onto past hs signal (.restart notify))
    · rfl
  | terminate signal ending => exact congrArg some (terminateTurn_onto past hs signal ending)
  | finish ending status => exact congrArg some (finishTurn_onto past s ending status)
  | awaitCall => rfl
  | awaitTermination => rfl
  | awaitWorker => rfl

lemma callFailed_onto (s : Session U X) (contained : Bool) (moment : Moment) (e : Fault) :
    Frame.callFailed (s.onto past) contained moment e = (Frame.callFailed s contained moment e).onto past := by
  unfold Frame.callFailed
  split <;> rfl

theorem unwind_onto (s : Session U X) (e : Fault) (f : Frame U X) :
    (f.onto past).unwind (s.onto past) e = (f.unwind s e).onto past := by
  cases f with
  | link g f =>
    simp only [Frame.onto, Frame.unwind, getElem?_onto]
    cases s.links[g]? with
    | none => rfl
    | some l =>
      simp only [Option.map_some, Link.onto, Coordinator.unwind_map]
      exact linkTurn_onto past s g _
  | awaitCall contained moment hook argument => exact callFailed_onto s contained moment e
  | guarded =>
    simp only [Frame.onto, Frame.unwind]
    split <;> rfl
  | _ => rfl

theorem answer_onto (s : Session U X) (f : Frame U X) (a : Answer) :
    (f.onto past).answer (s.onto past) a = (f.answer s a).map (Turn.onto past) := by
  cases f with
  | link g f =>
    simp only [Frame.onto, Frame.answer, Frame.answerLink, getElem?_onto]
    cases s.links[g]? with
    | none => rfl
    | some l =>
      cases ha : a.coordinator? with
      | none => rfl
      | some b =>
        simp only [Option.map_some, Link.onto, Coordinator.answer_map, Option.map_map]
        exact congrArg (Option.map · _) (funext fun t => linkTurn_onto past s g t)
  | awaitCall contained moment hook argument =>
    cases a with
    | raised e => exact congrArg some (callFailed_onto s contained moment e)
    | _ => rfl
  | awaitTermination ending => cases a <;> rfl
  | awaitWorker notify status =>
    cases a with
    | worker w =>
      simp only [Frame.onto, Frame.answer, attach_onto]
      cases notify <;> rfl
    | _ => rfl
  | _ => cases a <;> rfl

end Turns

end Session

end EvalSession
