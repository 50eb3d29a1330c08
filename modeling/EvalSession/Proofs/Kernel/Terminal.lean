import EvalSession.Proofs.Coordinator.Conclusion
import EvalSession.Proofs.Kernel.Payload
import EvalSession.Proofs.Literal.Quoted

/-!
# Terminal messages

What a kernel says in the end makes a terminal message, which the router takes as a last reply if the value that the reply
holds is one that its variant can carry. An inspection carries an object, and a list of names carries texts; a value of
another shape makes a message that the router drops. A value that nests too deep makes no message at all.
-/
namespace EvalSession.Kernel

/-- The outcome is the written form of this text. -/
def Written (outcome : Object) (text : List Char) : Prop :=
  ∃ data, outcome.get? "data" = some (.object data) ∧
    Object.get? data "text/plain" = some (.string (String.ofList (Text.Quoted.quote text)))

/-- What is found in a reply that concludes a request. -/
inductive Finding where
  /-- An error, or the end of a run. -/
  | nothing
  | value (v : Value)
  | overrun (o : Overrun)
  deriving DecidableEq

def Finding.value? : Finding → Option Value
  | .value v => some v
  | _ => none

/-- A reply that concludes a request, with what is found in it. -/
inductive Conclusive (depths : Depths) (action : Action) (reply : Object) : Finding → Prop
  | aborted (h : isStatus reply "aborted" = true) : Conclusive depths action reply .nothing
  | failed (h : isStatus reply "ok" = false) (hd : describes reply = true) : Conclusive depths action reply .nothing
  | ran (h : isStatus reply "ok" = true) (ha : action = .run) : Conclusive depths action reply .nothing
  | refused {outcome} (h : isStatus reply "ok" = true) (ho : outcome? reply = some outcome)
      (hs : isStatus outcome "ok" = false) (hd : describes outcome = true) : Conclusive depths action reply .nothing
  | unreadable {outcome text f} (h : isStatus reply "ok" = true) (ho : outcome? reply = some outcome)
      (hs : isStatus outcome "ok" = true) (hw : Written outcome text)
      (hv : Json.readWithin depths.containers text = .error f) (hf : ∀ o, f.problem ≠ .tooDeep o) :
      Conclusive depths action reply .nothing
  | overrun {outcome text f o} (h : isStatus reply "ok" = true) (ha : action ≠ .run) (ho : outcome? reply = some outcome)
      (hs : isStatus outcome "ok" = true) (hw : Written outcome text)
      (hv : Json.readWithin depths.containers text = .error f) (hf : f.problem = .tooDeep o) :
      Conclusive depths action reply (.overrun o)
  | answered {outcome text v} (h : isStatus reply "ok" = true) (ho : outcome? reply = some outcome)
      (hs : isStatus outcome "ok" = true) (hw : Written outcome text)
      (hv : Json.readWithin depths.containers text = .ok v) : Conclusive depths action reply (.value v)

/-- The answer to a query has a shape that its variant can carry. What is no object is no list of names, which is answered
with an error. -/
def presentable : Action → Value → Bool
  | .run, _ => true
  | .listNames, .object o => allows o "names" isTexts && allows o "keys" fun v => v = .null || isTexts v
  | .listNames, _ => true
  | .inspect, v => isObject v

/-- What a reply shows of its answer. -/
inductive Shows (action : Action) : Option Value → Object → Prop
  | error (e : ErrorContent) : Shows action none [("error", e.toValue)]
  | execution {answer mime} (ha : action = .run) : Shows action answer [("mime", .object mime)]
  | query {v} (ha : action ≠ .run) : Shows action (some v) (queryPayload action v)

section Payload

variable {depths : Depths} {action : Action} {mime o reply : Object} {finding : Finding} {v : Value}

lemma text_of_isString (h : isString v = true) : ∃ s, v = .string s := by
  cases v with
  | string s => exact ⟨s, rfl⟩
  | _ => cases h

lemma texts_of_isTexts (h : isTexts v = true) : ∃ l : List String, v = .list (l.map .string) := by
  cases v with
  | list items =>
    induction items with
    | nil => exact ⟨[], rfl⟩
    | cons v items ih =>
      obtain ⟨hv, hitems⟩ : isString v = true ∧ isTexts (.list items) = true := by simpa [isTexts] using h
      obtain ⟨s, rfl⟩ := text_of_isString hv
      obtain ⟨l, hl⟩ := ih hitems
      exact ⟨s :: l, by simpa using hl⟩
  | _ => cases h

lemma allows_eq (o : Object) (key : String) (type : Value → Bool) (default : Value) (hd : type default = true) :
    allows o key type = type ((o.get? key).getD default) := by
  unfold allows
  cases o.get? key with
  | none => exact hd.symm
  | some v => rfl

lemma describedError_content (h : describes o = true) :
    ∃ e : ErrorContent, describedError o = some [("error", e.toValue)] := by
  simp only [describes, Bool.and_eq_true, allows_eq o "ename" isString (.string "Error") rfl,
    allows_eq o "evalue" isString (.string "") rfl, allows_eq o "traceback" isTexts (.list []) rfl] at h
  obtain ⟨⟨hname, hvalue⟩, htrace⟩ := h
  obtain ⟨ename, hname⟩ := text_of_isString hname
  obtain ⟨evalue, hvalue⟩ := text_of_isString hvalue
  obtain ⟨traceback, htrace⟩ := texts_of_isTexts htrace
  refine ⟨⟨ename, evalue, traceback⟩, ?_⟩
  simp only [describedError, hname, hvalue, htrace, Value.items?, Option.map_some, errorPayload, ErrorContent.toValue]

lemma readResult_written (depths : Depths) {outcome : Object} {text : List Char} (hw : Written outcome text) :
    readResult depths outcome = match Json.readWithin depths.containers text with
      | .ok v => .ok v
      | .error f =>
        match (Literal.JsonFault.json f text).overrun? with
        | some o => .error (.overrun o)
        | none => .error (.answered
            (unreadable (Literal.JsonFault.json f text).name (Literal.JsonFault.json f text).message)) := by
  obtain ⟨data, hdata, htext⟩ := hw
  simp only [readResult, hdata, htext, String.toList_ofList, Literal.readJson_quote, Literal.parseJson]
  cases Json.readWithin depths.containers text <;> rfl

lemma overrun?_json {f : Json.Failure} (text : List Char) (hf : ∀ o, f.problem ≠ .tooDeep o) :
    (Literal.JsonFault.json f text).overrun? = none := by
  obtain ⟨problem, rest⟩ := f
  cases problem <;> first | rfl | exact absurd rfl (hf _)

/-- What gives a payload among what may be found in a reply. -/
def Gives (action : Action) (finding : Finding) (made : Except Fault Object) : Prop :=
  match finding with
  | .overrun o => made = .error (.tooDeep o)
  | _ => ∃ payload, made = .ok payload ∧ Shows action finding.value? payload

lemma replyPayload_conclusive (h : Conclusive depths action reply finding) (mime : Object) :
    Gives action finding (replyPayload depths action mime (.object reply)) := by
  have hreply : ∀ outcome, outcome? reply = some outcome → queryReply depths action reply = _ := fun outcome ho =>
    (queryReply_eq depths action reply).trans (congrArg (fun o => (Fault.expected o).bind _) ho)
  simp only [Fault.expected, Except.bind] at hreply
  rw [replyPayload_object]
  by_cases hrun : action = .run ∧ isStatus reply "ok" = true
  · obtain ⟨ha, hok⟩ := hrun
    have hgives : ∀ answer, ∃ payload, (.ok [("mime", .object mime)] : Except Fault Object) = .ok payload ∧
        Shows action answer payload := fun answer => ⟨_, rfl, .execution ha⟩
    rw [isStatus_ok_ne_aborted hok, hok]
    simp only [Bool.false_eq_true, if_false, if_true, if_pos ha]
    cases finding with
    | overrun o =>
      cases h with
      | overrun _ hne => exact absurd ha hne
    | _ => exact hgives _
  cases h with
  | aborted h => exact ⟨_, if_pos h, .error ⟨"Aborted", "Execution was aborted", []⟩⟩
  | failed h hd =>
    obtain ⟨e, he⟩ := describedError_content hd
    cases ha : isStatus reply "aborted" with
    | true => exact ⟨_, rfl, .error ⟨"Aborted", "Execution was aborted", []⟩⟩
    | false => exact ⟨_, by simp [h, he, Fault.expected], .error e⟩
  | ran h ha => exact absurd ⟨ha, h⟩ hrun
  | refused h ho hs hd =>
    obtain ⟨e, he⟩ := describedError_content hd
    have ha : action ≠ .run := fun ha => hrun ⟨ha, h⟩
    exact ⟨_, by simp [isStatus_ok_ne_aborted h, h, ha, hreply _ ho, hs, he], .error e⟩
  | @unreadable outcome text f h ho hs hw hv hf =>
    have ha : action ≠ .run := fun ha => hrun ⟨ha, h⟩
    have hread := readResult_written depths hw
    simp only [hv, overrun?_json text hf] at hread
    exact ⟨_, by simp [isStatus_ok_ne_aborted h, h, ha, hreply _ ho, hs, hread]; rfl, .error ⟨_, _, []⟩⟩
  | @overrun outcome text f o h ha ho hs hw hv hf =>
    have hread := readResult_written depths hw
    obtain ⟨problem, rest⟩ := f
    obtain rfl : problem = .tooDeep o := hf
    simp only [hv, Literal.JsonFault.overrun?] at hread
    simp [Gives, isStatus_ok_ne_aborted h, h, ha, hreply _ ho, hs, hread]
  | answered h ho hs hw hv =>
    have ha : action ≠ .run := fun ha => hrun ⟨ha, h⟩
    have hread := readResult_written depths hw
    rw [hv] at hread
    exact ⟨_, by simp [isStatus_ok_ne_aborted h, h, ha, hreply _ ho, hs, hread], .query ha⟩

end Payload

section Decoding

variable {action : Action} {answer : Option Value} {payload : Object} {v : Value} {k : Nat}

def terminal (k : Nat) (payload : Object) : Object := Object.update [("id", .int k), ("end", .bool true)] payload

def replies : List Variant := [.error, .execution, .nameList, .inspection]

/-- The message is a last reply of a variant that a kernel answers with. -/
def Accepted (k : Nat) (message : Object) : Prop :=
  ∃ variant ∈ replies, ∃ content, Message.decode (.object message) = .ok (.reply variant (some k) true content)

/-- A check that succeeds exactly if `passes`. -/
def Decided {α : Type} (passes : Bool) (checked : Field.Checked α) : Prop :=
  if passes then ∃ a, checked = .ok a else ∃ ps, checked = .error ps

section Checks

variable {α β : Type} {p q : Bool} {a : Field.Checked α} {b : Field.Checked β}

lemma Decided.within (h : Decided p a) (key : String) : Decided p (Field.within key a) := by
  cases p <;> obtain ⟨x, rfl⟩ := h <;> exact ⟨_, rfl⟩

lemma Decided.map (h : Decided p a) (f : α → β) : Decided p (a.map f) := by
  cases p <;> obtain ⟨x, rfl⟩ := h <;> exact ⟨_, rfl⟩

lemma Decided.both (ha : Decided p a) (hb : Decided q b) : Decided (p && q) (Field.both a b) := by
  cases p <;> cases q <;> obtain ⟨x, rfl⟩ := ha <;> obtain ⟨y, rfl⟩ := hb <;> exact ⟨_, rfl⟩

lemma string_decided (v : Value) : Decided (isString v) (Field.string v) := by
  cases v <;> exact ⟨_, rfl⟩

lemma stringsFrom_decided (items : List Value) (i : Nat) : Decided (items.all isString) (Field.stringsFrom i items) := by
  induction items generalizing i with
  | nil => exact ⟨_, rfl⟩
  | cons v items ih => exact (((string_decided v).within _).both (ih (i + 1))).map _

lemma strings_decided (v : Value) : Decided (isTexts v) (Field.strings v) := by
  cases v with
  | list items => exact stringsFrom_decided items 0
  | _ => exact ⟨_, rfl⟩

lemma object_decided (v : Value) : Decided (isObject v) (Field.object v) := by
  cases v <;> exact ⟨_, rfl⟩

lemma nullable_decided {type : Value → Bool} {read : Value → Field.Checked α} (h : Decided (type v) (read v)) :
    Decided (v = .null || type v) (Field.nullable read v) := by
  cases v with
  | null => exact ⟨none, rfl⟩
  | _ => exact h.map some

end Checks

lemma decode_terminal (payload : Object) (variant : Variant) (passes : Bool) (hr : variant ∈ replies)
    (hv : Variant.of (("id", .int k) :: ("end", .bool true) :: payload) = variant)
    (hc : Decided passes (Message.readContent variant (("id", .int k) :: ("end", .bool true) :: payload))) :
    if passes then Accepted k (("id", .int k) :: ("end", .bool true) :: payload)
    else ∃ e, Message.decode (.object (("id", .int k) :: ("end", .bool true) :: payload)) = .error e := by
  generalize hmessage : ("id", Value.int k) :: ("end", Value.bool true) :: payload = message at hv hc
  have hid : Message.readId message = .ok (some (k : Int)) := by rw [← hmessage]; rfl
  have hend : Message.readEnd message = .ok true := by rw [← hmessage]; rfl
  have hreply : Message.readObject variant message = Message.readReply variant message := by
    simp only [replies, List.mem_cons, List.not_mem_nil, or_false] at hr
    rcases hr with rfl | rfl | rfl | rfl <;> rfl
  cases passes with
  | true =>
    obtain ⟨content, hc⟩ := hc
    refine ⟨variant, hr, content ++ Message.extras variant message, ?_⟩
    simp [Message.decode, hv, hreply, Message.readReply, hid, hend, hc, Field.both, Except.map]
  | false =>
    obtain ⟨ps, hc⟩ := hc
    refine ⟨.malformed variant ps, ?_⟩
    simp [Message.decode, hv, hreply, Message.readReply, hid, hend, hc, Field.both, Except.map]

lemma error_accepted (k : Nat) (e : ErrorContent) : Accepted k (terminal k [("error", e.toValue)]) := by
  refine decode_terminal [("error", e.toValue)] .error true (by decide) rfl ⟨[("error", e.toValue)], ?_⟩
  simp [Message.readContent, Field.required, Object.get?, Field.within, Coordinator.readErrorContent_toValue, Except.map]

lemma execution_accepted (k : Nat) (mime : Object) : Accepted k (terminal k [("mime", .object mime)]) :=
  decode_terminal [("mime", .object mime)] .execution true (by decide) rfl ⟨_, rfl⟩

lemma inspection_decoded (k : Nat) (v : Value) :
    if isObject v then Accepted k (terminal k [("inspection", v)])
    else ∃ e, Message.decode (.object (terminal k [("inspection", v)])) = .error e :=
  decode_terminal [("inspection", v)] .inspection _ (by decide) rfl (((object_decided v).within "inspection").map _)

lemma names_decoded (k : Nat) (names keys : Value) :
    if isTexts names && (keys = .null || isTexts keys) then Accepted k (terminal k [("names", names), ("keys", keys)])
    else ∃ e, Message.decode (.object (terminal k [("names", names), ("keys", keys)])) = .error e :=
  decode_terminal [("names", names), ("keys", keys)] .nameList _ (by decide) rfl
    ((((strings_decided names).within "names").both ((nullable_decided (strings_decided keys)).within "keys")).map _)

lemma decode_shows (h : Shows action answer payload) (k : Nat) :
    if answer.all (presentable action) then Accepted k (terminal k payload)
    else ∃ e, Message.decode (.object (terminal k payload)) = .error e := by
  cases h with
  | error e => exact error_accepted k e
  | @execution _ mime ha =>
    have hall : answer.all (presentable action) = true := by
      subst ha
      cases answer <;> rfl
    rw [if_pos hall]
    exact execution_accepted k mime
  | @query v ha =>
    cases action with
    | run => exact absurd rfl ha
    | inspect => exact inspection_decoded k v
    | listNames =>
      cases v with
      | object o =>
        have hnames := names_decoded k ((Object.get? o "names").getD (.list [])) ((Object.get? o "keys").getD (.list []))
        have hall : (some (Value.object o)).all (presentable .listNames) =
            (isTexts ((Object.get? o "names").getD (.list [])) && ((Object.get? o "keys").getD (.list []) = .null ||
              isTexts ((Object.get? o "keys").getD (.list [])))) := by
          exact congrArg₂ and (allows_eq o "names" isTexts (.list []) rfl)
            (allows_eq o "keys" (fun v => v = .null || isTexts v) (.list []) rfl)
        rw [hall]
        exact hnames
      | _ => exact error_accepted k ⟨_, _, []⟩

end Decoding

/-- The router takes the message as a last reply: wherever the context is open, the hook for its result is called, the context
is closed and the slot is free by the time the router is done. -/
def Routable (H X : Type) (k : Nat) (message : Object) : Prop :=
  ∃ variant ∈ replies, ∃ payload, Message.decode (.object message) = .ok (.reply variant (some k) true payload) ∧
    ∀ {x : Option X} {before moves : List (Coordinator.Move H X)} {m n : Coordinator.Machine H X} {t : Nat},
      (Coordinator.Machine.fresh x).run before = some m → m.state.owner? (some k) = some t →
      Follows Coordinator.Machine.step Coordinator.Ordinary (m.push (.route (.object message))) moves →
      (m.push (.route (.object message))).run moves = some n → n.stack = m.stack →
      ∃ first rest p, moves = first ++ rest ∧ (m.push (.route (.object message))).run first = some p ∧
        Coordinator.Concluded m t k (Coordinator.replyMoment variant) (.payload payload) p

/-- When the reply and the idle status of a request are there, a terminal message is emitted, unless the result in the reply
nests too deep: then there is a fault instead of a payload. The message is routable if the reply holds no value that its
variant cannot carry, and cannot be decoded otherwise. -/
theorem finish_conclusive {H X : Type} (k : Kernel) {p : Pending} {reply : Object} {finding : Finding}
    (hidle : p.idle = true) (hreply : p.reply = .object reply) (h : Conclusive k.depths p.action reply finding) :
    match finding with
    | .overrun o => k.finish p = ⟨k.remove p.messageId, none, some (.tooDeep o)⟩
    | _ => ∃ message, k.finish p = ⟨k.remove p.messageId, some message, none⟩ ∧
        if finding.value?.all (presentable p.action) then Routable H X p.contextId message
        else ∃ e, Message.decode (.object message) = .error e := by
  have hgives := replyPayload_conclusive h p.mime
  have hfinish : ∀ payload, replyPayload k.depths p.action p.mime (.object reply) = .ok payload →
      Shows p.action finding.value? payload → ∃ message, k.finish p = ⟨k.remove p.messageId, some message, none⟩ ∧
        if finding.value?.all (presentable p.action) then Routable H X p.contextId message
        else ∃ e, Message.decode (.object message) = .error e := by
    intro payload hpayload hshows
    refine ⟨terminal p.contextId payload, by simp [finish, remove, hidle, hreply, hpayload, terminal], ?_⟩
    have hdecode := decode_shows hshows p.contextId
    split
    · rename_i hall
      rw [if_pos hall] at hdecode
      obtain ⟨variant, hv, content, hd⟩ := hdecode
      exact ⟨variant, hv, content, hd, fun hm ht hf hn hb => Coordinator.last_concluded hm hd ht hf hn hb⟩
    · rename_i hall
      rwa [if_neg hall] at hdecode
  cases finding with
  | overrun o =>
    have hfault : replyPayload k.depths p.action p.mime (.object reply) = .error (.tooDeep o) := hgives
    simp [finish, remove, hidle, hreply, hfault]
  | nothing =>
    obtain ⟨payload, hpayload, hshows⟩ := hgives
    exact hfinish payload hpayload hshows
  | value v =>
    obtain ⟨payload, hpayload, hshows⟩ := hgives
    exact hfinish payload hpayload hshows

/-- A query that the kernel has answered with this JSON text, and is done with. -/
def answeredWith (action : Action) (text : String) : Pending where
  messageId := "msg-1"
  contextId := 1
  action := action
  reply := .object [("status", .string "ok"), ("user_expressions", .object [(resultKey, .object [("status", .string "ok"),
    ("data", .object [("text/plain", .string (String.ofList (Text.Quoted.quote text.toList)))])])])]
  idle := true

lemma answeredWith_conclusive (action : Action) {depths : Depths} {text : String} {v : Value}
    (hv : Json.readWithin depths.containers text.toList = .ok v) :
    ∃ reply, (answeredWith action text).reply = .object reply ∧ Conclusive depths action reply (.value v) :=
  ⟨_, rfl, .answered rfl rfl rfl ⟨_, rfl, rfl⟩ hv⟩

def querying (action : Action) : List (Coordinator.Move Nat Nat) :=
  List.flatten [[.start (.submit ⟨action, .string "a", { success := some 0, error := some 1, afterRun := some 2 }⟩)],
    List.replicate 7 .tick, [.answer .done, .tick]]

/-- The hook for the result raises, and the one after the run hands in a further task. -/
def concluding : List (Coordinator.Move Nat Nat) :=
  [.tick, .tick, .answer (.raised (.thrown ⟨"E", "e", "E('e')", [], true⟩)), .tick, .tick,
    .start (.submit ⟨.run, .string "b", {}⟩), .tick, .answer .done, .tick, .tick, .tick, .tick, .tick, .tick, .tick,
    .answer .done, .tick]

theorem inspected_concluded :
    ∃ message m p, ({} : Kernel).finish (answeredWith .inspect "\x7b\x7d") = ⟨{}, some message, none⟩ ∧
      (Coordinator.Machine.fresh none).run (querying .inspect) = some m ∧ m.stack = [] ∧ m.state.inFlight = some 0 ∧
      (∃ first, (m.push (.route (.object message))).run first = some p) ∧
      Coordinator.Concluded m 0 1 .success (.payload [("inspection", .object [])]) p := by
  have hread : Json.readWithin ({} : Depths).containers "\x7b\x7d".toList = .ok (.object []) := by decide +kernel
  obtain ⟨reply, hreply, hc⟩ := answeredWith_conclusive .inspect hread
  obtain ⟨message, hfinish, hroute⟩ := finish_conclusive (H := Nat) (X := Nat) {} rfl hreply hc
  have hemitted : ({} : Kernel).finish (answeredWith .inspect "\x7b\x7d") =
      ⟨{}, some (terminal 1 [("inspection", .object [])]), none⟩ := by decide +kernel
  obtain rfl : message = terminal 1 [("inspection", .object [])] := by
    simpa using congrArg Arrival.emitted (hfinish.symm.trans hemitted)
  obtain ⟨variant, -, payload, hd, hall⟩ := hroute
  have hdecode : Message.decode (.object (terminal 1 [("inspection", .object [])])) =
      .ok (.reply .inspection (some 1) true [("inspection", .object [])]) := by decide +kernel
  obtain ⟨rfl, rfl⟩ : variant = .inspection ∧ payload = [("inspection", .object [])] := by
    have hsame := hd.symm.trans hdecode
    simp only [Except.ok.injEq, Message.reply.injEq] at hsame
    exact ⟨hsame.1, hsame.2.2.2⟩
  have hm : ((Coordinator.Machine.fresh none).run (querying .inspect)).isSome = true := by decide +kernel
  obtain ⟨m, hm⟩ := Option.isSome_iff_exists.mp hm
  have hstart : ∀ m ∈ (Coordinator.Machine.fresh none).run (querying .inspect), m.stack = [] ∧ m.state.inFlight = some 0 ∧
      m.state.owner? (some 1) = some 0 := by decide +kernel
  have hfollows : ∀ m ∈ (Coordinator.Machine.fresh none).run (querying .inspect), Follows Coordinator.Machine.step
      Coordinator.Ordinary (m.push (.route (.object (terminal 1 [("inspection", .object [])])))) concluding := by
    decide +kernel
  have hend : ∀ m ∈ (Coordinator.Machine.fresh none).run (querying .inspect), ∃ n ∈ (m.push (.route (.object (terminal 1
      [("inspection", .object [])])))).run concluding, n.stack = [] := by decide +kernel
  obtain ⟨hstack, hslot, howner⟩ := hstart m hm
  obtain ⟨n, hn, hn'⟩ := hend m hm
  obtain ⟨first, -, p, -, hp, hdone⟩ := hall hm howner (hfollows m hm) hn (hn'.trans hstack.symm)
  exact ⟨_, m, p, hfinish, hm, hstack, hslot, ⟨first, hp⟩, hdone⟩

def misnamed : Pending := answeredWith .listNames "\x7b\"names\": [1], \"keys\": []\x7d"

/-- Then the router only logs the terminal message: no hook is called, and the task keeps its context and the slot. -/
theorem misnamed_dropped :
    ∃ reply message e m, misnamed.reply = .object reply ∧
      Conclusive {} .listNames reply (.value (.object [("names", .list [.int 1]), ("keys", .list [])])) ∧
      ({} : Kernel).finish misnamed = ⟨{}, some message, none⟩ ∧ Message.decode (.object message) = .error e ∧
      (Coordinator.Machine.fresh none).run (querying .listNames) = some m ∧ m.state.inFlight = some 0 ∧
      m.state.contexts = [(1, 0)] ∧ (m.push (.route (.object message))).run [.tick] =
        some ⟨m.state, [], none, .log (.undecodable e) :: .routed (.object message) :: m.events⟩ := by
  have hread : Json.readWithin ({} : Depths).containers "\x7b\"names\": [1], \"keys\": []\x7d".toList =
      .ok (.object [("names", .list [.int 1]), ("keys", .list [])]) := by decide +kernel
  obtain ⟨reply, hreply, hc⟩ := answeredWith_conclusive .listNames hread
  have hfinish : ({} : Kernel).finish misnamed = ⟨{}, some (terminal 1 [("names", .list [.int 1]), ("keys", .list [])]),
      none⟩ := by decide +kernel
  have hdecode : Message.decode (.object (terminal 1 [("names", .list [.int 1]), ("keys", .list [])])) =
      .error (.malformed .nameList [⟨["names", "0"], .stringType⟩]) := by decide +kernel
  have hm : ((Coordinator.Machine.fresh none).run (querying .listNames)).isSome = true := by decide +kernel
  obtain ⟨m, hm⟩ := Option.isSome_iff_exists.mp hm
  have hstart : ∀ m ∈ (Coordinator.Machine.fresh none).run (querying .listNames), m.stack = [] ∧ m.state.inFlight = some 0 ∧
      m.state.contexts = [(1, 0)] := by decide +kernel
  obtain ⟨hstack, hslot, hcontexts⟩ := hstart m hm
  refine ⟨reply, _, _, m, hreply, hc, hfinish, hdecode, hm, hslot, hcontexts, ?_⟩
  simp [Coordinator.Machine.run, Coordinator.Machine.step, Coordinator.Machine.tick, Coordinator.Machine.push,
    Coordinator.Machine.after, Coordinator.Frame.tick, Coordinator.routeTurn, hdecode, hstack]

end EvalSession.Kernel
