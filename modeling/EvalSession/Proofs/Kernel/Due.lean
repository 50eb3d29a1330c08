import EvalSession.Proofs.Kernel.Payload

/-!
# What is due for one request

What is emitted for a request depends on what its own messages say: output is passed on piece by piece, and one terminal
message comes out at the moment when both the reply and the idle status are there, unless the reply holds a result that nests
too deep. Main statement: a note does to the entry of an open request what is due (`noted_entry`).
-/
namespace EvalSession.Kernel

namespace Note

def isReply : Note → Bool
  | .reply _ => true
  | _ => false

def isIdle : Note → Bool
  | .idle => true
  | _ => false

def content? : Note → Option Object
  | .reply content => some content
  | _ => none

def mime? : Note → Option Object
  | .result mime => some mime
  | _ => none

def chunk? (contextId : Nat) : Note → Option Object
  | .chunk stream text => some [("id", .int contextId), (stream.name, .string text)]
  | _ => none

end Note

/-- Both the reply and the idle status have come. -/
def finished (ns : List Note) : Bool := ns.any Note.isReply && ns.any Note.isIdle

/-- The notes up to the one that finishes the request. -/
def live (ns : List Note) : List Note := ns.foldl (fun before n => if finished before then before else before ++ [n]) []

/-- The data of the last result. -/
def mimeOf (ns : List Note) : Object := (ns.filterMap Note.mime?).getLast?.getD []

/-- The content of the last reply. -/
def replyOf (ns : List Note) : Value := ((ns.filterMap Note.content?).getLast?.map Value.object).getD .null

/-- The terminal message of a finished request, if its reply gives a payload. -/
def terminal? (depths : Depths) (r : Request) (ns : List Note) : Option Object :=
  (replyPayload depths r.action (mimeOf ns) (replyOf ns)).toOption.map
    (Object.update [("id", .int r.contextId), ("end", .bool true)])

/-- The last reply holds a result that nests too deep to be read. -/
def overruns (depths : Depths) (r : Request) (ns : List Note) : Bool :=
  ((replyOf ns).object?.bind (overrun? depths r.action)).isSome

/-- What is to be emitted for a request. -/
def due (depths : Depths) (r : Request) (ns : List Note) : List Object :=
  (live ns).filterMap (Note.chunk? r.contextId) ++ if finished ns then (terminal? depths r (live ns)).toList else []

def carries (contextId : Nat) (message : Object) : Bool := message.get? "id" == some (.int contextId)

section Notes

variable {ns : List Note} {n : Note}

lemma finished_append (h : finished ns = true) (n : Note) : finished (ns ++ [n]) = true := by
  simp only [finished, List.any_append, Bool.and_eq_true, Bool.or_eq_true] at h ⊢
  exact ⟨.inl h.1, .inl h.2⟩

lemma live_append (ns : List Note) (n : Note) :
    live (ns ++ [n]) = if finished (live ns) then live ns else live ns ++ [n] := by
  rw [live, List.foldl_append]
  rfl

lemma live_spec (ns : List Note) : finished (live ns) = finished ns ∧ (finished ns = false → live ns = ns) := by
  induction ns using List.reverseRecOn with
  | nil => exact ⟨rfl, fun _ => rfl⟩
  | append_singleton ns n ih =>
    obtain ⟨hsame, hlive⟩ := ih
    rw [live_append, hsame]
    cases hf : finished ns with
    | true =>
      have hmore := finished_append hf n
      simp [hsame, hf, hmore]
    | false => simp [hlive hf]

lemma live_of_unfinished (h : finished ns = false) : live ns = ns := (live_spec ns).2 h

lemma due_of_finished (depths : Depths) (r : Request) (h : finished ns = true) (n : Note) :
    due depths r (ns ++ [n]) = due depths r ns := by
  have hlive : live (ns ++ [n]) = live ns := by rw [live_append, (live_spec ns).1, if_pos h]
  rw [due, due, hlive, h, finished_append h]

lemma live_initial (ns : List Note) : live ns <+: ns := by
  induction ns using List.reverseRecOn with
  | nil => exact List.prefix_refl _
  | append_singleton ns n ih =>
    rw [live_append]
    cases hf : finished (live ns) with
    | true => exact ih.trans (List.prefix_append _ _)
    | false =>
      have hopen : finished ns = false := (live_spec ns).1 ▸ hf
      simp [live_of_unfinished hopen]

lemma live_append_of_unfinished (h : finished ns = false) : live (ns ++ [n]) = ns ++ [n] := by
  rw [live_append, (live_spec ns).1, h, live_of_unfinished h]
  rfl

end Notes

/-- The entry of a request in the table, as its messages have left it. -/
def entry (r : Request) (id : String) (ns : List Note) : Pending :=
  ⟨id, r.contextId, r.action, mimeOf ns, replyOf ns, ns.any Note.isIdle⟩

section Table

variable {k : Kernel} {p : Pending} {id : String}

@[simp] lemma depths_put (k : Kernel) (p : Pending) : (k.put p).depths = k.depths := rfl

@[simp] lemma depths_remove (k : Kernel) (id : String) : (k.remove id).depths = k.depths := rfl

@[simp] lemma depths_register (k : Kernel) (r : Request) (id : String) : (k.register r id).depths = k.depths := rfl

@[simp] lemma depths_finish (k : Kernel) (p : Pending) : (k.finish p).kernel.depths = k.depths := by
  unfold finish
  split
  · rfl
  · simp only
    split <;> rfl

lemma depths_receive (k : Kernel) (channel : Channel) (message : Value) :
    (k.receive channel message).kernel.depths = k.depths := by
  cases channel with
  | output =>
    simp only [receive, onOutput]
    unfold output
    repeat' split
    all_goals simp [Arrival.refused]
  | replies =>
    simp only [receive, onReply]
    repeat' split
    all_goals simp [Arrival.refused]

@[simp] lemma depths_noted (k : Kernel) (p : Pending) (n : Note) : (k.noted p n).kernel.depths = k.depths := by
  cases n <;> simp [noted]

lemma find?_putPending (p : Pending) (ps : List Pending) (id : String) :
    (putPending p ps).find? (·.messageId == id) =
      if p.messageId = id then some p else ps.find? (·.messageId == id) := by
  induction ps with
  | nil => by_cases h : p.messageId = id <;> simp [putPending, h]
  | cons q ps ih =>
    unfold putPending
    by_cases hq : q.messageId = p.messageId
    · by_cases h : p.messageId = id <;> simp [hq, h]
    · by_cases h : p.messageId = id
      · subst h
        simp [hq, ih]
      · simp [hq, h, List.find?_cons, ih]

lemma find?_put (k : Kernel) (p : Pending) (id : String) :
    (k.put p).find? id = if p.messageId = id then some p else k.find? id := find?_putPending p k.pending id

lemma find?_remove (k : Kernel) (gone id : String) : (k.remove gone).find? id = if gone = id then none else k.find? id := by
  simp only [find?, remove, List.find?_filter]
  by_cases h : gone = id
  · subst h
    simp
  · rw [if_neg h]
    refine congrArg (fun f => List.find? f k.pending) (funext fun q => ?_)
    by_cases hq : q.messageId = id
    · simp [hq, Ne.symm h]
    · simp [hq]

end Table

section Entry

variable {ns : List Note} {n : Note} {r : Request} {id : String} {k : Kernel} {depths : Depths}

def RepliesFit (ns : List Note) : Prop := ∀ content, .reply content ∈ ns → contentFits "execute_reply" content = true

lemma replyOf_of_none (h : ns.any Note.isReply = false) : replyOf ns = .null := by
  have hnone : ns.filterMap Note.content? = [] := by
    rw [List.filterMap_eq_nil_iff]
    intro n hn
    have := List.any_eq_false.mp h n hn
    cases n <;> simp_all [Note.isReply, Note.content?]
  simp [replyOf, hnone]

lemma replyOf_of_some (h : ns.any Note.isReply = true) : ∃ content, .reply content ∈ ns ∧ replyOf ns = .object content := by
  obtain ⟨n, hn, hreply⟩ := List.any_eq_true.mp h
  have hne : ns.filterMap Note.content? ≠ [] := by
    intro hnil
    have := List.filterMap_eq_nil_iff.mp hnil n hn
    cases n <;> simp_all [Note.isReply, Note.content?]
  have hlast := List.getLast?_eq_some_getLast hne
  obtain ⟨m, hm, hc⟩ := List.mem_filterMap.mp (List.getLast_mem hne)
  refine ⟨(ns.filterMap Note.content?).getLast hne, ?_, by rw [replyOf, hlast]; rfl⟩
  cases m with
  | reply content =>
    cases hc
    exact hm
  | _ => cases hc

lemma terminal?_fits (depths : Depths) (r : Request) (hfit : RepliesFit ns) (h : finished ns = true) :
    if overruns depths r ns then terminal? depths r ns = none
    else ∃ payload, replyPayload depths r.action (mimeOf ns) (replyOf ns) = .ok payload ∧
      terminal? depths r ns = some (Object.update [("id", .int r.contextId), ("end", .bool true)] payload) := by
  simp only [finished, Bool.and_eq_true] at h
  obtain ⟨content, hmem, hreply⟩ := replyOf_of_some h.1
  have hp := replyPayload_fits (hfit content hmem) depths r.action (mimeOf ns)
  rw [← hreply] at hp
  have hover : overruns depths r ns = (overrun? depths r.action content).isSome := by
    rw [overruns, hreply]
    rfl
  rw [hover]
  cases ho : overrun? depths r.action content with
  | some o =>
    rw [ho] at hp
    simp [terminal?, hp, Except.toOption]
  | none =>
    rw [ho] at hp
    obtain ⟨payload, hp⟩ := hp
    simp [terminal?, hp, Except.toOption]

lemma finish_entry (k : Kernel) (r : Request) (id : String) (ns : List Note) :
    (finish k (entry r id ns)).kernel = (if finished ns then k.remove id else k) ∧
      (finish k (entry r id ns)).emitted = if finished ns then terminal? k.depths r ns else none := by
  cases hreply : ns.any Note.isReply with
  | false => simp [finish, entry, replyOf_of_none hreply, finished, hreply]
  | true =>
    obtain ⟨content, -, hcontent⟩ := replyOf_of_some hreply
    cases hidle : ns.any Note.isIdle with
    | false => simp [finish, entry, finished, hidle]
    | true =>
      have hf : finished ns = true := by simp [finished, hreply, hidle]
      cases hp : replyPayload k.depths r.action (mimeOf ns) (replyOf ns) <;> rw [hcontent] at hp <;>
        simp [finish, entry, hcontent, hidle, hf, terminal?, hp, Except.toOption]

lemma terminal?_carries {e : Object} (h : terminal? depths r ns = some e) :
    carries r.contextId e = true ∧ e.get? "end" = some (.bool true) := by
  obtain ⟨payload, hp, rfl⟩ := Option.map_eq_some_iff.mp h
  have hbare : Bare payload := by
    cases hreply : replyPayload depths r.action (mimeOf ns) (replyOf ns) with
    | error f => simp [hreply, Except.toOption] at hp
    | ok payload' =>
      obtain rfl : payload' = payload := by simpa [hreply, Except.toOption] using hp
      exact replyPayload_bare hreply
  rw [carries, Object.get?_update_of_ne fun f hf => (hbare f hf).1, Object.get?_update_of_ne fun f hf => (hbare f hf).2]
  exact ⟨by simp [Object.get?], by simp [Object.get?]⟩

/-- What one note does to an open request: it changes its entry, or finishes it, and lets out what is due. -/
theorem noted_entry (hopen : finished ns = false) (hk : k.find? id = some (entry r id ns)) :
    (∀ id', (k.noted (entry r id ns) n).kernel.find? id' =
        if id = id' then (if finished (ns ++ [n]) then none else some (entry r id (ns ++ [n]))) else k.find? id') ∧
      due k.depths r (ns ++ [n]) = due k.depths r ns ++ (k.noted (entry r id ns) n).emitted.toList ∧
      ∀ e ∈ (k.noted (entry r id ns) n).emitted, carries r.contextId e = true := by
  have hdue : due k.depths r ns = ns.filterMap (Note.chunk? r.contextId) := by simp [due, live_of_unfinished hopen, hopen]
  have hdue' : due k.depths r (ns ++ [n]) = ns.filterMap (Note.chunk? r.contextId) ++ (Note.chunk? r.contextId n).toList ++
      if finished (ns ++ [n]) then (terminal? k.depths r (ns ++ [n])).toList else [] := by
    rw [due, live_append_of_unfinished hopen, List.filterMap_append]
    cases n <;> rfl
  -- all notes but output change the entry, and finish it if they can
  have hother : ∀ m, (k.noted (entry r id ns) n) = finish (k.put m) m → m = entry r id (ns ++ [n]) →
      Note.chunk? r.contextId n = none → (∀ id', (k.noted (entry r id ns) n).kernel.find? id' =
        if id = id' then (if finished (ns ++ [n]) then none else some (entry r id (ns ++ [n]))) else k.find? id') ∧
      due k.depths r (ns ++ [n]) = due k.depths r ns ++ (k.noted (entry r id ns) n).emitted.toList ∧
      ∀ e ∈ (k.noted (entry r id ns) n).emitted, carries r.contextId e = true := by
    rintro m hnoted rfl hchunk
    obtain ⟨hkernel, hemitted⟩ := finish_entry (k.put (entry r id (ns ++ [n]))) r id (ns ++ [n])
    rw [hnoted, hkernel, hemitted, depths_put, hdue', hdue, hchunk]
    cases hf : finished (ns ++ [n]) with
    | true =>
      refine ⟨fun id' => ?_, by simp, fun e he => (terminal?_carries he).1⟩
      by_cases h : id = id' <;> simp [find?_remove, find?_put, entry, h]
    | false =>
      refine ⟨fun id' => ?_, by simp, by simp⟩
      simp [find?_put, entry]
  cases n with
  | chunk stream text =>
    have hentry : entry r id (ns ++ [.chunk stream text]) = entry r id ns := by
      simp [entry, mimeOf, replyOf, Note.mime?, Note.content?, Note.isIdle]
    have hf : finished (ns ++ [.chunk stream text]) = false := by
      simpa [finished, Note.isReply, Note.isIdle] using hopen
    refine ⟨fun id' => ?_, ?_, ?_⟩
    · by_cases h : id = id'
      · subst h
        simp [noted, hf, hentry, hk]
      · simp [noted, h]
    · simp [hdue', hdue, hf, noted, Note.chunk?, entry]
    · simp [noted, carries, Object.get?, entry]
  | result mime =>
    have hf : finished (ns ++ [.result mime]) = false := by
      simpa [finished, Note.isReply, Note.isIdle] using hopen
    have hentry : { entry r id ns with mime := mime } = entry r id (ns ++ [.result mime]) := by
      simp [entry, mimeOf, replyOf, Note.mime?, Note.content?, Note.isIdle]
    have hstays : ∀ k : Kernel, finish k (entry r id (ns ++ [.result mime])) = ⟨k, none, none⟩ := by
      intro k
      rw [finish, if_pos]
      simp only [finished, Bool.and_eq_false_iff] at hf
      rcases hf with hf | hf
      · simp [entry, replyOf_of_none hf]
      · simp [entry, hf]
    refine hother _ ?_ hentry rfl
    rw [hentry, hstays]
    simp [noted, hentry]
  | idle =>
    refine hother { entry r id ns with idle := true } rfl ?_ rfl
    simp [entry, mimeOf, replyOf, Note.mime?, Note.content?, Note.isIdle]
  | reply content =>
    refine hother { entry r id ns with reply := .object content } rfl ?_ rfl
    simp [entry, mimeOf, replyOf, Note.mime?, Note.content?, Note.isIdle]

/-- The message ends the context of its request. -/
def ends (message : Object) : Bool := message.get? "end" == some (.bool true)

lemma RepliesFit.live (h : RepliesFit ns) : RepliesFit (live ns) :=
  fun content hc => h content ((live_initial ns).subset hc)

/-- What is due for a finished request is its output, and then the one terminal message, if it can be made. -/
lemma due_finished (depths : Depths) (r : Request) (hfit : RepliesFit ns) (h : finished ns = true) :
    if overruns depths r (live ns) then due depths r ns = (live ns).filterMap (Note.chunk? r.contextId)
    else ∃ payload, replyPayload depths r.action (mimeOf (live ns)) (replyOf (live ns)) = .ok payload ∧
      due depths r ns = (live ns).filterMap (Note.chunk? r.contextId) ++
        [Object.update [("id", .int r.contextId), ("end", .bool true)] payload] := by
  have ht := terminal?_fits depths r hfit.live ((live_spec ns).1.trans h)
  split
  · rename_i ho
    rw [if_pos ho] at ht
    simp [due, h, ht]
  · rename_i ho
    rw [if_neg ho] at ht
    obtain ⟨payload, hp, ht⟩ := ht
    exact ⟨payload, hp, by simp [due, h, ht]⟩

lemma countP_ends_chunks (ns : List Note) (contextId : Nat) :
    (ns.filterMap (Note.chunk? contextId)).countP ends = 0 := by
  rw [List.countP_eq_zero]
  intro e he
  obtain ⟨n, -, hn⟩ := List.mem_filterMap.mp he
  cases n with
  | chunk stream text =>
    cases hn
    cases stream <;> simp [ends, Object.get?, EvalSession.Channel.name]
  | _ => cases hn

lemma countP_ends_due (depths : Depths) (r : Request) (hfit : RepliesFit ns) :
    (due depths r ns).countP ends = (finished ns && !overruns depths r (live ns)).toNat := by
  cases h : finished ns with
  | false => simp [due, h, countP_ends_chunks]
  | true =>
    have hdue := due_finished depths r hfit h
    cases ho : overruns depths r (live ns) with
    | true =>
      rw [if_pos ho] at hdue
      simp [hdue, countP_ends_chunks]
    | false =>
      rw [if_neg (by simp [ho])] at hdue
      obtain ⟨payload, hp, hdue⟩ := hdue
      have hend : ends (Object.update [("id", .int r.contextId), ("end", .bool true)] payload) = true := by
        have hterminal : terminal? depths r (live ns) =
            some (Object.update [("id", .int r.contextId), ("end", .bool true)] payload) := by rw [terminal?, hp]; rfl
        simp [ends, (terminal?_carries hterminal).2]
      rw [hdue, List.countP_append, countP_ends_chunks]
      simp [hend]

/-- The last reply says that the request succeeded. -/
def Succeeded (ns : List Note) : Prop := ∃ content, replyOf ns = .object content ∧ isStatus content "ok" = true

lemma replyPayload_run {mime content : Object} (h : isStatus content "ok" = true) :
    replyPayload depths .run mime (.object content) = .ok [("mime", .object mime)] := by
  simp [replyPayload_object, isStatus_ok_ne_aborted h, h]

/-- What a run gives is no JSON text. -/
lemma overruns_run (depths : Depths) (h : r.action = .run) (ns : List Note) : overruns depths r ns = false := by
  cases hr : (replyOf ns).object? <;> simp [overruns, overrun?, h, hr]

end Entry

end EvalSession.Kernel
