import EvalSession.Proofs.Coordinator.Ledger

/-!
# Messages that carry the id of an open request

The worker contract `Honest`: what a message has to tell carries the id of a request that was sent and whose last reply
has not been delivered. Under it the fallback to the last task is never taken (`Addressed`), and the slot is only given
up to a task whose request has been replied to.
-/
namespace EvalSession.Coordinator

variable {H X : Type}

lemma stringsFrom_map (l : List String) (i : Nat) : Field.stringsFrom i (l.map .string) = .ok l := by
  induction l generalizing i with
  | nil => rfl
  | cons s l ih => simp [Field.stringsFrom, ih, Field.string, Field.within, Field.both, Except.map]

/-- What the task of a context is told when its transform has failed. -/
def failure (f : Fault) : Argument :=
  .payload [("error", (ErrorContent.mk f.name (if f.text.isEmpty then f.form else f.text) f.report).toValue)]

lemma readErrorContent_toValue (e : ErrorContent) : Message.readErrorContent e.toValue = .ok e := by
  have ht : Field.strings (.list (e.traceback.map .string)) = .ok e.traceback := stringsFrom_map _ 0
  simp [Message.readErrorContent, ErrorContent.toValue, Field.required, Field.optional, Object.get?, Field.within,
    Field.both, ht, Field.string, Except.map]

lemma errorReply_notice (id : Nat) (f : Fault) :
    notice? (errorReply id f) = some ⟨some id, .error, failure f, true, true⟩ := by
  have hv : ∀ v : Value, Variant.of [("id", .int id), ("end", .bool true), ("error", v)] = .error := fun _ => rfl
  unfold errorReply failure
  generalize ErrorContent.mk f.name (if f.text.isEmpty then f.form else f.text) f.report = e
  simp [notice?, Message.decode, hv, Message.readObject, Message.readReply, Message.readId, Message.readEnd,
    Message.readContent, Message.extras, Message.declared, Field.required, Field.optional, Field.nullable, Field.int,
    Field.bool, Object.get?, Field.within, Field.both, Except.map, noticeOf?, replyMoment, readErrorContent_toValue]

@[simp] def Event.news? : Event H X → Option Notice
  | .routed v => notice? v
  | _ => none

instance : Discreet (H := H) (X := X) Event.news? := ⟨fun e he => by cases e <;> simp_all⟩

/-- What the messages that the router took in have to tell, in their order. -/
def notices (es : List (Event H X)) : List Notice := gather Event.news? es

def tagged (es : List (Event H X)) (k : Nat) : List Notice := (notices es).filter fun nt => nt.id = some (k : Int)

def Sent (es : List (Event H X)) (k : Nat) : Prop := ∃ r ∈ requests es, r.contextId = k

def Replied (es : List (Event H X)) (k : Nat) : Prop := ∃ nt ∈ tagged es k, nt.reply = true

def Ended (es : List (Event H X)) (k : Nat) : Prop := ∃ nt ∈ tagged es k, nt.last = true

/-- The transform of a context failed, and the router took in the reply made up for it. -/
def Excused (es : List (Event H X)) (k : Nat) : Prop := ∃ f, .routed (errorReply k f) ∈ es

/-- What the message has to tell belongs to a request that was sent and has not been answered for the last time. -/
def Meant (es : List (Event H X)) (v : Value) : Prop :=
  ∀ nt ∈ notice? v, ∃ r ∈ requests es, nt.id = some (r.contextId : Int) ∧ ¬ Ended es r.contextId

/-- The worker only delivers messages that are meant for an open request. -/
def Honest (m : Machine H X) : Move H X → Prop
  | .start (.route v) => Meant m.events v
  | _ => True

instance (es : List (Event H X)) (k : Nat) : Decidable (Ended es k) := inferInstanceAs (Decidable (∃ nt ∈ _, _))

instance (es : List (Event H X)) (k : Nat) : Decidable (Replied es k) := inferInstanceAs (Decidable (∃ nt ∈ _, _))

instance (es : List (Event H X)) (v : Value) : Decidable (Meant es v) :=
  match h : notice? v with
  | none => isTrue fun nt hn => by simp [h] at hn
  | some nt =>
    decidable_of_iff (∃ r ∈ requests es, nt.id = some (r.contextId : Int) ∧ ¬ Ended es r.contextId) (by simp [Meant, h])

instance (m : Machine H X) (move : Move H X) : Decidable (Honest m move) :=
  match move with
  | .start (.route v) => inferInstanceAs (Decidable (Meant m.events v))
  | .start (.submit _) | .start .kill | .start (.assign _) | .tick | .answer _ | .recover => isTrue trivial

/-- The message belongs to an open context whose dispatch is over. -/
def Due (m : Machine H X) (v : Value) : Prop :=
  ∀ nt, notice? v = some nt → ∃ k : Nat, nt.id = some (k : Int) ∧ 1 ≤ k ∧ k ≤ m.state.lastContext ∧ ¬ Ended m.events k ∧
    (Sent m.events k ∨ ∃ f, v = errorReply k f) ∧ ∀ g ∈ m.stack, ∀ t, g.running? ≠ some (t, k)

structure Addressed (m : Machine H X) : Prop where
  router : m.state.loopback = .router
  entries : ∀ e ∈ m.state.contexts, e.1 ≤ m.state.lastContext
  owners : ∀ k : Nat, 1 ≤ k → k ≤ m.state.lastContext → ¬ Ended m.events k → m.state.owner? (some k) = some (k - 1)
  known : ∀ nt ∈ notices m.events, ∃ k : Nat, nt.id = some (k : Int) ∧ 1 ≤ k ∧ k ≤ m.state.lastContext
  sent : ∀ k, Sent m.events k → 1 ≤ k ∧ k ≤ m.state.lastContext
  /-- A dispatch that has not come to its request has had no answer either. -/
  running : ∀ f ∈ m.stack, ∀ t id, f.running? = some (t, id) → ¬ Sent m.events id ∧ tagged m.events id = []
  incoming : ∀ v, m.stack.head? = some (.loop v) ∨ m.stack.head? = some (.route v) → Due m v
  closes : ∀ id t, .close id t ∈ m.stack → id = some ((t + 1 : Nat) : Int) ∧ Ended m.events (t + 1)
  advances : ∀ t, .advance t ∈ m.stack → Replied m.events (t + 1)
  /-- The only context without a reply is that of the task in the slot. -/
  occupied : ∀ k, 1 ≤ k → k ≤ m.state.lastContext → ¬ Replied m.events k →
    k = m.state.lastContext ∧ m.state.inFlight = some (k - 1)
  answered : ∀ k, Replied m.events k → Sent m.events k ∨ Excused m.events k

lemma Addressed.unreplied {m : Machine H X} (ha : Addressed m) {k : Nat} (hk : m.state.lastContext < k) :
    ¬ Replied m.events k := by
  rintro ⟨nt, hm, -⟩
  have hm := List.mem_filter.mp hm
  obtain ⟨k', hid, -, hle⟩ := ha.known nt hm.1
  have heq : ((k' : Nat) : Int) = (k : Int) := by simpa [hid] using hm.2
  omega

def Frame.plain : Frame H X → Bool
  | .prepare .. | .awaitTransform .. | .send .. | .close .. | .advance _ => false
  | _ => true

lemma Frame.running?_of_plain {f : Frame H X} (h : f.plain = true) : f.running? = none := by
  cases f <;> first | rfl | cases h

def Frame.incoming : Frame H X → Bool
  | .loop _ | .route _ => true
  | _ => false

/-- Nothing is said or changed that has to do with messages. -/
structure Unaddressed (m n : Machine H X) : Prop where
  news : notices n.events = notices m.events
  requests : requests n.events = requests m.events
  grown : m.events ⊆ n.events
  loopback : n.state.loopback = m.state.loopback
  contexts : n.state.contexts = m.state.contexts
  lastContext : n.state.lastContext = m.state.lastContext

lemma Unaddressed.tagged {m n : Machine H X} (h : Unaddressed m n) (k : Nat) :
    tagged n.events k = tagged m.events k := by
  rw [Coordinator.tagged, h.news, Coordinator.tagged]

lemma Unaddressed.sent {m n : Machine H X} (h : Unaddressed m n) (k : Nat) : Sent n.events k ↔ Sent m.events k := by
  rw [Sent, h.requests, Sent]

lemma Unaddressed.replied {m n : Machine H X} (h : Unaddressed m n) (k : Nat) :
    Replied n.events k ↔ Replied m.events k := by
  rw [Replied, h.tagged, Replied]

lemma Unaddressed.ended {m n : Machine H X} (h : Unaddressed m n) (k : Nat) : Ended n.events k ↔ Ended m.events k := by
  rw [Ended, h.tagged, Ended]

lemma Excused.mono {es es' : List (Event H X)} {k : Nat} (h : Excused es k) (hs : es ⊆ es') : Excused es' k :=
  h.imp fun _ hf => hs hf

lemma Addressed.keep {m n : Machine H X} (ha : Addressed m) (hu : Unaddressed m n)
    (hi : n.state.inFlight = m.state.inFlight ∨ ∃ t, m.state.inFlight = some t ∧ Replied m.events (t + 1))
    (hs : ∀ f ∈ n.stack, f ∈ m.stack ∨ f.plain = true ∨ ∃ g ∈ m.stack, f.running? = g.running? ∧ f.running? ≠ none)
    (hv : ∀ v, n.stack.head? = some (.loop v) ∨ n.stack.head? = some (.route v) → Due n v) : Addressed n where
  router := hu.loopback.trans ha.router
  entries := by
    rw [hu.contexts, hu.lastContext]
    exact ha.entries
  owners := fun k h1 hk he => by
    have := ha.owners k h1 (hu.lastContext ▸ hk) (mt (hu.ended k).mpr he)
    rwa [owner?, hu.contexts]
  known := by
    rw [hu.news, hu.lastContext]
    exact ha.known
  sent := fun k h => by
    rw [hu.lastContext]
    exact ha.sent k ((hu.sent k).mp h)
  running := fun f hf t id hr => by
    rw [hu.sent, hu.tagged]
    rcases hs f hf with hf | hp | ⟨g, hg, hfg, -⟩
    · exact ha.running f hf t id hr
    · rw [Frame.running?_of_plain hp] at hr
      cases hr
    · exact ha.running g hg t id (hfg ▸ hr)
  incoming := hv
  closes := fun id t h => by
    rcases hs _ h with h | h | ⟨g, -, -, h⟩
    · rw [hu.ended]
      exact ha.closes id t h
    · simp [Frame.plain] at h
    · simp at h
  advances := fun t h => by
    rcases hs _ h with h | h | ⟨g, -, -, h⟩
    · rw [hu.replied]
      exact ha.advances t h
    · simp [Frame.plain] at h
    · simp at h
  occupied := fun k h1 hk hr => by
    have hn := mt (hu.replied k).mpr hr
    obtain ⟨hlast, hk'⟩ := ha.occupied k h1 (hu.lastContext ▸ hk) hn
    rcases hi with hi | ⟨t, ht, hrep⟩
    · exact ⟨hlast.trans hu.lastContext.symm, hi.trans hk'⟩
    · have htk : t = k - 1 := by simpa [ht] using hk'
      rw [htk, Nat.sub_add_cancel h1] at hrep
      exact absurd hrep hn
  answered := fun k h => by
    rw [hu.sent]
    exact (ha.answered k ((hu.replied k).mp h)).imp_right fun h => h.mono hu.grown

lemma notices_routed (v : Value) (entries : List Diagnostic) (es : List (Event H X)) :
    notices (logs entries ++ .routed v :: es) = notices es ++ (notice? v).toList := by
  simp [notices]

lemma requests_routed (v : Value) (entries : List Diagnostic) (es : List (Event H X)) :
    requests (logs entries ++ .routed v :: es) = requests es := by
  simp [requests]

lemma tagged_routed (v : Value) (entries : List Diagnostic) (es : List (Event H X)) (k : Nat) :
    tagged (logs entries ++ .routed v :: es) k =
      tagged es k ++ ((notice? v).filter fun nt => nt.id = some (k : Int)).toList := by
  rw [tagged, notices_routed, List.filter_append, tagged]
  cases hn : notice? v with
  | none => simp
  | some nt => by_cases hid : nt.id = some (k : Int) <;> simp [Option.filter, hid]

lemma tagged_other {v : Value} {entries : List Diagnostic} {es : List (Event H X)} {k : Nat}
    (h : ∀ nt, notice? v = some nt → nt.id ≠ some (k : Int)) :
    tagged (logs entries ++ .routed v :: es) k = tagged es k := by
  rw [tagged_routed]
  cases hn : notice? v with
  | none => simp
  | some nt => simp [Option.filter, h nt hn]

lemma tagged_own {v : Value} {nt : Notice} {entries : List Diagnostic} {es : List (Event H X)} {k : Nat}
    (hn : notice? v = some nt) (hid : nt.id = some (k : Int)) :
    tagged (logs entries ++ .routed v :: es) k = tagged es k ++ [nt] := by
  rw [tagged_routed, hn]
  simp [Option.filter, hid]

lemma mem_tagged_routed {v : Value} {entries : List Diagnostic} {es : List (Event H X)} {k : Nat} {nt : Notice} :
    nt ∈ tagged (logs entries ++ .routed v :: es) k ↔
      nt ∈ tagged es k ∨ notice? v = some nt ∧ nt.id = some (k : Int) := by
  rw [tagged_routed, List.mem_append, Option.mem_toList, Option.filter_eq_some_iff, decide_eq_true_eq]

/-- What a message that is due leaves on the stack, and what it closes and frees, belongs to its own context. -/
lemma Addressed.taken {c : Coordinator H X} {v : Value} {r r' : List (Frame H X)} {es : List (Event H X)}
    (ha : Addressed ⟨c, .route v :: r, none, es⟩) (entries : List Diagnostic)
    (hs : ∀ f ∈ r', f ∈ r ∨ f.plain = true ∨ ∃ nt t, notice? v = some nt ∧ c.resolve nt.id = some t ∧
      (nt.reply = true ∧ f = .advance t ∨ nt.last = true ∧ f = .close nt.id t))
    (hh : ∀ f, r'.head? = some f → f.incoming = false) :
    Addressed ⟨c, r', none, logs entries ++ .routed v :: es⟩ := by
  have hdue := ha.incoming v (.inr rfl)
  have hsent : ∀ k, Sent (logs entries ++ .routed v :: es) k ↔ Sent es k := fun k => by
    rw [Sent, requests_routed, Sent]
  have hended : ∀ k, Ended es k → Ended (logs entries ++ .routed v :: es) k := fun k ⟨nt, hm, hl⟩ =>
    ⟨nt, mem_tagged_routed.mpr (.inl hm), hl⟩
  have hreplied : ∀ k, Replied es k → Replied (logs entries ++ .routed v :: es) k := fun k ⟨nt, hm, hl⟩ =>
    ⟨nt, mem_tagged_routed.mpr (.inl hm), hl⟩
  have howner : ∀ nt t, notice? v = some nt → c.resolve nt.id = some t → nt.id = some ((t + 1 : Nat) : Int) := by
    intro nt t hn ht
    obtain ⟨k, hid, h1, hk, he, -⟩ := hdue nt hn
    have ho := ha.owners k h1 hk he
    simp only at ho
    rw [resolve, hid, ho] at ht
    simp only [Option.some_or, Option.some.injEq] at ht
    rw [hid, ← ht, Nat.sub_add_cancel h1]
  exact {
    router := ha.router
    entries := ha.entries
    owners := fun k h1 hk he => ha.owners k h1 hk (mt (hended k) he)
    known := by
      intro nt hm
      rw [notices_routed, List.mem_append, Option.mem_toList] at hm
      rcases hm with hm | hm
      · exact ha.known nt hm
      · obtain ⟨k, hid, h1, hk, -⟩ := hdue nt hm
        exact ⟨k, hid, h1, hk⟩
    sent := fun k h => ha.sent k ((hsent k).mp h)
    running := by
      intro f hf t id hr
      have hfr : f ∈ r := by
        rcases hs f hf with hf | hf | ⟨nt, u, -, -, ⟨-, rfl⟩ | ⟨-, rfl⟩⟩
        · exact hf
        · rw [Frame.running?_of_plain hf] at hr
          cases hr
        · simp at hr
        · simp at hr
      obtain ⟨hns, hnt⟩ := ha.running f (List.mem_cons_of_mem _ hfr) t id hr
      refine ⟨mt (hsent id).mp hns, List.eq_nil_iff_forall_not_mem.mpr fun nt hm => ?_⟩
      rcases mem_tagged_routed.mp hm with hm | ⟨hn, hid⟩
      · simp only [hnt, List.not_mem_nil] at hm
      · obtain ⟨k, hk, -, -, -, -, hrun⟩ := hdue nt hn
        have hkid : k = id := by
          rw [hk] at hid
          simpa using hid
        exact hrun f (List.mem_cons_of_mem _ hfr) t (hkid ▸ hr)
    incoming := by
      intro u h
      rcases h with h | h <;> simpa [Frame.incoming] using hh _ h
    closes := by
      intro id t h
      rcases hs _ h with h | h | ⟨nt, u, hn, hu, ⟨-, hf⟩ | ⟨hl, hf⟩⟩
      · obtain ⟨hid, he⟩ := ha.closes id t (List.mem_cons_of_mem _ h)
        exact ⟨hid, hended _ he⟩
      · simp [Frame.plain] at h
      · cases hf
      · obtain ⟨rfl, rfl⟩ : id = nt.id ∧ t = u := by simpa using hf
        have hid := howner nt t hn hu
        exact ⟨hid, nt, mem_tagged_routed.mpr (.inr ⟨hn, hid⟩), hl⟩
    advances := by
      intro t h
      rcases hs _ h with h | h | ⟨nt, u, hn, hu, ⟨hr, hf⟩ | ⟨-, hf⟩⟩
      · exact hreplied _ (ha.advances t (List.mem_cons_of_mem _ h))
      · simp [Frame.plain] at h
      · obtain rfl : t = u := by simpa using hf
        exact ⟨nt, mem_tagged_routed.mpr (.inr ⟨hn, howner nt t hn hu⟩), hr⟩
      · cases hf
    occupied := fun k h1 hk hr => ha.occupied k h1 hk (mt (hreplied k) hr)
    answered := by
      rintro k ⟨nt, hm, hr⟩
      rw [hsent]
      rcases mem_tagged_routed.mp hm with hm | ⟨hn, hid⟩
      · exact (ha.answered k ⟨nt, hm, hr⟩).imp_right fun h => h.mono fun e he => by simp [he]
      · obtain ⟨k', hk', -, -, -, hsome, -⟩ := hdue nt hn
        obtain rfl : k = k' := by
          rw [hk'] at hid
          simpa using hid.symm
        rcases hsome with hsome | ⟨f, rfl⟩
        · exact .inl hsome
        · exact .inr ⟨f, by simp⟩ }

lemma Frame.not_incoming {f : Frame H X} (h : f.resumes = true) : f.incoming = false := by
  cases f <;> first | rfl | cases h

lemma Frame.not_incoming_of_running {f : Frame H X} (h : f.running? ≠ none) : f.incoming = false := by
  cases f <;> simp_all [Frame.incoming]

lemma not_due {m : Machine H X} (h : ∀ f, m.stack.head? = some f → f.incoming = false) (v : Value)
    (hv : m.stack.head? = some (.loop v) ∨ m.stack.head? = some (.route v)) : Due m v := by
  rcases hv with hv | hv <;> simpa [Frame.incoming] using h _ hv

lemma Addressed.pass {c c' : Coordinator H X} {fault fault' : Option Fault} {f : Frame H X} {r : List (Frame H X)}
    {es es' : List (Event H X)} (new : List (Frame H X)) (ha : Addressed ⟨c, f :: r, fault, es⟩) (hseat : Seated (f :: r))
    (hu : Unaddressed ⟨c, f :: r, fault, es⟩ ⟨c', new ++ r, fault', es'⟩)
    (hi : c'.inFlight = c.inFlight ∨ ∃ t, c.inFlight = some t ∧ Replied es (t + 1))
    (hnew : ∀ g ∈ new, g.plain = true ∧ g.incoming = false) : Addressed ⟨c', new ++ r, fault', es'⟩ := by
  refine ha.keep hu hi (fun g hg => ?_) (not_due fun g hg => ?_)
  · rcases List.mem_append.mp hg with hg | hg
    · exact .inr (.inl (hnew g hg).1)
    · exact .inl (List.mem_cons_of_mem _ hg)
  · cases new with
    | nil => exact Frame.not_incoming (hseat.head_resumes g hg)
    | cons a new =>
      obtain rfl : a = g := by simpa using hg
      exact (hnew a (by simp)).2

lemma Addressed.go {c c' : Coordinator H X} {f f' : Frame H X} {r : List (Frame H X)} {es es' : List (Event H X)}
    (ha : Addressed ⟨c, f :: r, none, es⟩) (hu : Unaddressed ⟨c, f :: r, none, es⟩ ⟨c', f' :: r, none, es'⟩)
    (hi : c'.inFlight = c.inFlight) (hf : f'.running? = f.running?) (hr : f'.running? ≠ none) :
    Addressed ⟨c', f' :: r, none, es'⟩ := by
  refine ha.keep hu (.inl hi) (fun g hg => ?_) (not_due fun g hg => ?_)
  · rcases List.mem_cons.mp hg with rfl | hg
    · exact .inr (.inr ⟨f, by simp, hf, hr⟩)
    · exact .inl (List.mem_cons_of_mem _ hg)
  · obtain rfl : f' = g := by simpa using hg
    exact Frame.not_incoming_of_running hr

lemma notices_silent {quiet : List (Event H X)} (hq : ∀ e ∈ quiet, e.silent = true) (es : List (Event H X)) :
    notices (quiet ++ es) = notices es := gather_silent _ hq es

lemma requests_silent {quiet : List (Event H X)} (hq : ∀ e ∈ quiet, e.silent = true) (es : List (Event H X)) :
    requests (quiet ++ es) = requests es := gather_silent _ hq es

lemma Addressed.untagged {m : Machine H X} (ha : Addressed m) {k : Nat} (hk : m.state.lastContext < k) :
    tagged m.events k = [] := by
  refine List.filter_eq_nil_iff.mpr fun nt hm => ?_
  obtain ⟨j, hid, -, hj⟩ := ha.known nt hm
  simp only [hid, Option.some.injEq, decide_eq_true_eq]
  omega

lemma Addressed.close_lt {m : Machine H X} (ha : Addressed m) {id : Option Int} {t : Nat} (h : .close id t ∈ m.stack) :
    t < m.state.lastContext := by
  obtain ⟨nt, hm, -⟩ := (ha.closes id t h).2
  by_contra hge
  simp [ha.untagged (k := t + 1) (by omega)] at hm

lemma owner_openContext {c : Coordinator H X} (t k : Nat) (hk : k ≤ c.lastContext) :
    (c.openContext t).owner? (some k) = c.owner? (some k) := by
  have hne : ((c.lastContext + 1 : Nat) : Int) ≠ (k : Int) := by omega
  simp only [owner?, openContext, List.find?_append, List.find?_singleton, hne, decide_false, Bool.false_eq_true,
    if_false, Option.or_none]

lemma owner_opened {c : Coordinator H X} (t : Nat) (he : ∀ e ∈ c.contexts, e.1 ≤ c.lastContext) :
    (c.openContext t).owner? (some ((c.lastContext + 1 : Nat) : Int)) = some t := by
  have hnone : c.contexts.find? (fun e => decide ((e.1 : Int) = ((c.lastContext + 1 : Nat) : Int))) = none := by
    rw [List.find?_eq_none]
    intro e hm
    have := he e hm
    simp only [decide_eq_true_eq]
    omega
  simp only [owner?, openContext, List.find?_append, hnone, Option.none_or]
  simp

lemma owner_closeContext {c : Coordinator H X} {j k : Nat} (h : k ≠ j) :
    (c.closeContext (some (j : Int))).owner? (some k) = c.owner? (some k) := by
  simp only [owner?, closeContext, List.find?_filter]
  refine congrArg (Option.map Prod.snd) (congrArg (List.find? · c.contexts) (funext fun e => ?_))
  by_cases he : (e.1 : Int) = k
  · simpa [he] using h
  · simp [he]

lemma Addressed.shut {c : Coordinator H X} {id : Option Int} {t : Nat} {r : List (Frame H X)} {es : List (Event H X)}
    (ha : Addressed ⟨c, .close id t :: r, none, es⟩) :
    Addressed ⟨c.closeContext id, .close id t :: r, none, es⟩ := by
  obtain ⟨rfl, he⟩ := ha.closes id t (List.mem_cons_self ..)
  obtain ⟨h1, h2, h3, h4, h5, h6, h7, h8, h9, h10, h11⟩ := ha
  refine ⟨by simpa using h1, fun e hm => ?_, fun k h1 hk hn => ?_, by simpa using h4, by simpa using h5, h6, ?_, h8, h9,
    by simpa using h10, h11⟩
  · simp only [closeContext_lastContext]
    exact h2 e (List.mem_filter.mp hm).1
  · have hkt : k ≠ t + 1 := fun hkt => hn (hkt ▸ he)
    simp only [owner_closeContext hkt]
    exact h3 k h1 (by simpa using hk) hn
  · rintro v (h | h) <;> simp at h

lemma Addressed.dispatch {c : Coordinator H X} {t : Nat} {r : List (Frame H X)} {es : List (Event H X)}
    (hs : Sound ⟨c, .dispatch t :: r, none, es⟩) (ha : Addressed ⟨c, .dispatch t :: r, none, es⟩) :
    Addressed ⟨c.openContext t, .call t .beforeRun .nothing :: .prepare t (c.lastContext + 1) :: r, none,
      .opened t (c.lastContext + 1) :: es⟩ := by
  obtain ⟨rfl, -⟩ := hs.queued.dispatching
  have hcalm := hs.shape.calm_below rfl rfl
  have hfree : c.inFlight = none := hs.queued.free.resolve_left (by simp)
  have hsent : ∀ k, Sent (.opened c.lastContext (c.lastContext + 1) :: es) k ↔ Sent es k := fun k => by
    simp [Sent, requests]
  have htag : ∀ k, tagged (.opened c.lastContext (c.lastContext + 1) :: es) k = tagged es k := fun k => by
    simp [tagged, notices]
  have hlast : ∀ k, k ≤ c.lastContext + 1 → c.lastContext < k → k = c.lastContext + 1 := by omega
  refine ⟨ha.router, ?_, ?_, ?_, ?_, ?_, ?_, ?_, ?_, ?_, ?_⟩
  · intro e he
    simp only [openContext, List.mem_append, List.mem_singleton] at he ⊢
    rcases he with he | rfl
    · exact (ha.entries e he).trans (Nat.le_succ _)
    · exact Nat.le_refl _
  · intro k h1 hk hn
    rcases Nat.lt_or_ge c.lastContext k with hlt | hle
    · obtain rfl := hlast k hk hlt
      exact owner_opened _ ha.entries
    · exact (owner_openContext _ k hle).trans (ha.owners k h1 hle (by simpa [Ended, htag] using hn))
  · intro nt hm
    obtain ⟨k, hid, h1, hk⟩ := ha.known nt (by simpa [notices] using hm)
    exact ⟨k, hid, h1, hk.trans (Nat.le_succ _)⟩
  · intro k hk
    obtain ⟨h1, hk⟩ := ha.sent k ((hsent k).mp hk)
    exact ⟨h1, hk.trans (Nat.le_succ _)⟩
  · intro f hf u id hr
    simp only [List.mem_cons] at hf
    rcases hf with rfl | rfl | hf
    · simp at hr
    · obtain ⟨-, rfl⟩ : c.lastContext = u ∧ c.lastContext + 1 = id := by simpa using hr
      rw [hsent, htag]
      exact ⟨fun h => Nat.not_succ_le_self _ (ha.sent _ h).2, ha.untagged (Nat.lt_succ_self _)⟩
    · rw [Frame.running_none (hcalm f hf)] at hr
      cases hr
  · exact not_due (by simp [Frame.incoming])
  · intro id u hm
    obtain ⟨hid, he⟩ := ha.closes id u (by simpa using hm)
    exact ⟨hid, by simpa [Ended, htag] using he⟩
  · exact fun u hm => by simpa [Replied, htag] using ha.advances u (by simpa using hm)
  · intro k h1 hk hn
    -- The slot was free, so that every earlier context has its reply.
    have hlt : c.lastContext < k := by
      by_contra hle
      have := (ha.occupied k h1 (Nat.le_of_not_lt hle) (by simpa [Replied, htag] using hn)).2
      simp [hfree] at this
    obtain rfl := hlast k hk hlt
    exact ⟨rfl, rfl⟩
  · intro k hr
    rw [hsent]
    exact (ha.answered k (by simpa [Replied, htag] using hr)).imp_right fun h => h.mono (by simp)

lemma Addressed.fail {c : Coordinator H X} {f : Fault} {fault : Option Fault} {t id : Nat} {x : X} {code : Value}
    {r : List (Frame H X)} {es : List (Event H X)} (hs : Sound ⟨c, .awaitTransform t id x code :: r, fault, es⟩)
    (ha : Addressed ⟨c, .awaitTransform t id x code :: r, fault, es⟩) :
    Addressed ⟨c, .loop (errorReply id f) :: r, none, logs [.transformFailed id f.form] ++ es⟩ := by
  have hrun := ha.running _ (List.mem_cons_self ..) t id rfl
  obtain ⟨hid, hlast, -⟩ := hs.ledger.running _ (List.mem_cons_self ..) t id rfl
  have hcalm := hs.shape.calm_below rfl rfl
  have htag : tagged (logs [.transformFailed id f.form] ++ es) id = [] := by
    simpa [tagged, notices] using hrun.2
  refine ha.keep ⟨by simp [notices], by simp [requests], by simp, rfl, rfl, rfl⟩ (.inl rfl) (fun g hg => ?_) ?_
  · rcases List.mem_cons.mp hg with rfl | hg
    · exact .inr (.inl rfl)
    · exact .inl (List.mem_cons_of_mem _ hg)
  · intro v hv nt hn
    obtain rfl : errorReply id f = v := by simpa using hv
    rw [errorReply_notice, Option.some.injEq] at hn
    subst hn
    refine ⟨id, rfl, by omega, hlast.le, ?_, .inr ⟨f, rfl⟩, fun g hg u hu => ?_⟩
    · rintro ⟨nt, hm, -⟩
      simp only [htag, List.not_mem_nil] at hm
    · rcases List.mem_cons.mp hg with rfl | hg
      · cases hu
      · rw [Frame.running_none (hcalm g hg)] at hu
        cases hu

lemma Addressed.send {c : Coordinator H X} {t id : Nat} {request : Request} {r : List (Frame H X)}
    {es : List (Event H X)} (h : Request.make (c.actionOf t) (c.codeOf t) id = .ok request)
    (hs : Sound ⟨c, .send t id :: r, none, es⟩) (ha : Addressed ⟨c, .send t id :: r, none, es⟩) :
    Addressed ⟨c, .awaitSend request :: r, none, .sent request :: (logs [.dispatching (c.actionOf t)] ++ es)⟩ := by
  obtain ⟨text, -, rfl⟩ := request_code h
  obtain ⟨hid, hlast, -⟩ := hs.ledger.running _ (List.mem_cons_self ..) t id rfl
  have hcalm := hs.shape.calm_below rfl rfl
  have htag : ∀ k, tagged (.sent ⟨c.actionOf t, text, id⟩ :: (logs [.dispatching (c.actionOf t)] ++ es)) k =
      tagged es k := fun k => by simp [tagged, notices]
  have hsent : ∀ k, Sent (.sent ⟨c.actionOf t, text, id⟩ :: (logs [.dispatching (c.actionOf t)] ++ es)) k ↔
      Sent es k ∨ id = k := fun k => by simp [Sent, requests, or_and_right, exists_or]
  refine ⟨ha.router, ha.entries, ?_, ?_, ?_, ?_, ?_, ?_, ?_, ?_, ?_⟩
  · exact fun k h1 hk hn => ha.owners k h1 hk (by simpa [Ended, htag] using hn)
  · exact fun nt hm => ha.known nt (by simpa [notices] using hm)
  · intro k hk
    rcases (hsent k).mp hk with hk | rfl
    · exact ha.sent k hk
    · exact ⟨by omega, hlast.le⟩
  · intro f hf u id' hr
    rcases List.mem_cons.mp hf with rfl | hf
    · cases hr
    · rw [Frame.running_none (hcalm f hf)] at hr
      cases hr
  · exact not_due (by simp [Frame.incoming])
  · intro id' u hm
    obtain ⟨hid', he⟩ := ha.closes id' u (by simpa using hm)
    exact ⟨hid', by simpa [Ended, htag] using he⟩
  · exact fun u hm => by simpa [Replied, htag] using ha.advances u (by simpa using hm)
  · exact fun k h1 hk hn => ha.occupied k h1 hk (by simpa [Replied, htag] using hn)
  · intro k hr
    rw [hsent]
    rcases ha.answered k (by simpa [Replied, htag] using hr) with hk | hk
    · exact .inl (.inl hk)
    · exact .inr (hk.mono fun e he => by simp [he])

lemma Addressed.loop {c : Coordinator H X} {v : Value} {r : List (Frame H X)} {es : List (Event H X)}
    (ha : Addressed ⟨c, .loop v :: r, none, es⟩) : Addressed ⟨c, .route v :: r, none, es⟩ := by
  refine ha.keep ⟨by simp [notices], by simp [requests], by simp, rfl, rfl, rfl⟩ (.inl rfl) (fun g hg => ?_) ?_
  · rcases List.mem_cons.mp hg with rfl | hg
    · exact .inr (.inl rfl)
    · exact .inl (List.mem_cons_of_mem _ hg)
  · intro u hu nt hn
    obtain rfl : v = u := by simpa using hu
    obtain ⟨k, hid, h1, hk, he, hsent, hrun⟩ := ha.incoming v (.inl rfl) nt hn
    refine ⟨k, hid, h1, hk, he, hsent, fun g hg t ht => ?_⟩
    rcases List.mem_cons.mp hg with rfl | hg
    · simp at ht
    · exact hrun g (List.mem_cons_of_mem _ hg) t ht

lemma Addressed.start {m : Machine H X} {operation : Operation H X} (ha : Addressed m)
    (ho : Honest m (.start operation)) : Addressed (m.push operation.frame) := by
  refine ha.keep ⟨rfl, rfl, fun _ he => he, rfl, rfl, rfl⟩ (.inl rfl) (fun g hg => ?_) ?_
  · rcases List.mem_cons.mp hg with rfl | hg
    · exact .inr (.inl (by cases operation <;> rfl))
    · exact .inl hg
  · intro v hv nt hn
    obtain rfl : operation = .route v := by cases operation <;> simp_all [Machine.push, Operation.frame]
    obtain ⟨request, hr, hid, he⟩ := ho nt hn
    have hsent : Sent m.events request.contextId := ⟨request, hr, rfl⟩
    obtain ⟨h1, hk⟩ := ha.sent _ hsent
    refine ⟨_, hid, h1, hk, he, .inl hsent, fun g hg t ht => ?_⟩
    rcases List.mem_cons.mp hg with rfl | hg
    · simp [Operation.frame] at ht
    · exact (ha.running g hg t _ ht).1 hsent

theorem addressed_step {m n : Machine H X} {move : Move H X} (h : Stage m move n) (hs : Sound m)
    (ho : Honest m move) (ha : Addressed m) : Addressed n := by
  have hseat := hs.shape.seated
  cases h with
  | left h =>
    have hu := h.silent
    exact ha.pass [] hseat ⟨notices_silent hu _, requests_silent hu _, by simp, rfl, rfl, rfl⟩ (.inl rfl) (by simp)
  | opened => exact ha.dispatch hs
  | asked => exact ha.go ⟨by simp [notices], by simp [requests], by simp, rfl, rfl, rfl⟩ rfl rfl (by simp)
  | verbatim => exact ha.go ⟨by simp [notices], by simp [requests], by simp, rfl, rfl, rfl⟩ rfl rfl (by simp)
  | transformed => exact ha.go ⟨by simp [notices], by simp [requests], by simp, rfl, rfl, rfl⟩ rfl rfl (by simp)
  | failed hf hord => exact ha.fail hs
  | sent h => exact ha.send h hs
  | looped => exact ha.loop
  | unheard => exact ha.taken _ (fun f hf => .inl hf) fun f hf => Frame.not_incoming (hseat.head_resumes f hf)
  | output hn ht hr hh =>
    refine ha.taken _ (fun f hf => ?_) (by simp [Frame.incoming])
    rcases List.mem_cons.mp hf with rfl | hf
    · exact .inr (.inl rfl)
    · exact .inl hf
  | answered hn ht hr =>
    rename_i nt t r es entries
    refine ha.taken _ (fun f hf => ?_) (by simp [Frame.incoming])
    simp only [List.mem_cons, List.mem_append] at hf
    rcases hf with rfl | hf | rfl | hf
    · exact .inr (.inl rfl)
    · unfold closing at hf
      split at hf
      · rename_i hl
        exact .inr (.inr ⟨nt, t, hn, ht, .inr ⟨hl, by simpa using hf⟩⟩)
      · simp at hf
    · exact .inr (.inr ⟨nt, t, hn, ht, .inl ⟨hr, rfl⟩⟩)
    · exact .inl hf
  | closed =>
    rename_i c id t r es
    exact ha.shut.pass [.call t .afterRun .nothing] hseat
      ⟨by simp [notices], by simp [requests], by simp, rfl, rfl, rfl⟩ (.inl rfl) (by simp [Frame.plain, Frame.incoming])
  | freed hi =>
    rename_i c t r es
    have hrep := ha.advances t (List.mem_cons_self ..)
    exact ha.pass [.drain] hseat ⟨by simp [notices], by simp [requests], by simp, rfl, rfl, rfl⟩ (.inr ⟨t, hi, hrep⟩)
      (by simp [Frame.plain, Frame.incoming])
  | started => exact ha.start ho
  | recovered hsus =>
    refine ha.keep ⟨rfl, rfl, fun _ he => he, rfl, rfl, rfl⟩ (.inl rfl) (fun g hg => .inl hg) (not_due fun f hf => ?_)
    unfold Machine.suspended at hsus
    split at hsus
    · simp_all
    · cases f <;> simp_all [Frame.incoming, Frame.waits]
  | ignored | queued | drained | killed | assigned | broken =>
    exact ha.pass [] hseat ⟨by simp [notices], by simp [requests], by simp, rfl, rfl, rfl⟩ (.inl rfl) (by simp)
  | taken =>
    exact ha.pass [.drain] hseat ⟨by simp [notices], by simp [requests], by simp, rfl, rfl, rfl⟩ (.inl rfl)
      (by simp [Frame.plain, Frame.incoming])
  | draining =>
    exact ha.pass [.drainLoop] hseat ⟨by simp [notices], by simp [requests], by simp, rfl, rfl, rfl⟩ (.inl rfl)
      (by simp [Frame.plain, Frame.incoming])
  | next =>
    rename_i c t p r es _ _ _
    exact ha.pass [.dispatch t, .drainLoop] hseat
      ⟨by simp [notices], by simp [requests], by simp, rfl, rfl, rfl⟩ (.inl rfl) (by simp [Frame.plain, Frame.incoming])
  | called =>
    rename_i c t moment argument h r es _
    exact ha.pass [.awaitHook h argument] hseat
      ⟨by simp [notices], by simp [requests], by simp, rfl, rfl, rfl⟩ (.inl rfl) (by simp [Frame.plain, Frame.incoming])

theorem addressed_fresh (x : Option X) : Addressed (Machine.fresh (H := H) x) := by
  constructor <;> simp [Machine.fresh, notices, tagged, Sent, requests, Replied] <;> omega

/-- A request is only sent when every earlier context has been replied to, by the worker or for a failed transform. -/
def InTurn (older : List (Event H X)) (e : Event H X) : Prop :=
  ∀ r, e = .sent r → ∀ k, 1 ≤ k → k < r.contextId → Replied older k ∧ (Sent older k ∨ Excused older k)

lemma inTurn_silent (es : List (Event H X)) (e : Event H X) (h : e.silent = true) : InTurn es e := by
  rintro r rfl
  simp at h

theorem inTurn_step {m n : Machine H X} {move : Move H X} (h : Stage m move n) (hs : Sound m) (ha : Addressed m)
    (hi : Historic InTurn m.events) : Historic InTurn n.events := by
  cases h with
  | left h => exact (historic_silent inTurn_silent h.silent _).mpr hi
  | started => exact hi
  | recovered => exact hi
  | sent h =>
    rename_i c t id request r es
    obtain ⟨text, -, rfl⟩ := request_code h
    obtain ⟨-, hlast, -⟩ := hs.ledger.running _ (List.mem_cons_self ..) t id rfl
    refine ⟨?_, (historic_silent inTurn_silent (silent_logs _) _).mpr hi⟩
    rintro r ⟨⟩ k h1 hk
    have hrep : Replied es k := by
      by_contra hn
      have := (ha.occupied k h1 (hk.le.trans hlast.le) hn).1
      simp only at this hlast hk
      omega
    refine ⟨by simpa [Replied, tagged, notices] using hrep, ?_⟩
    exact (ha.answered k hrep).imp (by simp [Sent, requests]) fun h => h.mono fun e he => by simp [he]
  | _ => simpa [Historic, InTurn, historic_silent inTurn_silent (silent_logs _)] using hi

end EvalSession.Coordinator
