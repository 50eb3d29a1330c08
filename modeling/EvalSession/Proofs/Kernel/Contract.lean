import EvalSession.Proofs.Kernel.Due

/-!
# What a kernel owes for its requests

Requests are sent and messages arrive in any order. What is emitted for a request depends on what its own messages say since
it was sent: output is passed on piece by piece, and one terminal message is emitted at the moment when both the reply and the
idle status are there. `Standing` says how the table of a kernel stands to what has gone in, and what has come out of it.
-/
namespace EvalSession.Kernel

/-- What goes into a kernel. -/
inductive Input where
  | sent (r : Request) (messageId : String)
  | arrived (channel : Channel) (message : Value)
  deriving DecidableEq

namespace Input

@[simp] def messageId? : Input → Option String
  | .sent _ id => some id
  | .arrived .. => none

@[simp] def contextId? : Input → Option Nat
  | .sent r _ => some r.contextId
  | .arrived .. => none

def about? (id : String) : Input → Option Note
  | .sent .. => none
  | .arrived channel message => (note? channel message).bind fun (parent, note) => if parent = id then some note else none

def fits : Input → Bool
  | .sent .. => true
  | .arrived _ message => Kernel.fits message

end Input

/-- What the messages say about a request, in the order of their arrival. -/
def notes (id : String) (inputs : List Input) : List Note := inputs.filterMap (Input.about? id)

/-- How a kernel stands after what has gone in and what has come out. -/
structure Standing (k : Kernel) (inputs : List Input) (emitted : List Object) : Prop where
  unsent : ∀ id, (∀ r, .sent r id ∉ inputs) → k.find? id = none
  table : ∀ older r id newer, inputs = older ++ .sent r id :: newer →
    k.find? id = if finished (notes id newer) then none else some (entry r id (notes id newer))
  /-- Every message carries the context id of a request. -/
  addressed : ∀ e ∈ emitted, ∃ r id, .sent r id ∈ inputs ∧ carries r.contextId e = true
  due : ∀ older r id newer, inputs = older ++ .sent r id :: newer →
    emitted.filter (carries r.contextId) = due k.depths r (notes id newer)

/-- Message ids and context ids are given once, and the fields of messages have the right types. -/
structure Fair (inputs : List Input) : Prop where
  messageIds : (inputs.filterMap Input.messageId?).Nodup
  contextIds : (inputs.filterMap Input.contextId?).Nodup
  fits : ∀ x ∈ inputs, x.fits = true

section Fair

variable {inputs older newer : List Input} {x : Input} {r r' : Request} {id id' : String}

lemma Fair.initial {later : List Input} (h : Fair (inputs ++ later)) : Fair inputs where
  messageIds := (List.nodup_append.mp (List.filterMap_append ▸ h.messageIds)).1
  contextIds := (List.nodup_append.mp (List.filterMap_append ▸ h.contextIds)).1
  fits := fun y hy => h.fits y (List.mem_append_left _ hy)

lemma eq_of_nodup {α : Type} {f : Input → Option α} (h : (inputs.filterMap f).Nodup) {y : Input} (hx : x ∈ inputs)
    (hy : y ∈ inputs) {a : α} (ha : f x = some a) (hb : f y = some a) : x = y := by
  have hpairs := List.pairwise_filterMap.mp h
  by_contra hne
  have hsymm : Std.Symm fun y z => ∀ b, f y = some b → ∀ c, f z = some c → b ≠ c :=
    ⟨fun y z hyz b hb c hc hbc => hyz c hc b hb hbc.symm⟩
  exact hpairs.forall hx hy hne a ha a hb rfl

lemma Fair.context_ne (h : Fair inputs) (hs : .sent r id ∈ inputs) (hs' : .sent r' id' ∈ inputs) (hne : id ≠ id') :
    r.contextId ≠ r'.contextId := by
  intro heq
  have := eq_of_nodup h.contextIds hs hs' (a := r'.contextId) (by simp [heq]) rfl
  cases this
  exact hne rfl

lemma Fair.id_ne (h : Fair (inputs ++ [.sent r id])) (hs : .sent r' id' ∈ inputs) : id' ≠ id := by
  rintro rfl
  have hdisjoint := (List.nodup_append.mp (List.filterMap_append ▸ h.messageIds)).2.2
  exact hdisjoint id' (List.mem_filterMap.mpr ⟨_, hs, rfl⟩) id' (by simp) rfl

lemma split_concat (h : inputs ++ [x] = older ++ .sent r id :: newer) :
    newer = [] ∧ older = inputs ∧ x = .sent r id ∨
      ∃ newer', newer = newer' ++ [x] ∧ inputs = older ++ .sent r id :: newer' := by
  rcases List.eq_nil_or_concat newer with rfl | ⟨newer', y, hnewer⟩
  · obtain ⟨rfl, hx⟩ := List.append_inj' h rfl
    exact .inl ⟨rfl, rfl, by simpa using hx⟩
  · rw [List.concat_eq_append] at hnewer
    subst hnewer
    have h' : inputs ++ [x] = (older ++ .sent r id :: newer') ++ [y] := by simpa using h
    obtain ⟨rfl, hx⟩ := List.append_inj' h' rfl
    obtain rfl : x = y := by simpa using hx
    exact .inr ⟨newer', rfl, rfl⟩

lemma carries_inj {a b : Nat} {e : Object} (ha : carries a e = true) (hb : carries b e = true) : a = b := by
  simp only [carries, beq_iff_eq] at ha hb
  simpa [ha] using hb

lemma notes_append (id : String) (inputs : List Input) (x : Input) :
    notes id (inputs ++ [x]) = notes id inputs ++ (x.about? id).toList := by
  rw [notes, List.filterMap_append]
  cases h : x.about? id <;> simp [notes, h]

end Fair

section Standing

variable {k k' : Kernel} {inputs : List Input} {emitted : List Object} {r : Request} {id : String}

/-- The kernels have the same requests open, and read equally deep. -/
structure Alike (k k' : Kernel) : Prop where
  pending : k'.pending = k.pending
  depths : k'.depths = k.depths

@[simp] lemma Alike.rfl : Alike k k := ⟨Eq.refl _, Eq.refl _⟩

lemma Standing.of_alike (h : Standing k inputs emitted) (ha : Alike k k') : Standing k' inputs emitted where
  unsent := fun id hid => by rw [find?, ha.pending]; exact h.unsent id hid
  table := fun older r id newer hsplit => by rw [find?, ha.pending]; exact h.table older r id newer hsplit
  addressed := h.addressed
  due := by
    rw [ha.depths]
    exact h.due

lemma standing_start (h : k.pending = []) : Standing k [] [] where
  unsent := fun id _ => by simp [find?, h]
  table := by simp
  addressed := by simp
  due := by simp

theorem Standing.sent (hs : Standing k inputs emitted) (hf : Fair (inputs ++ [.sent r id])) :
    Standing (k.register r id) (inputs ++ [.sent r id]) emitted := by
  have hfind : ∀ id', (k.register r id).find? id' = if id = id' then some (entry r id []) else k.find? id' :=
    fun id' => find?_put _ _ id'
  constructor
  · intro id' hid
    have hne : id ≠ id' := by
      rintro rfl
      exact hid r (by simp)
    rw [hfind, if_neg hne]
    exact hs.unsent id' fun r' hr => hid r' (List.mem_append_left _ hr)
  · intro older r' id' newer hsplit
    rcases split_concat hsplit with ⟨rfl, -, heq⟩ | ⟨newer', rfl, hin⟩
    · cases heq
      simp [hfind, notes, finished]
    · have hmem : .sent r' id' ∈ inputs := by simp [hin]
      have hne := hf.id_ne hmem
      rw [hfind, if_neg hne.symm, notes_append, hs.table older r' id' newer' hin]
      simp [Input.about?]
  · intro e he
    obtain ⟨r', id', hr, hc⟩ := hs.addressed e he
    exact ⟨r', id', List.mem_append_left _ hr, hc⟩
  · intro older r' id' newer hsplit
    rcases split_concat hsplit with ⟨rfl, -, heq⟩ | ⟨newer', rfl, hin⟩
    · cases heq
      -- what has come out so far belongs to other requests
      have hnone : ∀ e ∈ emitted, ¬ carries r.contextId e = true := by
        intro e he hc
        obtain ⟨r', id', hr, hc'⟩ := hs.addressed e he
        have hne := hf.context_ne (List.mem_append_left _ hr) (List.mem_append_right _ (List.mem_singleton_self _))
          (hf.id_ne hr)
        exact hne (carries_inj hc' hc)
      rw [List.filter_eq_nil_iff.mpr hnone]
      rfl
    · rw [depths_register, notes_append, hs.due older r' id' newer' hin]
      simp [Input.about?]

lemma said?_reply {channel : Channel} {kind : String} {content reply : Object}
    (h : said? channel kind content = some (.reply reply)) : kind = "execute_reply" ∧ reply = content := by
  cases channel with
  | output =>
    simp only [said?] at h
    split at h
    · simp [chunk?, Option.bind_eq_some_iff] at h
    · split at h
      · cases h
      · split at h <;> cases h
  | replies =>
    simp only [said?, Option.ite_none_right_eq_some, Option.some.injEq, Note.reply.injEq] at h
    exact ⟨h.1, h.2.symm⟩

lemma note?_reply {channel : Channel} {message : Value} {content : Object} (hf : Kernel.fits message = true)
    (h : note? channel message = some (id, .reply content)) : contentFits "execute_reply" content = true := by
  obtain ⟨fields, kind, described, rfl, -, hkind, hcontent, hfits⟩ := fits_object hf
  simp only [note?, Value.object?, Option.bind_some, hkind, hcontent, Value.text?, Option.bind_eq_some_iff,
    Option.map_eq_some_iff, Prod.mk.injEq] at h
  obtain ⟨parent, -, note, hsaid, -, rfl⟩ := h
  obtain ⟨rfl, rfl⟩ := said?_reply hsaid
  exact hfits

lemma Fair.repliesFit (h : Fair inputs) {newer : List Input} (hn : ∀ x ∈ newer, x ∈ inputs) (id : String) :
    RepliesFit (notes id newer) := by
  intro content hc
  obtain ⟨x, hx, habout⟩ := List.mem_filterMap.mp hc
  have hfits := h.fits x (hn x hx)
  cases x with
  | sent => cases habout
  | arrived channel message =>
    obtain ⟨⟨parent, note⟩, hnote, hsame⟩ := Option.bind_eq_some_iff.mp habout
    simp only [Option.ite_none_right_eq_some, Option.some.injEq] at hsame
    obtain ⟨rfl, rfl⟩ := hsame
    exact note?_reply hfits hnote

lemma Standing.passed (hs : Standing k inputs emitted) {x : Input} (hx : ∀ r id, x ≠ .sent r id)
    (h : ∀ older r id newer, inputs = older ++ .sent r id :: newer →
      x.about? id = none ∨ finished (notes id newer) = true) : Standing k (inputs ++ [x]) emitted := by
  constructor
  · intro id hid
    exact hs.unsent id fun r hr => hid r (List.mem_append_left _ hr)
  · intro older r id newer hsplit
    rcases split_concat hsplit with ⟨-, -, heq⟩ | ⟨newer', rfl, hin⟩
    · exact absurd heq (hx r id)
    · rw [hs.table older r id newer' hin, notes_append]
      rcases h older r id newer' hin with hnone | hfin
      · simp [hnone]
      · cases x.about? id with
        | none => simp
        | some n => simp [hfin, finished_append hfin n]
  · intro e he
    obtain ⟨r, id, hr, hc⟩ := hs.addressed e he
    exact ⟨r, id, List.mem_append_left _ hr, hc⟩
  · intro older r id newer hsplit
    rcases split_concat hsplit with ⟨-, -, heq⟩ | ⟨newer', rfl, hin⟩
    · exact absurd heq (hx r id)
    · rw [hs.due older r id newer' hin, notes_append]
      rcases h older r id newer' hin with hnone | hfin
      · simp [hnone]
      · cases x.about? id with
        | none => simp
        | some n => simp [due_of_finished _ r hfin n]

lemma Standing.found (hs : Standing k inputs emitted) {p : Pending} (hk : k.find? id = some p) {older newer : List Input}
    (hin : inputs = older ++ .sent r id :: newer) : finished (notes id newer) = false ∧ p = entry r id (notes id newer) := by
  have htable := hs.table older r id newer hin
  rw [hk] at htable
  cases hf : finished (notes id newer) with
  | true => simp [hf] at htable
  | false => exact ⟨rfl, by simpa [hf] using htable⟩

/-- A message about an open request does what is due for it, and leaves the others alone. -/
lemma Standing.noted (hs : Standing k inputs emitted) {x : Input} (hf : Fair (inputs ++ [x])) {p : Pending} {n : Note}
    (hx : ∀ id', x.about? id' = if id = id' then some n else none) (hk : k.find? id = some p) :
    Standing (k.noted p n).kernel (inputs ++ [x]) (emitted ++ (k.noted p n).emitted.toList) := by
  have habout : x.about? id = some n := by simp [hx]
  have hmessage : ∀ r id, x ≠ .sent r id := by
    rintro r id rfl
    cases habout
  have hnotes : ∀ newer, notes id (newer ++ [x]) = notes id newer ++ [n] := by simp [notes_append, habout]
  have hother : ∀ id' newer, id ≠ id' → notes id' (newer ++ [x]) = notes id' newer := by
    intro id' newer h
    simp [notes_append, hx, h]
  -- what the note does, seen from a place where the request was sent
  have hstep : ∀ older r newer, inputs = older ++ .sent r id :: newer →
      (∀ id', (k.noted p n).kernel.find? id' = if id = id' then
        (if finished (notes id newer ++ [n]) then none else some (entry r id (notes id newer ++ [n]))) else k.find? id') ∧
      Kernel.due k.depths r (notes id newer ++ [n]) =
        Kernel.due k.depths r (notes id newer) ++ (k.noted p n).emitted.toList ∧
      ∀ e ∈ (k.noted p n).emitted, carries r.contextId e = true := by
    intro older r newer hin
    obtain ⟨hopen, rfl⟩ := hs.found hk hin
    exact noted_entry hopen hk
  obtain ⟨r, hr⟩ : ∃ r, .sent r id ∈ inputs := by
    by_contra hnone
    rw [hs.unsent id (not_exists.mp hnone)] at hk
    cases hk
  obtain ⟨older, newer, hin⟩ := List.append_of_mem hr
  obtain ⟨hfind, -, hcarries⟩ := hstep older r newer hin
  constructor
  · intro id' hid
    have hne : id ≠ id' := by
      rintro rfl
      exact hid r (List.mem_append_left _ hr)
    rw [hfind, if_neg hne]
    exact hs.unsent id' fun r' hr' => hid r' (List.mem_append_left _ hr')
  · intro older' r' id' newer' hsplit
    rcases split_concat hsplit with ⟨-, -, heq⟩ | ⟨newer', rfl, hin'⟩
    · exact absurd heq (hmessage r' id')
    by_cases h : id = id'
    · subst h
      rw [(hstep older' r' newer' hin').1, if_pos rfl, hnotes]
    · rw [hfind, if_neg h, hother id' newer' h]
      exact hs.table older' r' id' newer' hin'
  · intro e he
    rcases List.mem_append.mp he with he | he
    · obtain ⟨r', id', hr', hc⟩ := hs.addressed e he
      exact ⟨r', id', List.mem_append_left _ hr', hc⟩
    · exact ⟨r, id, List.mem_append_left _ hr, hcarries e (by simpa using he)⟩
  · intro older' r' id' newer' hsplit
    rcases split_concat hsplit with ⟨-, -, heq⟩ | ⟨newer', rfl, hin'⟩
    · exact absurd heq (hmessage r' id')
    rw [depths_noted, List.filter_append, hs.due older' r' id' newer' hin']
    by_cases h : id = id'
    · subst h
      obtain ⟨-, hdue, hown⟩ := hstep older' r' newer' hin'
      rw [hnotes, hdue, List.filter_eq_self.mpr fun e he => hown e (by simpa using he)]
    · have hr' : .sent r' id' ∈ inputs ++ [x] := by simp [hin']
      have hne := hf.context_ne (List.mem_append_left _ hr) hr' h
      have hnone : (k.noted p n).emitted.toList.filter (carries r'.contextId) = [] := by
        rw [List.filter_eq_nil_iff]
        intro e he hc
        exact hne (carries_inj (hcarries e (by simpa using he)) hc)
      rw [hnone, hother id' newer' h, List.append_nil]

theorem Standing.arrived {channel : Channel} {message : Value} (hs : Standing k inputs emitted)
    (hf : Fair (inputs ++ [.arrived channel message])) :
    Standing (k.receive channel message).kernel (inputs ++ [.arrived channel message])
      (emitted ++ (k.receive channel message).emitted.toList) := by
  have hfits : Kernel.fits message = true := hf.fits (.arrived channel message) (by simp)
  rw [receive_fitting hfits]
  cases hn : note? channel message with
  | none =>
    simpa using hs.passed (x := .arrived channel message) (by simp) fun _ _ _ _ _ => .inl (by simp [Input.about?, hn])
  | some said =>
    obtain ⟨id, n⟩ := said
    have habout : ∀ id', (Input.arrived channel message).about? id' = if id = id' then some n else none := by
      intro id'
      simp [Input.about?, hn]
    dsimp only
    cases hk : k.find? id with
    | none =>
      have hpassed : Standing k (inputs ++ [.arrived channel message]) emitted := by
        refine hs.passed (by simp) fun older r id' newer hin => ?_
        by_cases h : id = id'
        · subst h
          refine .inr ?_
          by_contra hopen
          have := hs.table older r id newer hin
          simp [hk, hopen] at this
        · exact .inl (by simp [habout, h])
      simpa using hpassed
    | some p => exact hs.noted hf habout hk

end Standing

/-- The contract of a worker, over what has gone into a kernel and what has come out of it. -/
structure Honoured (depths : Depths) (inputs : List Input) (emitted : List Object) : Prop where
  /-- Every message carries the context id of a request that was sent. -/
  addressed : ∀ e ∈ emitted, ∃ r id, .sent r id ∈ inputs ∧ carries r.contextId e = true
  /-- What carries the id of a request is what its own messages call for, and depends on no others. -/
  due : ∀ older r id newer, inputs = older ++ .sent r id :: newer →
    emitted.filter (carries r.contextId) = due depths r (notes id newer)
  /-- A terminal message is there exactly if both the reply and the idle status have come and the reply holds no result that
  nests too deep, and there is only one. -/
  once : ∀ older r id newer, inputs = older ++ .sent r id :: newer →
    (emitted.filter (carries r.contextId)).countP ends =
      (finished (notes id newer) && !overruns depths r (live (notes id newer))).toNat
  /-- It is the last one of its request, with the payload of the reply. -/
  last : ∀ older r id newer, inputs = older ++ .sent r id :: newer → finished (notes id newer) = true →
    overruns depths r (live (notes id newer)) = false →
      ∃ payload,
        replyPayload depths r.action (mimeOf (live (notes id newer))) (replyOf (live (notes id newer))) = .ok payload ∧
        (emitted.filter (carries r.contextId)).getLast? =
          some (Object.update [("id", .int r.contextId), ("end", .bool true)] payload)
  /-- After a run that succeeded it holds the data of the last result that came before. -/
  mime : ∀ older r id newer, inputs = older ++ .sent r id :: newer → finished (notes id newer) = true →
    r.action = .run → Succeeded (live (notes id newer)) →
      (emitted.filter (carries r.contextId)).getLast? = some
        [("id", .int r.contextId), ("end", .bool true), ("mime", .object (mimeOf (live (notes id newer))))]

theorem Standing.honoured {k : Kernel} {inputs : List Input} {emitted : List Object} (hs : Standing k inputs emitted)
    (hf : Fair inputs) : Honoured k.depths inputs emitted := by
  have hfit : ∀ older r id newer, inputs = older ++ .sent r id :: newer → RepliesFit (notes id newer) := by
    intro older r id newer hin
    refine hf.repliesFit ?_ id
    intro y hy
    simp [hin, hy]
  have hlast : ∀ older r id newer, inputs = older ++ .sent r id :: newer → finished (notes id newer) = true →
      overruns k.depths r (live (notes id newer)) = false → ∃ payload,
        replyPayload k.depths r.action (mimeOf (live (notes id newer))) (replyOf (live (notes id newer))) = .ok payload ∧
        (emitted.filter (carries r.contextId)).getLast? =
          some (Object.update [("id", .int r.contextId), ("end", .bool true)] payload) := by
    intro older r id newer hin hfin hshallow
    have hdue := due_finished k.depths r (hfit older r id newer hin) hfin
    rw [if_neg (by simp [hshallow])] at hdue
    obtain ⟨payload, hp, hdue⟩ := hdue
    rw [hs.due older r id newer hin, hdue]
    exact ⟨payload, hp, by simp⟩
  refine ⟨hs.addressed, hs.due, ?_, hlast, ?_⟩
  · intro older r id newer hin
    rw [hs.due older r id newer hin]
    exact countP_ends_due k.depths r (hfit older r id newer hin)
  · intro older r id newer hin hfin hrun hok
    obtain ⟨content, hreply, hstatus⟩ := hok
    obtain ⟨payload, hp, hlast⟩ := hlast older r id newer hin hfin (overruns_run _ hrun _)
    rw [hrun, hreply, replyPayload_run hstatus] at hp
    cases hp
    exact hlast

end EvalSession.Kernel
