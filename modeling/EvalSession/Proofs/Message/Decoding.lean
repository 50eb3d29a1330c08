import EvalSession.Proofs.Kernel.Terminal
import EvalSession.Proofs.Session.Replies

/-!
# Decoding of messages

What a raw message is follows from its tags alone, and it is refused exactly if it is no object or a field that its variant
declares does not fit. The payload of a reply holds what the message held, less the envelope, and with an envelope put around
it again it is decoded to the same reply.
-/
namespace EvalSession.Message

open EvalSession.Field Kernel

def tags : Variant → List String
  | .log => ["log"]
  | .stream => ["stdout", "stderr"]
  | .error => ["error"]
  | .execution => ["mime"]
  | .completion => ["completion"]
  | .inspection => ["inspection"]
  | .nameList => ["names"]
  | .opaqueReply => []

def rank : Variant → Nat
  | .log => 0
  | .stream => 1
  | .error => 2
  | .execution => 3
  | .completion => 4
  | .inspection => 5
  | .nameList => 6
  | .opaqueReply => 7

/-- The object has a tag of the variant, and none of a variant that comes before; an opaque reply has no tag at all. -/
structure Chosen (o : Object) (variant : Variant) : Prop where
  tagged : variant = .opaqueReply ∨ ∃ key ∈ tags variant, o.has key = true
  first : ∀ other, rank other < rank variant → ∀ key ∈ tags other, o.has key = false

/-- A field with a type, which may be left out or not. -/
structure Declaration where
  key : String
  needed : Bool
  type : Value → Bool

def Declaration.admits (d : Declaration) (o : Object) : Bool :=
  match o.get? d.key with
  | none => !d.needed
  | some v => d.type v

def orNull (type : Value → Bool) (v : Value) : Bool := v = .null || type v

def isErrorContent : Value → Bool
  | .object o => [⟨"ename", true, isString⟩, ⟨"evalue", true, isString⟩, ⟨"traceback", false, isTexts⟩].all
      fun (d : Declaration) => d.admits o
  | _ => false

/-- The fields that a variant declares, numbers and truth values in any form that is read as one. -/
def declarations : Variant → List Declaration
  | .log => [⟨"log", true, isString⟩]
  | .stream => [identity, ⟨"stdout", false, orNull isString⟩, ⟨"stderr", false, orNull isString⟩]
  | .error => [identity, flag, ⟨"error", true, isErrorContent⟩]
  | .execution => [identity, flag, ⟨"mime", true, isObject⟩]
  | .completion => [identity, flag, ⟨"completion", true, isObject⟩]
  | .inspection => [identity, flag, ⟨"inspection", true, isObject⟩]
  | .nameList => [identity, flag, ⟨"names", true, isTexts⟩, ⟨"keys", false, orNull isTexts⟩]
  | .opaqueReply => [identity, flag]
where
  identity : Declaration := ⟨"id", false, orNull fun v => (Field.int v).isOk⟩
  flag : Declaration := ⟨"end", false, fun v => (Field.bool v).isOk⟩

/-- What an error tells, and nothing else of it; no traceback is an empty one. -/
def essential : Value → Value
  | .object e => .object [("ename", (Object.get? e "ename").getD .null), ("evalue", (Object.get? e "evalue").getD .null),
      ("traceback", (Object.get? e "traceback").getD (.list []))]
  | v => v

/-- What the payload of a reply holds under a key. -/
def kept (variant : Variant) (raw : Object) (key : String) : Option Value :=
  if key = "id" ∨ key = "end" then none
  else if variant = .nameList ∧ raw.get? key = some .null then none
  else if variant = .error ∧ key = "error" then (raw.get? key).map essential
  else raw.get? key

def variant : Message → Variant
  | .log _ => .log
  | .stream .. => .stream
  | .reply variant .. => variant

section Classification

variable {o : Object} {v w : Variant}

lemma mem_markers (v : Variant) : ∀ key ∈ tags v, (key, v) ∈ Variant.markers := by
  cases v <;> decide

lemma tags_of_mem : ∀ m ∈ Variant.markers, m.1 ∈ tags m.2 := by decide

lemma markers_sorted : Variant.markers.Pairwise fun m n => rank m.2 ≤ rank n.2 := by decide

lemma chosen_of (o : Object) : Chosen o (Variant.of o) := by
  unfold Variant.of
  cases hfind : Variant.markers.find? fun m => o.has m.1 with
  | none =>
    have hnone := List.find?_eq_none.mp hfind
    exact ⟨.inl rfl, fun other _ key hkey => by simpa using hnone _ (mem_markers other key hkey)⟩
  | some m =>
    obtain ⟨hhas, before, after, hsplit, hbefore⟩ := List.find?_eq_some_iff_append.mp hfind
    have hmem : m ∈ Variant.markers := by simp [hsplit]
    refine ⟨.inr ⟨m.1, tags_of_mem m hmem, hhas⟩, fun other hrank key hkey => ?_⟩
    have hsorted := markers_sorted
    have hplace := mem_markers other key hkey
    rw [hsplit] at hsorted hplace
    -- A marker of lower rank stands before the one that was found.
    rcases List.mem_append.mp hplace with hplace | hplace
    · simpa using hbefore _ hplace
    · exfalso
      have hle := (List.pairwise_cons.mp (List.pairwise_append.mp hsorted).2.1).1
      rcases List.mem_cons.mp hplace with rfl | hplace
      · exact lt_irrefl _ hrank
      · exact absurd (hle _ hplace) (not_le.mpr hrank)

lemma rank_injective (h : rank v = rank w) : v = w := by
  cases v <;> cases w <;> first | rfl | cases h

lemma Chosen.le (h : Chosen o v) (h' : Chosen o w) : rank v ≤ rank w := by
  by_contra hlt
  have hlt : rank w < rank v := not_le.mp hlt
  rcases h'.tagged with rfl | ⟨key, hkey, hhas⟩
  · cases v <;> exact absurd hlt (by decide)
  · rw [h.first w hlt key hkey] at hhas
    cases hhas

lemma Chosen.unique (h : Chosen o v) (h' : Chosen o w) : v = w := rank_injective ((h.le h').antisymm (h'.le h))

end Classification

section Checks

variable {α : Type} {o : Object} {key : String} {type : Value → Bool} {read : Value → Checked α}

lemma isOk_decided (c : Checked α) : Decided c.isOk c := by
  cases c <;> exact ⟨_, rfl⟩

lemma required_decided (h : ∀ v, Decided (type v) (read v)) (o : Object) (key : String) :
    Decided ((⟨key, true, type⟩ : Declaration).admits o) (required o key read) := by
  unfold Declaration.admits required
  cases o.get? key with
  | none => exact ⟨_, rfl⟩
  | some v => exact (h v).within key

lemma optional_decided (h : ∀ v, Decided (type v) (read v)) (o : Object) (key : String) (default : α) :
    Decided ((⟨key, false, type⟩ : Declaration).admits o) (Field.optional o key default read) := by
  unfold Declaration.admits Field.optional
  cases o.get? key with
  | none => exact ⟨_, rfl⟩
  | some v => exact (h v).within key

lemma orNull_decided (h : ∀ v, Decided (type v) (read v)) (v : Value) : Decided (orNull type v) (nullable read v) :=
  nullable_decided (h v)

lemma readErrorContent_decided (v : Value) : Decided (isErrorContent v) (readErrorContent v) := by
  cases v with
  | object o =>
    have h := (required_decided string_decided o "ename").both
      ((required_decided string_decided o "evalue").both (optional_decided strings_decided o "traceback" []))
    simp only [isErrorContent, List.all_cons, List.all_nil, Bool.and_true]
    exact h.map _
  | _ => exact ⟨_, rfl⟩

lemma readObject_decided (v : Variant) (o : Object) :
    Decided ((declarations v).all fun d => d.admits o) (readObject v o) := by
  have hid : Decided (declarations.identity.admits o) (readId o) :=
    optional_decided (orNull_decided fun v => isOk_decided (Field.int v)) o "id" none
  have hend : Decided (declarations.flag.admits o) (readEnd o) :=
    optional_decided (fun v => isOk_decided (Field.bool v)) o "end" false
  have htext : ∀ key, Decided ((⟨key, false, orNull isString⟩ : Declaration).admits o)
      (Field.optional o key none (nullable string)) :=
    fun key => optional_decided (orNull_decided string_decided) o key none
  have hobject : ∀ key, Decided ((⟨key, true, isObject⟩ : Declaration).admits o) (required o key object) :=
    required_decided object_decided o
  have hreply : ∀ passes : Bool, Decided passes (readContent v o) →
      Decided (declarations.identity.admits o && (declarations.flag.admits o && passes)) (readReply v o) :=
    fun passes hc => (hid.both (hend.both hc)).map _
  cases v <;> simp only [declarations, List.all_cons, List.all_nil, Bool.and_true]
  case log => exact (required_decided string_decided o "log").map _
  case stream => exact (hid.both ((htext "stdout").both (htext "stderr"))).map _
  case error => exact hreply _ ((required_decided readErrorContent_decided o "error").map _)
  case execution => exact hreply _ ((hobject "mime").map _)
  case completion => exact hreply _ ((hobject "completion").map _)
  case inspection => exact hreply _ ((hobject "inspection").map _)
  case nameList => exact hreply _ (((required_decided strings_decided o "names").both
      (optional_decided (orNull_decided strings_decided) o "keys" none)).map _)
  case opaqueReply =>
    have h := hreply true ⟨[], rfl⟩
    rw [Bool.and_true] at h
    exact h

end Checks

section Payload

variable {α : Type} {o raw content payload : Object} {key : String} {v : Value} {variant : Variant} {read : Value → Checked α}
  {a : α}

lemma within_ok {c : Checked α} (h : within key c = .ok a) : c = .ok a := by
  cases c with
  | error ps => cases h
  | ok b => exact h

lemma map_ok {β : Type} {c : Checked α} {f : α → β} {b : β} (h : c.map f = .ok b) : ∃ a, c = .ok a ∧ f a = b := by
  cases c with
  | error ps => cases h
  | ok a => exact ⟨a, rfl, Except.ok.inj h⟩

lemma required_ok (h : required o key read = .ok a) : ∃ v, o.get? key = some v ∧ read v = .ok a := by
  have h := within_ok h
  cases hv : o.get? key with
  | none => simp [hv, fail] at h
  | some v => exact ⟨v, rfl, by simpa [hv] using h⟩

lemma optional_ok {default : α} (h : Field.optional o key default read = .ok a) :
    (o.get? key = none ∧ a = default) ∨ ∃ v, o.get? key = some v ∧ read v = .ok a := by
  have h := within_ok h
  cases hv : o.get? key with
  | none => exact .inl ⟨rfl, by simpa [hv, eq_comm] using h⟩
  | some v => exact .inr ⟨v, rfl, by simpa [hv] using h⟩

lemma string_ok {s : String} (h : string v = .ok s) : v = .string s := by
  cases v <;> cases h
  rfl

lemma object_ok (h : object v = .ok o) : v = .object o := by
  cases v <;> cases h
  rfl

lemma stringsFrom_ok {items : List Value} {texts : List String} {i : Nat} (h : stringsFrom i items = .ok texts) :
    items = texts.map .string := by
  induction items generalizing i texts with
  | nil =>
    obtain rfl := Except.ok.inj h
    rfl
  | cons v items ih =>
    obtain ⟨p, hp, rfl⟩ := map_ok h
    obtain ⟨hv, hitems⟩ := Session.both_ok hp
    rw [string_ok (within_ok hv), ih hitems]
    rfl

lemma strings_ok {texts : List String} (h : strings v = .ok texts) : v = .list (texts.map .string) := by
  cases v with
  | list items => rw [stringsFrom_ok h]
  | _ => cases h

lemma nullable_ok {a : Option α} (h : nullable read v = .ok a) :
    (v = .null ∧ a = none) ∨ ∃ b, v ≠ .null ∧ read v = .ok b ∧ a = some b := by
  cases v with
  | null => exact .inl ⟨rfl, (Except.ok.inj h).symm⟩
  | _ =>
    obtain ⟨b, hb, rfl⟩ := map_ok h
    exact .inr ⟨b, by simp, hb, rfl⟩

lemma mem_declared (v : Variant) : "id" ∈ declared v ∧ "end" ∈ declared v := by
  cases v <;> decide

lemma essential_of_ok {e : ErrorContent} (h : readErrorContent v = .ok e) : essential v = e.toValue := by
  cases v with
  | object o =>
    obtain ⟨⟨ename, evalue, traceback⟩, hp, rfl⟩ := map_ok h
    obtain ⟨hname, hrest⟩ := Session.both_ok hp
    obtain ⟨hvalue, htraceback⟩ := Session.both_ok hrest
    obtain ⟨a, ha, hname⟩ := required_ok hname
    obtain ⟨b, hb, hvalue⟩ := required_ok hvalue
    obtain rfl := string_ok hname
    obtain rfl := string_ok hvalue
    have htrace : (Object.get? o "traceback").getD (.list []) = .list (traceback.map .string) := by
      rcases optional_ok htraceback with ⟨hnone, rfl⟩ | ⟨c, hc, htexts⟩
      · rw [hnone]
        rfl
      · rw [hc, strings_ok htexts]
        rfl
    simp [essential, ha, hb, htrace, ErrorContent.toValue]
  | _ => cases h

lemma object_content {field : String} (h : (required raw field object).map (fun m => [(field, Value.object m)]) = .ok content) :
    ∃ m, raw.get? field = some (.object m) ∧ content = [(field, .object m)] := by
  obtain ⟨m, hm, rfl⟩ := map_ok h
  obtain ⟨v, hv, hread⟩ := required_ok hm
  obtain rfl := object_ok hread
  exact ⟨m, hv, rfl⟩

lemma names_content (h : readContent .nameList raw = .ok content) :
    ∃ names : List String, raw.get? "names" = some (.list (names.map .string)) ∧
      ((content = [("names", .list (names.map .string))] ∧ (raw.get? "keys" = none ∨ raw.get? "keys" = some .null)) ∨
        ∃ keys : List String, raw.get? "keys" = some (.list (keys.map .string)) ∧
          content = [("names", .list (names.map .string)), ("keys", .list (keys.map .string))]) := by
  obtain ⟨⟨names, keys⟩, hp, rfl⟩ := map_ok h
  obtain ⟨hnames, hkeys⟩ := Session.both_ok hp
  obtain ⟨v, hv, hread⟩ := required_ok hnames
  obtain rfl := strings_ok hread
  refine ⟨names, hv, ?_⟩
  rcases optional_ok hkeys with ⟨hnone, hdefault⟩ | ⟨w, hw, hread⟩
  · obtain rfl : keys = none := hdefault
    exact .inl ⟨rfl, .inl hnone⟩
  · rcases nullable_ok hread with ⟨rfl, hnull⟩ | ⟨texts, -, htexts, hsome⟩
    · obtain rfl : keys = none := hnull
      exact .inl ⟨rfl, .inr hw⟩
    · obtain rfl : keys = some texts := hsome
      obtain rfl := strings_ok htexts
      exact .inr ⟨texts, hw, rfl⟩

/-- The content of a reply consists of what is kept under the declared keys. -/
structure Consists (variant : Variant) (raw content : Object) : Prop where
  holds : ∀ f ∈ content, f.1 ∈ declared variant ∧ kept variant raw f.1 = some f.2
  complete : ∀ key ∈ declared variant, key ∉ content.keys → kept variant raw key = none
  distinct : content.keys.Nodup

lemma consists_object {field : String} {m : Object} (hm : raw.get? field = some (.object m)) (he : field ≠ "id" ∧ field ≠ "end")
    (hv : variant ≠ .error) (hd : declared variant = ["id", "end", field]) :
    Consists variant raw [(field, .object m)] where
  holds := by simp [hd, kept, he, hv, hm]
  complete := by simp [hd, kept, Object.keys]
  distinct := by simp [Object.keys]

lemma consists_of_ok (h : readContent variant raw = .ok content) : Consists variant raw content := by
  have hnone : declared variant = ["id", "end"] → Consists variant raw [] := fun hd =>
    ⟨by simp, by simp [hd, kept], by simp [Object.keys]⟩
  cases variant
  case error =>
    obtain ⟨e, he, rfl⟩ := map_ok h
    obtain ⟨v, hv, hread⟩ := required_ok he
    have hessential := essential_of_ok hread
    exact ⟨by simp [declared, kept, hv, hessential], by simp [declared, kept, Object.keys], by simp [Object.keys]⟩
  case execution =>
    obtain ⟨m, hm, rfl⟩ := object_content h
    exact consists_object hm (by decide) (by decide) rfl
  case completion =>
    obtain ⟨m, hm, rfl⟩ := object_content h
    exact consists_object hm (by decide) (by decide) rfl
  case inspection =>
    obtain ⟨m, hm, rfl⟩ := object_content h
    exact consists_object hm (by decide) (by decide) rfl
  case nameList =>
    obtain ⟨names, hnames, ⟨rfl, hkeys⟩ | ⟨keys, hkeys, rfl⟩⟩ := names_content h
    · refine ⟨by simp [declared, kept, hnames], ?_, by simp [Object.keys]⟩
      rcases hkeys with hkeys | hkeys <;> simp [declared, kept, hkeys, Object.keys]
    · exact ⟨by simp [declared, kept, hnames, hkeys], by simp [declared, kept, Object.keys], by simp [Object.keys]⟩
  all_goals
    obtain rfl := Except.ok.inj h
    exact hnone rfl

lemma Consists.get? (h : Consists variant raw content) (hkey : key ∈ declared variant) :
    Object.get? content key = kept variant raw key := by
  cases hget : Object.get? content key with
  | none =>
    refine (h.complete key hkey ?_).symm
    simp [Object.mem_keys_iff, hget]
  | some v =>
    obtain ⟨f, hf, rfl⟩ := Option.map_eq_some_iff.mp hget
    obtain rfl : f.1 = key := by simpa using List.find?_some hf
    exact ((h.holds f (List.mem_of_find?_eq_some hf)).2).symm

lemma get?_undeclared (hkey : key ∉ declared variant) (hraw : raw.keys.Nodup) :
    (extras variant raw).get? key = kept variant raw key := by
  have hundeclared : Object.get? (raw.filter fun f => !(declared variant).contains f.1) key = raw.get? key :=
    Object.get?_filter_key (p := fun k => !(declared variant).contains k) (by simpa using hkey) raw
  obtain ⟨hid, hend⟩ := mem_declared variant
  have henvelope : ¬ (key = "id" ∨ key = "end") := by
    rintro (rfl | rfl)
    · exact hkey hid
    · exact hkey hend
  have herror : ¬ (variant = .error ∧ key = "error") := by
    rintro ⟨rfl, rfl⟩
    exact hkey (by decide)
  rw [kept, if_neg henvelope, if_neg herror]
  unfold extras
  by_cases hnames : variant = .nameList
  · rw [if_pos hnames, Object.get?_filter_value (p := fun v => decide (v ≠ .null)) (Object.nodup_filter _ hraw), hundeclared]
    cases raw.get? key with
    | none => simp
    | some v => by_cases hv : v = .null <;> simp [hnames, hv, Option.filter]
  · rw [if_neg hnames, hundeclared]
    simp [hnames]

lemma mem_extras {f : String × Value} (h : f ∈ extras variant raw) : f ∈ raw ∧ f.1 ∉ declared variant := by
  unfold extras at h
  simp only at h
  split at h <;> simp_all

lemma get?_payload (h : readContent variant raw = .ok content) (hraw : raw.keys.Nodup) (key : String) :
    Object.get? (content ++ extras variant raw) key = kept variant raw key := by
  have hc := consists_of_ok h
  rw [Object.get?_append]
  by_cases hkey : key ∈ declared variant
  · rw [hc.get? hkey, Session.get?_extras hkey, Option.or_none]
  · have hnone : Object.get? content key = none := by
      refine Object.get?_eq_none ?_
      rintro f hf rfl
      exact hkey (hc.holds f hf).1
    rw [hnone, get?_undeclared hkey hraw, Option.none_or]

lemma nodup_payload (h : readContent variant raw = .ok content) (hraw : raw.keys.Nodup) :
    (Object.keys (content ++ extras variant raw)).Nodup := by
  have hc := consists_of_ok h
  have hextras : (Object.keys (extras variant raw)).Nodup := by
    unfold extras
    split
    · exact Object.nodup_filter _ (Object.nodup_filter _ hraw)
    · exact Object.nodup_filter _ hraw
  rw [Object.keys, List.map_append]
  refine hc.distinct.append hextras ?_
  intro key hcontent hmore
  obtain ⟨f, hf, rfl⟩ := List.mem_map.mp hcontent
  obtain ⟨g, hg, hkeys⟩ := List.mem_map.mp hmore
  exact (mem_extras hg).2 (hkeys ▸ (hc.holds f hf).1)

end Payload

section Stability

variable {raw content payload : Object} {key : String} {variant : Variant} {id : Int} {last : Bool}

def addressed (id : Int) (last : Bool) (payload : Object) : Object :=
  payload.update [("id", .int id), ("end", .bool last)]

lemma addressed_eq (hid : payload.get? "id" = none) (hend : payload.get? "end" = none) :
    addressed id last payload = payload ++ [("id", .int id), ("end", .bool last)] := by
  have hfirst : payload.put "id" (.int id) = payload ++ [("id", .int id)] :=
    Object.put_of_not_mem (by simp [Object.mem_keys_iff, hid]) _
  have hsecond : Object.put (payload ++ [("id", .int id)]) "end" (.bool last) =
      payload ++ [("id", .int id)] ++ [("end", .bool last)] := by
    refine Object.put_of_not_mem ?_ _
    rw [Object.mem_keys_iff, Object.get?_append, hend]
    simp [Object.get?]
  simp only [addressed, Object.update, List.foldl_cons, List.foldl_nil, hfirst, hsecond, List.append_assoc]
  rfl

lemma get?_addressed (hid : payload.get? "id" = none) (hend : payload.get? "end" = none) (hne : key ≠ "id" ∧ key ≠ "end") :
    (addressed id last payload).get? key = payload.get? key := by
  rw [addressed_eq hid hend, Object.get?_append]
  simp [Object.get?, hne.1.symm, hne.2.symm]

lemma readId_addressed (hid : payload.get? "id" = none) (hend : payload.get? "end" = none) :
    readId (addressed id last payload) = .ok (some id) := by
  have hget : Object.get? (addressed id last payload) "id" = some (.int id) := by
    rw [addressed_eq hid hend, Object.get?_append, hid]
    rfl
  simp [readId, Field.optional, hget, nullable, Field.int, within, Except.map]

lemma readEnd_addressed (hid : payload.get? "id" = none) (hend : payload.get? "end" = none) :
    readEnd (addressed id last payload) = .ok last := by
  have hget : Object.get? (addressed id last payload) "end" = some (.bool last) := by
    rw [addressed_eq hid hend, Object.get?_append, hend]
    rfl
  simp [readEnd, Field.optional, hget, Field.bool, within]

lemma tags_bare (v : Variant) : ∀ key ∈ tags v, key ≠ "id" ∧ key ≠ "end" := by
  cases v <;> decide

lemma chosen_addressed (h : readContent variant raw = .ok content) (hraw : raw.keys.Nodup) (hchosen : Chosen raw variant)
    (hv : variant ≠ .log ∧ variant ≠ .stream) (hp : payload = content ++ extras variant raw)
    (hid : payload.get? "id" = none) (hend : payload.get? "end" = none) : Chosen (addressed id last payload) variant := by
  have hget : ∀ key, key ≠ "id" ∧ key ≠ "end" → (addressed id last payload).get? key = kept variant raw key := by
    intro key hne
    rw [get?_addressed hid hend hne, hp, get?_payload h hraw]
  constructor
  · refine hchosen.tagged.imp_right ?_
    rintro ⟨key, hkey, hhas⟩
    refine ⟨key, hkey, ?_⟩
    have hne := tags_bare variant key hkey
    rw [Object.has_eq, hget key hne]
    rw [Object.has_eq] at hhas
    -- A list of names has its names, which are not null.
    have hnull : ¬ (variant = .nameList ∧ raw.get? key = some .null) := by
      rintro ⟨rfl, hnull⟩
      obtain rfl : key = "names" := by simpa [tags] using hkey
      obtain ⟨names, hnames, -⟩ := names_content h
      rw [hnames] at hnull
      cases hnull
    rw [kept, if_neg (by simp [hne]), if_neg hnull]
    split
    · simpa using hhas
    · exact hhas
  · intro other hrank key hkey
    have hnone : raw.get? key = none := by simpa [Object.has_eq] using hchosen.first other hrank key hkey
    rw [Object.has_eq, hget key (tags_bare other key hkey), kept]
    simp [hnone]

lemma readContent_congr {o : Object} (h : readContent variant raw = .ok content)
    (hget : ∀ key ∈ declared variant, key ≠ "id" → key ≠ "end" → o.get? key = Object.get? content key) :
    readContent variant o = .ok content := by
  have hobject : ∀ {field : String} {m : Object}, o.get? field = some (.object m) →
      (required o field object).map (fun m => [(field, Value.object m)]) = .ok [(field, .object m)] := by
    intro field m hm
    simp [required, hm, object, within, Except.map]
  cases variant
  case error =>
    obtain ⟨e, -, rfl⟩ := map_ok h
    have he : o.get? "error" = some e.toValue := hget "error" (by decide) (by decide) (by decide)
    simp [readContent, required, he, within, Coordinator.readErrorContent_toValue, Except.map]
  case execution =>
    obtain ⟨m, -, rfl⟩ := object_content h
    exact hobject (hget "mime" (by decide) (by decide) (by decide))
  case completion =>
    obtain ⟨m, -, rfl⟩ := object_content h
    exact hobject (hget "completion" (by decide) (by decide) (by decide))
  case inspection =>
    obtain ⟨m, -, rfl⟩ := object_content h
    exact hobject (hget "inspection" (by decide) (by decide) (by decide))
  case nameList =>
    have hstrings : ∀ texts : List String, strings (.list (texts.map .string)) = .ok texts :=
      fun texts => Coordinator.stringsFrom_map texts 0
    have hnames := hget "names" (by decide) (by decide) (by decide)
    have hkeys := hget "keys" (by decide) (by decide) (by decide)
    obtain ⟨names, -, ⟨rfl, -⟩ | ⟨keys, -, rfl⟩⟩ := names_content h
    · have hnames : o.get? "names" = some (.list (names.map .string)) := hnames
      have hkeys : o.get? "keys" = none := hkeys
      simp [readContent, required, Field.optional, hnames, hkeys, hstrings, within, both, Except.map]
    · have hnames : o.get? "names" = some (.list (names.map .string)) := hnames
      have hkeys : o.get? "keys" = some (.list (keys.map .string)) := hkeys
      simp [readContent, required, Field.optional, hnames, hkeys, hstrings, nullable, within, both, Except.map]
  all_goals exact h

lemma extras_addressed (hc : Consists variant raw content) :
    extras variant (content ++ extras variant raw ++ [("id", .int id), ("end", .bool last)]) = extras variant raw := by
  obtain ⟨hid, hend⟩ := mem_declared variant
  have hcontent : content.filter (fun f => !(declared variant).contains f.1) = [] := by
    rw [List.filter_eq_nil_iff]
    intro f hf
    simp [(hc.holds f hf).1]
  have hextras : (extras variant raw).filter (fun f => !(declared variant).contains f.1) = extras variant raw := by
    rw [List.filter_eq_self]
    intro f hf
    simp [(mem_extras hf).2]
  have hundeclared : (content ++ extras variant raw ++ [("id", Value.int id), ("end", .bool last)]).filter
      (fun f => !(declared variant).contains f.1) = extras variant raw := by
    rw [List.filter_append, List.filter_append, hcontent, hextras]
    simp [hid, hend]
  rw [extras, hundeclared]
  split
  · rename_i hnames
    simp only [extras, if_pos hnames, List.filter_filter, ← Bool.and_assoc, Bool.and_self]
  · rfl

/-- In any envelope the payload of a reply is decoded to the reply again. -/
lemma decode_addressed (h : readContent variant raw = .ok content) (hraw : raw.keys.Nodup) (hchosen : Chosen raw variant)
    (hv : variant ≠ .log ∧ variant ≠ .stream) (id : Int) (last : Bool) :
    decode (.object (addressed id last (content ++ extras variant raw))) =
      .ok (.reply variant (some id) last (content ++ extras variant raw)) := by
  have hc := consists_of_ok h
  have hbare : ∀ key, key = "id" ∨ key = "end" → Object.get? (content ++ extras variant raw) key = none := by
    intro key hkey
    rw [get?_payload h hraw, kept, if_pos hkey]
  have hid := hbare "id" (.inl rfl)
  have hend := hbare "end" (.inr rfl)
  have hvariant : Variant.of (addressed id last (content ++ extras variant raw)) = variant :=
    (chosen_of _).unique (chosen_addressed h hraw hchosen hv rfl hid hend)
  have hcontent : readContent variant (addressed id last (content ++ extras variant raw)) = .ok content := by
    refine readContent_congr h fun key hkey hne hne' => ?_
    rw [get?_addressed hid hend ⟨hne, hne'⟩, get?_payload h hraw, hc.get? hkey]
  have hextras : extras variant (addressed id last (content ++ extras variant raw)) = extras variant raw := by
    rw [addressed_eq hid hend, extras_addressed hc]
  have hreply : readObject variant (addressed id last (content ++ extras variant raw)) =
      readReply variant (addressed id last (content ++ extras variant raw)) := by
    obtain ⟨hlog, hstream⟩ := hv
    cases variant <;> first | rfl | contradiction
  simp [decode, hvariant, hreply, readReply, readId_addressed hid hend, readEnd_addressed hid hend, hcontent, hextras, both,
    Except.map]

end Stability

/-- The message is no object, or a field that the variant of its tags declares does not fit. -/
def Refused (raw : Value) : Prop :=
  (∀ o, raw ≠ .object o) ∨
    ∃ o variant, raw = .object o ∧ Chosen o variant ∧ ∃ d ∈ declarations variant, d.admits o = false

/-- What is decoded has the variant that its tags say, and the payload of a reply has what the message had under every key,
is an object again, and is decoded to the same reply in any envelope. -/
structure Faithful (raw : Object) (m : Message) : Prop where
  chosen : Chosen raw m.variant
  payload : ∀ variant id last payload, m = .reply variant id last payload →
    (Object.keys payload).Nodup ∧ (∀ key, payload.get? key = kept variant raw key) ∧
      ∀ (id : Int) (last : Bool), decode (.object (addressed id last payload)) = .ok (.reply variant (some id) last payload)

lemma decode_error_iff (raw : Value) : (∃ e, decode raw = .error e) ↔ Refused raw := by
  cases raw with
  | object o =>
    have hrefused : Refused (.object o) ↔ ((declarations (Variant.of o)).all fun d => d.admits o) = false := by
      rw [List.all_eq_false]
      constructor
      · rintro (h | ⟨o', variant, h, hchosen, d, hd, hfails⟩)
        · exact absurd rfl (h o)
        · obtain rfl := Value.object.inj h
          rw [(chosen_of o).unique hchosen]
          exact ⟨d, hd, by simp [hfails]⟩
      · rintro ⟨d, hd, hfails⟩
        exact .inr ⟨o, _, rfl, chosen_of o, d, hd, by simpa using hfails⟩
    have hdecided := readObject_decided (Variant.of o) o
    rw [hrefused, decode]
    cases hadmits : (declarations (Variant.of o)).all fun d => d.admits o with
    | true =>
      rw [hadmits] at hdecided
      obtain ⟨m, hm⟩ := hdecided
      simp [hm]
    | false =>
      rw [hadmits] at hdecided
      obtain ⟨problems, hproblems⟩ := hdecided
      simp [hproblems]
  | _ => exact ⟨fun _ => .inl (by simp), fun _ => ⟨_, rfl⟩⟩

lemma variant_of_ok {o : Object} {v : Variant} {m : Message} (h : readObject v o = .ok m) : m.variant = v := by
  unfold readObject at h
  split at h
  · obtain ⟨_, -, rfl⟩ := map_ok h
    rfl
  · obtain ⟨⟨_, out, _⟩, -, rfl⟩ := map_ok h
    cases out <;> rfl
  · obtain ⟨_, -, rfl⟩ := map_ok h
    rfl

/-- A message is refused for no other reason, and otherwise decoded without a loss. -/
theorem decode_classifies {raw : Value} (hraw : ∀ o, raw = .object o → (Object.keys o).Nodup) :
    ((∃ e, decode raw = .error e) ↔ Refused raw) ∧
      ∀ m, decode raw = .ok m → ∃ o, raw = .object o ∧ Faithful o m := by
  refine ⟨decode_error_iff raw, fun m hm => ?_⟩
  obtain ⟨o, rfl, hread⟩ : ∃ o, raw = .object o ∧ readObject (Variant.of o) o = .ok m := by
    unfold decode at hm
    split at hm
    · rename_i o
      split at hm
      · cases hm
      · rename_i m' hread
        obtain rfl := Except.ok.inj hm
        exact ⟨o, rfl, hread⟩
    · cases hm
  refine ⟨o, rfl, by rw [variant_of_ok hread]; exact chosen_of o, ?_⟩
  rintro variant id last payload rfl
  obtain ⟨o', content, ho, hvariant, hv, -, -, hcontent, rfl⟩ := Session.decode_reply hm
  obtain rfl := Value.object.inj ho
  have hdistinct := hraw o rfl
  have hchosen : Chosen o variant := hvariant ▸ chosen_of o
  exact ⟨nodup_payload hcontent hdistinct, get?_payload hcontent hdistinct,
    fun id last => decode_addressed hcontent hdistinct hchosen hv id last⟩

/-- An envelope in other forms, nulls that a list of names leaves out, and one deeper that it keeps. -/
def remarked : Object :=
  [("id", .string "7"), ("names", .list [.string "a"]), ("keys", .null), ("remark", .null), ("end", .string "yes"),
    ("scope", .object [("depth", .null)])]

theorem remarked_decoded :
    decode (.object remarked) = .ok (.reply .nameList (some 7) true
      [("names", .list [.string "a"]), ("scope", .object [("depth", .null)])]) ∧
    decode (.object (addressed 8 false [("names", .list [.string "a"]), ("scope", .object [("depth", .null)])])) =
      .ok (.reply .nameList (some 8) false [("names", .list [.string "a"]), ("scope", .object [("depth", .null)])]) := by
  have hdistinct : ∀ o, Value.object remarked = .object o → (Object.keys o).Nodup := by
    intro o ho
    rw [← Value.object.inj ho]
    decide
  have hdecode : decode (.object remarked) = .ok (.reply .nameList (some 7) true
      [("names", .list [.string "a"]), ("scope", .object [("depth", .null)])]) := by decide +kernel
  obtain ⟨o, -, hfaithful⟩ := (decode_classifies hdistinct).2 _ hdecode
  exact ⟨hdecode, (hfaithful.payload _ _ _ _ rfl).2.2 8 false⟩

end EvalSession.Message
