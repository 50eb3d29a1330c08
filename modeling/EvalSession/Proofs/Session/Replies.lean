import EvalSession.Proofs.Session.View

/-!
# Replies that the hooks of a session can use

A reply `fits` a request when it is an error, or lists names for a request of names, or describes a value for an inspection.
The hooks that a session sets on its tasks accept the payload of every reply that fits.
-/
namespace EvalSession.Session

variable {U X : Type}

/-- The constructor list of a described value is absent, null or a list of texts. -/
def constructorsListed (payload : Object) : Bool :=
  match payload.get? "inspection" with
  | some (.object fields) =>
    match Object.get? fields "constructorList" with
    | none => true
    | some .null => true
    | some (.list items) => items.all fun v => v.text?.isSome
    | some _ => false
  | _ => true

def fits : Action → Variant → Object → Bool
  | _, .error, _ => true
  | .run, _, _ => true
  | .listNames, variant, _ => variant = .nameList
  | .inspect, variant, payload => variant = .inspection && constructorsListed payload

/-- The hook can do its work with the payload. -/
def Accepts (payload : Object) : Hook U → Prop
  | .names q _ => (Completion.ofPayload q payload).isSome
  | .inspection q _ => (Inspection.withQuestion q payload).isSome
  | .scopeInspection .. => (Inspection.constructors payload).isSome
  | _ => True

lemma both_ok {α β : Type} {a : Field.Checked α} {b : Field.Checked β} {p : α × β} (h : Field.both a b = .ok p) :
    a = .ok p.1 ∧ b = .ok p.2 := by
  cases a <;> cases b <;> simp only [Field.both, Except.ok.injEq, reduceCtorEq] at h
  subst h
  exact ⟨rfl, rfl⟩

lemma decode_reply {v : Value} {variant : Variant} {id : Option Int} {last : Bool} {payload : Object}
    (h : Message.decode v = .ok (.reply variant id last payload)) :
    ∃ o content, v = .object o ∧ Variant.of o = variant ∧ (variant ≠ .log ∧ variant ≠ .stream) ∧
      Message.readId o = .ok id ∧ Message.readEnd o = .ok last ∧ Message.readContent variant o = .ok content ∧
      payload = content ++ Message.extras variant o := by
  unfold Message.decode at h
  split at h
  · rename_i o
    split at h
    · cases h
    · rename_i m hm
      obtain rfl := Except.ok.inj h
      unfold Message.readObject at hm
      split at hm
      · simp only [Except.map] at hm
        split at hm <;> simp at hm
      · unfold Message.readStream at hm
        simp only [Except.map] at hm
        split at hm
        · cases hm
        · rename_i p _
          obtain ⟨_, out, _⟩ := p
          cases out <;> simp at hm
      · rename_i hlog hstream
        unfold Message.readReply at hm
        simp only [Except.map] at hm
        split at hm
        · cases hm
        · rename_i p hp
          obtain ⟨id', last', content⟩ := p
          simp only [Except.ok.injEq, Message.reply.injEq] at hm
          obtain ⟨hvariant, rfl, rfl, rfl⟩ := hm
          obtain ⟨hid, hrest⟩ := both_ok hp
          obtain ⟨hend, hcontent⟩ := both_ok hrest
          rw [hvariant] at hlog hstream hcontent ⊢
          exact ⟨o, content, rfl, hvariant, ⟨hlog, hstream⟩, hid, hend, hcontent, rfl⟩
  · cases h

lemma decode_content {v : Value} {variant : Variant} {id : Option Int} {last : Bool} {payload : Object}
    (h : Message.decode v = .ok (.reply variant id last payload)) :
    ∃ o content, Message.readContent variant o = .ok content ∧ payload = content ++ Message.extras variant o := by
  obtain ⟨o, content, -, -, -, -, -, hc, hp⟩ := decode_reply h
  exact ⟨o, content, hc, hp⟩

lemma get?_extras {variant : Variant} {key : String} (h : key ∈ Message.declared variant) (o : Object) :
    (Message.extras variant o).get? key = none := by
  have hundeclared : ∀ f ∈ Message.extras variant o, f.1 ≠ key := by
    rintro f hf rfl
    have hf : f ∈ o.filter fun f => !(Message.declared variant).contains f.1 := by
      unfold Message.extras at hf
      simp only at hf
      split at hf
      · exact (List.mem_filter.mp hf).1
      · exact hf
    simp [h] at hf
  simpa [Object.get?] using fun a b hm => hundeclared (a, b) hm

lemma mapM_texts (texts : List String) : (texts.map Value.string).mapM (fun v => v.text?.map String.toList) =
    some (texts.map String.toList) := by
  induction texts with
  | nil => rfl
  | cons t texts ih =>
    rw [List.map_cons, List.mapM_cons, ih]
    rfl

lemma accepts_names {v : Value} {id : Option Int} {last : Bool} {payload : Object}
    (h : Message.decode v = .ok (.reply .nameList id last payload)) (q : Question) :
    (Completion.ofPayload q payload).isSome := by
  obtain ⟨o, content, hc, rfl⟩ := decode_content h
  obtain ⟨names, keys, rfl⟩ : ∃ (names : List String) (keys : Option (List String)),
      content = ("names", .list (names.map .string)) :: (keys.toList.map fun ks => ("keys", .list (ks.map .string))) := by
    simp only [Message.readContent, Except.map] at hc
    split at hc
    · cases hc
    · rename_i p _
      exact ⟨p.1, p.2, (Except.ok.inj hc).symm⟩
  have hoffered : ∃ texts : List String, Completion.offered q.expression
      (("names", .list (names.map .string)) :: (keys.toList.map fun ks => ("keys", .list (ks.map .string))) ++
        Message.extras .nameList o) = .list (texts.map .string) := by
    have hdeclared : "keys" ∈ Message.declared .nameList := by simp [Message.declared]
    have hkeys := get?_extras hdeclared o
    unfold Completion.offered
    cases keys with
    | none =>
      refine ⟨names, ?_⟩
      simp only [Object.get?, Option.map_eq_none_iff] at hkeys
      simp [Object.get?, hkeys]
    | some ks =>
      cases q.expression.rightOp.isEmpty with
      | true => exact ⟨names, by simp [Object.get?]⟩
      | false => exact ⟨ks, by simp [Object.get?]⟩
  obtain ⟨texts, ht⟩ := hoffered
  simp only [Completion.ofPayload, Completion.names?, ht, Value.items?, Option.bind_some, mapM_texts, Option.map_some,
    Option.isSome_some]

lemma inspected {v : Value} {id : Option Int} {last : Bool} {payload : Object}
    (h : Message.decode v = .ok (.reply .inspection id last payload)) :
    ∃ fields, payload.get? "inspection" = some (.object fields) := by
  obtain ⟨o, content, hc, rfl⟩ := decode_content h
  simp only [Message.readContent, Except.map] at hc
  split at hc
  · cases hc
  · rename_i m _
    obtain rfl := Except.ok.inj hc
    exact ⟨m, by simp [Object.get?]⟩

lemma accepts_inspection {v : Value} {id : Option Int} {last : Bool} {payload : Object}
    (h : Message.decode v = .ok (.reply .inspection id last payload)) (q : Question) :
    (Inspection.withQuestion q payload).isSome := by
  obtain ⟨fields, hf⟩ := inspected h
  simp [Inspection.withQuestion, hf]

lemma accepts_scope {v : Value} {id : Option Int} {last : Bool} {payload : Object}
    (h : Message.decode v = .ok (.reply .inspection id last payload)) (hc : constructorsListed payload = true) :
    (Inspection.constructors payload).isSome := by
  obtain ⟨fields, hf⟩ := inspected h
  simp only [constructorsListed, hf] at hc
  simp only [Inspection.constructors, hf, Option.getD_some]
  split at hc
  · rename_i hn
    simp [hn, Value.isVacant]
  · rename_i hn
    simp [hn, Value.isVacant]
  · rename_i items hn
    simp only [hn, Option.getD_some, Value.items?]
    split <;> simp
  · cases hc

end EvalSession.Session
