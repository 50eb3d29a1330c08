import EvalSession.Inspection
import EvalSession.Proofs.Object

/-!
# Reports on values

What an inspection answers is the payload of the worker: the question is written into its inspection, an entry of the
documentation stands beside it, and all else is left as it is.
-/
namespace EvalSession.Inspection

/-- A described value has these constructors, none of them with a point in its name; there are none where the list is absent
or null. -/
structure Chain (payload : Object) (names : List (List Char)) : Prop where
  listed : ∃ fields, payload.get? "inspection" = some (.object fields) ∧
    (names = [] ∧ (Object.get? fields "constructorList" = none ∨ Object.get? fields "constructorList" = some .null) ∨
      Object.get? fields "constructorList" = some (.list (names.map Completion.text)))
  plain : ∀ name ∈ names, '.' ∉ name

/-- The payload with the question in its inspection and, if there is an entry, that entry as its documentation. -/
structure Reported (q : Question) (payload : Object) (entry : Option Object) (result : Object) : Prop where
  inspection : ∃ fields fields', payload.get? "inspection" = some (.object fields) ∧
    result.get? "inspection" = some (.object fields') ∧ Object.get? fields' "code" = some (Completion.text q.code) ∧
    Object.get? fields' "cursorPos" = some (.int q.cursor) ∧
    Object.get? fields' "matchedText" = some (Completion.text q.expression.matchedText) ∧
    ∀ key, key ∉ ["code", "cursorPos", "matchedText"] → Object.get? fields' key = Object.get? fields key
  doc : result.get? "doc" = (entry.map .object).or (payload.get? "doc")
  others : ∀ key, key ≠ "inspection" → key ≠ "doc" → result.get? key = payload.get? key

variable {q : Question} {payload report : Object} {fields : Object} {names : List (List Char)} {entry : Option Object}

lemma display_text (name : List Char) : (Completion.text name).display = name := String.toList_ofList

lemma constructors_chain (h : Chain payload names) : constructors payload = some names := by
  obtain ⟨fields, hfields, ⟨rfl, hlist | hlist⟩ | hlist⟩ := h.listed
  · simp [constructors, hfields, hlist, Value.isVacant]
  · simp [constructors, hfields, hlist, Value.isVacant]
  · have hdisplay : Value.display ∘ Completion.text = id := funext display_text
    cases names with
    | nil => simp [constructors, hfields, hlist, Value.isVacant]
    | cons name names => simp [constructors, hfields, hlist, Value.isVacant, Value.items?, hdisplay, display_text]

lemma withEntry_withEntry (report : Object) (old new : Option Object) :
    withEntry (withEntry report old) new = withEntry report (new.or old) := by
  cases new with
  | none => rfl
  | some e =>
    cases old with
    | none => rfl
    | some d => exact Object.put_put ..

lemma withQuestion_eq (h : payload.get? "inspection" = some (.object fields)) :
    withQuestion q payload = some (payload.put "inspection" (.object (Object.update fields
      [("code", Completion.text q.code), ("cursorPos", .int q.cursor),
        ("matchedText", Completion.text q.expression.matchedText)]))) := by
  simp [withQuestion, h]

lemma reported_withEntry (h : withQuestion q payload = some report)
    (hfields : payload.get? "inspection" = some (.object fields)) (entry : Option Object) :
    Reported q payload entry (withEntry report entry) := by
  rw [withQuestion_eq hfields, Option.some.injEq] at h
  subst h
  have hentry : ∀ (o : Object) (key : String), key ≠ "doc" → (withEntry o entry).get? key = o.get? key := by
    intro o key hkey
    cases entry with
    | none => rfl
    | some e => exact Object.get?_put_ne hkey.symm
  refine ⟨⟨fields, _, hfields, (hentry _ _ (by decide)).trans (Object.get?_put_self ..), ?_, ?_, ?_, fun key hkey => ?_⟩, ?_,
    fun key hinspection hdoc => ?_⟩
  · simp [Object.update, Object.get?_put_ne]
  · simp [Object.update, Object.get?_put_ne]
  · simp [Object.update]
  · refine Object.get?_update_of_ne fun f hf hkf => hkey ?_
    subst hkf
    simp only [List.mem_cons, List.not_mem_nil, or_false] at hf
    rcases hf with rfl | rfl | rfl <;> simp
  · cases entry with
    | none => exact Object.get?_put_ne (by decide)
    | some e => simp [withEntry]
  · exact (hentry _ key hdoc).trans (Object.get?_put_ne hinspection.symm)

end EvalSession.Inspection
