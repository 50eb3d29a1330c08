import Mathlib
import EvalSession.Kernel
import EvalSession.Message

/-!
# What the messages of a kernel say

A message names the request that it belongs to, and says one thing about it: a piece of output, a result, that the kernel is
idle again, or the reply. Where the fields of a message have the types of the messaging protocol, a kernel takes in just that
(`receive_fitting`).
-/
namespace EvalSession.Kernel

/-- What a message says about its request. -/
inductive Note where
  | chunk (stream : EvalSession.Channel) (text : String)
  | result (mime : Object)
  | idle
  | reply (content : Object)
  deriving DecidableEq

def stream? (name : String) : Option EvalSession.Channel :=
  if name = "stdout" then some .stdout else if name = "stderr" then some .stderr else none

def parent? (message : Object) : Option String :=
  (message.get? "parent_header").bind fun header => header.object?.bind fun fields =>
    (fields.get? "msg_id").bind Value.text?

def chunk? (content : Object) : Option Note :=
  (content.get? "name").bind fun name => name.text?.bind fun name => (stream? name).bind fun stream =>
    (content.get? "text").bind fun text => text.text?.map fun text => .chunk stream text

def said? (channel : Channel) (kind : String) (content : Object) : Option Note :=
  match channel with
  | .output =>
    if kind = "stream" then chunk? content
    else if kind = "execute_result" then some (.result (((content.get? "data").bind Value.object?).getD []))
    else if kind = "status" ∧ content.get? "execution_state" = some (.string "idle") then some .idle
    else none
  | .replies => if kind = "execute_reply" then some (.reply content) else none

/-- The request that a message belongs to, and what it says about it. -/
def note? (channel : Channel) (message : Value) : Option (String × Note) :=
  message.object?.bind fun message => (parent? message).bind fun id => (message.get? "msg_type").bind fun kind =>
    kind.text?.bind fun kind => (message.get? "content").bind fun content => content.object?.bind fun content =>
      (said? channel kind content).map fun note => (id, note)

section Fitting

/-- A field is absent or of the type that is asked for. -/
def allows (o : Object) (key : String) (type : Value → Bool) : Bool := (o.get? key).all type

def isObject (v : Value) : Bool := v.object?.isSome

def isString (v : Value) : Bool := v.text?.isSome

def isTexts : Value → Bool
  | .list items => items.all isString
  | _ => false

def describes (o : Object) : Bool := allows o "ename" isString && allows o "evalue" isString && allows o "traceback" isTexts

def isOutcome : Value → Bool
  | .object o => describes o && allows o "data" isObject
  | _ => false

def isOutcomes : Value → Bool
  | .object o => o.all fun f => isOutcome f.2
  | _ => false

def contentFits (kind : String) (content : Object) : Bool :=
  if kind = "stream" then (chunk? content).isSome
  else if kind = "execute_result" then allows content "data" isObject
  else if kind = "status" then allows content "execution_state" isString
  else if kind = "execute_reply" then describes content && allows content "user_expressions" isOutcomes
  else true

def headerFits : Value → Bool
  | .object header => allows header "msg_id" isString
  | _ => false

/-- The fields of the message have the types of the protocol. -/
def fits : Value → Bool
  | .object message =>
    allows message "parent_header" headerFits &&
      match Object.get? message "msg_type", Object.get? message "content" with
      | some (.string kind), some (.object content) => contentFits kind content
      | _, _ => false
  | _ => false

end Fitting

/-- Takes in what is said about an open request. -/
def noted (k : Kernel) (p : Pending) : Note → Arrival
  | .chunk stream text => ⟨k, some [("id", .int p.contextId), (stream.name, .string text)], none⟩
  | .result mime => ⟨k.put { p with mime := mime }, none, none⟩
  | .idle => finish (k.put { p with idle := true }) { p with idle := true }
  | .reply content => finish (k.put { p with reply := .object content }) { p with reply := .object content }

lemma parent_fits {k : Kernel} {message : Object} (h : allows message "parent_header" headerFits = true) :
    k.parent message = some ((parent? message).bind k.find?) := by
  unfold parent parent?
  cases hp : message.get? "parent_header" with
  | none => rfl
  | some header =>
    rw [allows, hp, Option.all_some] at h
    cases header with
    | object fields =>
      simp only [headerFits, allows] at h
      cases hi : Object.get? fields "msg_id" with
      | none => simp [Value.object?, hi]
      | some id =>
        rw [hi, Option.all_some] at h
        cases id <;> simp_all [isString, Value.text?, Value.object?]
    | _ => simp [headerFits] at h

lemma stream?_eq_some {name : String} {stream : EvalSession.Channel} (h : stream? name = some stream) :
    name = stream.name := by
  unfold stream? at h
  split at h
  · cases h
    assumption
  · split at h
    · cases h
      assumption
    · cases h

lemma chunk?_fits {content : Object} (h : (chunk? content).isSome = true) :
    ∃ stream text, chunk? content = some (.chunk stream text) ∧ content.get? "name" = some (.string stream.name) ∧
      content.get? "text" = some (.string text) := by
  obtain ⟨note, hn⟩ := Option.isSome_iff_exists.mp h
  simp only [chunk?, Option.bind_eq_some_iff, Option.map_eq_some_iff] at hn
  obtain ⟨name, hname, named, hnamed, stream, hstream, text, htext, written, hwritten, rfl⟩ := hn
  obtain rfl : name = .string named := by cases name <;> simp_all [Value.text?]
  obtain rfl : text = .string written := by cases text <;> simp_all [Value.text?]
  obtain rfl := stream?_eq_some hstream
  exact ⟨stream, written, by simp [chunk?, hname, hstream, htext, Value.text?], hname, htext⟩

lemma output_fits {k : Kernel} {p : Pending} {kind : String} {content : Object} (h : contentFits kind content = true) :
    k.output p (.string kind) (.object content) =
      ((said? .output kind content).map (k.noted p)).getD ⟨k, none, none⟩ := by
  by_cases hstream : kind = "stream"
  · subst hstream
    obtain ⟨stream, text, hc, hname, htext⟩ := chunk?_fits h
    have hput : Object.put [("id", .int p.contextId)] stream.name (.string text) =
        [("id", .int p.contextId), (stream.name, .string text)] := by cases stream <;> rfl
    simp [output, said?, hc, hname, htext, noted, hput]
  by_cases hresult : kind = "execute_result"
  · subst hresult
    have hdata : allows content "data" isObject = true := h
    cases hd : content.get? "data" with
    | none => simp [output, said?, hd, copyObject?, noted]
    | some v =>
      rw [allows, hd, Option.all_some] at hdata
      cases v <;> simp_all [isObject, Value.object?, output, said?, copyObject?, noted]
  by_cases hstatus : kind = "status"
  · subst hstatus
    by_cases hidle : content.get? "execution_state" = some (.string "idle") <;>
      simp [output, said?, hidle, isText, noted]
  · have hother : said? .output kind content = none := by simp [said?, hstream, hresult, hstatus]
    unfold output
    split <;> simp_all

lemma fits_object {message : Value} (h : fits message = true) :
    ∃ (fields : Object) (kind : String) (content : Object), message = .object fields ∧
      allows fields "parent_header" headerFits = true ∧ fields.get? "msg_type" = some (.string kind) ∧
      fields.get? "content" = some (.object content) ∧ contentFits kind content = true := by
  cases message with
  | object fields =>
    simp only [fits, Bool.and_eq_true] at h
    obtain ⟨hparent, h⟩ := h
    split at h
    · rename_i kind content hkind hcontent
      exact ⟨fields, kind, content, rfl, hparent, hkind, hcontent, h⟩
    · cases h
  | _ => cases h

/-- A message whose fields have the right types is taken in for what it says about an open request, if anything. -/
theorem receive_fitting {k : Kernel} {channel : Channel} {message : Value} (h : fits message = true) :
    k.receive channel message =
      match note? channel message with
      | none => ⟨k, none, none⟩
      | some (id, note) =>
        match k.find? id with
        | none => ⟨k, none, none⟩
        | some p => k.noted p note := by
  obtain ⟨fields, kind, content, rfl, hparent, hkind, hcontent, hfits⟩ := fits_object h
  have hnote : note? channel (.object fields) =
      (parent? fields).bind fun id => (said? channel kind content).map fun note => (id, note) := by
    simp [note?, Value.object?, hkind, hcontent, Value.text?]
  have hparent := parent_fits (k := k) hparent
  rw [hnote]
  cases channel with
  | output =>
    simp only [receive, onOutput, hparent, hkind, hcontent]
    cases hid : parent? fields with
    | none => simp
    | some id =>
      cases hp : k.find? id with
      | none => cases hs : said? .output kind content <;> simp [hp]
      | some p => cases hs : said? .output kind content <;> simp [hp, output_fits hfits, hs]
  | replies =>
    simp only [receive, onReply, isText, hparent, hkind, hcontent]
    by_cases hreply : kind = "execute_reply"
    · subst hreply
      cases hid : parent? fields with
      | none => simp
      | some id => cases hp : k.find? id <;> simp [hp, said?, noted]
    · cases hid : parent? fields <;> simp [said?, hreply]

lemma receive_quiet (k : Kernel) (channel : Channel) (message : Value) :
    (k.receive channel message).emitted = none ∨ (k.receive channel message).fault = none := by
  have hfinish : ∀ (k : Kernel) p, (k.finish p).emitted = none ∨ (k.finish p).fault = none := by
    intro k p
    unfold finish
    split
    · simp
    · simp only
      split <;> simp
  cases channel with
  | output =>
    simp only [receive, onOutput]
    unfold output
    repeat' split
    all_goals first | exact hfinish _ _ | simp [Arrival.refused]
  | replies =>
    simp only [receive, onReply]
    repeat' split
    all_goals first | exact hfinish _ _ | simp [Arrival.refused]

end EvalSession.Kernel
