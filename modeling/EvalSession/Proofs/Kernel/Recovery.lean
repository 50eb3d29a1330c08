import EvalSession.Proofs.Json.RoundTrip
import EvalSession.Proofs.Kernel.Terminal

/-!
# Values recovered from replies

A kernel answers a query with the quoted JSON text of a value. If there is room for the value, the payload made of the reply
holds it as it was, or the part of it that was asked for, whatever its texts consist of; only an integer with more digits than
JSON texts are read with makes it an error. If there is no room, nothing is made of the reply.
-/
namespace EvalSession.Kernel

/-- The reply is fine, and so is the outcome of its query, which is the quoted JSON text of the value. -/
structure Answers (reply : Object) (v : Value) : Prop where
  reply_ok : isStatus reply "ok" = true
  outcome : ∃ outcome, outcome? reply = some outcome ∧ isStatus outcome "ok" = true ∧ Written outcome (Json.write v)

def tooLong : Object := unreadable "ValueError" "*"

variable {depths : Depths} {action : Action} {reply : Object} {v : Value}

lemma readResult_answer {outcome : Object} (hw : Written outcome (Json.write v)) (hv : Json.isExact v = true)
    (hroom : Json.depth v ≤ depths.containers) :
    readResult depths outcome = if Json.fits v then .ok v else .error (.answered tooLong) := by
  have hread := Json.readWithin_write hv hroom
  rw [readResult_written depths hw]
  cases hfits : Json.fits v with
  | true =>
    rw [if_pos hfits] at hread
    rw [hread]
    rfl
  | false =>
    rw [hfits, if_neg Bool.false_ne_true] at hread
    obtain ⟨place, hread⟩ := hread
    rw [hread]
    rfl

lemma replyPayload_query (h : Answers reply v) (hv : Json.isExact v = true) (hroom : Json.depth v ≤ depths.containers)
    (ha : action ≠ .run) (mime : Object) : replyPayload depths action mime (.object reply) =
      .ok (if Json.fits v then queryPayload action v else tooLong) := by
  obtain ⟨hok, outcome, houtcome, hs, hw⟩ := h
  simp only [replyPayload_object, isStatus_ok_ne_aborted hok, hok, if_true, Bool.false_eq_true, if_false, if_neg ha,
    queryReply_eq, houtcome, Fault.expected, Except.bind, hs, readResult_answer hw hv hroom]
  cases Json.fits v <;> rfl

/-- What an inspection shows is the very object that the kernel wrote, and a list of names shows its names and keys, if the
integers in it have no more digits than are read; otherwise both are the error that says so. -/
theorem replyPayload_recovers {o : Object} (hv : Json.isExact (.object o) = true)
    (hroom : Json.depth (.object o) ≤ depths.containers) (h : Answers reply (.object o)) (mime : Object) :
    (Json.fits (.object o) = true →
      replyPayload depths .inspect mime (.object reply) = .ok [("inspection", .object o)] ∧
      replyPayload depths .listNames mime (.object reply) =
        .ok [("names", (o.get? "names").getD (.list [])), ("keys", (o.get? "keys").getD (.list []))]) ∧
    (Json.fits (.object o) = false →
      replyPayload depths .inspect mime (.object reply) = .ok tooLong ∧
      replyPayload depths .listNames mime (.object reply) = .ok tooLong) := by
  have hinspect := replyPayload_query h hv hroom (by decide : Action.inspect ≠ .run) mime
  have hnames := replyPayload_query h hv hroom (by decide : Action.listNames ≠ .run) mime
  constructor
  · intro hfits
    rw [hinspect, hnames, if_pos hfits, if_pos hfits]
    exact ⟨rfl, rfl⟩
  · intro hfits
    simp only [hinspect, hnames, hfits, Bool.false_eq_true, if_false, and_self]

def answering (v : Value) : Object :=
  [("status", .string "ok"), ("user_expressions", .object [(resultKey, .object [("status", .string "ok"),
    ("data", .object [("text/plain", .string (String.ofList (Text.Quoted.quote (Json.write v))))])])])]

lemma answering_answers (v : Value) : Answers (answering v) v := ⟨rfl, _, rfl, rfl, _, rfl, rfl⟩

lemma answering_fits (v : Value) : contentFits "execute_reply" (answering v) = true := rfl

/-- Both quotes, a backslash, control characters, braces and characters above the basic plane, at several depths. -/
def intricate : Object :=
  [("names", .list [.string "it's \"quoted\"", .string "\\n\n\x00\x7f", .string "🙂\x7b\x7d", .null]),
    ("\x7b'\"", .object [("é", .list [.int (-120), .object [], .bool true]), ("", .int 0)])]

theorem intricate_recovered :
    replyPayload {} .inspect [] (.object (answering (.object intricate))) = .ok [("inspection", .object intricate)] ∧
    replyPayload {} .listNames [] (.object (answering (.object intricate))) =
      .ok [("names", .list [.string "it's \"quoted\"", .string "\\n\n\x00\x7f", .string "🙂\x7b\x7d", .null]),
        ("keys", .list [])] :=
  (replyPayload_recovers (by decide +kernel) (by decide +kernel) (answering_answers (.object intricate)) []).1
    (by decide +kernel)

/-- The names are there, but another field holds an integer with a digit too many. -/
def oversized : Object := [("names", .list []), ("size", .int (10 ^ Json.maxIntegerDigits : Nat))]

lemma oversized_unfit : Json.fits (.object oversized) = false := by
  have hlong : Json.isShort (10 ^ Json.maxIntegerDigits) = false := by
    rw [Json.isShort, decide_eq_false_iff_not, Nat.length_toDigits_le_iff (by omega) (by decide)]
    exact lt_irrefl _
  have hhere : Json.fitsHere (.int (10 ^ Json.maxIntegerDigits : Nat)) = false := hlong
  simp only [Json.fits, oversized, Json.everywhere, Json.everyField, hhere, Bool.false_and, Bool.and_false]

lemma overrun?_answer (h : Answers reply v) (hv : Json.isExact v = true) (ha : action ≠ .run) {o : Overrun}
    {ps : List Json.Problem} (hd : Json.defects depths.containers v = .tooDeep o :: ps) :
    overrun? depths action reply = some o := by
  obtain ⟨hok, outcome, houtcome, hs, data, hdata, htext⟩ := h
  have hread := Json.read_write hv depths.containers
  rw [hd] at hread
  obtain ⟨place, hread⟩ := hread
  have hwritten : written? outcome = some (String.ofList (Text.Quoted.quote (Json.write v))) := by
    simp [written?, hdata, Value.object?, htext, Value.text?]
  simp [overrun?, ha, hok, houtcome, hs, resultOverrun?, hwritten, Literal.readJson_quote, Literal.parseJson, hread,
    Literal.JsonFault.overrun?]

def nest : Nat → Value
  | 0 => .null
  | n + 1 => .list [nest n]

lemma nest_exact (n : Nat) : Json.everywhere Json.isExactHere (nest n) = true := by
  induction n with
  | zero => rfl
  | succ n ih => simp [nest, Json.everywhere, Json.everyItem, Json.isExactHere, ih]

lemma defects_nest (room : Nat) : Json.defects room (nest (room + 1)) = [.tooDeep .array] := by
  induction room with
  | zero => rfl
  | succ room ih =>
    rw [nest, Json.defects, Json.itemDefects, ih]
    rfl

def bottomless (n : Nat) : Object := [("a", nest n)]

lemma bottomless_exact (n : Nat) : Json.isExact (.object (bottomless n)) = true := by
  simp [bottomless, Json.isExact, Json.everywhere, Json.everyField, Json.isExactHere, Object.keys, nest_exact]

/-- However deep the readers of a process go, they do not reach the bottom of such an object. -/
lemma overrun?_bottomless {room : Nat} (hd : depths.containers = room + 1)
    (h : Answers reply (.object (bottomless (room + 1)))) (ha : action ≠ .run) :
    overrun? depths action reply = some .array := by
  have hdefects : Json.defects depths.containers (.object (bottomless (room + 1))) = [.tooDeep .array] := by
    rw [hd, Json.defects, bottomless, Json.fieldDefects, defects_nest]
    rfl
  exact overrun?_answer h (bottomless_exact _) ha hdefects

/-- The names of the one value, and its keys, which it lacks, do not come back; of the other nothing does. -/
theorem oversized_refused :
    (Json.isExact (.object oversized) = true ∧ Answers (answering (.object oversized)) (.object oversized) ∧
      replyPayload {} .listNames [] (.object (answering (.object oversized))) ≠
        .ok [("names", (Object.get? oversized "names").getD (.list [])),
          ("keys", (Object.get? oversized "keys").getD (.list []))]) ∧
    Json.isExact (.object (bottomless 983)) = true ∧
      Answers (answering (.object (bottomless 983))) (.object (bottomless 983)) ∧
      replyPayload {} .inspect [] (.object (answering (.object (bottomless 983)))) = .error (.tooDeep .array) := by
  constructor
  · have hexact : Json.isExact (.object oversized) = true := rfl
    have hroom : Json.depth (.object oversized) ≤ ({} : Depths).containers := by decide +kernel
    have hnames := replyPayload_query (answering_answers _) hexact hroom (by decide : Action.listNames ≠ .run) []
    rw [oversized_unfit] at hnames
    refine ⟨hexact, answering_answers _, ?_⟩
    rw [hnames]
    simp [tooLong, unreadable, namedError, errorPayload]
  · have hroom : ({} : Depths).containers = 982 + 1 := rfl
    have hover := overrun?_bottomless hroom (answering_answers _) (by decide : Action.inspect ≠ .run)
    exact ⟨bottomless_exact 983, answering_answers _, replyPayload_overrun (answering_fits _) [] hover⟩

end EvalSession.Kernel
