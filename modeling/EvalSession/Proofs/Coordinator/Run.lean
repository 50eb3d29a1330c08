import EvalSession.Proofs.Coordinator.Stage
import EvalSession.Proofs.Run

/-!
# Runs and their traces

A run starts from a fresh machine. Events are kept latest first; `gather` reads them off in the order in which they
happened, and `Historic` says how each of them stands to those before it.
-/
namespace EvalSession.Coordinator

variable {H X α : Type}

namespace Machine

/-- A machine in which nothing has happened yet. Replies that it makes up go to the router. -/
def fresh (transform : Option X) : Machine H X := { state := { transform := transform } }

lemma run_eq (m : Machine H X) (moves : List (Move H X)) : m.run moves = moves.foldlM step m := by
  induction moves generalizing m with
  | nil => rfl
  | cons move rest ih => simp only [run, List.foldlM_cons, bind, ih]

end Machine

namespace Event

/-- Events that concern no task. -/
@[simp] def silent : Event H X → Bool
  | .log _ | .looped _ | .raised _ | .escaped .. => true
  | _ => false

@[simp] def task? : Event H X → Option (Task H)
  | .submitted _ task => some task
  | _ => none

@[simp] def number? : Event H X → Option Nat
  | .submitted t _ => some t
  | _ => none

@[simp] def opened? : Event H X → Option Nat
  | .opened t _ => some t
  | _ => none

@[simp] def request? : Event H X → Option Request
  | .sent r => some r
  | _ => none

end Event

lemma silent_logs (entries : List Diagnostic) : ∀ e ∈ (logs entries : List (Event H X)), e.silent = true := by
  simp [logs]

lemma Leaves.silent {c : Coordinator H X} {fault fault' : Option Fault} {move : Move H X} {f : Frame H X}
    {quiet : List (Event H X)} (h : Leaves c fault move f fault' quiet) : ∀ e ∈ quiet, e.silent = true := by
  cases h <;> simp [logs]

def gather (f : Event H X → Option α) (es : List (Event H X)) : List α := es.reverse.filterMap f

@[simp] lemma gather_nil (f : Event H X → Option α) : gather f [] = [] := rfl

@[simp] lemma gather_cons (f : Event H X → Option α) (e : Event H X) (es : List (Event H X)) :
    gather f (e :: es) = gather f es ++ (f e).toList := by
  cases h : f e <;> simp [gather, h]

/-- What is read off events says nothing of those that concern no task. -/
class Discreet (f : Event H X → Option α) : Prop where
  silent : ∀ e, e.silent = true → f e = none

instance : Discreet (H := H) (X := X) Event.task? := ⟨fun e he => by cases e <;> simp_all⟩
instance : Discreet (H := H) (X := X) Event.number? := ⟨fun e he => by cases e <;> simp_all⟩
instance : Discreet (H := H) (X := X) Event.opened? := ⟨fun e he => by cases e <;> simp_all⟩
instance : Discreet (H := H) (X := X) Event.request? := ⟨fun e he => by cases e <;> simp_all⟩

lemma gather_none {f : Event H X → Option α} {more : List (Event H X)} (hm : ∀ e ∈ more, f e = none)
    (es : List (Event H X)) : gather f (more ++ es) = gather f es := by
  have hnil : more.reverse.filterMap f = [] := List.filterMap_eq_nil_iff.mpr fun e he => hm e (List.mem_reverse.mp he)
  rw [gather, List.reverse_append, List.filterMap_append, hnil, List.append_nil, gather]

lemma gather_silent (f : Event H X → Option α) [Discreet f] {quiet : List (Event H X)}
    (hq : ∀ e ∈ quiet, e.silent = true) (es : List (Event H X)) : gather f (quiet ++ es) = gather f es :=
  gather_none (fun e he => Discreet.silent e (hq e he)) es

@[simp] lemma gather_logs (f : Event H X → Option α) [Discreet f] (entries : List Diagnostic) (es : List (Event H X)) :
    gather f (logs entries ++ es) = gather f es := gather_silent f (silent_logs entries) es

/-- Every event stands in this relation to those before it. -/
def Historic (P : List (Event H X) → Event H X → Prop) : List (Event H X) → Prop
  | [] => True
  | e :: es => P es e ∧ Historic P es

lemma Historic.before {P : List (Event H X) → Event H X → Prop} {newer older : List (Event H X)} {e : Event H X}
    (h : Historic P (newer ++ e :: older)) : P older e := by
  induction newer with
  | nil => exact h.1
  | cons _ newer ih => exact ih h.2

lemma historic_silent {P : List (Event H X) → Event H X → Prop} (hP : ∀ es e, e.silent = true → P es e)
    {quiet : List (Event H X)} (hq : ∀ e ∈ quiet, e.silent = true) (es : List (Event H X)) :
    Historic P (quiet ++ es) ↔ Historic P es := by
  induction quiet with
  | nil => rfl
  | cons e quiet ih =>
    simp only [List.cons_append, Historic]
    exact ⟨fun h => (ih fun e' he => hq e' (by simp [he])).mp h.2,
      fun h => ⟨hP _ e (hq e (by simp)), (ih fun e' he => hq e' (by simp [he])).mpr h⟩⟩

/-- The tasks taken in, in their order. -/
def given (es : List (Event H X)) : List (Task H) := gather Event.task? es

def requests (es : List (Event H X)) : List Request := gather Event.request? es

end EvalSession.Coordinator
