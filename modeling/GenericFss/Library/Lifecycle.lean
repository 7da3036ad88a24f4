/-! The protocol of a resource that is acquired, used and released. A trace lists
what a client asked for and whether it succeeded; legality is judged against the
trace alone, so it can be compared with whatever the client believes. -/

universe u

namespace Lifecycle

inductive Action where
  | acquire (succeeded : Bool)
  | release (succeeded : Bool)
  | use
  | other
deriving DecidableEq, Repr

def Action.apply (held : Bool) : Action → Bool
  | .acquire succeeded => held || succeeded
  | .release succeeded => held && !succeeded
  | .use | .other => held

/-- Acquire only while the resource is free; use and release it only while it is held. -/
def Action.Legal (held : Bool) : Action → Prop
  | .acquire _ => held = false
  | .release _ | .use => held = true
  | .other => True

def held (trace : List Action) : Bool := trace.foldl Action.apply false

def Legal (trace : List Action) : Prop :=
  ∀ before action after, trace = before ++ action :: after → action.Legal (held before)

@[simp] theorem held_nil : held [] = false := rfl

@[simp] theorem held_concat (trace : List Action) (action : Action) :
    held (trace ++ [action]) = action.apply (held trace) := by
  simp [held, List.foldl_append]

/-- Two readings of the same log that acquire and release alike agree on who holds the resource. -/
theorem held_map_congr {α : Type u} {first second : α → Action}
    (agree : ∀ held entry, (first entry).apply held = (second entry).apply held) (log : List α) :
    held (log.map first) = held (log.map second) := by
  simp only [held, List.foldl_map, agree]

theorem legal_nil : Legal [] := by
  intro before action after same
  simp at same

theorem legal_concat {trace : List Action} {action : Action} :
    Legal (trace ++ [action]) ↔ Legal trace ∧ action.Legal (held trace) := by
  constructor
  · intro legal
    refine ⟨?_, legal trace action [] rfl⟩
    intro before first after same
    exact legal before first (after ++ [action]) (by rw [same]; simp)
  · intro ⟨legal, last⟩ before first after same
    rcases List.eq_nil_or_concat after with rfl | ⟨after, final, rfl⟩
    · obtain ⟨rfl, ending⟩ := List.append_inj' same rfl
      obtain ⟨rfl, _⟩ := List.cons.inj ending
      exact last
    · have split : trace ++ [action] = (before ++ first :: after) ++ [final] := by simp [same]
      exact legal before first after (List.append_inj' split rfl).1

/-- The client's own flag is right, and it has followed the protocol so far. -/
structure Guarded (flag : Bool) (trace : List Action) : Prop where
  flag_iff : held trace = flag
  legal : Legal trace

theorem Guarded.initial : Guarded false [] := ⟨rfl, legal_nil⟩

theorem Guarded.acquire {trace : List Action} (guarded : Guarded false trace) (succeeded : Bool) :
    Guarded succeeded (trace ++ [.acquire succeeded]) := by
  refine ⟨?_, legal_concat.mpr ⟨guarded.legal, guarded.flag_iff⟩⟩
  simp [Action.apply, guarded.flag_iff]

theorem Guarded.release {trace : List Action} (guarded : Guarded true trace) (succeeded : Bool) :
    Guarded (!succeeded) (trace ++ [.release succeeded]) := by
  refine ⟨?_, legal_concat.mpr ⟨guarded.legal, guarded.flag_iff⟩⟩
  simp [Action.apply, guarded.flag_iff]

theorem Guarded.uses {trace work : List Action} (guarded : Guarded true trace)
    (only : ∀ action ∈ work, action = .use ∨ action = .other) : Guarded true (trace ++ work) := by
  induction work generalizing trace with
  | nil => simpa using guarded
  | cons action rest ih =>
    rw [show trace ++ action :: rest = (trace ++ [action]) ++ rest by simp]
    apply ih
    · rcases only action (by simp) with rfl | rfl
      · exact ⟨by simp [Action.apply, guarded.flag_iff], legal_concat.mpr ⟨guarded.legal, guarded.flag_iff⟩⟩
      · exact ⟨by simp [Action.apply, guarded.flag_iff], legal_concat.mpr ⟨guarded.legal, trivial⟩⟩
    · exact fun later member => only later (by simp [member])

theorem Guarded.others {flag : Bool} {trace work : List Action} (guarded : Guarded flag trace)
    (only : ∀ action ∈ work, action = .other) : Guarded flag (trace ++ work) := by
  induction work generalizing trace with
  | nil => simpa using guarded
  | cons action rest ih =>
    rw [show trace ++ action :: rest = (trace ++ [action]) ++ rest by simp]
    apply ih
    · rw [only action (by simp)]
      exact ⟨by simp [Action.apply, guarded.flag_iff], legal_concat.mpr ⟨guarded.legal, trivial⟩⟩
    · exact fun later member => only later (by simp [member])

end Lifecycle
