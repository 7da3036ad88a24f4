import GenericFss.Library.Machine
import Mathlib.Data.List.Induction

/-! A register that events load with values they bring from outside. Once a value has
been brought, the register holds the latest one; before that it holds whatever it
started with. -/

universe u v w

namespace Provenance

variable {σ : Type u} {ε : Type v} {β : Type w} (step : σ → ε → σ) (value : σ → β) (brings : σ → ε → β → Prop) (start : σ)

def Brought (events : List ε) : Prop :=
  ∃ before event after found, events = before ++ event :: after ∧ brings (Machine.run step start before) event found

/-- One of the events brought this value, and none after it brought any. -/
def Latest (events : List ε) (found : β) : Prop :=
  ∃ before event after, events = before ++ event :: after ∧ brings (Machine.run step start before) event found ∧
    ∀ first later rest other, after = first ++ later :: rest →
      ¬ brings (Machine.run step start (before ++ event :: first)) later other

/-- An event loads the register with what it brings, or brings nothing and leaves it alone. -/
def Loads : Prop :=
  ∀ state event, brings state event (value (step state event)) ∨
    (∀ found, ¬ brings state event found) ∧ value (step state event) = value state

variable {step value brings start}

theorem Latest.brought {events : List ε} {found : β} (latest : Latest step brings start events found) :
    Brought step brings start events := by
  obtain ⟨before, event, after, split, brings, _⟩ := latest
  exact ⟨before, event, after, found, split, brings⟩

theorem Brought.of_concat {events : List ε} {event : ε} (brought : Brought step brings start (events ++ [event]))
    (idle : ∀ found, ¬ brings (Machine.run step start events) event found) : Brought step brings start events := by
  obtain ⟨before, other, after, found, split, brings⟩ := brought
  rcases List.eq_nil_or_concat after with rfl | ⟨after, last, rfl⟩
  · obtain ⟨rfl, same⟩ := List.append_inj' split rfl
    cases same
    exact absurd brings (idle found)
  · rw [List.concat_eq_append, ← List.cons_append, ← List.append_assoc] at split
    exact ⟨before, other, after, found, (List.append_inj' split rfl).1, brings⟩

theorem Latest.concat {events : List ε} {event : ε} {found : β} (latest : Latest step brings start events found)
    (idle : ∀ found, ¬ brings (Machine.run step start events) event found) :
    Latest step brings start (events ++ [event]) found := by
  obtain ⟨before, other, after, rfl, brings, quiet⟩ := latest
  refine ⟨before, other, after ++ [event], by simp, brings, ?_⟩
  intro first later rest unseen split
  rcases List.eq_nil_or_concat rest with rfl | ⟨rest, last, rfl⟩
  · obtain ⟨rfl, same⟩ := List.append_inj' split rfl
    cases same
    exact idle unseen
  · rw [List.concat_eq_append, ← List.cons_append, ← List.append_assoc] at split
    exact quiet first later rest unseen (List.append_inj' split rfl).1

/-- Once anything has been brought, the register holds the latest value. -/
theorem latest (loads : Loads step value brings) {events : List ε} (brought : Brought step brings start events) :
    Latest step brings start events (value (Machine.run step start events)) := by
  induction events using List.reverseRecOn with
  | nil =>
    obtain ⟨before, event, after, _, split, _⟩ := brought
    simp at split
  | append_singleton events event ih =>
    rw [Machine.run_concat]
    rcases loads (Machine.run step start events) event with loaded | ⟨idle, same⟩
    · refine ⟨events, event, [], rfl, loaded, ?_⟩
      intro first later rest _ split
      simp at split
    · rw [same]
      exact (ih (brought.of_concat idle)).concat idle

end Provenance
