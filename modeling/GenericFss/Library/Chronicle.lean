import Mathlib.Data.List.Forall2

/-! A register that is loaded from a numbered series of readings and shown to an
observer now and then. If no step goes back to an earlier reading, then the observer
sees the readings in their order, however often each of them is shown. -/

universe u v

namespace Chronicle

variable {σ : Type u} {β : Type v} (shows : Nat → β → Prop) (shown : σ → List β) (holds : Nat → σ → Prop)

/-- The items show readings that never go back, the last of them `latest` at most. -/
def InOrder (latest : Nat) (items : List β) : Prop :=
  ∃ numbers : List Nat, List.Forall₂ shows numbers items ∧ numbers.Pairwise (· ≤ ·) ∧ ∀ number ∈ numbers, number ≤ latest

/-- The register is moved on to some reading, and nothing but that one is shown. -/
def Advances (before after : σ) : Prop :=
  ∀ number, holds number before →
    ∃ later, number ≤ later ∧ holds later after ∧
      ∃ more, shown after = shown before ++ more ∧ ∀ item ∈ more, shows later item

def Told (state : σ) : Prop := ∃ latest, holds latest state ∧ InOrder shows latest (shown state)

variable {shows shown holds}

theorem InOrder.nil (latest : Nat) : InOrder shows latest [] := ⟨[], .nil, .nil, by simp⟩

theorem InOrder.append {latest later : Nat} {items more : List β} (ordered : InOrder shows latest items)
    (forward : latest ≤ later) (same : ∀ item ∈ more, shows later item) : InOrder shows later (items ++ more) := by
  obtain ⟨numbers, told, sorted, bounded⟩ := ordered
  have repeated : List.Forall₂ shows (List.replicate more.length later) more := by
    clear * - same
    induction more with
    | nil => exact .nil
    | cons item rest ih =>
      exact .cons (same item List.mem_cons_self) (ih fun other member => same other (List.mem_cons_of_mem _ member))
  refine ⟨numbers ++ List.replicate more.length later, List.rel_append told repeated, ?_, ?_⟩
  · refine List.pairwise_append.mpr ⟨sorted, List.pairwise_replicate.mpr (Or.inr (Nat.le_refl later)), ?_⟩
    intro number member other last
    rw [List.eq_of_mem_replicate last]
    exact Nat.le_trans (bounded number member) forward
  · intro number member
    rcases List.mem_append.mp member with earlier | last
    · exact Nat.le_trans (bounded number earlier) forward
    · exact Nat.le_of_eq (List.eq_of_mem_replicate last)

theorem Told.advance {before after : σ} (told : Told shows shown holds before)
    (advances : Advances shows shown holds before after) : Told shows shown holds after := by
  obtain ⟨latest, held, ordered⟩ := told
  obtain ⟨later, forward, holds, more, grown, same⟩ := advances latest held
  exact ⟨later, holds, grown ▸ ordered.append forward same⟩

end Chronicle
