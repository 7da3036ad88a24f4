/-! Eight-bit counters that count events since they were last cleared. The counts
themselves are unbounded; a counter shows them modulo 256. -/

universe u

namespace Tally

variable {α : Type u}

/-- The entries recorded after the last one that clears the counters. -/
def sinceLast (clears : α → Bool) (history : List α) : List α :=
  (history.reverse.takeWhile fun entry => !clears entry).reverse

@[simp] theorem sinceLast_nil (clears : α → Bool) : sinceLast clears [] = [] := rfl

theorem sinceLast_cleared {clears : α → Bool} {history : List α} {entry : α} (cleared : clears entry = true) :
    sinceLast clears (history ++ [entry]) = [] := by
  simp [sinceLast, cleared]

theorem sinceLast_kept {clears : α → Bool} {history : List α} {entry : α} (kept : clears entry = false) :
    sinceLast clears (history ++ [entry]) = sinceLast clears history ++ [entry] := by
  simp [sinceLast, kept]

def Shows (counter : UInt8) (count : Nat) : Prop := counter.toNat = count % 256

theorem Shows.zero : Shows 0 0 := rfl

theorem Shows.bump {counter : UInt8} {count : Nat} (shows : Shows counter count) :
    Shows (counter + 1) (count + 1) := by
  have sum : (counter + 1).toNat = (counter.toNat + 1) % 256 := UInt8.toNat_add counter 1
  rw [Shows, sum, shows]
  omega

theorem Shows.record {counter counter' : UInt8} {counts : α → Bool} {entries : List α}
    (shows : Shows counter (entries.countP counts)) (entry : α)
    (moved : counter' = if counts entry then counter + 1 else counter) :
    Shows counter' ((entries ++ [entry]).countP counts) := by
  cases counted : counts entry with
  | true => simpa [moved, counted] using shows.bump
  | false => simpa [moved, counted] using shows

end Tally
