/-!
# Latest-value broadcasts

A broadcaster holds one value and counts the generations of values it has held. A listener waits for
a generation newer than the last one it got, so a slow listener skips what it missed and a fast one
sees every value. A closed broadcaster answers every wait with its being closed. The count of
generations does not run over: no run is long enough for 64 bits.
-/

namespace EmulatorHost

inductive WaitError where
  | closed
  | cancelled
deriving DecidableEq, Repr, Inhabited

def WaitError.message : WaitError → String
  | closed => "broadcaster closed"
  | cancelled => "wait cancelled"

/-- The latest value, if there has been one, with its generation, and whether it is the last. -/
structure Broadcaster (α : Type) where
  generation : Nat := 0
  value : Option α := none
  isClosed : Bool := false
deriving DecidableEq, Repr, Inhabited

namespace Broadcaster

variable {α : Type}

def empty : Broadcaster α := {}

def broadcast (broadcaster : Broadcaster α) (value : α) : Broadcaster α :=
  { broadcaster with generation := broadcaster.generation + 1, value := some value }

def close (broadcaster : Broadcaster α) : Broadcaster α :=
  { broadcaster with isClosed := true }

/-- What a listener that got generation `seen` last is to get now, if anything. -/
def poll (broadcaster : Broadcaster α) (seen : Nat) : Option (Except WaitError α) :=
  if broadcaster.isClosed then some (.error .closed)
  else if seen < broadcaster.generation then broadcaster.value.map .ok
  else none

/-- The generation that a listener has got after the outcome of a wait. -/
def seenAfter (broadcaster : Broadcaster α) (seen : Nat) : Option (Except WaitError α) → Nat
  | some (.ok _) => broadcaster.generation
  | _ => seen

theorem broadcast_ne (broadcaster : Broadcaster α) (value : α) :
    broadcaster.broadcast value ≠ broadcaster := by
  intro hsame
  have hgeneration : broadcaster.generation + 1 = broadcaster.generation :=
    congrArg Broadcaster.generation hsame
  exact Nat.succ_ne_self _ hgeneration

/-- What a listener gets is the value held. -/
theorem value_of_poll {broadcaster : Broadcaster α} {seen : Nat} {value : α}
    (hpoll : broadcaster.poll seen = some (.ok value)) : broadcaster.value = some value := by
  unfold poll at hpoll
  split at hpoll
  · cases hpoll
  · split at hpoll
    · cases hvalue : broadcaster.value with
      | none =>
          simp [hvalue] at hpoll
      | some held =>
          simpa [hvalue] using hpoll
    · cases hpoll

/-- A listener that gets nothing from an open broadcaster with a value is caught up. -/
theorem generation_le_of_poll {broadcaster : Broadcaster α} {seen : Nat} {value : α}
    (hopen : broadcaster.isClosed = false) (hvalue : broadcaster.value = some value)
    (hpoll : broadcaster.poll seen = none) : broadcaster.generation ≤ seen := by
  unfold poll at hpoll
  rw [hopen, hvalue] at hpoll
  by_cases hnew : seen < broadcaster.generation
  · simp [hnew] at hpoll
  · exact Nat.le_of_not_lt hnew

/-- A listener that has just got a value gets nothing more. -/
theorem poll_generation (broadcaster : Broadcaster α) {seen : Nat} {value : α}
    (hpoll : broadcaster.poll seen = some (.ok value)) :
    broadcaster.poll broadcaster.generation = none := by
  unfold poll at hpoll ⊢
  split at hpoll
  · cases hpoll
  · rename_i hopen
    rw [if_neg hopen, if_neg (Nat.lt_irrefl _)]

end Broadcaster

end EmulatorHost
