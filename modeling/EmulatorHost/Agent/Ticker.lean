/-!
# Tickers

A ticker paces a stream. Ticks are due at whole periods from its beginning, the first of them at the
beginning itself. The clock moves in whole milliseconds, and a tick can be taken when the clock has
gone past the time at which it was due; so while the clock stands still not even the first one can
be. A tick that is taken late does not make the following ones crowd: those that were missed are
skipped, and the next one is due at the next whole period.
-/

namespace EmulatorHost.Agent

/-- A pace: the period, which is not zero, and the time at which the next tick is due, in
nanoseconds. -/
structure Ticker where
  period : Nat
  deadline : Nat
  period_pos : 0 < period
deriving DecidableEq, Repr

namespace Ticker

def second : Nat := 1000000000

/-- Nanoseconds in a millisecond, in which the clock moves. -/
def millisecond : Nat := 1000000

def maxRate : Nat := 1000

/-- The period of a rate, which is cut off at the most that there may be. -/
def periodOf (rate : Nat) : Nat :=
  second / min rate maxRate

theorem periodOf_pos {rate : Nat} (h : 0 < rate) : 0 < periodOf rate := by
  have hrate : 0 < min rate maxRate := by simp only [maxRate]; omega
  have hle : min rate maxRate ≤ second := by simp only [maxRate, second]; omega
  exact Nat.div_pos hle hrate

/-- A ticker for a rate, begun at a time in milliseconds; the rate 0 means no pace. -/
def ofRate? (rate now : Nat) : Option Ticker :=
  if h : 0 < rate then some ⟨periodOf rate, now * millisecond, periodOf_pos h⟩ else none

/-- The first time past that at which the next tick is due, in milliseconds. -/
def dueAt (ticker : Ticker) : Nat :=
  ticker.deadline / millisecond + 1

/-- How late a tick may be taken without those after it being skipped. -/
def tolerance : Nat := 5 * millisecond

def take (ticker : Ticker) (now : Nat) : Ticker :=
  let time := now * millisecond
  { ticker with
    deadline :=
      if ticker.deadline + tolerance < time then
        -- Whole periods count from the tick that was due, not from the one that came late.
        time + ticker.period - (time - ticker.deadline) % ticker.period
      else ticker.deadline + ticker.period }

end Ticker

end EmulatorHost.Agent
