import EmulatorHost.Agent.Feed

/-!
# Settling a feed

What the parts of a feed's round do: sending, taking a tick, and taking a value. A feed that has
nothing new to take is settled by one round, and whatever its producer does first leaves the same to
be settled. A producer that goes on as long as it can comes to rest (`exists_stuck`).
-/

namespace EmulatorHost.Agent.Feed

variable {σ α β : Type} {make : Maker σ α β} {feed left : Feed σ β} {source : Broadcaster α}
  {now : Nat}

/-! ## Sending -/

theorem buffer_flush (feed : Feed σ β) :
    feed.flush.buffer ++ feed.flush.unsent = feed.buffer ++ feed.unsent := by
  simp [flush]

theorem flush_of_sent (hsent : feed.unsent = []) : feed.flush = feed := by
  rcases feed with ⟨seen, memory, ticker, stage, unsent, buffer⟩
  cases hsent
  simp [flush]

theorem flush_of_full (hfull : capacity ≤ feed.buffer.length) : feed.flush = feed := by
  have hroom : capacity - feed.buffer.length = 0 := Nat.sub_eq_zero_of_le hfull
  simp [flush, hroom]

/-- After a flush nothing is left to be sent, or the buffer is full. -/
theorem sent_or_full_flush (feed : Feed σ β) :
    feed.flush.unsent = [] ∨ capacity ≤ feed.flush.buffer.length := by
  by_cases hroom : feed.unsent.length ≤ capacity - feed.buffer.length
  · exact .inl (List.drop_eq_nil_of_le hroom)
  · have hfilled : feed.flush.buffer.length =
        feed.buffer.length + (capacity - feed.buffer.length) := by
      simp only [flush, List.length_append, List.length_take]
      omega
    exact .inr (by omega)

theorem flush_flush (feed : Feed σ β) : feed.flush.flush = feed.flush := by
  rcases sent_or_full_flush feed with hsent | hfull
  · exact flush_of_sent hsent
  · exact flush_of_full hfull

/-- What the client takes is the oldest item in the buffer. -/
theorem pop?_eq_some_iff {item : Except Status β} :
    feed.pop? = some (item, left) ↔
      ∃ rest, feed.buffer = item :: rest ∧ left = { feed with buffer := rest } := by
  unfold pop?
  cases feed.buffer with
  | nil =>
      simp
  | cons first rest =>
      simp only [Option.some.injEq, Prod.mk.injEq, List.cons.injEq]
      constructor
      · rintro ⟨rfl, rfl⟩
        exact ⟨rest, ⟨rfl, rfl⟩, rfl⟩
      · rintro ⟨_, ⟨rfl, rfl⟩, rfl⟩
        exact ⟨rfl, rfl⟩

/-! ## Ticks -/

theorem tick_of_tick (hticker : feed.ticker = none) (hstage : feed.stage = .tick) (now : Nat) :
    feed.tick now = { feed with stage := .value } := by
  simp only [tick, hticker, hstage]

theorem tick_of_value (hstage : feed.stage = .value) (now : Nat) : feed.tick now = feed := by
  simp only [tick, hstage]

/-- A tick is taken, or nothing happens. -/
theorem tick_cases (feed : Feed σ β) (now : Nat) :
    feed.tick now = feed ∨
      (feed.stage = .tick ∧ ∃ ticker, feed.tick now = { feed with stage := .value, ticker }) := by
  unfold tick
  split
  · exact .inr ⟨‹_›, feed.ticker, rfl⟩
  · split
    · exact .inr ⟨‹_›, _, rfl⟩
    · exact .inl rfl
  · exact .inl rfl

/-- One tick is taken at most. -/
theorem tick_tick (feed : Feed σ β) (now : Nat) : (feed.tick now).tick now = feed.tick now := by
  rcases tick_cases feed now with hsame | ⟨-, ticker, hticked⟩
  · rw [hsame, hsame]
  · rw [hticked, tick_of_value rfl]

theorem seen_tick (feed : Feed σ β) (now : Nat) : (feed.tick now).seen = feed.seen := by
  rcases tick_cases feed now with hsame | ⟨-, ticker, hticked⟩
  · rw [hsame]
  · rw [hticked]

theorem unsent_tick (feed : Feed σ β) (now : Nat) : (feed.tick now).unsent = feed.unsent := by
  rcases tick_cases feed now with hsame | ⟨-, ticker, hticked⟩
  · rw [hsame]
  · rw [hticked]

/-! ## Rounds -/

theorem seen_accept (make : Maker σ α β) (feed : Feed σ β) (now generation : Nat) (value : α) :
    (feed.accept make now generation value).seen = generation := by
  unfold accept
  split <;> rfl

theorem advance_flush (feed : Feed σ β) :
    feed.flush.advance make source now = feed.advance make source now := by
  unfold advance
  rw [flush_flush]

theorem advance_of_sent (hsent : feed.unsent = []) :
    feed.advance make source now = (takeValue make source (feed.tick now) now).flush := by
  simp [advance, flush_of_sent hsent, hsent]

/-- Whether the tick has been taken already is all the same to a round. -/
theorem advance_tick (hsent : feed.unsent = []) :
    (feed.tick now).advance make source now = feed.advance make source now := by
  have hticked : (feed.tick now).unsent = [] := (unsent_tick feed now).trans hsent
  rw [advance_of_sent hticked, advance_of_sent hsent, tick_tick]

theorem takeValue_of_none (hpoll : source.poll feed.seen = none) :
    takeValue make source feed now = feed := by
  unfold takeValue
  rw [hpoll]
  cases feed.stage <;> rfl

theorem advance_of_value {value : α} (hstage : feed.stage = .value) (hsent : feed.unsent = [])
    (hpoll : source.poll feed.seen = some (.ok value)) :
    feed.advance make source now = (feed.accept make now source.generation value).flush := by
  rw [advance_of_sent hsent, tick_of_value hstage]
  simp only [takeValue, hstage, hpoll]

/-- A round that finds no tick and no value changes nothing. -/
theorem advance_of_idle (hsent : feed.unsent = []) (hticked : feed.tick now = feed)
    (hnothing : takeValue make source feed now = feed) : feed.advance make source now = feed := by
  rw [advance_of_sent hsent, hticked, hnothing, flush_of_sent hsent]

theorem advance_of_full (hunsent : feed.unsent ≠ []) (hfull : capacity ≤ feed.buffer.length) :
    feed.advance make source now = feed := by
  simp [advance, flush_of_full hfull, hunsent]

theorem advance_of_ended (hended : feed.stage = .ended) (hsent : feed.unsent = []) :
    feed.advance make source now = feed := by
  apply advance_of_idle hsent
  · simp only [tick, hended]
  · simp only [takeValue, hended]

/-- A closing ends the feed. -/
theorem advance_of_closed {reason : WaitError} (hstage : feed.stage = .value)
    (hsent : feed.unsent = []) (hpoll : source.poll feed.seen = some (.error reason)) :
    feed.advance make source now = { feed with stage := .ended } := by
  rw [advance_of_sent hsent, tick_of_value hstage]
  simp only [takeValue, hstage, hpoll]
  exact flush_of_sent hsent

/-- A feed that has nothing new to take is settled after one round. -/
theorem advance_advance (hpoll : source.poll feed.seen = none) :
    (feed.advance make source now).advance make source now = feed.advance make source now := by
  by_cases hsent : feed.flush.unsent = []
  · have hnothing : source.poll (feed.flush.tick now).seen = none := by
      rw [seen_tick]
      exact hpoll
    have hticked : (feed.flush.tick now).unsent = [] := (unsent_tick _ now).trans hsent
    have hround : feed.advance make source now = feed.flush.tick now := by
      rw [← advance_flush, advance_of_sent hsent, takeValue_of_none hnothing, flush_of_sent hticked]
    rw [hround, advance_of_sent hticked, tick_tick, takeValue_of_none hnothing,
      flush_of_sent hticked]
  · have hround : feed.advance make source now = feed.flush := by
      simp [advance, hsent]
    rw [hround, advance_flush]
    exact hround

/-! ## What is settled -/

theorem settle_of_advance (hround : feed.advance make source now = feed) :
    feed.settle make source now = feed := by
  rw [settle, hround, hround]

theorem settle_flush (feed : Feed σ β) :
    feed.flush.settle make source now = feed.settle make source now := by
  rw [settle, settle, advance_flush]

theorem settle_tick (hsent : feed.unsent = []) :
    (feed.tick now).settle make source now = feed.settle make source now := by
  rw [settle, settle, advance_tick hsent]

/-- Once the value is taken, there is nothing new, and a round more changes nothing. -/
theorem settle_accept {value : α} (hstage : feed.stage = .value) (hsent : feed.unsent = [])
    (hpoll : source.poll feed.seen = some (.ok value)) :
    (feed.accept make now source.generation value).settle make source now =
      feed.settle make source now := by
  have hnothing : source.poll (feed.accept make now source.generation value).seen = none := by
    rw [seen_accept]
    exact source.poll_generation hpoll
  rw [settle, settle, advance_of_value hstage hsent hpoll, advance_flush]
  exact advance_advance hnothing

theorem settle_of_closed {reason : WaitError} (hstage : feed.stage = .value)
    (hsent : feed.unsent = []) (hpoll : source.poll feed.seen = some (.error reason)) :
    ({ feed with stage := .ended } : Feed σ β).settle make source now =
      feed.settle make source now := by
  have hended : ({ feed with stage := .ended } : Feed σ β).advance make source now =
      { feed with stage := .ended } := advance_of_ended rfl hsent
  rw [settle, settle, advance_of_closed hstage hsent hpoll, hended]
  exact hended

end EmulatorHost.Agent.Feed

namespace EmulatorHost.Agent

/-- A move that always leaves less to do is not possible any more after enough of them, and what
each of them keeps still holds then. -/
theorem exists_stuck {σ μ : Type} {step : σ → μ → Option σ} {move : μ} (Keeps : σ → Prop)
    (toGo : σ → Nat)
    (hstep : ∀ state next, Keeps state → step state move = some next →
      Keeps next ∧ toGo next < toGo state)
    {state : σ} (hkeeps : Keeps state) :
    ∃ count,
      let rested := (List.replicate count move).foldl
        (fun state move => (step state move).getD state) state
      step rested move = none ∧ Keeps rested := by
  induction hleft : toGo state using Nat.strongRecOn generalizing state with
  | ind left ih =>
      cases hnext : step state move with
      | none =>
          exact ⟨0, hnext, hkeeps⟩
      | some next =>
          rcases hstep state next hkeeps hnext with ⟨hstill, hless⟩
          rcases ih _ (hleft ▸ hless) hstill rfl with ⟨count, hrested⟩
          refine ⟨count + 1, ?_⟩
          rw [List.replicate_succ, List.foldl_cons, hnext]
          exact hrested

end EmulatorHost.Agent
