import EmulatorHost.Proofs.Agent.StateStream

/-!
# The producer left to itself

A feed can be settled in one go, from the states as the control plane holds them. This is what its
producer comes to by steps of its own while nothing else happens: each of them leaves the feed with
the same to be settled, and where none is possible the feed is settled already.
-/

namespace EmulatorHost.Agent

open ControlPlane Broadcast

namespace StateStream

variable {client : Nat} {stream next : StateStream}

/-- While no step of the control plane is in progress, its broadcaster is as it says itself. -/
theorem slot_eq (h : Following client stream) (hdone : stream.publishing = .done) :
    stream.hub.slot = stream.course.plane.states := by
  have hplane : stream.course.plane.Consistent := (Course.after_consistent stream.events).plane
  have hlength : (Course.published stream.events).length = stream.course.plane.states.generation :=
    Course.length_published stream.events
  have hlast : (Course.published stream.events).getLast? = stream.course.plane.states.value :=
    (Course.getLast?_published stream.events).trans hplane.published.symm
  rw [hub, Hub.slot_after, h.stored_of_done hdone, h.isOpen, hlength, hlast, ← hplane.statesOpen]

/-- The producer leaves the control plane alone. -/
theorem controlPlane_of_produce (hproduce : stream.produce client = some next) :
    next.publishing = stream.publishing ∧ next.events = stream.events := by
  unfold produce at hproduce
  split at hproduce
  · rcases Option.map_eq_some_iff.mp hproduce with ⟨step, -, rfl⟩
    exact ⟨rfl, rfl⟩
  · split at hproduce
    · cases hproduce
      exact ⟨rfl, rfl⟩
    · cases hproduce

/-- A step of the producer leaves the same to be settled. -/
theorem settle_produce (h : Following client stream) (hdone : stream.publishing = .done)
    (hproduce : stream.produce client = some next) (now : Nat) :
    next.feed.settle stateItems stream.course.plane.states now =
      stream.feed.settle stateItems stream.course.plane.states now := by
  have hslot := slot_eq h hdone
  have hopen : stream.course.plane.states.isClosed = false :=
    (Course.after_consistent stream.events).plane.statesOpen
  have hstage := h.stage_eq
  have hseen := h.seen_eq
  unfold produce at hproduce
  split at hproduce
  · rename_i hempty
    have hsent := List.isEmpty_iff.mp hempty
    cases hwait : stream.wait? client with
    | none =>
        simp [hwait] at hproduce
    | some step =>
        rw [hwait] at hproduce
        cases hproduce
        rcases exists_advance h.isOpen hwait with ⟨report, hadvance, hends⟩
        dsimp only
        rw [hends]
        generalize stream.hub.state client = before at hadvance hstage hseen
        generalize (Hub.after (stream.steps ++ [step])).state client = moved at hadvance
        cases hadvance with
        | enters =>
            -- The wait begins with the tick that settling begins with, whatever the time.
            rw [Feed.tick_of_tick h.ticker_eq hstage 0,
              ← Feed.tick_of_tick h.ticker_eq hstage now]
            exact Feed.settle_tick hsent
        | registers | findsNothing | wakes | parks =>
            rw [Feed.tick_of_value hstage]
            rfl
        | finds seen notified report hnew hvalue =>
            rw [Feed.tick_of_value hstage]
            rw [hslot] at hnew hvalue ⊢
            have hpoll : stream.course.plane.states.poll stream.feed.seen = some (.ok report) := by
              simp [Broadcaster.poll, hopen, hseen, hnew, hvalue]
            exact Feed.settle_accept hstage hsent hpoll
  · split at hproduce
    · cases hproduce
      exact Feed.settle_flush stream.feed
    · cases hproduce

/-- Where the producer can do nothing, its feed is settled. -/
theorem settle_of_stuck (h : Following client stream) (hdone : stream.publishing = .done)
    (hthere : stream.hub.phase client ≠ .dropped) (hstuck : stream.produce client = none)
    (now : Nat) :
    stream.feed.settle stateItems stream.course.plane.states now = stream.feed := by
  have hopen : stream.course.plane.states.isClosed = false :=
    (Course.after_consistent stream.events).plane.statesOpen
  apply Feed.settle_of_advance
  unfold produce at hstuck
  split at hstuck
  · rename_i hempty
    have hsent := List.isEmpty_iff.mp hempty
    have hparked := parked_of_wait?_eq_none h hthere (Option.map_eq_none_iff.mp hstuck)
    have hstage : stream.feed.stage = .value := by
      rw [h.stage_eq, ← Hub.phase_eq, hparked]
      rfl
    have hcaughtUp := h.generation_le_seen hdone hparked
    rw [slot_eq h hdone, Hub.seen_eq, ← h.seen_eq] at hcaughtUp
    have hnothing : stream.course.plane.states.poll stream.feed.seen = none := by
      simp [Broadcaster.poll, hopen, Nat.not_lt.mpr hcaughtUp]
    exact Feed.advance_of_idle hsent (Feed.tick_of_value hstage now)
      (Feed.takeValue_of_none hnothing)
  · rename_i hunsent
    split at hstuck
    · cases hstuck
    · rename_i hfull
      exact Feed.advance_of_full (mt List.isEmpty_iff.mpr hunsent) (Nat.le_of_not_lt hfull)

/-- The producer is on its way from a start to what its feed is to be settled to, and no step of the
control plane is in progress. -/
structure Settling (client now : Nat) (start stream : StateStream) : Prop where
  following : Following client stream
  done : stream.publishing = .done
  there : stream.hub.phase client ≠ .dropped
  settle_eq : stream.feed.settle stateItems stream.course.plane.states now =
    start.feed.settle stateItems start.course.plane.states now

theorem Settling.produce {now : Nat} {start : StateStream} (h : Settling client now start stream)
    (hproduce : stream.step client .produce = some next) : Settling client now start next := by
  rcases controlPlane_of_produce hproduce with ⟨hpublishing, hevents⟩
  have hnext : stream.attempt client .produce = next := by
    rw [attempt, hproduce]
    rfl
  refine ⟨h.following.step hproduce, hpublishing.trans h.done, ?_, ?_⟩
  · exact hnext ▸ phase_attempt h.there .produce
  · rw [course, hevents]
    exact (settle_produce h.following h.done hproduce now).trans h.settle_eq

theorem exists_settled (now : Nat) (h : Following client stream)
    (hdone : stream.publishing = .done) (hthere : stream.hub.phase client ≠ .dropped) :
    ∃ count,
      let rested := stream.run client (List.replicate count .produce)
      rested.step client .produce = none ∧
        rested.feed = stream.feed.settle stateItems stream.course.plane.states now := by
  have hproduces (reached next : StateStream) (hreached : Settling client now stream reached)
      (hproduce : reached.step client .produce = some next) :
      Settling client now stream next ∧ next.toGo client < reached.toGo client :=
    ⟨hreached.produce hproduce, toGo_produce hreached.following hproduce⟩
  have hstart : Settling client now stream stream := ⟨h, hdone, hthere, rfl⟩
  rcases exists_stuck (Settling client now stream) (toGo client) hproduces hstart with
    ⟨count, hstuck, hrested⟩
  have hsettled := settle_of_stuck hrested.following hrested.done hrested.there hstuck now
  exact ⟨count, hstuck, hsettled.symm.trans hrested.settle_eq⟩

/-- While no step of the control plane is in progress and the client takes nothing, the producer
comes to rest by steps of its own, and its feed is then what settling it in one go makes of it. -/
theorem settles_by_itself (client : Nat) (moves : List Move) (now : Nat) :
    let stream := after client moves
    stream.publishing = .done → stream.hub.phase client ≠ .dropped →
    ∃ count,
      let rested := stream.run client (List.replicate count .produce)
      rested.step client .produce = none ∧
        rested.feed = stream.feed.settle stateItems stream.course.plane.states now := by
  intro stream hdone hthere
  exact exists_settled now (following_after client moves) hdone hthere

end StateStream

end EmulatorHost.Agent
