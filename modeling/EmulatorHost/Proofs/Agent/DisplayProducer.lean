import EmulatorHost.Proofs.Agent.DisplayStream
import EmulatorHost.Proofs.Agent.StateStream

/-!
# The producer of a display left to itself

What settling makes of a client's feed in one go is what its producer comes to by steps of its own
while nothing else happens: each of them leaves the feed with the same to be settled, and where none
is possible the feed is settled already. There are only so many of them (`DisplayStream.toSettle`).
-/

namespace EmulatorHost.Agent.DisplayStream

open Broadcast Display
open StateStream (stepsToPark)

variable {σ : Type} {client : Nat} {processor : Processor σ} {stream next : DisplayStream σ}

/-! ## What the producer leaves -/

/-- A step of the producer's waits changes nothing that is shared. -/
theorem shared_of_wait {step : Step (Option Frame)}
    (hnext : stream.hub.onward? client = some step) :
    (stream.wait client step).hub.slot = stream.hub.slot ∧
      (stream.wait client step).hub.unnotified = stream.hub.unnotified := by
  have hquiet := Step.isQuiet_of_listener (Hub.onward?_cases hnext).1
  rw [hub, steps_wait]
  exact ⟨hquiet.slot_eq stream.steps, hquiet.unnotified_eq stream.steps⟩

theorem clock_wait (step : Step (Option Frame)) :
    (stream.wait client step).clock = stream.clock := by
  unfold wait
  rcases stream.hub.endAt client step with _ | ⟨generation, reason | frame⟩ <;> rfl

theorem shared_of_produce (hproduce : stream.produce client = some next) :
    next.hub.slot = stream.hub.slot ∧ next.hub.unnotified = stream.hub.unnotified ∧
      next.clock = stream.clock := by
  rcases produce_cases hproduce with ⟨-, -, -, rfl⟩ | ⟨-, -, step, hnext, rfl⟩ | ⟨-, -, rfl⟩
  · exact ⟨rfl, rfl, rfl⟩
  · exact ⟨(shared_of_wait hnext).1, (shared_of_wait hnext).2, clock_wait step⟩
  · exact ⟨rfl, rfl, rfl⟩

/-- A step of the producer's waits leaves the same to be settled. -/
theorem settle_wait (h : Delivering client processor stream) {step : Step (Option Frame)}
    (hnext : stream.hub.onward? client = some step) (hstage : stream.feed.stage = .value) :
    (stream.wait client step).feed.settle displayItems stream.hub.slot stream.clock =
      stream.feed.settle displayItems stream.hub.slot stream.clock := by
  have hsent := h.sent hstage
  have hprogress := Hub.progress_of_onward? hnext
  have hseen := h.seen_eq
  rw [Hub.seen_eq] at hseen
  unfold wait Hub.endAt
  rw [Hub.seen_eq]
  generalize stream.hub.state client = before at hprogress hseen
  generalize (stream.hub.attempt step).1.state client = moved at hprogress ⊢
  generalize stream.hub.outcomeFor client step = outcome at hprogress ⊢
  cases hprogress with
  | enters | registers | findsNothing | wakes | parks =>
      rfl
  | finds seen notified outcome hpoll =>
      dsimp only at hseen
      rw [← hseen] at hpoll
      cases outcome with
      | error reason =>
          exact Feed.settle_of_closed hstage hsent hpoll
      | ok frame =>
          exact Feed.settle_accept hstage hsent hpoll

theorem settle_produce (h : Delivering client processor stream)
    (hproduce : stream.produce client = some next) :
    next.feed.settle displayItems stream.hub.slot stream.clock =
      stream.feed.settle displayItems stream.hub.slot stream.clock := by
  rcases produce_cases hproduce with
    ⟨hsent, -, -, rfl⟩ | ⟨-, hstage, step, hnext, rfl⟩ | ⟨-, -, rfl⟩
  · exact Feed.settle_tick hsent
  · exact settle_wait h hnext hstage
  · exact Feed.settle_flush stream.feed

/-- Where the producer can do nothing while no caller is yet to notify, its feed is settled. -/
theorem settle_of_stuck (h : Delivering client processor stream)
    (hnotified : stream.hub.unnotified = 0) (hstuck : stream.produce client = none) :
    stream.feed.settle displayItems stream.hub.slot stream.clock = stream.feed := by
  apply Feed.settle_of_advance
  unfold produce at hstuck
  split at hstuck
  · rename_i hempty
    have hsent := List.isEmpty_iff.mp hempty
    split at hstuck
    · rename_i hstage
      dsimp only at hstuck
      split at hstuck
      · cases hstuck
      · rename_i hwaits
        apply Feed.advance_of_idle hsent
        · rcases Feed.tick_cases stream.feed stream.clock with hsame | ⟨-, ticker, hticked⟩
          · exact hsame
          · rw [hticked] at hwaits
            exact absurd rfl hwaits
        · simp only [Feed.takeValue, hstage]
    · rename_i hstage
      have hparked := Hub.parked_of_onward?_eq_none h.there (Option.map_eq_none_iff.mp hstuck)
      have hnothing : stream.hub.slot.poll stream.feed.seen = none := by
        rcases Hub.no_wakeup_lost stream.steps hnotified client hparked with ⟨hcaughtUp, hopen⟩
        rw [h.seen_eq]
        unfold Broadcaster.poll
        rw [hub, hopen, if_neg Bool.false_ne_true, if_neg (Nat.not_lt.mpr hcaughtUp)]
      exact Feed.advance_of_idle hsent (Feed.tick_of_value hstage _)
        (Feed.takeValue_of_none hnothing)
    · exact Feed.advance_of_ended ‹_› hsent
  · rename_i hunsent
    split at hstuck
    · cases hstuck
    · rename_i hfull
      exact Feed.advance_of_full (mt List.isEmpty_iff.mpr hunsent) (Nat.le_of_not_lt hfull)

/-! ## How long it goes on -/

/-- What a wait has to do. A frame that there is to take keeps the producer busy until its next
wait. -/
def waitToGo (slot : Broadcaster (Option Frame)) (state : Listener) : Nat :=
  (if slot.poll state.seen = none then 0 else 8) + stepsToPark state.phase

/-- What a feed has to do, where its wait has as much to do. -/
def feedToGo (waits : Nat) (feed : Feed (Processor σ) Packet) : Nat :=
  (if feed.unsent = [] ∨ Feed.capacity ≤ feed.buffer.length then 0 else 1) +
    match feed.stage with
    | .tick => waits + 1
    | .value => waits
    | .ended => 0

/-- A bound on the steps that the producer takes at a time while nothing else happens. -/
def toSettle (client : Nat) (stream : DisplayStream σ) : Nat :=
  feedToGo (waitToGo stream.hub.slot (stream.hub.state client)) stream.feed

theorem feedToGo_le (waits : Nat) (feed : Feed (Processor σ) Packet) :
    feedToGo waits feed ≤ waits + 2 := by
  unfold feedToGo
  split <;> split <;> omega

theorem feedToGo_of_value {waits : Nat} {feed : Feed (Processor σ) Packet}
    (hstage : feed.stage = .value) (hsent : feed.unsent = []) : feedToGo waits feed = waits := by
  simp [feedToGo, hstage, hsent]

theorem feedToGo_flush (waits : Nat) {feed : Feed (Processor σ) Packet} (hunsent : feed.unsent ≠ [])
    (hroom : feed.buffer.length < Feed.capacity) :
    feedToGo waits feed.flush < feedToGo waits feed := by
  have hflushed := Feed.sent_or_full_flush feed
  have htoSend : ¬ (feed.unsent = [] ∨ Feed.capacity ≤ feed.buffer.length) := by
    rintro (hsent | hfull)
    · exact hunsent hsent
    · exact absurd hroom (Nat.not_lt.mpr hfull)
  unfold feedToGo
  rw [if_pos hflushed, if_neg htoSend]
  exact Nat.add_lt_add_right Nat.zero_lt_one _

/-- A step of the producer's waits brings it closer to being parked, also if it takes a frame. -/
theorem toSettle_wait (h : Delivering client processor stream) {step : Step (Option Frame)}
    (hnext : stream.hub.onward? client = some step) (hstage : stream.feed.stage = .value) :
    (stream.wait client step).toSettle client < stream.toSettle client := by
  have hsent := h.sent hstage
  have hprogress := Hub.progress_of_onward? hnext
  have hmoved : (stream.wait client step).hub.state client =
      (stream.hub.attempt step).1.state client := by
    rw [hub, steps_wait, Hub.after_concat]
    rfl
  unfold toSettle
  rw [(shared_of_wait hnext).1, hmoved, feedToGo_of_value hstage hsent]
  unfold wait Hub.endAt
  generalize stream.hub.state client = before at hprogress ⊢
  generalize (stream.hub.attempt step).1.state client = moved at hprogress ⊢
  generalize stream.hub.outcomeFor client step = outcome at hprogress ⊢
  cases hprogress with
  | enters | registers | wakes | parks =>
      change feedToGo _ stream.feed < _
      rw [feedToGo_of_value hstage hsent]
      simp [waitToGo, stepsToPark]
  | findsNothing seen notified hpoll =>
      change feedToGo _ stream.feed < _
      rw [feedToGo_of_value hstage hsent]
      cases notified <;> simp [waitToGo, stepsToPark]
  | finds seen notified outcome hpoll =>
      have hbusy : 8 ≤ waitToGo stream.hub.slot ⟨seen, .registered notified⟩ := by
        simp [waitToGo, hpoll]
      apply Nat.lt_of_lt_of_le _ hbusy
      cases outcome with
      | error reason =>
          change feedToGo _ { stream.feed with stage := .ended } < 8
          simp [feedToGo, hsent]
      | ok frame =>
          -- Nothing is new after it, so that its packets and a wait that parks are left.
          apply Nat.lt_of_le_of_lt (feedToGo_le _ _)
          simp [waitToGo, stepsToPark, Broadcaster.seenAfter, stream.hub.slot.poll_generation hpoll]

theorem toSettle_produce (h : Delivering client processor stream)
    (hproduce : stream.produce client = some next) :
    next.toSettle client < stream.toSettle client := by
  rcases produce_cases hproduce with
    ⟨hsent, hstage, hticked, rfl⟩ | ⟨-, hstage, step, hnext, rfl⟩ | ⟨hunsent, hroom, rfl⟩
  · have hstill := (Feed.unsent_tick stream.feed stream.clock).trans hsent
    unfold toSettle
    rw [feedToGo_of_value hticked hstill]
    simp [feedToGo, hstage, hsent, hub]
  · exact toSettle_wait h hnext hstage
  · exact feedToGo_flush _ hunsent hroom

/-! ## What it comes to -/

/-- The producer is on its way from a start to what its feed is to be settled to, and no caller is
yet to notify. -/
structure Settling (client : Nat) (processor : Processor σ) (start stream : DisplayStream σ) :
    Prop where
  delivering : Delivering client processor stream
  notified : stream.hub.unnotified = 0
  settle_eq : stream.feed.settle displayItems stream.hub.slot stream.clock =
    start.feed.settle displayItems start.hub.slot start.clock

theorem Settling.produce {start : DisplayStream σ} (h : Settling client processor start stream)
    (hproduce : stream.step client .produce = some next) :
    Settling client processor start next := by
  rcases shared_of_produce hproduce with ⟨hslot, hunnotified, hclock⟩
  refine ⟨h.delivering.step hproduce, hunnotified.trans h.notified, ?_⟩
  rw [hslot, hclock]
  exact (settle_produce h.delivering hproduce).trans h.settle_eq

theorem exists_settled (h : Delivering client processor stream)
    (hnotified : stream.hub.unnotified = 0) :
    ∃ count,
      let rested := stream.run client (List.replicate count .produce)
      rested.step client .produce = none ∧
        rested.feed = stream.feed.settle displayItems stream.hub.slot stream.clock := by
  have hproduces (reached next : DisplayStream σ)
      (hreached : Settling client processor stream reached)
      (hproduce : reached.step client .produce = some next) :
      Settling client processor stream next ∧ next.toSettle client < reached.toSettle client :=
    ⟨hreached.produce hproduce, toSettle_produce hreached.delivering hproduce⟩
  have hstart : Settling client processor stream stream := ⟨h, hnotified, rfl⟩
  rcases exists_stuck (Settling client processor stream) (toSettle client) hproduces hstart with
    ⟨count, hstuck, hrested⟩
  have hsettled := settle_of_stuck hrested.delivering hrested.notified hstuck
  exact ⟨count, hstuck, hsettled.symm.trans hrested.settle_eq⟩

/-- While no caller is yet to notify, no time passes and the client takes nothing, the producer
comes to rest by steps of its own, and its feed is then what settling it in one go makes of it. -/
theorem producer_settles (before : List (Step (Option Frame))) (processor : Processor σ)
    (rate clock : Nat) (moves : List Move) :
    let client := (Hub.after before).listeners.length
    let stream := (opened before processor rate clock).run client moves
    stream.hub.unnotified = 0 →
    ∃ count,
      let rested := stream.run client (List.replicate count .produce)
      rested.step client .produce = none ∧
        rested.feed = stream.feed.settle displayItems stream.hub.slot stream.clock := by
  intro client stream hnotified
  exact exists_settled ((delivering_opened before processor rate clock).run moves) hnotified

end EmulatorHost.Agent.DisplayStream
