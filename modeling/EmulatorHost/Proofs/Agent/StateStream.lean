import EmulatorHost.Proofs.Agent.Following

/-!
# What a client is told of the states

A client that follows the states of a control plane may miss some of them, but never the last one.
What it has taken are published states, in order and each at most once, from the one on that was
current when it began to follow. When the control plane is at rest and everything is sent and taken,
the last of them is the present one; and if the control plane stays at rest, it comes to that after
finitely many moves (`StateStream.toGo`), whatever other clients do.
-/

namespace EmulatorHost

open ControlPlane Broadcast

/-- The state published as a generation, which are counted from 1 on. -/
def ControlPlane.Course.publishedAs (events : List Event) : Nat → Option Report
  | 0 => none
  | generation + 1 => (published events)[generation]?

namespace Agent.StateStream

variable {client : Nat} {stream next : StateStream} {move : Move}

/-! ## What is delivered -/

namespace Following

theorem received_eq (h : Following client stream) :
    stream.received = (stream.delivered client).map fun item => .ok item.2 := by
  have htold := h.told
  calc
    stream.received
        = (stream.received ++ (stream.feed.buffer ++ stream.feed.unsent)).take
            stream.received.length := List.take_left.symm
    _ = ((got client stream.steps).map fun item => .ok item.2).take stream.received.length := by
        rw [htold]
    _ = (stream.delivered client).map fun item => .ok item.2 := List.map_take.symm

theorem publishedAs_of_storedAs (h : Following client stream) {generation : Nat} {report : Report}
    (hstored : storedAs stream.steps generation = some report) :
    Course.publishedAs stream.events generation = some report := by
  cases generation with
  | zero =>
      cases hstored
  | succ before =>
      have hthere : (stored stream.steps)[before]? = some report := hstored
      have hlt := (List.getElem?_eq_some_iff.mp hthere).1
      have hprefix : (Course.published stream.events)[before]? = (stored stream.steps)[before]? := by
        rw [← h.stored_eq, List.getElem?_append_left hlt]
      exact hprefix.trans hthere

theorem unnotified_of_done (h : Following client stream) (hdone : stream.publishing = .done) :
    stream.hub.unnotified = 0 := by
  rw [h.unnotified_eq, hdone]
  rfl

theorem generation_le_seen (h : Following client stream) (hdone : stream.publishing = .done)
    (hparked : stream.hub.phase client = .parked) :
    stream.hub.slot.generation ≤ stream.hub.seen client :=
  (Hub.caughtUp_of_isAsleep (h.unnotified_of_done hdone) (Or.inl hparked)).1

/-- A producer that is parked while nobody is yet to notify has got the last state. -/
theorem getLast?_got (h : Following client stream) (hdone : stream.publishing = .done)
    (hparked : stream.hub.phase client = .parked) :
    (got client stream.steps).getLast? =
      some (stream.course.plane.states.generation, stream.course.plane.report) := by
  have hstored := h.stored_of_done hdone
  have hlast := Hub.getLast?_got_of_parked (h.unnotified_of_done hdone) hparked
  have hgeneration : (Course.published stream.events).length = stream.course.plane.states.generation :=
    Course.length_published stream.events
  have hreport : (Course.published stream.events).getLast? = some stream.course.plane.report :=
    Course.getLast?_published stream.events
  rw [Hub.slot_after, hstored, hgeneration, hreport] at hlast
  exact hlast

/-- When the control plane and the producer are at rest, and the client has taken everything, it has
been told the present state last. -/
theorem getLast?_delivered (h : Following client stream) (hdone : stream.publishing = .done)
    (hparked : stream.hub.phase client = .parked) (hunsent : stream.feed.unsent = [])
    (hbuffer : stream.feed.buffer = []) :
    (stream.delivered client).getLast? =
      some (stream.course.plane.states.generation, stream.course.plane.report) := by
  have htold := congrArg List.length h.told
  rw [hunsent, hbuffer, List.length_map, List.append_nil, List.append_nil] at htold
  have hall : stream.delivered client = got client stream.steps := List.take_of_length_le (by omega)
  rw [hall]
  exact h.getLast?_got hdone hparked

end Following

/-! ## When the client began to follow -/

/-- A move is at most one step of the broadcaster, and it is not the end of the client's listener. -/
theorem steps_attempt (client : Nat) (stream : StateStream) (move : Move) :
    (stream.attempt client move).steps = stream.steps ∨
      ∃ step, (stream.attempt client move).steps = stream.steps ++ [step] ∧ step ≠ .drop client := by
  unfold attempt
  cases move with
  | begin event =>
      simp only [step]
      split <;> exact .inl rfl
  | publish =>
      simp only [step]
      split
      · exact .inl rfl
      · exact .inr ⟨_, rfl, by simp⟩
      · exact .inr ⟨_, rfl, by simp⟩
  | produce =>
      simp only [step, produce]
      split
      · cases hwait : stream.wait? client with
        | none =>
            exact .inl rfl
        | some step =>
            have hstays := (wait?_cases hwait).2.2
            exact .inr ⟨step, rfl, fun hdrop => hstays (.inr (.inr hdrop))⟩
      · split <;> exact .inl rfl
  | take =>
      simp only [step]
      cases stream.feed.pop? <;> exact .inl rfl
  | other step =>
      simp only [StateStream.step]
      split
      · rename_i hforeign
        refine .inr ⟨step, rfl, ?_⟩
        rintro rfl
        exact listener?_of_isForeign hforeign rfl
      · exact .inl rfl

theorem steps_run (client : Nat) (stream : StateStream) (moves : List Move) :
    stream.steps <+: (stream.run client moves).steps := by
  induction moves generalizing stream with
  | nil =>
      exact List.prefix_rfl
  | cons move rest ih =>
      refine List.IsPrefix.trans ?_ (ih (stream.attempt client move))
      rcases steps_attempt client stream move with hsame | ⟨step, hmore, -⟩
      · exact hsame ▸ List.prefix_rfl
      · rw [hmore]
        exact List.prefix_append _ _

/-- What was current before the client began to follow is not newer than anything delivered. -/
theorem generation_le_of_mem_delivered {earlier moves : List Move} (hearlier : earlier <+: moves)
    (hunmade : (after client earlier).hub.phase client = .dropped) :
    ∀ item ∈ (after client moves).delivered client,
      (after client earlier).hub.slot.generation ≤ item.1 := by
  intro item hitem
  -- Everything that the client has got came after it had begun to follow.
  have hnone := (following_after client earlier).unmade hunmade
  have hsteps : (after client earlier).steps <+: (after client moves).steps := by
    rcases hearlier with ⟨later, rfl⟩
    have hrun : after client (earlier ++ later) = (after client earlier).run client later :=
      List.foldl_append
    rw [hrun]
    exact steps_run client _ later
  rcases hsteps with ⟨later, hlater⟩
  rcases Hub.got_append client (after client earlier).steps later with ⟨new, hgot, hnew⟩
  rw [hlater, hnone, List.nil_append] at hgot
  have hmember : item ∈ new := hgot ▸ List.mem_of_mem_take hitem
  rw [hub, Hub.generation_after]
  exact hnew item hmember

/-! ## How much there is to do -/

/-- A listener that has been made is not taken away. -/
theorem phase_attempt (hthere : stream.hub.phase client ≠ .dropped) (move : Move) :
    (stream.attempt client move).hub.phase client ≠ .dropped := by
  intro hdropped
  rcases steps_attempt client stream move with hsame | ⟨step, hmore, hdrop⟩
  · rw [hub, hsame] at hdropped
    exact hthere hdropped
  · rw [hub, hmore] at hdropped
    exact hthere (Hub.got_of_dropped hdrop hdropped).1

/-- The moves on the way to rest: the control plane ends its step, the producer goes on, and the
client takes what is sent. -/
def Move.isOnward : Move → Bool
  | publish | produce | take => true
  | begin _ | other _ => false

/-- The most steps that a listener takes from a phase until it is parked, if there is nothing for it
and no notification comes. -/
def stepsToPark : Broadcast.Phase → Nat
  | .idle => 4
  | .entering => 3
  | .registered false => 2
  | .checked false => 1
  | .parked | .dropped => 0
  -- Once notified, it begins another round instead of parking.
  | .registered true => 5
  | .checked true => 4

/-- What a listener has to do. A value that there is for it keeps it, and the producer and the client
after it, busy for one more round. -/
def listenerToGo (slot : Broadcaster Report) (state : Listener) : Nat :=
  (if state.seen < slot.generation then 5 else 0) + stepsToPark state.phase

/-- What storing and notifying give everybody to do. -/
def publishingToGo : Publishing → Nat
  | .done => 0
  -- A notification sends a listener that is about to park, or parked, through three steps more.
  | .toNotify => 4
  -- A value keeps everybody busy for five, and its notification comes after it.
  | .toStore _ => 10

def toGo (client : Nat) (stream : StateStream) : Nat :=
  publishingToGo stream.publishing + listenerToGo stream.hub.slot (stream.hub.state client) +
    2 * stream.feed.unsent.length + stream.feed.buffer.length

theorem stepsToPark_notify (phase : Broadcast.Phase) :
    stepsToPark phase.notify ≤ stepsToPark phase + 3 := by
  rcases phase with _ | _ | (_ | _) | (_ | _) | _ | _ <;> decide

/-- A step of the producer's wait brings its listener closer to being parked, also if it gets a value
that is then sent and taken. -/
theorem listenerToGo_advance {slot : Broadcaster Report} {before moved : Listener}
    {report : Option Report} (hadvance : Advance slot before moved report) :
    listenerToGo slot moved + 2 * report.toList.length < listenerToGo slot before := by
  cases hadvance with
  | enters | registers | wakes | parks =>
      simp [listenerToGo, stepsToPark]
  | findsNothing seen notified hpoll =>
      cases notified <;> simp [listenerToGo, stepsToPark]
  | finds seen notified report hnew hvalue =>
      -- The value is paid for by its being no longer new.
      cases notified <;> simp [listenerToGo, stepsToPark, hnew]

/-- What the control plane still has to publish includes all that this gives a listener to do. -/
theorem listenerToGo_store (slot : Broadcaster Report) (report : Report) (state : Listener) :
    listenerToGo (slot.broadcast report) state ≤ listenerToGo slot state + 5 := by
  unfold listenerToGo
  split <;> omega

theorem listenerToGo_notify (slot : Broadcaster Report) (state : Listener) :
    listenerToGo slot { state with phase := state.phase.notify } ≤ listenerToGo slot state + 3 := by
  have hphase := stepsToPark_notify state.phase
  unfold listenerToGo
  dsimp only
  omega

theorem state_store (steps : List (Step Report)) (report : Report) (listener : Nat) :
    (Hub.after (steps ++ [.store report])).state listener = (Hub.after steps).state listener ∧
      (Hub.after (steps ++ [.store report])).slot = (Hub.after steps).slot.broadcast report := by
  rw [Hub.after_concat]
  exact ⟨rfl, rfl⟩

theorem toGo_publish (h : Following client stream)
    (hstep : stream.step client .publish = some next) : next.toGo client < stream.toGo client := by
  have hunnotified := h.unnotified_eq
  simp only [step] at hstep
  split at hstep
  · cases hstep
  · rename_i report hpublishing
    cases hstep
    rcases state_store stream.steps report client with ⟨hstate, hslot⟩
    have hmore := listenerToGo_store stream.hub.slot report (stream.hub.state client)
    simp only [toGo, hub, hstate, hslot, hpublishing, publishingToGo] at hmore ⊢
    omega
  · rename_i hpublishing
    cases hstep
    -- The notification is owed, so it reaches the client's listener.
    have howed : (Hub.after stream.steps).unnotified ≠ 0 := by
      rw [hpublishing] at hunnotified
      exact hunnotified ▸ Nat.one_ne_zero
    have hstate : (Hub.after (stream.steps ++ [.notify])).state client =
        { stream.hub.state client with phase := (stream.hub.state client).phase.notify } := by
      rw [Hub.after_concat]
      exact Hub.state_notify howed client
    have hslot : (Hub.after (stream.steps ++ [.notify])).slot = stream.hub.slot := by
      rw [Hub.after_concat, Hub.slot_attempt]
      rfl
    have hmore := listenerToGo_notify stream.hub.slot (stream.hub.state client)
    rw [← hstate] at hmore
    simp only [toGo, hpublishing, publishingToGo]
    simp only [hub] at hslot hmore ⊢
    rw [hslot]
    omega

theorem length_flush {feed : Feed Unit Report} (hunsent : feed.unsent ≠ [])
    (hroom : feed.buffer.length < Feed.capacity) :
    2 * feed.flush.unsent.length + feed.flush.buffer.length <
      2 * feed.unsent.length + feed.buffer.length := by
  have hsome := List.length_pos_iff.mpr hunsent
  simp only [Feed.flush, List.length_drop, List.length_append, List.length_take]
  omega

theorem toGo_produce (h : Following client stream)
    (hproduce : stream.produce client = some next) : next.toGo client < stream.toGo client := by
  unfold produce at hproduce
  split at hproduce
  · rename_i hsent
    cases hwait : stream.wait? client with
    | none =>
        simp [hwait] at hproduce
    | some step =>
        rw [hwait] at hproduce
        cases hproduce
        have hunsent := List.isEmpty_iff.mp hsent
        have hquiet := Step.isQuiet_of_listener (wait?_cases hwait).1
        rcases exists_advance h.isOpen hwait with ⟨report, hadvance, hends⟩
        have hless := listenerToGo_advance hadvance
        rcases Feed.hear_of_advance hadvance h.ticker_eq h.seen_eq h.stage_eq hunsent with
          ⟨-, -, -, hbuffer, hheard⟩
        have hslot : (Hub.after (stream.steps ++ [step])).slot = stream.hub.slot :=
          hquiet.slot_eq _
        rw [← hends] at hbuffer hheard
        simp only [hub] at hless hslot hbuffer hheard
        simp only [toGo, hub, hslot, hbuffer, hheard, hunsent, List.length_map, List.length_nil]
        omega
  · rename_i hunsent
    split at hproduce
    · rename_i hroom
      cases hproduce
      have hless := length_flush (mt List.isEmpty_iff.mpr hunsent) hroom
      simp only [toGo, hub]
      omega
    · cases hproduce

theorem toGo_take (hstep : stream.step client .take = some next) :
    next.toGo client < stream.toGo client := by
  rcases Option.map_eq_some_iff.mp hstep with ⟨⟨item, feed⟩, hpop, rfl⟩
  rcases Feed.pop?_eq_some_iff.mp hpop with ⟨rest, hbuffer, rfl⟩
  simp only [toGo, hub, hbuffer, List.length_cons]
  omega

/-- Every move on the way to rest leaves fewer of them to go. -/
theorem toGo_onward (h : Following client stream) (honward : move.isOnward = true)
    (hstep : stream.step client move = some next) : next.toGo client < stream.toGo client := by
  cases move with
  | begin event | other step =>
      cases honward
  | publish =>
      exact toGo_publish h hstep
  | produce =>
      exact toGo_produce h hstep
  | take =>
      exact toGo_take hstep

theorem state_of_isForeign {steps : List (Step Report)} {step : Step Report}
    (hforeign : isForeign client step = true)
    (hthere : (Hub.after steps).phase client ≠ .dropped) :
    (Hub.after (steps ++ [step])).state client = (Hub.after steps).state client := by
  have hstate := (Hub.after steps).state_of_other (listener?_of_isForeign hforeign)
  rw [Hub.after_concat]
  rcases hstate with hsame | ⟨rfl, -⟩ | ⟨-, hdropped, -⟩
  · exact hsame
  · cases hforeign
  · exact absurd ((Hub.phase_eq _ _).trans hdropped) hthere

/-- What other listeners do changes nothing of it. -/
theorem toGo_other {other : Step Report} (hthere : stream.hub.phase client ≠ .dropped)
    (hstep : stream.step client (.other other) = some next) :
    next.toGo client = stream.toGo client := by
  simp only [step] at hstep
  split at hstep
  · rename_i hforeign
    cases hstep
    have hstate := state_of_isForeign hforeign hthere
    have hslot := (isQuiet_of_isForeign hforeign).slot_eq stream.steps
    simp only [toGo, hub, hstate, hslot]
  · cases hstep

/-- How many moves on the way to rest are made among these moves. -/
def efforts (client : Nat) (stream : StateStream) : List Move → Nat
  | [] => 0
  | move :: rest =>
    (if move.isOnward && (stream.step client move).isSome then 1 else 0) +
      (stream.attempt client move).efforts client rest

theorem efforts_le (h : Following client stream) (hthere : stream.hub.phase client ≠ .dropped)
    {moves : List Move} (hbegin : ∀ event, .begin event ∉ moves) :
    stream.efforts client moves ≤ stream.toGo client := by
  -- On the moves: one that is made on the way to rest is paid for by what is left to go.
  induction moves generalizing stream with
  | nil =>
      exact Nat.zero_le _
  | cons move rest ih =>
      have hlater : ∀ event, Move.begin event ∉ rest := by
        intro event hmember
        exact hbegin event (List.mem_cons_of_mem _ hmember)
      have hrest := ih (h.attempt move) (phase_attempt hthere move) hlater
      unfold efforts
      cases hstep : stream.step client move with
      | none =>
          have hsame : stream.attempt client move = stream := by rw [attempt, hstep]; rfl
          rw [hsame] at hrest ⊢
          simpa using hrest
      | some next =>
          have hnext : stream.attempt client move = next := by rw [attempt, hstep]; rfl
          rw [hnext] at hrest ⊢
          cases honward : move.isOnward with
          | true =>
              have hless := toGo_onward h honward hstep
              simp only [Option.isSome_some, Bool.and_self, if_true]
              omega
          | false =>
              cases move with
              | begin event =>
                  exact absurd List.mem_cons_self (hbegin event)
              | other step =>
                  rw [toGo_other hthere hstep] at hrest
                  simpa using hrest
              | publish | produce | take =>
                  cases honward

/-! ## At rest -/

theorem parked_of_wait?_eq_none (h : Following client stream)
    (hthere : stream.hub.phase client ≠ .dropped) (hnone : stream.wait? client = none) :
    stream.hub.phase client = .parked := by
  unfold wait? at hnone
  split at hnone
  · exact absurd ‹_› h.stage_ne_ended
  · cases hnone
  · cases hnone
  · cases hnone
  · cases hnone
  · assumption
  · exact absurd ‹_› hthere

/-- Where none of these moves is possible, everything is published, sent and taken, and the producer
is parked. -/
theorem rests_of_stuck (h : Following client stream) (hthere : stream.hub.phase client ≠ .dropped)
    (hstuck : ∀ move, move.isOnward = true → stream.step client move = none) :
    stream.publishing = .done ∧ stream.hub.phase client = .parked ∧ stream.feed.unsent = [] ∧
      stream.feed.buffer = [] := by
  have hpublish := hstuck .publish rfl
  have hproduce := hstuck .produce rfl
  have htake := hstuck .take rfl
  have hdone : stream.publishing = .done := by
    simp only [step] at hpublish
    split at hpublish
    · assumption
    · cases hpublish
    · cases hpublish
  have hbuffer : stream.feed.buffer = [] := by
    simp only [step, Option.map_eq_none_iff, Feed.pop?] at htake
    split at htake
    · assumption
    · cases htake
  simp only [step, produce, hbuffer, List.length_nil] at hproduce
  split at hproduce
  · rename_i hsent
    have hparked := parked_of_wait?_eq_none h hthere (Option.map_eq_none_iff.mp hproduce)
    exact ⟨hdone, hparked, List.isEmpty_iff.mp hsent, hbuffer⟩
  · cases hproduce

/-- However the steps of the control plane, of the client's producer, of the client itself and of
other listeners come together: what is delivered are published states, in the order in which they
were published and none of them twice, and none older than what was current when the client began to
follow. When no step of the control plane is in progress, the producer is parked and everything is
sent and taken, the last state delivered is the present one. A client that keeps taking cannot be
left with another: as long as the control plane begins no further step, only so many moves are left,
and where none is left, the client has been told the present state last. -/
theorem keeps_client_current (client : Nat) (moves : List Move) :
    let stream := after client moves
    let plane := stream.course.plane
    let delivered := stream.delivered client
    stream.received = delivered.map (fun item => .ok item.2) ∧
      delivered.Pairwise (fun earlier later => earlier.1 < later.1) ∧
      (∀ item ∈ delivered, Course.publishedAs stream.events item.1 = some item.2) ∧
      (∀ earlier, earlier <+: moves → (after client earlier).hub.phase client = .dropped →
        ∀ item ∈ delivered, (after client earlier).hub.slot.generation ≤ item.1) ∧
      (stream.publishing = .done → stream.hub.phase client = .parked →
        stream.feed.unsent = [] → stream.feed.buffer = [] →
        delivered.getLast? = some (plane.states.generation, plane.report)) ∧
      (stream.hub.phase client ≠ .dropped →
        (∀ later, (∀ event, .begin event ∉ later) →
          stream.efforts client later ≤ stream.toGo client) ∧
        ((∀ move, move.isOnward = true → stream.step client move = none) →
          stream.received.getLast? = some (.ok plane.report))) := by
  intro stream plane delivered
  have h : Following client stream := following_after client moves
  have hinStep := Hub.inStep client stream.steps
  refine ⟨h.received_eq, ?_, ?_, ?_, h.getLast?_delivered, fun hthere => ⟨?_, ?_⟩⟩
  · exact hinStep.increasing.sublist (List.take_sublist _ _)
  · intro item hitem
    exact h.publishedAs_of_storedAs (hinStep.fromStored item (List.mem_of_mem_take hitem))
  · intro earlier hearlier hunmade
    exact generation_le_of_mem_delivered hearlier hunmade
  · intro later hbegin
    exact efforts_le h hthere hbegin
  · intro hstuck
    rcases rests_of_stuck h hthere hstuck with ⟨hdone, hparked, hunsent, hbuffer⟩
    have hlast := h.getLast?_delivered hdone hparked hunsent hbuffer
    rw [h.received_eq, List.getLast?_map, hlast]
    rfl

/-- The producer of the second of two listeners checks between the storing of a state and its
notification, and again finds nothing before two more states come, of which it gets the second. -/
def racingMoves : List Move :=
  [.other .listen, .other .listen, .produce, .produce, .begin (.start default (.ok ())), .publish,
    .produce, .publish, .produce, .produce, .produce, .produce, .begin (.started 1), .publish,
    .publish, .begin (.exited 1 (some "gone")), .publish, .other (.enter 0), .produce, .produce,
    .produce, .publish, .take, .produce, .produce, .produce, .produce, .produce, .take]

/-- The client is not told that the emulator ran, but it is told at last that it is gone. -/
theorem keeps_client_current_racing :
    let stream := after 1 racingMoves
    (after 1 [.other .listen]).hub.phase 1 = .dropped ∧
      (stream.publishing = .done ∧ stream.hub.phase 1 = .parked ∧ stream.feed.unsent = [] ∧
        stream.feed.buffer = []) ∧
      stream.delivered 1 = [(2, ⟨.starting, none⟩), (4, ⟨.error, some "gone"⟩)] ∧
      (stream.delivered 1).getLast? =
        some (stream.course.plane.states.generation, stream.course.plane.report) ∧
      stream.received.getLast? = some (.ok stream.course.plane.report) := by
  intro stream
  have hunmade : (after 1 [.other .listen]).hub.phase 1 = .dropped := by decide
  have hdone : stream.publishing = .done := by rfl
  have hparked : stream.hub.phase 1 = .parked := by decide
  have hunsent : stream.feed.unsent = [] := by rfl
  have hbuffer : stream.feed.buffer = [] := by rfl
  have hstuck : ∀ move : Move, move.isOnward = true → stream.step 1 move = none := by
    intro move honward
    cases move with
    | begin event | other step =>
        cases honward
    | publish | produce | take =>
        rfl
  rcases keeps_client_current 1 racingMoves with ⟨-, -, -, -, hlast, hreading⟩
  have hthere : stream.hub.phase 1 ≠ .dropped := by
    rw [hparked]
    nofun
  exact ⟨hunmade, ⟨hdone, hparked, hunsent, hbuffer⟩, by decide,
    hlast hdone hparked hunsent hbuffer, (hreading hthere).2 hstuck⟩

end Agent.StateStream

end EmulatorHost
