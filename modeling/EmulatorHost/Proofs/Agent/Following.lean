import EmulatorHost.Agent.Subscription
import EmulatorHost.Proofs.Agent.Settling
import EmulatorHost.Proofs.Broadcast.Consumer
import EmulatorHost.Proofs.ControlPlane.Life

/-!
# Following the states of a control plane

A control plane publishes its states, and a client follows them: the client's producer waits for
states as a listener of the broadcaster and sends them into a buffer, from which the client takes
them. All of these go on by steps of their own, in any order, and other clients listen at the same
time. A client that has left takes nothing any more, so what its producer does then concerns nobody.
`StateStream.step` is one such step, and `Following` says what every run of them keeps.
-/

namespace EmulatorHost.Agent

open ControlPlane Broadcast

/-! ## The parties and their steps -/

inductive Publishing where
  -- Nothing is to be published, and no step of the control plane is in progress.
  | done
  | toStore (report : Report)
  | toNotify
deriving Repr

namespace Publishing

def pending : Publishing → List Report
  | toStore report => [report]
  | done | toNotify => []

def owed : Publishing → Nat
  | toNotify => 1
  | done | toStore _ => 0

/-- The way from an event that publishes these states, of which there is at most one. -/
def ofReports : List Report → Publishing
  | [] => done
  | report :: _ => toStore report

end Publishing

/-- A control plane and a client that follows its states: the events of the control plane, the steps
of its broadcaster, the client's feed, and what the client has taken from it. -/
structure StateStream where
  events : List Event
  publishing : Publishing
  steps : List (Step Report)
  feed : Feed Unit Report
  received : List (Except Status Report)

def Feed.hear (feed : Feed Unit Report) : Option (Nat × WaitOutcome Report) → Feed Unit Report
  | none => feed
  | some (generation, .ok report) => feed.accept stateItems 0 generation report
  | some (_, .error _) => { feed with stage := .ended }

namespace StateStream

inductive Move where
  -- A step of the control plane begins. There is one at a time.
  | begin (event : Event)
  -- The control plane goes on to publish the state that it has entered.
  | publish
  -- The client's producer goes on.
  | produce
  -- The client takes what is sent to it.
  | take
  -- Another listener takes a step, or a listener is made.
  | other (step : Step Report)

/-- Before anything has happened, the control plane has published that nothing runs. -/
def initial : StateStream where
  events := []
  publishing := .done
  steps := [.store Course.initial.plane.report, .notify]
  feed := .begin () none
  received := []

def course (stream : StateStream) : Course :=
  Course.after stream.events

def hub (stream : StateStream) : Hub Report :=
  Hub.after stream.steps

def wait? (client : Nat) (stream : StateStream) : Option (Step Report) :=
  match stream.feed.stage, stream.hub.phase client with
  | .ended, _ => none
  | _, .idle => some (.enter client)
  | _, .entering => some (.register client)
  | _, .registered _ => some (.check client)
  | _, .checked _ => some (.park client)
  | _, .parked | _, .dropped => none

/-- The producer sends what it has got, or goes on with its wait for more. -/
def produce (client : Nat) (stream : StateStream) : Option StateStream :=
  if stream.feed.unsent.isEmpty then
    (stream.wait? client).map fun step =>
      { stream with
        steps := stream.steps ++ [step]
        feed := (stream.feed.tick 0).hear (stream.hub.endAt client step) }
  else if stream.feed.buffer.length < Feed.capacity then
    some { stream with feed := stream.feed.flush }
  else none

/-- A step that is neither the control plane's nor that of the listener with this number. -/
def isForeign (client : Nat) : Step Report → Bool
  | .store _ | .close | .notify => false
  | .listen => true
  | step => step.listener? != some client

/-- One move, if it is possible. The client is the listener with the number `client`, and follows the
states from the time on at which this listener is made. -/
def step (client : Nat) (stream : StateStream) : Move → Option StateStream
  | .begin event =>
    match stream.publishing with
    | .done =>
      some { stream with
        events := stream.events ++ [event]
        publishing := .ofReports (stream.course.publishedBy event) }
    | _ => none
  | .publish =>
    match stream.publishing with
    | .done => none
    | .toStore report =>
      some { stream with publishing := .toNotify, steps := stream.steps ++ [.store report] }
    | .toNotify => some { stream with publishing := .done, steps := stream.steps ++ [.notify] }
  | .produce => stream.produce client
  | .take =>
    stream.feed.pop?.map fun (item, feed) =>
      { stream with feed, received := stream.received ++ [item] }
  | .other step =>
    if isForeign client step then some { stream with steps := stream.steps ++ [step] } else none

def attempt (client : Nat) (stream : StateStream) (move : Move) : StateStream :=
  (stream.step client move).getD stream

def run (client : Nat) (stream : StateStream) (moves : List Move) : StateStream :=
  moves.foldl (attempt client) stream

def after (client : Nat) (moves : List Move) : StateStream :=
  initial.run client moves

/-- What the client has taken, with the generations as which the states were published. -/
def delivered (client : Nat) (stream : StateStream) : List (Nat × Report) :=
  (got client stream.steps).take stream.received.length

end StateStream

/-! ## The producer's wait -/

/-- The stage of a producer whose listener is in a phase: between its waits it goes on at once, as it
is not paced. -/
def stageIn : Broadcast.Phase → Stage
  | .idle | .dropped => .tick
  | .entering | .registered _ | .checked _ | .parked => .value

theorem stageIn_notify (phase : Broadcast.Phase) : stageIn phase.notify = stageIn phase := by
  cases phase <;> rfl

inductive Advance (slot : Broadcaster Report) : Listener → Listener → Option Report → Prop where
  -- What a step of the producer's wait makes of its listener while the broadcaster is open, and the
  -- value that the wait ends with if it does.
  | enters (seen : Nat) : Advance slot ⟨seen, .idle⟩ ⟨seen, .entering⟩ none
  | registers (seen : Nat) : Advance slot ⟨seen, .entering⟩ ⟨seen, .registered false⟩ none
  | findsNothing (seen : Nat) (notified : Bool) (hpoll : slot.poll seen = none) :
      Advance slot ⟨seen, .registered notified⟩ ⟨seen, .checked notified⟩ none
  | finds (seen : Nat) (notified : Bool) (report : Report) (hnew : seen < slot.generation)
      (hvalue : slot.value = some report) :
      Advance slot ⟨seen, .registered notified⟩ ⟨slot.generation, .idle⟩ (some report)
  | wakes (seen : Nat) : Advance slot ⟨seen, .checked true⟩ ⟨seen, .entering⟩ none
  | parks (seen : Nat) : Advance slot ⟨seen, .checked false⟩ ⟨seen, .parked⟩ none

/-- The feed goes along with the client's listener, and what the wait ends with is to be sent. -/
theorem Feed.hear_of_advance {feed : Feed Unit Report} {slot : Broadcaster Report}
    {before moved : Listener} {report : Option Report} (hadvance : Advance slot before moved report)
    (hticker : feed.ticker = none) (hseen : feed.seen = before.seen)
    (hstage : feed.stage = stageIn before.phase) (hsent : feed.unsent = []) :
    let heard := (feed.tick 0).hear (report.map fun report => (slot.generation, .ok report))
    heard.ticker = none ∧ heard.seen = moved.seen ∧ heard.stage = stageIn moved.phase ∧
      heard.buffer = feed.buffer ∧ heard.unsent = report.toList.map .ok := by
  cases hadvance with
  | enters =>
      rw [tick_of_tick hticker hstage]
      exact ⟨hticker, hseen, rfl, rfl, hsent⟩
  | registers | findsNothing | wakes | parks =>
      rw [tick_of_value hstage]
      exact ⟨hticker, hseen, hstage, rfl, hsent⟩
  | finds =>
      rw [tick_of_value hstage]
      exact ⟨hticker, rfl, rfl, rfl, rfl⟩

namespace StateStream

variable {client : Nat} {stream next : StateStream} {move : Move}

/-- While its feed has not ended, the producer is a listener that waits over and over. -/
theorem onward?_of_wait? {step : Step Report} (hwait : stream.wait? client = some step) :
    stream.hub.onward? client = some step := by
  unfold wait? at hwait
  unfold Hub.onward?
  split at hwait <;> simp_all

/-- What the producer does next is a step of the client's listener that is possible and does not take
it out of its wait. -/
theorem wait?_cases {step : Step Report} (hwait : stream.wait? client = some step) :
    step.listener? = some client ∧ stream.hub.step step ≠ none ∧ ¬ step.Quits client :=
  Hub.onward?_cases (onward?_of_wait? hwait)

/-- While the broadcaster is open, the waits of the producer end with values only. -/
theorem exists_advance (hopen : closedBy stream.steps = false) {step : Step Report}
    (hwait : stream.wait? client = some step) :
    ∃ report, Advance stream.hub.slot (stream.hub.state client)
        ((Hub.after (stream.steps ++ [step])).state client) report ∧
      stream.hub.endAt client step =
        report.map fun report => (stream.hub.slot.generation, .ok report) := by
  have hslotOpen : stream.hub.slot.isClosed = false := (Hub.isClosed_after _).trans hopen
  have hprogress := Hub.progress_of_onward? (onward?_of_wait? hwait)
  unfold Hub.endAt
  rw [Hub.seen_eq, Hub.after_concat]
  change ∃ report, Advance _ _ ((stream.hub.attempt step).1.state client) report ∧ _
  generalize stream.hub.state client = before at hprogress ⊢
  generalize (stream.hub.attempt step).1.state client = moved at hprogress ⊢
  generalize stream.hub.outcomeFor client step = outcome at hprogress ⊢
  cases hprogress with
  | enters =>
      exact ⟨none, .enters _, rfl⟩
  | registers =>
      exact ⟨none, .registers _, rfl⟩
  | findsNothing _ _ hpoll =>
      exact ⟨none, .findsNothing _ _ hpoll, rfl⟩
  | wakes =>
      exact ⟨none, .wakes _, rfl⟩
  | parks =>
      exact ⟨none, .parks _, rfl⟩
  | finds seen notified outcome hpoll =>
      have hnew : seen < stream.hub.slot.generation := by
        by_contra hold
        simp [Broadcaster.poll, hslotOpen, hold] at hpoll
      cases outcome with
      | ok report =>
          exact ⟨some report, .finds seen notified report hnew (Broadcaster.value_of_poll hpoll), rfl⟩
      | error reason =>
          simp [Broadcaster.poll, hslotOpen, hnew] at hpoll

/-! ## What every move keeps -/

/-- What holds after every run: the broadcaster has stored what the control plane has published, up
to what is still to be stored, and it owes no other notification than that of the step in progress;
what the producer has got, and no more, has been taken by the client or is on its way to it, and the
feed stands where the client's listener does. -/
structure Following (client : Nat) (stream : StateStream) : Prop where
  stored_eq : stored stream.steps ++ stream.publishing.pending = Course.published stream.events
  unnotified_eq : stream.hub.unnotified = stream.publishing.owed
  isOpen : closedBy stream.steps = false
  told : (got client stream.steps).map (fun item => .ok item.2) =
    stream.received ++ (stream.feed.buffer ++ stream.feed.unsent)
  -- A client that does not follow yet has been told nothing.
  unmade : stream.hub.phase client = .dropped → got client stream.steps = []
  ticker_eq : stream.feed.ticker = none
  seen_eq : stream.feed.seen = (stream.hub.state client).seen
  stage_eq : stream.feed.stage = stageIn (stream.hub.state client).phase

theorem following_initial (client : Nat) : Following client initial where
  stored_eq := rfl
  unnotified_eq := rfl
  isOpen := rfl
  told := rfl
  unmade := fun _ => rfl
  ticker_eq := rfl
  seen_eq := rfl
  stage_eq := rfl

theorem listener?_of_isForeign {step : Step Report} (hforeign : isForeign client step = true) :
    step.listener? ≠ some client := by
  cases step with
  | store value | close | notify | listen =>
      nofun
  | _ =>
      simpa [isForeign, Step.listener?] using hforeign

theorem isQuiet_of_isForeign {step : Step Report} (hforeign : isForeign client step = true) :
    step.IsQuiet := by
  cases step with
  | store value | close | notify =>
      cases hforeign
  | _ =>
      trivial

namespace Following

theorem stage_ne_ended (h : Following client stream) : stream.feed.stage ≠ .ended := by
  rw [h.stage_eq]
  cases (stream.hub.state client).phase <;> nofun

/-- While no step of the control plane is in progress, everything that it has published is stored. -/
theorem stored_of_done (h : Following client stream) (hdone : stream.publishing = .done) :
    stored stream.steps = Course.published stream.events := by
  have hall := h.stored_eq
  rw [hdone] at hall
  exact (List.append_nil _).symm.trans hall

/-- A step of somebody else keeps all that is said of the client, if it keeps what is said of the
control plane. -/
theorem keep {step : Step Report} {publishing : Publishing} (h : Following client stream)
    (hother : step.listener? ≠ some client)
    (hstored : stored (stream.steps ++ [step]) ++ publishing.pending =
      Course.published stream.events)
    (hunnotified : (Hub.after (stream.steps ++ [step])).unnotified = publishing.owed)
    (hopen : closedBy (stream.steps ++ [step]) = false) :
    Following client { stream with publishing, steps := stream.steps ++ [step] } := by
  have hgot := Hub.got_of_other hother stream.steps
  have hdrop : step ≠ .drop client := by
    rintro rfl
    exact hother rfl
  -- The listener is left alone, notified or made; its feed stands where it stood in all cases.
  have hstate := stream.hub.state_of_other hother
  have hnext : (Hub.after (stream.steps ++ [step])).state client =
      (stream.hub.attempt step).1.state client := by
    rw [Hub.after_concat]
    rfl
  dsimp only at hstate
  rw [← hnext] at hstate
  refine ⟨hstored, hunnotified, hopen, hgot ▸ h.told, ?_, h.ticker_eq, ?_, ?_⟩
  · intro hdropped
    exact hgot.trans (h.unmade (Hub.got_of_dropped hdrop hdropped).1)
  · have hseen : ((Hub.after (stream.steps ++ [step])).state client).seen =
        (stream.hub.state client).seen := by
      rcases hstate with hsame | ⟨-, hnotified⟩ | ⟨-, -, hmade⟩
      · rw [hsame]
      · rw [hnotified]
      · rw [hmade]
    exact h.seen_eq.trans hseen.symm
  · have hstage : stageIn ((Hub.after (stream.steps ++ [step])).state client).phase =
        stageIn (stream.hub.state client).phase := by
      rcases hstate with hsame | ⟨-, hnotified⟩ | ⟨-, hdropped, hmade⟩
      · rw [hsame]
      · rw [hnotified]
        exact stageIn_notify _
      · rw [hmade, hdropped]
        rfl
    exact h.stage_eq.trans hstage.symm

theorem keep_of_isForeign {step : Step Report} (h : Following client stream)
    (hforeign : isForeign client step = true) :
    Following client { stream with steps := stream.steps ++ [step] } := by
  have hquiet := isQuiet_of_isForeign hforeign
  refine h.keep (listener?_of_isForeign hforeign) ?_ ?_ ?_
  · rw [hquiet.stored_eq]
    exact h.stored_eq
  · rw [hquiet.unnotified_eq]
    exact h.unnotified_eq
  · rw [hquiet.closedBy_eq]
    exact h.isOpen

theorem begin (h : Following client stream) (hdone : stream.publishing = .done) (event : Event) :
    Following client { stream with
      events := stream.events ++ [event]
      publishing := .ofReports (stream.course.publishedBy event) } := by
  have hstored := h.stored_of_done hdone
  have hunnotified := h.unnotified_eq
  rw [hdone] at hunnotified
  have hcases := Course.publishedBy_cases stream.events event
  refine ⟨?_, ?_, h.isOpen, h.told, h.unmade, h.ticker_eq, h.seen_eq, h.stage_eq⟩
  · rw [Course.published_concat, hstored, course]
    rcases hcases with ⟨hnothing, -⟩ | hreport
    · rw [hnothing]
      rfl
    · rw [hreport]
      rfl
  · rw [course]
    rcases hcases with ⟨hnothing, -⟩ | hreport
    · rw [hnothing]
      exact hunnotified
    · rw [hreport]
      exact hunnotified

theorem store (h : Following client stream) {report : Report}
    (hstore : stream.publishing = .toStore report) :
    Following client { stream with
      publishing := .toNotify, steps := stream.steps ++ [.store report] } := by
  have hstored := h.stored_eq
  have hunnotified := h.unnotified_eq
  rw [hstore] at hstored hunnotified
  refine h.keep nofun ?_ ?_ ?_
  · have hone : stored [Step.store report] = [report] := rfl
    rw [stored_append, hone]
    exact (List.append_nil _).trans hstored
  · rw [Hub.after_concat, Hub.unnotified_attempt]
    exact congrArg Nat.succ hunnotified
  · rw [closedBy_append, h.isOpen]
    rfl

theorem notify (h : Following client stream) (hnotify : stream.publishing = .toNotify) :
    Following client { stream with
      publishing := .done, steps := stream.steps ++ [.notify] } := by
  have hstored := h.stored_eq
  have hunnotified := h.unnotified_eq
  rw [hnotify] at hstored hunnotified
  refine h.keep nofun ?_ ?_ ?_
  · have hnothing : stored [(Step.notify : Step Report)] = [] := rfl
    rw [stored_append, hnothing, List.append_nil]
    exact hstored
  · rw [Hub.after_concat, Hub.unnotified_attempt]
    exact congrArg Nat.pred hunnotified
  · rw [closedBy_append, h.isOpen]
    rfl

/-- The producer's wait goes on, or ends with a value that is then to be sent. -/
theorem wait (h : Following client stream) {step : Step Report}
    (hwait : stream.wait? client = some step) (hsent : stream.feed.unsent = []) :
    Following client { stream with
      steps := stream.steps ++ [step]
      feed := (stream.feed.tick 0).hear (stream.hub.endAt client step) } := by
  rcases wait?_cases hwait with ⟨hown, -, hstays⟩
  rcases exists_advance h.isOpen hwait with ⟨report, hadvance, hends⟩
  have hquiet := Step.isQuiet_of_listener hown
  have hgot := Hub.got_concat client stream.steps step
  have htold := h.told
  change _ = _ ++ ((stream.hub.endAt client step).bind success?).toList at hgot
  rw [hends] at hgot ⊢
  rw [hsent, List.append_nil] at htold
  rcases Feed.hear_of_advance hadvance h.ticker_eq h.seen_eq h.stage_eq hsent with
    ⟨hticker, hseen, hstage, hbuffer, hunsent⟩
  refine ⟨?_, ?_, ?_, ?_, ?_, hticker, hseen, hstage⟩
  · rw [hquiet.stored_eq]
    exact h.stored_eq
  · exact (hquiet.unnotified_eq _).trans h.unnotified_eq
  · rw [hquiet.closedBy_eq]
    exact h.isOpen
  · rw [hgot, hbuffer, hunsent, List.map_append, htold, List.append_assoc]
    cases report <;> rfl
  · intro hdropped
    have hdrop : step ≠ .drop client := fun hdrop => hstays (.inr (.inr hdrop))
    rcases Hub.got_of_dropped hdrop hdropped with ⟨hbefore, hsame⟩
    exact hsame.trans (h.unmade hbefore)

theorem produce (h : Following client stream) (hproduce : stream.produce client = some next) :
    Following client next := by
  unfold StateStream.produce at hproduce
  split at hproduce
  · rename_i hsent
    cases hwait : stream.wait? client with
    | none =>
        simp [hwait] at hproduce
    | some step =>
        rw [hwait] at hproduce
        cases hproduce
        exact h.wait hwait (List.isEmpty_iff.mp hsent)
  · split at hproduce
    · cases hproduce
      refine ⟨h.stored_eq, h.unnotified_eq, h.isOpen, ?_, h.unmade, h.ticker_eq, h.seen_eq,
        h.stage_eq⟩
      rw [Feed.buffer_flush]
      exact h.told
    · cases hproduce

theorem take (h : Following client stream) {item : Except Status Report} {feed : Feed Unit Report}
    (hpop : stream.feed.pop? = some (item, feed)) :
    Following client { stream with feed, received := stream.received ++ [item] } := by
  have htold := h.told
  rcases Feed.pop?_eq_some_iff.mp hpop with ⟨rest, hbuffer, rfl⟩
  refine ⟨h.stored_eq, h.unnotified_eq, h.isOpen, ?_, h.unmade, h.ticker_eq, h.seen_eq,
    h.stage_eq⟩
  rw [htold, hbuffer]
  simp

/-- Every move keeps what holds of a run. -/
theorem step (h : Following client stream) (hstep : stream.step client move = some next) :
    Following client next := by
  cases move with
  | begin event =>
      simp only [StateStream.step] at hstep
      split at hstep
      · cases hstep
        exact h.begin ‹_› event
      · cases hstep
  | publish =>
      simp only [StateStream.step] at hstep
      split at hstep <;> cases hstep
      · exact h.store ‹_›
      · exact h.notify ‹_›
  | produce =>
      exact h.produce hstep
  | take =>
      rcases Option.map_eq_some_iff.mp hstep with ⟨⟨item, feed⟩, hpop, rfl⟩
      exact h.take hpop
  | other step =>
      simp only [StateStream.step] at hstep
      split at hstep
      · rename_i hforeign
        cases hstep
        exact h.keep_of_isForeign hforeign
      · cases hstep

theorem attempt (h : Following client stream) (move : Move) :
    Following client (stream.attempt client move) := by
  unfold StateStream.attempt
  cases hstep : stream.step client move with
  | none =>
      exact h
  | some next =>
      exact h.step hstep

theorem run (h : Following client stream) (moves : List Move) :
    Following client (stream.run client moves) := by
  induction moves generalizing stream with
  | nil =>
      exact h
  | cons move rest ih =>
      exact ih (h.attempt move)

end Following

theorem following_after (client : Nat) (moves : List Move) : Following client (after client moves) :=
  (following_initial client).run moves

end StateStream

end EmulatorHost.Agent
