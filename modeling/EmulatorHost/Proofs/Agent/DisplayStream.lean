import EmulatorHost.Agent.Subscription
import EmulatorHost.Proofs.Agent.Settling
import EmulatorHost.Proofs.Broadcast.Consumer
import EmulatorHost.Status.Causes

/-!
# Following the display

A client follows the frames of a broadcaster: its producer, paced or not, waits for frames as a
listener, feeds its own processor with them, and sends the packets into a buffer, from which the
client takes them. All of these go on by steps of their own, in any order, while others broadcast
and listen and the time passes. A client that has left takes nothing any more, so what its producer
does then concerns nobody. `DisplayStream.step` is one such step, and `Delivering` says what every
run of them keeps. The main statement is `delivers_what_is_processed`.
-/

namespace EmulatorHost.Agent

open Broadcast Display

/-! ## The parties and their steps -/

structure Taking where
  generation : Nat
  frame : Option Frame
  time : Nat
deriving DecidableEq

/-- A client that follows a display: the steps of the broadcaster, the time, the client's feed, what
its producer has taken, and what the client has received. -/
structure DisplayStream (σ : Type) where
  steps : List (Step (Option Frame))
  clock : Nat
  feed : Feed (Processor σ) Packet
  taken : List Taking
  received : List (Except Status Packet)

namespace DisplayStream

variable {σ : Type}

inductive Move where
  | elapse (duration : Nat)
  -- The client's producer goes on.
  | produce
  -- The client takes what is sent to it.
  | take
  -- A caller or another listener takes a step, or a listener is made.
  | other (step : Step (Option Frame))

def opened (before : List (Step (Option Frame))) (processor : Processor σ) (rate clock : Nat) :
    DisplayStream σ where
  steps := before ++ [.listen]
  clock := clock
  feed := .begin processor (Ticker.ofRate? rate clock)
  taken := []
  received := []

def hub (stream : DisplayStream σ) : Hub (Option Frame) :=
  Hub.after stream.steps

def hear (stream : DisplayStream σ) :
    Option (Nat × WaitOutcome (Option Frame)) → DisplayStream σ
  | none => stream
  | some (generation, .ok frame) =>
    { stream with
      feed := stream.feed.accept displayItems stream.clock generation frame
      taken := stream.taken ++ [⟨generation, frame, stream.clock⟩] }
  | some (_, .error _) => { stream with feed := { stream.feed with stage := .ended } }

def wait (client : Nat) (stream : DisplayStream σ) (step : Step (Option Frame)) : DisplayStream σ :=
  { stream with steps := stream.steps ++ [step] }.hear (stream.hub.endAt client step)

/-- The producer sends what it has got, or takes a tick, or goes on with its wait for a frame. -/
def produce (client : Nat) (stream : DisplayStream σ) : Option (DisplayStream σ) :=
  if stream.feed.unsent.isEmpty then
    match stream.feed.stage with
    | .tick =>
      let feed := stream.feed.tick stream.clock
      if feed.stage = .value then some { stream with feed } else none
    | .value => (stream.hub.onward? client).map (stream.wait client)
    | .ended => none
  else if stream.feed.buffer.length < Feed.capacity then
    some { stream with feed := stream.feed.flush }
  else none

/-- One move, if it is possible. The client is the listener with the number `client`. -/
def step (client : Nat) (stream : DisplayStream σ) : Move → Option (DisplayStream σ)
  | .elapse duration => some { stream with clock := stream.clock + duration }
  | .produce => stream.produce client
  | .take =>
    stream.feed.pop?.map fun (item, feed) =>
      { stream with feed, received := stream.received ++ [item] }
  | .other step =>
    if step.listener? = some client then none
    else some { stream with steps := stream.steps ++ [step] }

def attempt (client : Nat) (stream : DisplayStream σ) (move : Move) : DisplayStream σ :=
  (stream.step client move).getD stream

def run (client : Nat) (stream : DisplayStream σ) (moves : List Move) : DisplayStream σ :=
  moves.foldl (attempt client) stream

/-- All that is made for the client: what it has received, what is in the buffer, and what is still
to be sent. -/
def output (stream : DisplayStream σ) : List (Except Status Packet) :=
  stream.received ++ (stream.feed.buffer ++ stream.feed.unsent)

end DisplayStream

/-! ## What is made of frames -/

/-- A processor is fed with frames, each at its time: the packets that come of it, and how it ends,
which is with the processor or with the failure of the last frame. -/
inductive Processes {σ : Type} :
    Processor σ → List Taking → List Packet → Except Display.Error (Processor σ) → Prop where
  | nothing (processor : Processor σ) : Processes processor [] [] (.ok processor)
  | makes {processor : Processor σ} {item : Taking} {later : List Taking} {first rest : List Packet}
      {ending : Except Display.Error (Processor σ)}
      (hfirst : (processor.process item.frame item.time).result = .ok first)
      (hrest : Processes (processor.process item.frame item.time).processor later rest ending) :
      Processes processor (item :: later) (first ++ rest) ending
  | fails {processor : Processor σ} {item : Taking} {error : Display.Error}
      (hfails : (processor.process item.frame item.time).result = .error error) :
      Processes processor [item] [] (.error error)

def messages {σ : Type} (packets : List Packet) :
    Except Display.Error (Processor σ) → List (Except Status Packet)
  | .ok _ => packets.map .ok
  | .error error => packets.map .ok ++ [.error error.status]

namespace Processes

variable {σ : Type} {processor last : Processor σ} {taken : List Taking} {packets : List Packet}

/-- One frame more. -/
theorem concat (hprocesses : Processes processor taken packets (.ok last)) {item : Taking}
    {more : List Packet} {ending : Except Display.Error (Processor σ)}
    (hitem : Processes last [item] more ending) :
    Processes processor (taken ++ [item]) (packets ++ more) ending := by
  generalize hlast : Except.ok last = reached at hprocesses
  induction hprocesses with
  | nothing processor =>
      cases hlast
      exact hitem
  | makes hfirst hrest ih =>
      rw [List.cons_append, List.append_assoc]
      exact .makes hfirst (ih hlast)
  | fails hfails =>
      cases hlast

end Processes

namespace Feed

variable {σ : Type} {feed : Feed (Processor σ) Packet} {now : Nat} {frame : Option Frame}

theorem accept_of_ok {packets : List Packet}
    (hresult : (feed.memory.process frame now).result = .ok packets) (generation : Nat) :
    feed.accept displayItems now generation frame =
      { feed with
        seen := generation
        memory := (feed.memory.process frame now).processor
        stage := .tick
        unsent := packets.map .ok } := by
  simp only [accept, displayItems, hresult, Except.mapError]

theorem accept_of_error {error : Display.Error}
    (hresult : (feed.memory.process frame now).result = .error error) (generation : Nat) :
    feed.accept displayItems now generation frame =
      { feed with
        seen := generation
        memory := (feed.memory.process frame now).processor
        stage := .ended
        unsent := [.error error.status] } := by
  simp only [accept, displayItems, hresult, Except.mapError]

end Feed

namespace DisplayStream

variable {σ : Type} {client : Nat} {processor : Processor σ} {stream next : DisplayStream σ}
  {move : Move}

/-- What the producer does next: it takes a tick, goes on with its wait, or sends. -/
theorem produce_cases (hproduce : stream.produce client = some next) :
    (stream.feed.unsent = [] ∧ stream.feed.stage = .tick ∧
      (stream.feed.tick stream.clock).stage = .value ∧
      next = { stream with feed := stream.feed.tick stream.clock }) ∨
    (stream.feed.unsent = [] ∧ stream.feed.stage = .value ∧
      ∃ step, stream.hub.onward? client = some step ∧ next = stream.wait client step) ∨
    (stream.feed.unsent ≠ [] ∧ stream.feed.buffer.length < Feed.capacity ∧
      next = { stream with feed := stream.feed.flush }) := by
  unfold produce at hproduce
  split at hproduce
  · rename_i hempty
    have hsent := List.isEmpty_iff.mp hempty
    split at hproduce
    · rename_i hstage
      dsimp only at hproduce
      split at hproduce
      · rename_i hticked
        cases hproduce
        exact .inl ⟨hsent, hstage, hticked, rfl⟩
      · cases hproduce
    · rename_i hstage
      rcases Option.map_eq_some_iff.mp hproduce with ⟨step, hnext, rfl⟩
      exact .inr (.inl ⟨hsent, hstage, step, hnext, rfl⟩)
    · cases hproduce
  · rename_i hunsent
    split at hproduce
    · rename_i hroom
      cases hproduce
      exact .inr (.inr ⟨mt List.isEmpty_iff.mpr hunsent, hroom, rfl⟩)
    · cases hproduce

/-- However a wait ends, it has been one step of the broadcaster. -/
theorem steps_wait (step : Step (Option Frame)) :
    (stream.wait client step).steps = stream.steps ++ [step] := by
  unfold wait
  rcases stream.hub.endAt client step with _ | ⟨generation, reason | frame⟩ <;> rfl

/-! ## What every move keeps -/

/-- Where a feed stands when its processor has ended so: it goes on with this processor until the
broadcaster is closed, or it has ended with the failure. -/
def Stands (steps : List (Step (Option Frame))) (feed : Feed (Processor σ) Packet) :
    Except Display.Error (Processor σ) → Prop
  | .ok processor => feed.memory = processor ∧ (feed.stage = .ended → closedBy steps = true)
  | .error _ => feed.stage = .ended

/-- What holds after every run: the client's listener is there, in a wait only if the producer waits
for a frame and has sent everything, has got as far as the feed, and has got the frames that the
producer has taken; and what is made for the client is what the processor makes of these. -/
structure Delivering (client : Nat) (processor : Processor σ) (stream : DisplayStream σ) :
    Prop where
  there : stream.hub.phase client ≠ .dropped
  idle : stream.feed.stage ≠ .value → stream.hub.phase client = .idle
  sent : stream.feed.stage = .value → stream.feed.unsent = []
  seen_eq : stream.feed.seen = stream.hub.seen client
  taken_eq : stream.taken.map (fun item => (item.generation, item.frame)) = got client stream.steps
  timely : stream.taken.Pairwise fun earlier later => earlier.time ≤ later.time
  past : ∀ item ∈ stream.taken, item.time ≤ stream.clock
  made : ∃ packets ending, Processes processor stream.taken packets ending ∧
    stream.output = messages packets ending ∧ Stands stream.steps stream.feed ending

theorem delivering_opened (before : List (Step (Option Frame))) (processor : Processor σ)
    (rate clock : Nat) :
    Delivering (Hub.after before).listeners.length processor
      (opened before processor rate clock) := by
  have hstate := Hub.state_of_made before
  have hphase : (opened before processor rate clock).hub.phase (Hub.after before).listeners.length =
      .idle := by
    rw [hub, Hub.phase_eq]
    exact congrArg Listener.phase hstate
  have hnothing : got (Hub.after before).listeners.length (before ++ [.listen]) = [] := by
    apply Hub.got_of_seen_zero
    rw [Hub.seen_eq, hstate]
  refine ⟨?_, fun _ => hphase, fun _ => rfl, ?_, hnothing.symm, .nil, nofun, ?_⟩
  · rw [hphase]
    nofun
  · rw [hub, Hub.seen_eq]
    exact (congrArg Listener.seen hstate).symm
  · exact ⟨[], _, .nothing processor, rfl, rfl, nofun⟩

namespace Delivering

theorem elapse (h : Delivering client processor stream) (duration : Nat) :
    Delivering client processor { stream with clock := stream.clock + duration } where
  there := h.there
  idle := h.idle
  sent := h.sent
  seen_eq := h.seen_eq
  taken_eq := h.taken_eq
  timely := h.timely
  past := by
    intro item hitem
    exact Nat.le_add_right_of_le (h.past item hitem)
  made := h.made

/-- A feed that has sent or given away some of its items, or taken a tick, stands where it stood. -/
theorem refeed (h : Delivering client processor stream) {feed : Feed (Processor σ) Packet}
    {received : List (Except Status Packet)} (hmemory : feed.memory = stream.feed.memory)
    (hseen : feed.seen = stream.feed.seen)
    (hended : feed.stage = .ended ↔ stream.feed.stage = .ended)
    (hidle : feed.stage ≠ .value → stream.feed.stage ≠ .value)
    (hsent : feed.stage = .value → feed.unsent = [])
    (houtput : received ++ (feed.buffer ++ feed.unsent) = stream.output) :
    Delivering client processor { stream with feed, received } where
  there := h.there
  idle := by
    intro hstage
    exact h.idle (hidle hstage)
  sent := hsent
  seen_eq := hseen.trans h.seen_eq
  taken_eq := h.taken_eq
  timely := h.timely
  past := h.past
  made := by
    rcases h.made with ⟨packets, ending, hprocesses, hmade, hstands⟩
    refine ⟨packets, ending, hprocesses, houtput.trans hmade, ?_⟩
    cases ending with
    | ok last =>
        exact ⟨hmemory.trans hstands.1, fun hstage => hstands.2 (hended.mp hstage)⟩
    | error error =>
        exact hended.mpr hstands

/-- A step of somebody else. -/
theorem other (h : Delivering client processor stream) {step : Step (Option Frame)}
    (hother : step.listener? ≠ some client) :
    Delivering client processor { stream with steps := stream.steps ++ [step] } := by
  have hdrop : step ≠ .drop client := by
    rintro rfl
    exact hother rfl
  have hsame := Hub.got_of_other hother stream.steps
  refine ⟨?_, ?_, h.sent, ?_, hsame ▸ h.taken_eq, h.timely, h.past, ?_⟩
  · intro hdropped
    exact h.there (Hub.got_of_dropped hdrop hdropped).1
  · intro hstage
    have hidle := h.idle hstage
    have hthere := h.there
    rw [hub, Hub.phase_eq] at hidle hthere ⊢
    have hstate := (Hub.after stream.steps).state_of_other hother
    dsimp only at hstate
    rw [← Hub.after_concat] at hstate
    -- A notification does not concern a listener that is in no wait.
    rcases hstate with hsame | ⟨-, hnotified⟩ | ⟨-, hdropped, -⟩
    · rw [hsame, hidle]
    · rw [hnotified, hidle]
      rfl
    · exact absurd hdropped hthere
  · exact h.seen_eq.trans (Hub.seen_of_got_eq hsame).symm
  · rcases h.made with ⟨packets, ending, hprocesses, hmade, hstands⟩
    refine ⟨packets, ending, hprocesses, hmade, ?_⟩
    cases ending with
    | ok last =>
        refine ⟨hstands.1, ?_⟩
        intro hstage
        rw [closedBy_append, hstands.2 hstage, Bool.true_or]
    | error error =>
        exact hstands

/-- A step of the producer's waits, when what is then taken is what its listener has got. -/
theorem waited (h : Delivering client processor stream) {step : Step (Option Frame)}
    (hnext : stream.hub.onward? client = some step) {feed : Feed (Processor σ) Packet}
    {taken : List Taking}
    (hidle : feed.stage ≠ .value → (Hub.after (stream.steps ++ [step])).phase client = .idle)
    (hsent : feed.stage = .value → feed.unsent = [])
    (hseen : feed.seen = (Hub.after (stream.steps ++ [step])).seen client)
    (htaken : taken.map (fun item => (item.generation, item.frame)) =
      stream.taken.map (fun item => (item.generation, item.frame)) ++
        ((stream.hub.endAt client step).bind success?).toList)
    (htimely : taken.Pairwise fun earlier later => earlier.time ≤ later.time)
    (hpast : ∀ item ∈ taken, item.time ≤ stream.clock)
    (hmade : ∃ packets ending, Processes processor taken packets ending ∧
      stream.received ++ (feed.buffer ++ feed.unsent) = messages packets ending ∧
      Stands (stream.steps ++ [step]) feed ending) :
    Delivering client processor { stream with steps := stream.steps ++ [step], feed, taken } where
  there := by
    intro hdropped
    have hstays := (Hub.onward?_cases hnext).2.2
    have hdrop : step ≠ .drop client := fun hdrop => hstays (.inr (.inr hdrop))
    exact h.there (Hub.got_of_dropped hdrop hdropped).1
  idle := hidle
  sent := hsent
  seen_eq := hseen
  taken_eq := by
    rw [htaken, h.taken_eq]
    exact (Hub.got_concat client stream.steps step).symm
  timely := htimely
  past := hpast
  made := hmade

/-- While the producer waits for a frame, what has been made is sent, and the processor goes on. -/
theorem made_of_value (h : Delivering client processor stream)
    (hstage : stream.feed.stage = .value) :
    ∃ packets, Processes processor stream.taken packets (.ok stream.feed.memory) ∧
      stream.received ++ stream.feed.buffer = packets.map .ok := by
  rcases h.made with ⟨packets, ending, hprocesses, hmade, hstands⟩
  cases ending with
  | ok last =>
      have houtput : stream.output = stream.received ++ stream.feed.buffer := by
        rw [output, h.sent hstage, List.append_nil]
      exact ⟨packets, hstands.1 ▸ hprocesses, houtput.symm.trans hmade⟩
  | error error =>
      have hended : stream.feed.stage = .ended := hstands
      rw [hstage] at hended
      cases hended

/-- What the processor makes of a frame is to be sent, and then the producer is in no wait. -/
theorem made_of_accept (h : Delivering client processor stream)
    (hstage : stream.feed.stage = .value) (steps : List (Step (Option Frame)))
    (generation : Nat) (frame : Option Frame) {feed : Feed (Processor σ) Packet}
    (hfeed : stream.feed.accept displayItems stream.clock generation frame = feed) :
    feed.stage ≠ .value ∧
      ∃ packets ending,
        Processes processor (stream.taken ++ [⟨generation, frame, stream.clock⟩]) packets ending ∧
        stream.received ++ (feed.buffer ++ feed.unsent) = messages packets ending ∧
        Stands steps feed ending := by
  rcases h.made_of_value hstage with ⟨packets, hprocesses, hmade⟩
  cases hresult : (stream.feed.memory.process frame stream.clock).result with
  | ok more =>
      rw [Feed.accept_of_ok hresult] at hfeed
      subst hfeed
      refine ⟨nofun, packets ++ (more ++ []), _, hprocesses.concat (.makes hresult (.nothing _)),
        ?_, rfl, nofun⟩
      rw [← List.append_assoc, hmade, List.append_nil]
      exact List.map_append.symm
  | error error =>
      rw [Feed.accept_of_error hresult] at hfeed
      subst hfeed
      refine ⟨nofun, packets ++ [], _, hprocesses.concat (.fails hresult), ?_, rfl⟩
      rw [← List.append_assoc, hmade, List.append_nil]
      rfl

theorem wait (h : Delivering client processor stream) {step : Step (Option Frame)}
    (hnext : stream.hub.onward? client = some step) (hstage : stream.feed.stage = .value) :
    Delivering client processor (stream.wait client step) := by
  rcases h.made_of_value hstage with ⟨packets, hprocesses, hmade⟩
  have hbuffer : stream.received ++ (stream.feed.buffer ++ stream.feed.unsent) =
      packets.map .ok := by
    rw [h.sent hstage, List.append_nil]
    exact hmade
  have hgot := Hub.got_concat client stream.steps step
  change _ = _ ++ ((stream.hub.endAt client step).bind success?).toList at hgot
  unfold DisplayStream.wait
  rcases hends : stream.hub.endAt client step with _ | ⟨generation, reason | frame⟩
  · -- The wait goes on, and nothing has been taken.
    have hsame : got client (stream.steps ++ [step]) = got client stream.steps := by
      rw [hgot, hends]
      exact List.append_nil _
    apply h.waited hnext
    · intro hother
      exact absurd hstage hother
    · exact h.sent
    · exact h.seen_eq.trans (Hub.seen_of_got_eq hsame).symm
    · rw [hends]
      exact (List.append_nil _).symm
    · exact h.timely
    · exact h.past
    · refine ⟨packets, _, hprocesses, hbuffer, rfl, ?_⟩
      intro hended
      rw [hstage] at hended
      cases hended
  · -- The wait is refused, which ends the producer and not its processor.
    rcases Hub.end_of_onward? hnext hends with ⟨hidle, hclosed⟩
    have hsame : got client (stream.steps ++ [step]) = got client stream.steps := by
      rw [hgot, hends]
      exact List.append_nil _
    apply h.waited hnext
    · intro _
      exact hidle
    · intro hvalue
      cases hvalue
    · exact h.seen_eq.trans (Hub.seen_of_got_eq hsame).symm
    · rw [hends]
      exact (List.append_nil _).symm
    · exact h.timely
    · exact h.past
    · refine ⟨packets, _, hprocesses, hbuffer, rfl, ?_⟩
      intro _
      rw [closedBy_append, hclosed reason rfl, Bool.true_or]
  · -- The wait ends with a frame, which is taken.
    rcases Hub.end_of_onward? hnext hends with ⟨hidle, -⟩
    rcases h.made_of_accept hstage (stream.steps ++ [step]) generation frame rfl with
      ⟨hleft, hmade⟩
    apply h.waited hnext
    · intro _
      exact hidle
    · intro hvalue
      exact absurd hvalue hleft
    · rw [Feed.seen_accept]
      exact (Hub.seen_of_endAt hends).symm
    · rw [hends, List.map_append]
      rfl
    · apply List.pairwise_append.mpr
      refine ⟨h.timely, List.pairwise_singleton _ _, ?_⟩
      intro earlier hearlier later hlater
      rw [List.mem_singleton.mp hlater]
      exact h.past earlier hearlier
    · intro item hitem
      rcases List.mem_append.mp hitem with hold | hlast
      · exact h.past item hold
      · exact Nat.le_of_eq (congrArg Taking.time (List.mem_singleton.mp hlast))
    · exact hmade

theorem produce (h : Delivering client processor stream)
    (hproduce : stream.produce client = some next) : Delivering client processor next := by
  rcases produce_cases hproduce with
    ⟨hsent, hstage, -, rfl⟩ | ⟨-, hstage, step, hnext, rfl⟩ | ⟨hunsent, -, rfl⟩
  · rcases Feed.tick_cases stream.feed stream.clock with hsame | ⟨-, ticker, hticked⟩
    · rw [hsame]
      exact h
    · rw [hticked]
      apply h.refeed
      · rfl
      · rfl
      · simp [hstage]
      · intro hother
        exact absurd rfl hother
      · intro _
        exact hsent
      · rfl
  · exact h.wait hnext hstage
  · apply h.refeed
    · rfl
    · rfl
    · rfl
    · intro hother
      exact hother
    · intro hvalue
      exact absurd (h.sent hvalue) hunsent
    · rw [Feed.buffer_flush]
      rfl

theorem take (h : Delivering client processor stream) {item : Except Status Packet}
    {feed : Feed (Processor σ) Packet} (hpop : stream.feed.pop? = some (item, feed)) :
    Delivering client processor { stream with feed, received := stream.received ++ [item] } := by
  rcases Feed.pop?_eq_some_iff.mp hpop with ⟨rest, hbuffer, rfl⟩
  apply h.refeed
  · rfl
  · rfl
  · rfl
  · intro hother
    exact hother
  · exact h.sent
  · rw [output, hbuffer]
    simp

/-- Every move keeps what holds of a run. -/
theorem step (h : Delivering client processor stream)
    (hstep : stream.step client move = some next) : Delivering client processor next := by
  cases move with
  | elapse duration =>
      cases hstep
      exact h.elapse duration
  | produce =>
      exact h.produce hstep
  | take =>
      rcases Option.map_eq_some_iff.mp hstep with ⟨⟨item, feed⟩, hpop, rfl⟩
      exact h.take hpop
  | other step =>
      simp only [DisplayStream.step] at hstep
      split at hstep
      · cases hstep
      · cases hstep
        exact h.other ‹_›

theorem attempt (h : Delivering client processor stream) (move : Move) :
    Delivering client processor (stream.attempt client move) := by
  unfold DisplayStream.attempt
  cases hstep : stream.step client move with
  | none =>
      exact h
  | some next =>
      exact h.step hstep

theorem run (h : Delivering client processor stream) (moves : List Move) :
    Delivering client processor (stream.run client moves) := by
  induction moves generalizing stream with
  | nil =>
      exact h
  | cons move rest ih =>
      exact ih (h.attempt move)

end Delivering

/-! ## What goes on for ever -/

/-- A move is at most one step of the broadcaster. -/
theorem steps_step (hstep : stream.step client move = some next) : stream.steps <+: next.steps := by
  cases move with
  | elapse duration =>
      cases hstep
      exact List.prefix_rfl
  | produce =>
      rcases produce_cases hstep with ⟨-, -, -, rfl⟩ | ⟨-, -, step, -, rfl⟩ | ⟨-, -, rfl⟩
      · exact List.prefix_rfl
      · rw [steps_wait]
        exact List.prefix_append _ _
      · exact List.prefix_rfl
  | take =>
      rcases Option.map_eq_some_iff.mp hstep with ⟨_, -, rfl⟩
      exact List.prefix_rfl
  | other step =>
      simp only [DisplayStream.step] at hstep
      split at hstep
      · cases hstep
      · cases hstep
        exact List.prefix_append _ _

theorem steps_run (client : Nat) (stream : DisplayStream σ) (moves : List Move) :
    stream.steps <+: (stream.run client moves).steps := by
  induction moves generalizing stream with
  | nil =>
      exact List.prefix_rfl
  | cons move rest ih =>
      refine List.IsPrefix.trans ?_ (ih (stream.attempt client move))
      unfold attempt
      cases hstep : stream.step client move with
      | none =>
          exact List.prefix_rfl
      | some next =>
          exact steps_step hstep

/-- Once the producer has ended, it takes nothing and makes nothing more. -/
theorem step_of_ended (hended : stream.feed.stage = .ended)
    (hstep : stream.step client move = some next) :
    next.feed.stage = .ended ∧ next.taken = stream.taken ∧ next.output = stream.output := by
  cases move with
  | elapse duration =>
      cases hstep
      exact ⟨hended, rfl, rfl⟩
  | produce =>
      rcases produce_cases hstep with ⟨-, hstage, -⟩ | ⟨-, hstage, -⟩ | ⟨-, -, rfl⟩
      · rw [hended] at hstage
        cases hstage
      · rw [hended] at hstage
        cases hstage
      · refine ⟨hended, rfl, ?_⟩
        rw [output, Feed.buffer_flush]
        rfl
  | take =>
      rcases Option.map_eq_some_iff.mp hstep with ⟨⟨item, feed⟩, hpop, rfl⟩
      rcases Feed.pop?_eq_some_iff.mp hpop with ⟨rest, hbuffer, rfl⟩
      refine ⟨hended, rfl, ?_⟩
      rw [output, output, hbuffer]
      simp
  | other step =>
      simp only [DisplayStream.step] at hstep
      split at hstep
      · cases hstep
      · cases hstep
        exact ⟨hended, rfl, rfl⟩

theorem run_of_ended (hended : stream.feed.stage = .ended) (moves : List Move) :
    (stream.run client moves).taken = stream.taken ∧
      (stream.run client moves).output = stream.output := by
  induction moves generalizing stream with
  | nil =>
      exact ⟨rfl, rfl⟩
  | cons move rest ih =>
      have hfirst : (stream.attempt client move).feed.stage = .ended ∧
          (stream.attempt client move).taken = stream.taken ∧
          (stream.attempt client move).output = stream.output := by
        unfold attempt
        cases hstep : stream.step client move with
        | none =>
            exact ⟨hended, rfl, rfl⟩
        | some next =>
            exact step_of_ended hended hstep
      rcases hfirst with ⟨hstill, htaken, houtput⟩
      rcases ih hstill with ⟨htaken', houtput'⟩
      exact ⟨htaken'.trans htaken, houtput'.trans houtput⟩

/-! ## What is delivered -/

/-- However the steps of the callers, of the client's producer, of the client itself and of other
listeners come together, and however the time passes: the producer takes frames as they were
broadcast, each later than the one before and none older than what was current when the client began
to follow; and all that is made for the client are the packets that its processor makes of them, one
frame after another. When the processor fails, the status of the failure is the last thing that is
made for the client; otherwise the producer ends only by a closing. Where the producer can do
nothing, a client that has taken everything has received all of it; and where the producer is parked
while no caller is yet to notify, everything is sent and the last frame taken is the present one. -/
theorem delivers_what_is_processed (before : List (Step (Option Frame))) (processor : Processor σ)
    (rate clock : Nat) (moves : List Move) :
    let client := (Hub.after before).listeners.length
    let stream := (opened before processor rate clock).run client moves
    (∃ packets ending, Processes processor stream.taken packets ending ∧
      stream.output = messages packets ending ∧ Stands stream.steps stream.feed ending ∧
      ∀ error, ending = .error error → ∀ later,
        (stream.run client later).taken = stream.taken ∧
          (stream.run client later).output = stream.output) ∧
    stream.taken.Pairwise (fun earlier later =>
      earlier.generation < later.generation ∧ earlier.time ≤ later.time) ∧
    (∀ item ∈ stream.taken, storedAs stream.steps item.generation = some item.frame ∧
      (Hub.after before).slot.generation ≤ item.generation) ∧
    (stream.step client .produce = none → stream.feed.buffer = [] →
      stream.received = stream.output) ∧
    (stream.hub.unnotified = 0 → stream.hub.phase client = .parked →
      stream.feed.unsent = [] ∧
        stream.taken.getLast?.map (·.frame) = stream.hub.slot.value) := by
  intro client stream
  have h : Delivering client processor stream :=
    (delivering_opened before processor rate clock).run moves
  refine ⟨?_, ?_, ?_, ?_, ?_⟩
  · rcases h.made with ⟨packets, ending, hprocesses, hmade, hstands⟩
    refine ⟨packets, ending, hprocesses, hmade, hstands, ?_⟩
    rintro error rfl later
    exact run_of_ended hstands later
  · -- What has been taken is what the listener has got, and that in the order of the generations.
    have hincreasing := (Hub.inStep client stream.steps).increasing
    rw [← h.taken_eq, List.pairwise_map] at hincreasing
    exact hincreasing.and h.timely
  · intro item hitem
    have hgot : (item.generation, item.frame) ∈ got client stream.steps := by
      rw [← h.taken_eq]
      exact List.mem_map_of_mem hitem
    refine ⟨(Hub.inStep client stream.steps).fromStored _ hgot, ?_⟩
    -- The listener was made before anything else was done, so it has got nothing from earlier.
    rcases steps_run client (opened before processor rate clock) moves with ⟨later, hsteps⟩
    change before ++ [.listen] ++ later = stream.steps at hsteps
    rw [← hsteps, List.append_assoc] at hgot
    exact Hub.generation_le_of_mem_got hgot
  · intro hstuck hbuffer
    have hsent : stream.feed.unsent = [] := by
      simp only [step, produce, hbuffer] at hstuck
      split at hstuck
      · exact List.isEmpty_iff.mp ‹_›
      · cases hstuck
    rw [output, hbuffer, hsent, List.append_nil, List.append_nil]
  · intro hnotified hparked
    have hwaits : stream.feed.stage = .value := by
      by_contra hother
      rw [h.idle hother] at hparked
      cases hparked
    refine ⟨h.sent hwaits, ?_⟩
    have hlast := Hub.getLast?_got_of_parked hnotified hparked
    rw [← h.taken_eq, List.getLast?_map] at hlast
    have hframe := congrArg (Option.map Prod.snd) hlast
    rw [Option.map_map, Option.map_map] at hframe
    exact hframe.trans Option.map_id'

/-- A frame of one pixel comes before the blank one is taken, and another lacks a byte. -/
def brokenMoves : List Move :=
  [.elapse 1, .produce, .produce, .produce, .other (.store (some ⟨1, 1, [1, 2, 3]⟩)), .produce,
    .other .notify, .produce, .take, .elapse 40, .produce, .produce, .produce, .produce, .produce,
    .other (.store (some ⟨1, 1, [1, 2]⟩)), .other .notify, .produce, .produce, .produce, .take]

/-- A paced client misses the blank frame, and is told at last that a frame is not complete. -/
theorem delivers_what_is_processed_brokenFrame :
    let before : List (Step (Option Frame)) := [.listen, .store none, .notify]
    let start := opened before (Processor.new (.raw .rgb888) 0) 30 0
    let parked := start.run 1 (brokenMoves.take 15)
    let broken := start.run 1 brokenMoves
    (parked.hub.unnotified = 0 ∧ parked.hub.phase 1 = .parked) ∧
      parked.taken.getLast?.map (·.frame) = parked.hub.slot.value ∧
      broken.received =
        [.ok ⟨true, 1, 1, [1, 2, 3]⟩, .error ⟨.internal, "frame of 1x1 carries 2 bytes"⟩] ∧
      ∀ later, (broken.run 1 later).output = broken.output := by
  intro before start parked broken
  have hnotified : parked.hub.unnotified = 0 := by decide
  have hparked : parked.hub.phase 1 = .parked := by decide
  have hreceived : broken.received =
      [.ok ⟨true, 1, 1, [1, 2, 3]⟩, .error ⟨.internal, "frame of 1x1 carries 2 bytes"⟩] := by
    decide +kernel
  have hstuck : broken.step 1 .produce = none := by
    apply Option.isNone_iff_eq_none.mp
    decide +kernel
  have hbuffer : broken.feed.buffer = [] := by
    decide +kernel
  have hclient : (Hub.after before).listeners.length = 1 := by decide
  have hstart : opened before (.new (.raw .rgb888) 0) 30 0 = start := rfl
  have hruns : start.run 1 (brokenMoves.take 15) = parked ∧ start.run 1 brokenMoves = broken :=
    ⟨rfl, rfl⟩
  have hfirst :=
    delivers_what_is_processed before (.new (.raw .rgb888) 0) 30 0 (brokenMoves.take 15)
  have hlast := delivers_what_is_processed before (.new (.raw .rgb888) 0) 30 0 brokenMoves
  -- The runs are named before anything else is said of them, as they are long to compute.
  rw [hclient, hstart] at hfirst hlast
  dsimp only at hfirst hlast
  rw [hruns.1] at hfirst
  rw [hruns.2] at hlast
  rcases hfirst with ⟨-, -, -, -, hcurrent⟩
  rcases hlast with ⟨⟨packets, ending, -, hmade, -, hafter⟩, -, -, hcomplete, -⟩
  refine ⟨⟨hnotified, hparked⟩, (hcurrent hnotified hparked).2, hreceived, ?_⟩
  intro later
  cases ending with
  | ok last =>
      have houtput : broken.received = packets.map .ok := (hcomplete hstuck hbuffer).trans hmade
      rw [hreceived] at houtput
      rcases packets with _ | ⟨first, _ | ⟨second, more⟩⟩ <;> simp at houtput
  | error error =>
      exact (hafter error rfl later).2

end DisplayStream

end EmulatorHost.Agent
