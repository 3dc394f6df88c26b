import EmulatorHost.Agent.Shell
import EmulatorHost.Proofs.Adb.ShellInput
import EmulatorHost.Proofs.Agent.DeviceCalls
import Mathlib.Data.List.TakeWhile

/-!
# Shell sessions

A session hears the client and the device through one queue, in which what each of them sends keeps
its order and nothing else is sure. Up to the first event that ends it, a session answers with the
outputs of the device, and passes on to the device what the client asks for; the last event is
answered once, and what is queued after it has no effect. The main statement is
`serves_up_to_last_event`.
-/

namespace EmulatorHost.Agent

open Adb

/-! ## Queues -/

/-- A queue in which two sources come together, each in its own order. -/
inductive Merges {α : Type} : List α → List α → List α → Prop where
  | nil : Merges [] [] []
  | first {item : α} {one other queue : List α} :
      Merges one other queue → Merges (item :: one) other (item :: queue)
  | second {item : α} {one other queue : List α} :
      Merges one other queue → Merges one (item :: other) (item :: queue)

namespace Merges

variable {α β : Type} {one other queue : List α}

theorem symm (hqueue : Merges one other queue) : Merges other one queue := by
  induction hqueue with
  | nil =>
      exact .nil
  | first _ ih =>
      exact .second ih
  | second _ ih =>
      exact .first ih

theorem of_first (one : List α) : Merges one [] one := by
  induction one with
  | nil =>
      exact .nil
  | cons item later ih =>
      exact .first ih

/-- One source may come as a whole before the other. -/
theorem append (one other : List α) : Merges one other (one ++ other) := by
  induction one with
  | nil =>
      exact (of_first other).symm
  | cons item later ih =>
      exact .first ih

theorem mem (hqueue : Merges one other queue) {item : α} (hitem : item ∈ queue) :
    item ∈ one ∨ item ∈ other := by
  induction hqueue with
  | nil =>
      cases hitem
  | first _ ih =>
      rcases List.mem_cons.mp hitem with rfl | hlater
      · exact Or.inl List.mem_cons_self
      · exact (ih hlater).imp_left (List.mem_cons_of_mem _)
  | second _ ih =>
      rcases List.mem_cons.mp hitem with rfl | hlater
      · exact Or.inr List.mem_cons_self
      · exact (ih hlater).imp_right (List.mem_cons_of_mem _)

/-- What only one source contains keeps its order in the queue. -/
theorem filterMap_eq (hqueue : Merges one other queue) {look : α → Option β}
    (hother : ∀ item ∈ other, look item = none) : queue.filterMap look = one.filterMap look := by
  induction hqueue with
  | nil =>
      rfl
  | first _ ih =>
      have hlater := ih hother
      simp only [List.filterMap_cons, hlater]
  | second _ ih =>
      rw [List.forall_mem_cons] at hother
      have hlater := ih hother.2
      simp only [List.filterMap_cons, hother.1, hlater]

/-- The beginning of a queue is made of beginnings of the sources. -/
theorem of_append {front back : List α} (hqueue : Merges one other (front ++ back)) :
    ∃ oneFront otherFront, oneFront <+: one ∧ otherFront <+: other ∧
      Merges oneFront otherFront front := by
  induction front generalizing one other with
  | nil =>
      exact ⟨[], [], List.nil_prefix, List.nil_prefix, .nil⟩
  | cons item front ih =>
      cases hqueue with
      | first hlater =>
          rcases ih hlater with ⟨oneFront, otherFront, hone, hother, hfront⟩
          have hgrown := (List.prefix_cons_inj item).mpr hone
          exact ⟨item :: oneFront, otherFront, hgrown, hother, .first hfront⟩
      | second hlater =>
          rcases ih hlater with ⟨oneFront, otherFront, hone, hother, hfront⟩
          have hgrown := (List.prefix_cons_inj item).mpr hother
          exact ⟨oneFront, item :: otherFront, hone, hgrown, .second hfront⟩

end Merges

/-! ## What comes in -/

structure ClientSide where
  messages : List ShellMessage
  ending : Option (Except Status Unit)

/-- What the device sends during a session: outputs, and what came after them if something has: the
exit code, or a failure. -/
structure DeviceSide where
  outputs : List (OutputChannel × Bytes)
  ending : Option (Except Error UInt8)

def ClientSide.events (client : ClientSide) : List SessionEvent :=
  client.messages.map (fun message => .client (.ok (some message))) ++
    client.ending.toList.map fun outcome => .client (outcome.map fun _ => none)

def SessionEvent.ofOutput : OutputChannel × Bytes → SessionEvent
  | (.out, data) => .device (.ok (.stdout data))
  | (.err, data) => .device (.ok (.stderr data))

def DeviceSide.events (device : DeviceSide) : List SessionEvent :=
  device.outputs.map .ofOutput ++
    device.ending.toList.map fun outcome => .device (outcome.map .exit)

namespace SessionEvent

def message? : SessionEvent → Option ShellMessage
  | client (.ok message) => message
  | _ => none

def output? : SessionEvent → Option (OutputChannel × Bytes)
  | device (.ok (.stdout data)) => some (.out, data)
  | device (.ok (.stderr data)) => some (.err, data)
  | _ => none

/-- The response to an event that ends the session. -/
def lastResponse? : SessionEvent → Option (Except Status ShellItem)
  | client (.ok (some (.start _ _ _))) | client (.ok (some .empty)) => some (.error unknownRequest)
  | client (.error status) => some (.error status)
  | device (.ok (.exit code)) => some (.ok (.exit code.toUInt32))
  | device (.error error) => some (.error error.status)
  | _ => none

end SessionEvent

theorem ClientSide.filterMap_message? (client : ClientSide) :
    client.events.filterMap SessionEvent.message? = client.messages := by
  have hmessages : (client.messages.map fun message =>
      SessionEvent.client (.ok (some message))).filterMap SessionEvent.message? =
        client.messages := by
    rw [List.filterMap_map]
    exact List.filterMap_some
  rw [events, List.filterMap_append, hmessages]
  rcases client.ending with _ | (_ | _) <;> exact List.append_nil _

theorem ClientSide.output?_eq_none (client : ClientSide) :
    ∀ event ∈ client.events, event.output? = none := by
  intro event hevent
  rcases List.mem_append.mp hevent with hmessage | hending
  · rcases List.mem_map.mp hmessage with ⟨message, -, rfl⟩
    rfl
  · rcases List.mem_map.mp hending with ⟨outcome, -, rfl⟩
    rfl

theorem SessionEvent.output?_ofOutput (output : OutputChannel × Bytes) :
    (ofOutput output).output? = some output := by
  rcases output with ⟨_ | _, data⟩ <;> rfl

theorem SessionEvent.message?_ofOutput (output : OutputChannel × Bytes) :
    (ofOutput output).message? = none := by
  rcases output with ⟨_ | _, data⟩ <;> rfl

theorem DeviceSide.filterMap_output? (device : DeviceSide) :
    device.events.filterMap SessionEvent.output? = device.outputs := by
  have houtputs : (device.outputs.map SessionEvent.ofOutput).filterMap SessionEvent.output? =
      device.outputs := by
    rw [List.filterMap_map]
    have hlook : SessionEvent.output? ∘ SessionEvent.ofOutput = some :=
      funext SessionEvent.output?_ofOutput
    rw [hlook]
    exact List.filterMap_some
  rw [events, List.filterMap_append, houtputs]
  rcases device.ending with _ | (_ | _) <;> exact List.append_nil _

theorem DeviceSide.message?_eq_none (device : DeviceSide) :
    ∀ event ∈ device.events, event.message? = none := by
  intro event hevent
  rcases List.mem_append.mp hevent with houtput | hending
  · rcases List.mem_map.mp houtput with ⟨output, -, rfl⟩
    exact SessionEvent.message?_ofOutput output
  · rcases List.mem_map.mp hending with ⟨outcome, -, rfl⟩
    rfl

/-- After its exit code the device is not heard again. -/
theorem ne_exited_of_merges {client : ClientSide} {device : DeviceSide}
    {queue : List SessionEvent} (hqueue : Merges client.events device.events queue) :
    ∀ event ∈ queue, event ≠ .device (.ok .exited) := by
  intro event hevent hexited
  rcases hqueue.mem hevent with hclient | hdevice
  · rcases List.mem_append.mp hclient with hmessage | hending
    · rcases List.mem_map.mp hmessage with ⟨message, -, hsame⟩
      rw [hexited] at hsame
      cases hsame
    · rcases List.mem_map.mp hending with ⟨outcome, -, hsame⟩
      rw [hexited] at hsame
      cases hsame
  · rcases List.mem_append.mp hdevice with houtput | hending
    · rcases List.mem_map.mp houtput with ⟨⟨_ | _, data⟩, -, hsame⟩ <;>
        (rw [hexited] at hsame; cases hsame)
    · rcases List.mem_map.mp hending with ⟨_ | _, -, hsame⟩ <;>
        (rw [hexited] at hsame; cases hsame)

theorem clientEvents_eq (stream : ClientStream ShellMessage) :
    ∃ client : ClientSide, client.messages = stream.messages ∧
      clientEvents stream = client.events := by
  cases hending : stream.ending with
  | none =>
      exact ⟨⟨stream.messages, some (.ok ())⟩, rfl, by rw [clientEvents, hending]; rfl⟩
  | some status =>
      exact ⟨⟨stream.messages, some (.error status)⟩, rfl, by rw [clientEvents, hending]; rfl⟩

theorem receivePacket_ne_exited (connection : Connection) :
    (Shell.receivePacket.on connection).1 ≠ .ok .exited := by
  intro hexited
  rw [Shell.receivePacket, Exchange.on_bind] at hexited
  split at hexited
  · dsimp only at hexited
    split at hexited
    · cases hexited
    · split at hexited
      · cases hexited
      · split at hexited <;> cases hexited
  · cases hexited

/-- What a reader yields before the exit code is never that it has exited. -/
theorem receive_of_running {reader left : Shell.Reader} {outcome : Except Error Shell.Event}
    (hrunning : reader.hasExited = false) (hreceive : reader.receive = (outcome, left)) :
    outcome ≠ .ok .exited ∧ ((∀ code, outcome ≠ .ok (.exit code)) → left.hasExited = false) := by
  have hpacket := receivePacket_ne_exited reader.connection
  rw [Shell.Reader.receive, hrunning, if_neg Bool.false_ne_true] at hreceive
  split at hreceive
  · rename_i code connection _
    cases hreceive
    exact ⟨nofun, fun hexit => absurd rfl (hexit code)⟩
  · rename_i hother
    rw [hother] at hpacket
    cases hreceive
    exact ⟨hpacket, fun _ => rfl⟩

/-- What the device is heard to send in a session are outputs, and then its exit or a failure. -/
theorem deviceEvents_eq (fuel : Nat) {reader : Shell.Reader}
    (hrunning : reader.hasExited = false) :
    ∃ device : DeviceSide, deviceEvents fuel reader = device.events := by
  induction fuel generalizing reader with
  | zero =>
      exact ⟨⟨[], none⟩, rfl⟩
  | succ fuel ih =>
      rcases hreceive : reader.receive with ⟨outcome, left⟩
      rcases receive_of_running hrunning hreceive with ⟨hexited, hleft⟩
      rw [deviceEvents, hreceive]
      rcases outcome with error | received
      · exact ⟨⟨[], some (.error error)⟩, rfl⟩
      · cases received with
        | stdout data =>
            rcases ih (hleft nofun) with ⟨device, hdevice⟩
            exact ⟨⟨(.out, data) :: device.outputs, device.ending⟩, congrArg _ hdevice⟩
        | stderr data =>
            rcases ih (hleft nofun) with ⟨device, hdevice⟩
            exact ⟨⟨(.err, data) :: device.outputs, device.ending⟩, congrArg _ hdevice⟩
        | exit code =>
            exact ⟨⟨[], some (.ok code)⟩, rfl⟩
        | exited =>
            exact absurd rfl hexited

/-- The queue of a session whose device is heard after the client is one of the queues in which the
two sides come together. -/
theorem merges_hostQueue (stream : ClientStream ShellMessage) (fuel : Nat)
    (connection : Connection) :
    ∃ (client : ClientSide) (device : DeviceSide), client.messages = stream.messages ∧
      Merges client.events device.events
        (clientEvents stream ++ deviceEvents fuel (Shell.split connection).1) := by
  rcases clientEvents_eq stream with ⟨client, hmessages, hclient⟩
  have hrunning : (Shell.split connection).1.hasExited = false := rfl
  rcases deviceEvents_eq fuel hrunning with ⟨device, hdevice⟩
  rw [hclient, hdevice]
  exact ⟨client, device, hmessages, .append _ _⟩

/-- What the beginning of a queue brings of either side is a beginning of what that side sends. -/
theorem prefixes_of_merges {client : ClientSide} {device : DeviceSide}
    {front back : List SessionEvent} (hqueue : Merges client.events device.events (front ++ back)) :
    front.filterMap SessionEvent.message? <+: client.messages ∧
      front.filterMap SessionEvent.output? <+: device.outputs := by
  rcases hqueue.of_append with ⟨said, heard, hsaid, hheard, hfront⟩
  have hmessages : front.filterMap SessionEvent.message? =
      said.filterMap SessionEvent.message? := by
    apply hfront.filterMap_eq
    intro event hevent
    exact device.message?_eq_none event (hheard.subset hevent)
  have houtputs : front.filterMap SessionEvent.output? =
      heard.filterMap SessionEvent.output? := by
    apply hfront.symm.filterMap_eq
    intro event hevent
    exact client.output?_eq_none event (hsaid.subset hevent)
  rw [hmessages, houtputs, ← client.filterMap_message?, ← device.filterMap_output?]
  exact ⟨hsaid.filterMap _, hheard.filterMap _⟩

/-- A whole queue brings all that either side sends. -/
theorem all_of_merges {client : ClientSide} {device : DeviceSide} {queue : List SessionEvent}
    (hqueue : Merges client.events device.events queue) :
    queue.filterMap SessionEvent.message? = client.messages ∧
      queue.filterMap SessionEvent.output? = device.outputs := by
  rw [hqueue.filterMap_eq device.message?_eq_none, hqueue.symm.filterMap_eq client.output?_eq_none]
  exact ⟨client.filterMap_message?, device.filterMap_output?⟩

/-! ## What goes out to the device -/

def ShellMessage.packet (channel : UInt8) (payload : Bytes) : Bytes :=
  channel :: Bytes.leBytes 4 payload.length ++ payload

/-- What a message says to the device. Of standard input there is a packet only if there is some,
and the end of it has a packet of its own. A size is told in decimal digits, with an `x` between rows
and columns and between width and height, and a comma between the pairs. -/
def ShellMessage.encoding : ShellMessage → Bytes
  | stdin data closes =>
    (if data = [] then [] else packet 0 data) ++ (if closes then packet 4 [] else [])
  | resize rows cols width height =>
    packet 5 (Shell.decimal rows ++ 0x78 :: Shell.decimal cols ++
      0x2c :: (Shell.decimal width ++ 0x78 :: Shell.decimal height))
  | start _ _ _ | empty => []

/-- What a message asks of the device; one that does not belong into a session asks nothing. -/
def ShellMessage.inputs (message : ShellMessage) : List Shell.Input :=
  message.inputs?.getD []

/-- Every write that these messages ask for succeeds. -/
def Writable (writer : Shell.Writer) (messages : List ShellMessage) : Prop :=
  (writeInputs writer (messages.flatMap ShellMessage.inputs)).1 = .ok ()

theorem writeInputs_append (writer : Shell.Writer) (inputs later : List Shell.Input) :
    writeInputs writer (inputs ++ later) =
      match writeInputs writer inputs with
      | (.ok (), left) => writeInputs left later
      | (.error status, left) => (.error status, left) := by
  induction inputs generalizing writer with
  | nil =>
      rfl
  | cons input inputs ih =>
      rw [List.cons_append, writeInputs, writeInputs]
      rcases writer.write input with ⟨_ | _, left⟩
      · rfl
      · exact ih left

theorem sent_writeInputs {writer left : Shell.Writer} {inputs : List Shell.Input}
    (hok : writeInputs writer inputs = (.ok (), left)) :
    left.connection.sink.sent =
      writer.connection.sink.sent ++ inputs.flatMap Shell.Input.frame := by
  induction inputs generalizing writer with
  | nil =>
      cases hok
      exact (List.append_nil _).symm
  | cons input later ih =>
      rw [writeInputs] at hok
      rcases hwrite : writer.write input with ⟨_ | _, middle⟩
      · rw [hwrite] at hok
        cases hok
      · rw [hwrite] at hok
        have hfirst := (Shell.of_write_ok hwrite).2
        simp [ih hok, hfirst]

/-- The packets of what a message asks for are its encoding. -/
theorem ShellMessage.packets_eq (message : ShellMessage) :
    message.inputs.flatMap Shell.Input.frame = message.encoding := by
  cases message with
  | stdin data closes =>
      cases data <;> cases closes <;> rfl
  | resize rows cols width height =>
      have hpacket : (resize rows cols width height).inputs.flatMap Shell.Input.frame =
          packet 5 (Bytes.ofString (Shell.windowText rows cols width height)) :=
        List.append_nil _
      rw [hpacket, Shell.ofString_windowText]
      rfl
  | start _ _ _ | empty =>
      rfl

theorem sent_messages {writer left : Shell.Writer} {messages : List ShellMessage}
    (hok : writeInputs writer (messages.flatMap ShellMessage.inputs) = (.ok (), left)) :
    left.connection.sink.sent =
      writer.connection.sink.sent ++ messages.flatMap ShellMessage.encoding := by
  rw [sent_writeInputs hok, List.flatMap_assoc]
  simp only [ShellMessage.packets_eq]

/-! ## What goes out to the client -/

def ShellItem.ofOutput : OutputChannel × Bytes → Except Status ShellItem
  | (channel, data) => .ok (.output channel data)

theorem session_of_inputs {message : ShellMessage} {inputs : List Shell.Input}
    (hinputs : message.inputs? = some inputs) {writer left : Shell.Writer}
    (hwrites : writeInputs writer inputs = (.ok (), left)) (rest : List SessionEvent) :
    session writer (.client (.ok (some message)) :: rest) = session left rest := by
  simp only [session, hinputs, hwrites]

/-- An event that does not end the session is served, and the session goes on. -/
theorem session_cons {event : SessionEvent} (hgoesOn : event.lastResponse? = none)
    (hexited : event ≠ .device (.ok .exited)) {writer left : Shell.Writer}
    (hwrites : writeInputs writer (event.message?.toList.flatMap ShellMessage.inputs) =
      (.ok (), left)) (rest : List SessionEvent) :
    (session writer (event :: rest)).1.responses =
        event.output?.toList.map ShellItem.ofOutput ++ (session left rest).1.responses ∧
      (session writer (event :: rest)).2 = (session left rest).2 := by
  cases event with
  | client outcome =>
      cases outcome with
      | error status =>
          cases hgoesOn
      | ok message? =>
          cases message? with
          | none =>
              cases hwrites
              exact ⟨rfl, rfl⟩
          | some message =>
              have hone : writeInputs writer message.inputs = (.ok (), left) := by
                simpa [SessionEvent.message?] using hwrites
              cases message with
              | stdin data closes | resize rows cols width height =>
                  rw [session_of_inputs rfl hone]
                  exact ⟨rfl, rfl⟩
              | start _ _ _ | empty =>
                  cases hgoesOn
  | device outcome =>
      -- Nothing is written for what the device sends.
      have hleft : left = writer := by
        cases outcome <;> (cases hwrites; rfl)
      rw [hleft]
      cases outcome with
      | error error =>
          cases hgoesOn
      | ok received =>
          cases received with
          | stdout data | stderr data =>
              exact ⟨rfl, rfl⟩
          | exit code =>
              cases hgoesOn
          | exited =>
              exact absurd rfl hexited

/-- The event that ends a session is answered once, and nothing after it counts. -/
theorem session_of_last {event : SessionEvent} {response : Except Status ShellItem}
    (hlast : event.lastResponse? = some response) (writer : Shell.Writer)
    (rest : List SessionEvent) :
    session writer (event :: rest) = (.ofLast response, writer) := by
  cases event with
  | client outcome =>
      rcases outcome with status | (_ | message)
      · cases hlast
        rfl
      · cases hlast
      · cases message with
        | start _ _ _ | empty =>
            cases hlast
            rfl
        | stdin _ _ | resize _ _ _ _ =>
            cases hlast
  | device outcome =>
      rcases outcome with error | received
      · cases hlast
        rfl
      · cases received with
        | exit code =>
            cases hlast
            rfl
        | stdout _ | stderr _ | exited =>
            cases hlast

/-- Queues that are served alike are served alike after the same events. -/
theorem session_congr {one other : List SessionEvent}
    (hsame : ∀ writer, session writer one = session writer other) (front : List SessionEvent)
    (writer : Shell.Writer) : session writer (front ++ one) = session writer (front ++ other) := by
  induction front generalizing writer with
  | nil =>
      exact hsame writer
  | cons event front ih =>
      rcases event with (_ | _ | _) | (_ | _ | _ | _ | _) <;>
        simp only [List.cons_append, session, ih]

/-- Events that do not end the session are served one after another. -/
theorem session_append {before : List SessionEvent}
    (hgoesOn : ∀ event ∈ before, event.lastResponse? = none)
    (hexited : ∀ event ∈ before, event ≠ .device (.ok .exited)) {writer left : Shell.Writer}
    (hwrites : writeInputs writer
      ((before.filterMap SessionEvent.message?).flatMap ShellMessage.inputs) = (.ok (), left))
    (rest : List SessionEvent) :
    (session writer (before ++ rest)).1.responses =
        (before.filterMap SessionEvent.output?).map ShellItem.ofOutput ++
          (session left rest).1.responses ∧
      (session writer (before ++ rest)).2 = (session left rest).2 := by
  induction before generalizing writer with
  | nil =>
      cases hwrites
      exact ⟨rfl, rfl⟩
  | cons event before ih =>
      rw [List.forall_mem_cons] at hgoesOn hexited
      have hmessages : (event :: before).filterMap SessionEvent.message? =
          event.message?.toList ++ before.filterMap SessionEvent.message? := by
        cases hmessage : event.message? <;> simp [hmessage]
      have houtputs : (event :: before).filterMap SessionEvent.output? =
          event.output?.toList ++ before.filterMap SessionEvent.output? := by
        cases houtput : event.output? <;> simp [houtput]
      rw [hmessages, List.flatMap_append, writeInputs_append] at hwrites
      split at hwrites
      · rename_i middle hfirst
        have hevent := session_cons hgoesOn.1 hexited.1 hfirst (before ++ rest)
        have hlater := ih hgoesOn.2 hexited.2 hwrites
        rw [houtputs, List.map_append, List.append_assoc, ← hlater.1, ← hlater.2]
        exact hevent
      · cases hwrites

/-! ## Whole sessions -/

/-- However the client's events and those of the device come together, and as long as what the
client asks for can be written, a session answers with the outputs of the device that come before the
first event that ends it, each on its channel, and passes on what the client has sent before it, both
in order and nothing else. The event that ends the session is answered once: a device's exit with its
code, and any other with a status. What is queued after it has no effect, and the end of the client's
stream is no such event. -/
theorem serves_up_to_last_event (client : ClientSide) (device : DeviceSide)
    (queue : List SessionEvent) (hqueue : Merges client.events device.events queue)
    (writer : Shell.Writer) :
    let before := queue.takeWhile (·.lastResponse?.isNone)
    let last? := queue.findSome? SessionEvent.lastResponse?
    let messages := before.filterMap SessionEvent.message?
    let outputs := before.filterMap SessionEvent.output?
    Writable writer messages →
    (messages <+: client.messages ∧ outputs <+: device.outputs ∧
        (last? = none → messages = client.messages ∧ outputs = device.outputs)) ∧
      (session writer queue).1.responses = outputs.map ShellItem.ofOutput ++ last?.toList ∧
      (session writer queue).2.connection.sink.sent =
        writer.connection.sink.sent ++ messages.flatMap ShellMessage.encoding ∧
      (∀ front last later other, queue = front ++ last :: later → last.lastResponse? ≠ none →
        session writer (front ++ last :: other) = session writer queue) ∧
      ∀ front later, queue = front ++ .client (.ok none) :: later →
        session writer (front ++ later) = session writer queue := by
  intro before last? messages outputs hwritable
  have hsplit : before ++ queue.dropWhile (·.lastResponse?.isNone) = queue :=
    List.takeWhile_append_dropWhile
  have hgoesOn : ∀ event ∈ before, event.lastResponse? = none := by
    intro event hevent
    have hkept := List.mem_takeWhile_imp hevent
    exact Option.isNone_iff_eq_none.mp hkept
  have hexited : ∀ event ∈ before, event ≠ .device (.ok .exited) := by
    intro event hevent
    exact ne_exited_of_merges hqueue event (List.takeWhile_subset _ hevent)
  rcases hleft : writeInputs writer (messages.flatMap ShellMessage.inputs) with ⟨written, left⟩
  have hwrites : writeInputs writer (messages.flatMap ShellMessage.inputs) = (.ok (), left) := by
    unfold Writable at hwritable
    rw [hleft] at hwritable ⊢
    exact congrArg (·, left) hwritable
  have hparts : messages <+: client.messages ∧ outputs <+: device.outputs := by
    rw [← hsplit] at hqueue
    exact prefixes_of_merges hqueue
  have hafter : ∀ front last later other, queue = front ++ last :: later →
      last.lastResponse? ≠ none → session writer (front ++ last :: other) =
        session writer queue := by
    rintro front last later other rfl hlast
    rcases Option.ne_none_iff_exists'.mp hlast with ⟨response, hresponse⟩
    apply session_congr
    intro writer
    rw [session_of_last hresponse, session_of_last hresponse]
  have hending : ∀ front later, queue = front ++ .client (.ok none) :: later →
      session writer (front ++ later) = session writer queue := by
    rintro front later rfl
    apply session_congr
    intro writer
    rfl
  have hsent := sent_messages hwrites
  have hserved := session_append hgoesOn hexited hwrites
    (queue.dropWhile (·.lastResponse?.isNone))
  have hnone : before.findSome? SessionEvent.lastResponse? = none := by
    rw [List.findSome?_eq_none_iff]
    exact hgoesOn
  rw [hsplit] at hserved
  rcases hserved with ⟨hresponses, hwriter⟩
  cases hrest : queue.dropWhile (·.lastResponse?.isNone) with
  | nil =>
      rw [hrest] at hsplit hresponses hwriter
      have hwhole : before = queue := by rw [← hsplit, List.append_nil]
      have hlast : last? = none := by
        simp only [last?, ← hwhole, hnone]
      refine ⟨⟨hparts.1, hparts.2, fun _ => ?_⟩, ?_, ?_, hafter, hending⟩
      · simp only [messages, outputs, hwhole]
        exact all_of_merges hqueue
      · rw [hresponses, hlast]
        rfl
      · rw [hwriter]
        exact hsent
  | cons last later =>
      rw [hrest] at hsplit hresponses hwriter
      have hends : last.lastResponse? ≠ none := by
        have hhead := List.head?_dropWhile_not (·.lastResponse?.isNone) queue
        rw [hrest] at hhead
        apply Option.isSome_iff_ne_none.mp
        simpa using hhead
      rcases Option.ne_none_iff_exists'.mp hends with ⟨response, hresponse⟩
      have hlast : last? = some response := by
        simp only [last?, ← hsplit, List.findSome?_append, hnone, List.findSome?_cons, hresponse,
          Option.none_or]
      rw [session_of_last hresponse, ServerStream.responses_ofLast] at hresponses
      rw [session_of_last hresponse] at hwriter
      refine ⟨⟨hparts.1, hparts.2, fun h => ?_⟩, ?_, ?_, hafter, hending⟩
      · rw [hlast] at h
        cases h
      · rw [hresponses, hlast]
        rfl
      · rw [hwriter]
        exact hsent

/-- A client that tells the size of its window, says `ls`, closes its standard input, and sends more
later. -/
def listingClient : ClientSide :=
  ⟨[.resize 24 80 4294967295 0, .stdin [0x6c, 0x73] true, .stdin [0x0a] false], some (.ok ())⟩

/-- A device that answers on both channels and exits with code 3. -/
def listingDevice : DeviceSide :=
  ⟨[(.out, [0x61]), (.err, [0x62])], some (.ok 3)⟩

/-- The last message, and the end of the client's stream, come after the exit. -/
def listingQueue : List SessionEvent :=
  [.client (.ok (some (.resize 24 80 4294967295 0))),
    .client (.ok (some (.stdin [0x6c, 0x73] true))), .device (.ok (.stdout [0x61])),
    .device (.ok (.stderr [0x62])), .device (.ok (.exit 3)),
    .client (.ok (some (.stdin [0x0a] false))), .client (.ok none)]

/-- A device that takes thirty-five bytes and no more. -/
def narrowWriter : Shell.Writer :=
  ⟨.ofPeer ⟨[], .finished⟩ ⟨[], some 35, .text "broken pipe"⟩⟩

/-- Both outputs and the exit code are told. The size of the window goes out as
`24x80,4294967295x0`. The last message, for which there is no room, is not written, and nobody is
told of a failure. -/
theorem serves_up_to_last_event_listing :
    Merges listingClient.events listingDevice.events listingQueue ∧
      Writable narrowWriter [.resize 24 80 4294967295 0, .stdin [0x6c, 0x73] true] ∧
      (session narrowWriter listingQueue).1.responses =
        [.ok (.output .out [0x61]), .ok (.output .err [0x62]), .ok (.exit 3)] ∧
      (session narrowWriter listingQueue).2.connection.sink.sent =
        [5, 18, 0, 0, 0, 0x32, 0x34, 0x78, 0x38, 0x30, 0x2c, 0x34, 0x32, 0x39, 0x34, 0x39, 0x36,
          0x37, 0x32, 0x39, 0x35, 0x78, 0x30, 0, 2, 0, 0, 0, 0x6c, 0x73, 4, 0, 0, 0, 0] := by
  have hqueue : Merges listingClient.events listingDevice.events listingQueue :=
    .first (.first (.second (.second (.second (.first (.first .nil))))))
  have hwritable : Writable narrowWriter
      [.resize 24 80 4294967295 0, .stdin [0x6c, 0x73] true] := rfl
  have hlaw := serves_up_to_last_event listingClient listingDevice listingQueue hqueue
    narrowWriter hwritable
  exact ⟨hqueue, hwritable, hlaw.2.1, hlaw.2.2.1⟩

end EmulatorHost.Agent
