import EmulatorHost.Proofs.Adb.Discipline
import EmulatorHost.Proofs.Adb.Messages

/-!
# Sequences of operations on a connection

The operations that a connection offers, as data, and what holds of any sequence of them. A failure
closes the connection for good: what comes after fails as well, and neither reads nor writes. So
what the peer has taken is a sequence of whole frames, and after them at most a beginning of the one
whose write failed. The main statement is `closes_for_good`.
-/

namespace EmulatorHost.Adb

inductive Yield where
  | nothing
  | bytes (bytes : Bytes)
  | word (word : UInt32)
  | packet (channel : UInt8) (payload : Bytes)
  | line (text : Option String)
deriving DecidableEq, Repr

inductive Operation where
  | writeRaw (data : Bytes)
  | writeMessage (payload : Bytes)
  | writePacket (channel : UInt8) (payload : Bytes)
  | readRaw (count : Nat)
  | readBlock (length limit : Nat)
  | readWord
  | readStatus
  | readMessage
  | readPacket
  | readLine
  | sendCommand (command : Bytes)
  | close
deriving DecidableEq, Repr

namespace Operation

open Exchange

def perform : Operation → Exchange Yield
  | writeRaw data => do
    Exchange.writeRaw data
    return .nothing
  | writeMessage payload => do
    Exchange.writeMessage payload
    return .nothing
  | writePacket channel payload => do
    Exchange.writePacket channel payload
    return .nothing
  | readRaw count => return .bytes (← Exchange.readRaw count)
  | readBlock length limit => return .bytes (← Exchange.readBlock length limit)
  | readWord => return .word (← Exchange.readWord)
  | readStatus => return .bytes (← Exchange.readStatus)
  | readMessage => return .bytes (← Exchange.readMessage)
  | readPacket => do
    let (channel, payload) ← Exchange.readPacket
    return .packet channel payload
  | readLine => return .line (← Exchange.readLine)
  | sendCommand command => do
    Exchange.sendCommand command
    return .nothing
  | close => do
    Exchange.close
    return .nothing

/-- The error of an operation whose length is out of bounds, whatever the connection. -/
def sizeError? : Operation → Option Error
  | writeMessage payload | sendCommand payload =>
    if payload.length ≤ maxMessageLength then none
    else some (.framing ("message of " ++ toString payload.length ++
      " bytes does not fit a 4 digit length"))
  | writePacket _ payload =>
    if payload.length < Bytes.limit 4 then none
    else some (.framing ("blob of " ++ toString payload.length ++ " bytes is too large"))
  | readBlock length limit =>
    if length ≤ limit then none
    else some (.protocol ("peer announced " ++ toString length ++ " bytes, limit is " ++
      toString limit))
  | _ => none

def onClosed : Operation → Except Error Yield
  | close => .ok .nothing
  | operation => .error (operation.sizeError?.getD .closed)

/-- The frame that an operation is to write, if it writes: raw data as they are, a message behind four
hexadecimal digits of its length, a packet behind its channel and four bytes of its length. -/
def frame? : Operation → Option Bytes
  | writeRaw data => some data
  | writeMessage payload | sendCommand payload => some (paddedHex payload.length ++ payload)
  | writePacket channel payload => some (channel :: (Bytes.leBytes 4 payload.length ++ payload))
  | _ => none

def write : Operation → Exchange Unit
  | writeRaw data => Exchange.writeRaw data
  | writeMessage payload | sendCommand payload => Exchange.writeMessage payload
  | writePacket channel payload => Exchange.writePacket channel payload
  | _ => pure ()

/-- The frame of an operation whose write succeeds. -/
def written (connection : Connection) (operation : Operation) : List Bytes :=
  match operation.frame?, (operation.write.on connection).1 with
  | some frame, .ok () => [frame]
  | _, _ => []

/-- The frame of an operation whose write fails on an open connection. -/
def broken (connection : Connection) (operation : Operation) : List Bytes :=
  match operation.frame?, (operation.write.on connection).1 with
  | some frame, .error _ => if connection.isOpen then [frame] else []
  | _, _ => []

def leftBy (connection : Connection) : List Operation → Connection
  | [] => connection
  | operation :: rest => leftBy (operation.perform.on connection).2 rest

/-- What there is to see at the operations of a sequence, in order. -/
def collect {α : Type} (look : Connection → Operation → List α) (connection : Connection) :
    List Operation → List α
  | [] => []
  | operation :: rest =>
    look connection operation ++ collect look (operation.perform.on connection).2 rest

/-! ## One operation -/

theorem disciplined (operation : Operation) : Disciplined operation.perform := by
  cases operation with
  | writeRaw data =>
      exact (Disciplined.writeRaw data).bind fun _ => .pure _
  | writeMessage payload =>
      exact (Disciplined.writeMessage payload).bind fun _ => .pure _
  | writePacket channel payload =>
      exact (Disciplined.writePacket channel payload).bind fun _ => .pure _
  | readRaw count =>
      exact (Disciplined.readRaw count).bind fun _ => .pure _
  | readBlock length limit =>
      exact (Disciplined.readBlock length limit).bind fun _ => .pure _
  | readWord =>
      exact Disciplined.readWord.bind fun _ => .pure _
  | readStatus =>
      exact Disciplined.readStatus.bind fun _ => .pure _
  | readMessage =>
      exact Disciplined.readMessage.bind fun _ => .pure _
  | readPacket =>
      exact Disciplined.readPacket.bind fun _ => .pure _
  | readLine =>
      exact Disciplined.readLine.bind fun _ => .pure _
  | sendCommand command =>
      exact (Disciplined.sendCommand command).bind fun _ => .pure _
  | close =>
      exact Disciplined.close.bind fun _ => .pure _

theorem failsClosed_writeMessage (payload : Bytes) :
    FailsClosed (Exchange.writeMessage payload) ((writeMessage payload).sizeError?.getD .closed) :=
  .bounded (.writeRaw _) _

theorem perform_of_closed (operation : Operation) {connection : Connection}
    (hclosed : connection.isOpen = false) :
    (operation.perform.on connection).1 = operation.onClosed := by
  cases operation with
  | writeRaw data =>
      exact (FailsClosed.writeRaw data).bind _ connection hclosed
  | writeMessage payload =>
      exact (failsClosed_writeMessage payload).bind _ connection hclosed
  | writePacket channel payload =>
      exact (FailsClosed.bounded (.writeRaw _) _).bind _ connection hclosed
  | readRaw count =>
      exact (FailsClosed.readRaw count).bind _ connection hclosed
  | readBlock length limit =>
      exact (FailsClosed.bounded (.readRaw _) _).bind _ connection hclosed
  | readWord =>
      exact ((FailsClosed.readRaw 4).bind _).bind _ connection hclosed
  | readStatus =>
      exact (FailsClosed.readRaw 4).bind _ connection hclosed
  | readMessage =>
      exact ((FailsClosed.readRaw 4).bind _).bind _ connection hclosed
  | readPacket =>
      exact ((FailsClosed.readRaw 5).bind _).bind _ connection hclosed
  | readLine =>
      exact FailsClosed.readLine.bind _ connection hclosed
  | sendCommand command =>
      exact ((failsClosed_writeMessage command).bind _).bind _ connection hclosed
  | close =>
      rfl

/-- What an operation writes is what its writing part writes. -/
theorem sink_perform (operation : Operation) (connection : Connection) :
    (operation.perform.on connection).2.sink = (operation.write.on connection).2.sink := by
  cases operation with
  | writeRaw data =>
      exact Silent.sink_bind (fun _ => .pure _) connection
  | writeMessage payload =>
      exact Silent.sink_bind (fun _ => .pure _) connection
  | writePacket channel payload =>
      exact Silent.sink_bind (fun _ => .pure _) connection
  | sendCommand command =>
      calc ((sendCommand command).perform.on connection).2.sink
          = ((Exchange.sendCommand command).on connection).2.sink :=
            Silent.sink_bind (fun _ => .pure _) connection
        _ = ((Exchange.writeMessage command).on connection).2.sink :=
            Silent.sink_sendCommand command connection
  | readRaw count =>
      exact (Silent.readRaw count).bind (fun _ => .pure _) connection
  | readBlock length limit =>
      exact (Silent.readBlock length limit).bind (fun _ => .pure _) connection
  | readWord =>
      exact ((Silent.readRaw 4).bind fun _ => .pure _).bind (fun _ => .pure _) connection
  | readStatus =>
      exact (Silent.readRaw 4).bind (fun _ => .pure _) connection
  | readMessage =>
      exact Silent.readMessage.bind (fun _ => .pure _) connection
  | readPacket =>
      exact Silent.readPacket.bind (fun _ => .pure _) connection
  | readLine =>
      exact Silent.readLine.bind (fun _ => .pure _) connection
  | close =>
      exact Silent.close.bind (fun _ => .pure _) connection

/-- An operation whose writing part fails has failed. -/
theorem perform_of_write_error {operation : Operation} {connection left : Connection}
    {error : Error} (hfail : operation.write.on connection = (.error error, left)) :
    operation.perform.on connection = (.error error, left) := by
  cases operation with
  | sendCommand command =>
      exact on_bind_of_error (on_bind_of_error hfail _) _
  | writeRaw data =>
      exact on_bind_of_error hfail _
  | writeMessage payload =>
      exact on_bind_of_error hfail _
  | writePacket channel payload =>
      exact on_bind_of_error hfail _
  | _ =>
      cases hfail

/-- A message is written behind its length, or refused for it. -/
theorem writeMessage_eq (payload : Bytes) :
    Exchange.writeMessage payload = Exchange.writeRaw (paddedHex payload.length ++ payload) ∨
      ∃ cause, Exchange.writeMessage payload = fail cause := by
  by_cases hfits : payload.length ≤ maxMessageLength
  · exact Or.inl (writeMessage_of_fits hfits)
  · exact Or.inr ⟨_, if_neg hfits⟩

theorem writePacket_eq (channel : UInt8) (payload : Bytes) :
    Exchange.writePacket channel payload =
        Exchange.writeRaw (channel :: (Bytes.leBytes 4 payload.length ++ payload)) ∨
      ∃ cause, Exchange.writePacket channel payload = fail cause := by
  by_cases hfits : payload.length < Bytes.limit 4
  · exact Or.inl (if_pos hfits)
  · exact Or.inr ⟨_, if_neg hfits⟩

/-- The writing part of an operation writes its frame, or refuses it for its size. -/
theorem write_eq (operation : Operation) :
    (operation.frame? = none ∧ operation.write = pure ()) ∨
      ∃ frame, operation.frame? = some frame ∧
        (operation.write = Exchange.writeRaw frame ∨ ∃ error, operation.write = fail error) := by
  cases operation with
  | writeRaw data =>
      exact Or.inr ⟨data, rfl, Or.inl rfl⟩
  | writeMessage payload =>
      exact Or.inr ⟨_, rfl, writeMessage_eq payload⟩
  | writePacket channel payload =>
      exact Or.inr ⟨_, rfl, writePacket_eq channel payload⟩
  | sendCommand command =>
      exact Or.inr ⟨_, rfl, writeMessage_eq command⟩
  | _ =>
      exact Or.inl ⟨rfl, rfl⟩

theorem written_of_ok {operation : Operation} {connection left : Connection} {frame : Bytes}
    (hframe : operation.frame? = some frame)
    (hok : operation.write.on connection = (.ok (), left)) :
    written connection operation = [frame] ∧ broken connection operation = [] := by
  simp [written, broken, hframe, hok]

theorem written_of_error {operation : Operation} {connection left : Connection} {frame : Bytes}
    {error : Error} (hframe : operation.frame? = some frame)
    (hfail : operation.write.on connection = (.error error, left)) :
    written connection operation = [] ∧
      broken connection operation = if connection.isOpen then [frame] else [] := by
  simp [written, broken, hframe, hfail]

theorem written_of_none {operation : Operation} (connection : Connection)
    (hframe : operation.frame? = none) :
    written connection operation = [] ∧ broken connection operation = [] := by
  simp [written, broken, hframe]

/-- A failed write leaves a beginning of its frame, and a closed connection not even that. -/
theorem sent_of_write_error {operation : Operation} {connection left : Connection}
    {frame : Bytes} {error : Error}
    (hwrite : operation.write = Exchange.writeRaw frame ∨ ∃ cause, operation.write = fail cause)
    (hfail : operation.write.on connection = (.error error, left)) :
    ∃ part, part <+: (if connection.isOpen then [frame] else []).flatten ∧
      left.sink.sent = connection.sink.sent ++ part := by
  rcases hwrite with hwrite | ⟨cause, hwrite⟩
  · rw [hwrite] at hfail
    cases hopen : connection.isOpen with
    | true =>
        simpa using of_writeRaw_error hfail
    | false =>
        rw [on_writeRaw_of_closed frame hopen] at hfail
        cases hfail
        exact ⟨[], List.nil_prefix, by simp⟩
  · rw [hwrite, on_fail] at hfail
    cases hfail
    exact ⟨[], List.nil_prefix, by simp⟩

/-- What one operation adds to the bytes written: its frame, or a beginning of it when its write
fails, which closes the connection. -/
theorem sent_perform (operation : Operation) (connection : Connection) :
    ∃ part, (operation.perform.on connection).2.sink.sent =
        connection.sink.sent ++ (written connection operation).flatten ++ part ∧
      part <+: (broken connection operation).flatten ∧
      (broken connection operation = [] ∨
        (∃ frame, broken connection operation = [frame]) ∧
          (operation.perform.on connection).2.isOpen = false) := by
  -- What else the operation does is reading, so only its writing part counts.
  rw [sink_perform]
  rcases operation.write_eq with ⟨hframe, hwrite⟩ | ⟨frame, hframe, hwrite⟩
  · have hnone := written_of_none connection hframe
    rw [hnone.1, hnone.2, hwrite]
    exact ⟨[], by simp, List.nil_prefix, Or.inl rfl⟩
  · rcases hrun : operation.write.on connection with ⟨error | _, left⟩
    · have hbroken := written_of_error hframe hrun
      have hfail := perform_of_write_error hrun
      have hclosed : (operation.perform.on connection).2.isOpen = false := by
        rw [hfail]
        exact operation.disciplined.closes hfail
      rw [hbroken.1, hbroken.2]
      rcases sent_of_write_error hwrite hrun with ⟨part, hpart, hsent⟩
      refine ⟨part, by simpa using hsent, hpart, ?_⟩
      cases connection.isOpen with
      | true =>
          exact Or.inr ⟨⟨frame, rfl⟩, hclosed⟩
      | false =>
          exact Or.inl rfl
    · have hwritten := written_of_ok hframe hrun
      rw [hwritten.1, hwritten.2]
      have hsent : left.sink.sent = connection.sink.sent ++ frame := by
        rcases hwrite with hwrite | ⟨cause, hwrite⟩
        · rw [hwrite] at hrun
          exact (of_writeRaw_ok hrun).2.2.2
        · rw [hwrite, on_fail] at hrun
          cases hrun
      exact ⟨[], by simpa using hsent, List.nil_prefix, Or.inl rfl⟩

/-! ## Sequences -/

/-- A closed connection stays as it is. -/
theorem leftBy_of_closed {connection : Connection} (hclosed : connection.isOpen = false)
    (operations : List Operation) : leftBy connection operations = connection := by
  induction operations with
  | nil =>
      rfl
  | cons operation rest ih =>
      rw [leftBy, operation.disciplined.keeps hclosed]
      exact ih

theorem leftBy_append (connection : Connection) (before later : List Operation) :
    leftBy connection (before ++ later) = leftBy (leftBy connection before) later := by
  induction before generalizing connection with
  | nil =>
      rfl
  | cons operation rest ih =>
      exact ih _

/-- On a closed connection an operation writes no frame, and breaks none. -/
theorem written_of_closed (operation : Operation) {connection : Connection}
    (hclosed : connection.isOpen = false) :
    written connection operation = [] ∧ broken connection operation = [] := by
  rcases operation.write_eq with ⟨hframe, -⟩ | ⟨frame, hframe, hwrite⟩
  · exact written_of_none connection hframe
  · have hfail : ∃ error left, operation.write.on connection = (.error error, left) := by
      rcases hwrite with hwrite | ⟨cause, hwrite⟩ <;> rw [hwrite]
      · exact ⟨_, _, on_writeRaw_of_closed frame hclosed⟩
      · exact ⟨_, _, on_fail cause connection⟩
    rcases hfail with ⟨error, left, hfail⟩
    simpa [hclosed] using written_of_error hframe hfail

theorem collect_of_closed {connection : Connection} (hclosed : connection.isOpen = false)
    (operations : List Operation) :
    collect written connection operations = [] ∧ collect broken connection operations = [] := by
  induction operations with
  | nil =>
      exact ⟨rfl, rfl⟩
  | cons operation rest ih =>
      simp only [collect, operation.disciplined.keeps hclosed,
        operation.written_of_closed hclosed, ih, List.append_nil, and_self]

/-- The peer has taken the frames that were written, in order, and then at most a beginning of the
one frame that was broken. -/
theorem sent_leftBy (operations : List Operation) (connection : Connection) :
    ∃ part, (leftBy connection operations).sink.sent =
        connection.sink.sent ++ (collect written connection operations).flatten ++ part ∧
      part <+: (collect broken connection operations).flatten ∧
      (collect broken connection operations).length ≤ 1 := by
  induction operations generalizing connection with
  | nil =>
      exact ⟨[], by simp [leftBy, collect], List.nil_prefix, Nat.zero_le 1⟩
  | cons operation rest ih =>
      rcases sent_perform operation connection with ⟨first, hsent, hfirst, hwhole | hbroken⟩
      · -- No frame is broken here, so what follows has the connection as it was left.
        rcases ih (operation.perform.on connection).2 with ⟨part, hrest, hpart, hone⟩
        have hnothing : first = [] := by simpa [hwhole] using hfirst
        refine ⟨part, ?_, by simpa [collect, hwhole] using hpart,
          by simpa [collect, hwhole] using hone⟩
        simp [leftBy, collect, hrest, hsent, hnothing]
      · -- The broken frame is the last thing that the peer takes of this connection.
        rcases hbroken with ⟨⟨frame, hframe⟩, hclosed⟩
        have hafter := collect_of_closed hclosed rest
        refine ⟨first, ?_, by simpa [collect, hafter.2] using hfirst,
          by simp [collect, hafter.2, hframe]⟩
        simp [leftBy, collect, leftBy_of_closed hclosed, hafter.1, hsent]

/-- A failed operation closes the connection. Once it is closed it stays as it is, so that nothing
is read or written any more, and every operation fails: with the error of its own size check, if
that refuses it, and otherwise because the connection is closed. What has been written in all are
whole frames, and then at most a beginning of the one whose write failed. -/
theorem closes_for_good (operations : List Operation) (connection : Connection) :
    (∀ before operation later, operations = before ++ operation :: later →
      let now := leftBy connection before
      let (outcome, after) := operation.perform.on now
      ((∃ error, outcome = .error error) → after.isOpen = false) ∧
        (now.isOpen = false →
          outcome = operation.onClosed ∧ after = now ∧ leftBy connection operations = now)) ∧
      ∃ part, (leftBy connection operations).sink.sent =
          connection.sink.sent ++ (collect written connection operations).flatten ++ part ∧
        part <+: (collect broken connection operations).flatten ∧
        (collect broken connection operations).length ≤ 1 := by
  refine ⟨?_, sent_leftBy operations connection⟩
  intro before operation later hsplit
  refine ⟨?_, fun hclosed => ⟨operation.perform_of_closed hclosed, ?_, ?_⟩⟩
  · rintro ⟨error, hfail⟩
    exact operation.disciplined.closes (Prod.ext hfail rfl)
  · exact operation.disciplined.keeps hclosed
  · rw [hsplit, leftBy_append]
    exact leftBy_of_closed hclosed _

/-- A peer that takes eight bytes and no more. -/
def narrowPeer : Connection :=
  .ofPeer ⟨[statusOkay], .finished⟩ ⟨[], some 8, .text "broken pipe"⟩

/-- Of the second of two frames of six bytes the peer has taken two, and the status that it has
sent is not read any more. -/
theorem closes_for_good_tornFrame :
    let greeting := writeMessage [0x68, 0x69]
    let frame : Bytes := [0x30, 0x30, 0x30, 0x32, 0x68, 0x69]
    let torn := leftBy narrowPeer [greeting, greeting]
    (greeting.perform.on (leftBy narrowPeer [greeting])).2.isOpen = false ∧
      (readStatus.perform.on torn).1 = .error .closed ∧
      leftBy narrowPeer [greeting, greeting, readStatus] = torn ∧
      ∃ part, (leftBy narrowPeer [greeting, greeting, readStatus]).sink.sent =
          frame ++ part ∧ part <+: frame := by
  have hlaw := closes_for_good
    [writeMessage [0x68, 0x69], writeMessage [0x68, 0x69], readStatus] narrowPeer
  have htear := hlaw.1 [writeMessage [0x68, 0x69]] (writeMessage [0x68, 0x69]) [readStatus] rfl
  have hread := hlaw.1 [writeMessage [0x68, 0x69], writeMessage [0x68, 0x69]] readStatus [] rfl
  have hclosed := htear.1 ⟨_, rfl⟩
  rcases hlaw.2 with ⟨part, hsent, hpart, -⟩
  exact ⟨hclosed, (hread.2 hclosed).1, (hread.2 hclosed).2.2, part, hsent, hpart⟩

/-- The size check of a command comes before the look at the connection, as those of a message and
of a packet do: it is not only messages and blocks whose own error hides that the connection is
closed. -/
theorem closed_hidden_by_size :
    ¬ ∀ (connection : Connection) (before : List Operation) (operation : Operation),
      (leftBy connection before).isOpen = false →
      operation ≠ close →
      (∀ payload, operation = writeMessage payload → payload.length ≤ maxMessageLength) →
      (∀ length limit, operation = readBlock length limit → length ≤ limit) →
      (operation.perform.on (leftBy connection before)).1 = .error .closed := by
  intro hclaim
  have hlong : ¬ (List.replicate 65536 (0x61 : UInt8)).length ≤ maxMessageLength := by
    rw [List.length_replicate]
    decide
  have hclosed := hclaim narrowPeer [close] (sendCommand (List.replicate 65536 0x61)) rfl
    nofun nofun nofun
  rw [perform_of_closed _ rfl, onClosed, sizeError?, if_neg hlong] at hclosed
  · cases hclosed
  · nofun

end Operation

end EmulatorHost.Adb
