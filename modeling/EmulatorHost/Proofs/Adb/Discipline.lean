import EmulatorHost.Adb.Connection

/-!
# The discipline of operations on a connection

How operations run, and three laws that pass from operations to those built of them:

* `Disciplined` — a failure closes the connection, and a closed connection is left as it is;
* `FailsClosed` — on a closed connection the operation fails with a certain error;
* `Silent` — the operation writes nothing.
-/

namespace EmulatorHost.Adb

namespace Sink

theorem sent_of_write_ok {data : Bytes} {sink next : Sink}
    (hok : sink.write data = (.ok (), next)) : next.sent = sink.sent ++ data := by
  unfold write at hok
  split at hok
  · cases hok
    rfl
  · split at hok <;> cases hok
    rfl

theorem sent_of_write_error {data : Bytes} {sink next : Sink} {cause : SystemError}
    (hfail : sink.write data = (.error cause, next)) :
    ∃ part, part <+: data ∧ next.sent = sink.sent ++ part := by
  unfold write at hfail
  split at hfail
  · cases hfail
  · rename_i room _
    split at hfail <;> cases hfail
    exact ⟨data.take room, List.take_prefix room data, rfl⟩

end Sink

namespace Exchange

variable {α β : Type}

/-! ## Running operations -/

@[simp] theorem on_pure (value : α) (connection : Connection) :
    (pure value : Exchange α).on connection = (.ok value, connection) :=
  rfl

@[simp] theorem on_fail (error : Error) (connection : Connection) :
    (fail error : Exchange α).on connection =
      (.error error, { connection with isOpen := false }) :=
  rfl

/-- The second operation runs on the connection that the first one leaves, unless that failed. -/
theorem on_bind (operation : Exchange α) (next : α → Exchange β) (connection : Connection) :
    (operation >>= next).on connection =
      match operation.on connection with
      | (.ok value, left) => (next value).on left
      | (.error error, left) => (.error error, left) := by
  change (match operation connection with
    | (outcome, left) => ExceptT.bindCont next outcome left) = _
  unfold on
  rcases operation connection with ⟨outcome | outcome, left⟩ <;> rfl

theorem on_bind_of_ok {operation : Exchange α} {connection left : Connection} {value : α}
    (hfirst : operation.on connection = (.ok value, left)) (next : α → Exchange β) :
    (operation >>= next).on connection = (next value).on left := by
  rw [on_bind, hfirst]

theorem on_bind_of_error {operation : Exchange α} {connection left : Connection} {error : Error}
    (hfirst : operation.on connection = (.error error, left)) (next : α → Exchange β) :
    (operation >>= next).on connection = (.error error, left) := by
  rw [on_bind, hfirst]

/-- Operations one after another succeed only if each does. -/
theorem of_bind_ok {operation : Exchange α} {next : α → Exchange β} {connection left : Connection}
    {value : β} (hok : (operation >>= next).on connection = (.ok value, left)) :
    ∃ first middle, operation.on connection = (.ok first, middle) ∧
      (next first).on middle = (.ok value, left) := by
  rw [on_bind] at hok
  split at hok
  · rename_i first middle hfirst
    exact ⟨first, middle, hfirst, hok⟩
  · cases hok

@[simp] theorem on_get (connection : Connection) :
    (get : Exchange Connection).on connection = (.ok connection, connection) :=
  rfl

theorem on_writeRaw (data : Bytes) (connection : Connection) :
    (writeRaw data).on connection =
      if connection.isOpen then
        match connection.sink.write data with
        | (.ok (), sink) => (.ok (), { connection with sink })
        | (.error cause, sink) => (.error (.io cause), { connection with sink, isOpen := false })
      else (.error .closed, connection) := by
  rw [writeRaw, on_bind_of_ok (on_get connection)]
  split
  · rcases connection.sink.write data with ⟨_ | _, sink⟩ <;> rfl
  · rfl

theorem on_readRaw (count : Nat) (connection : Connection) :
    (readRaw count).on connection =
      if connection.isOpen then
        match connection.source.readExact count with
        | (.ok block, source) => (.ok block, { connection with source })
        | (.error cause, source) =>
          (.error (.io cause), { connection with source, isOpen := false })
      else (.error .closed, connection) := by
  rw [readRaw, on_bind_of_ok (on_get connection)]
  split
  · rcases connection.source.readExact count with ⟨_ | _, source⟩ <;> rfl
  · rfl

theorem on_readLine (connection : Connection) :
    readLine.on connection =
      if connection.isOpen then
        match takeLine connection.source.ending [] connection.source.segments with
        | (line, .feed, segments) =>
          (.ok (some (lineText line)),
            { connection with source := { connection.source with segments } })
        | (line, .finished, segments) =>
          (.ok (if line.isEmpty then none else some (lineText line)),
            { connection with source := { connection.source with segments }, isOpen := false })
        | (_, .failed cause, segments) =>
          (.error (.io cause),
            { connection with source := { connection.source with segments }, isOpen := false })
      else (.error .closed, connection) := by
  rw [readLine, on_bind_of_ok (on_get connection)]
  split
  · rcases takeLine connection.source.ending [] connection.source.segments with
      ⟨line, _ | _ | _, segments⟩ <;> rfl
  · rfl

theorem on_writeRaw_of_closed (data : Bytes) {connection : Connection}
    (hclosed : connection.isOpen = false) :
    (writeRaw data).on connection = (.error .closed, connection) := by
  simp [on_writeRaw, hclosed]

theorem on_readRaw_of_closed (count : Nat) {connection : Connection}
    (hclosed : connection.isOpen = false) :
    (readRaw count).on connection = (.error .closed, connection) := by
  simp [on_readRaw, hclosed]

theorem on_readLine_of_closed {connection : Connection} (hclosed : connection.isOpen = false) :
    readLine.on connection = (.error .closed, connection) := by
  simp [on_readLine, hclosed]

/-! ## Disciplined operations -/

structure Disciplined (operation : Exchange α) : Prop where
  closes : ∀ {connection left : Connection} {error : Error},
    operation.on connection = (.error error, left) → left.isOpen = false
  keeps : ∀ {connection : Connection}, connection.isOpen = false →
    (operation.on connection).2 = connection

theorem close_of_closed {connection : Connection} (hclosed : connection.isOpen = false) :
    { connection with isOpen := false } = connection := by
  cases connection
  simp_all

namespace Disciplined

theorem pure (value : α) : Disciplined (Pure.pure value : Exchange α) where
  closes := by
    intro connection left error hfail
    cases hfail
  keeps := fun _ => rfl

theorem close : Disciplined Exchange.close where
  closes := by
    intro connection left error hfail
    cases hfail
  keeps := fun hclosed => close_of_closed hclosed

theorem fail (error : Error) : Disciplined (Exchange.fail error : Exchange α) where
  closes := by
    intro connection left error hfail
    cases hfail
    rfl
  keeps := fun hclosed => close_of_closed hclosed

theorem bind {operation : Exchange α} {next : α → Exchange β} (hfirst : Disciplined operation)
    (hnext : ∀ value, Disciplined (next value)) : Disciplined (operation >>= next) where
  closes := by
    intro connection left error hfail
    rw [on_bind] at hfail
    split at hfail
    · exact (hnext _).closes hfail
    · rename_i hearly
      cases hfail
      exact hfirst.closes hearly
  keeps := by
    intro connection hclosed
    have hkept := hfirst.keeps hclosed
    rw [on_bind]
    split
    · rename_i value left hok
      rw [hok] at hkept
      -- The first operation has left the closed connection to the second one.
      have hsame : left = connection := hkept
      rw [hsame]
      exact (hnext value).keeps hclosed
    · rename_i error left hfail
      rw [hfail] at hkept
      exact hkept

theorem ite {condition : Prop} [Decidable condition] {one other : Exchange α}
    (hone : Disciplined one) (hother : Disciplined other) :
    Disciplined (if condition then one else other) := by
  split
  · exact hone
  · exact hother

/-- Only an open connection is at stake in an operation that refuses a closed one. -/
theorem of_open {operation : Exchange α}
    (hopen : ∀ {connection left : Connection} {error : Error}, connection.isOpen = true →
      operation.on connection = (.error error, left) → left.isOpen = false)
    (hclosed : ∀ {connection : Connection}, connection.isOpen = false →
      operation.on connection = (.error .closed, connection)) : Disciplined operation where
  closes := by
    intro connection left error hfail
    cases hstate : connection.isOpen with
    | true =>
        exact hopen hstate hfail
    | false =>
        rw [hclosed hstate] at hfail
        cases hfail
        exact hstate
  keeps := by
    intro connection hstate
    rw [hclosed hstate]

theorem writeRaw (data : Bytes) : Disciplined (Exchange.writeRaw data) := by
  refine of_open ?_ (on_writeRaw_of_closed data)
  intro connection left error hopen hfail
  rw [on_writeRaw, if_pos hopen] at hfail
  split at hfail <;> cases hfail
  rfl

theorem readRaw (count : Nat) : Disciplined (Exchange.readRaw count) := by
  refine of_open ?_ (on_readRaw_of_closed count)
  intro connection left error hopen hfail
  rw [on_readRaw, if_pos hopen] at hfail
  split at hfail <;> cases hfail
  rfl

theorem readLine : Disciplined Exchange.readLine := by
  refine of_open ?_ on_readLine_of_closed
  intro connection left error hopen hfail
  rw [on_readLine, if_pos hopen] at hfail
  split at hfail <;> cases hfail
  rfl

theorem writeMessage (payload : Bytes) : Disciplined (Exchange.writeMessage payload) :=
  ite (writeRaw _) (fail _)

theorem writePacket (channel : UInt8) (payload : Bytes) :
    Disciplined (Exchange.writePacket channel payload) :=
  ite (writeRaw _) (fail _)

theorem readBlock (length limit : Nat) : Disciplined (Exchange.readBlock length limit) :=
  ite (readRaw _) (fail _)

theorem readWord : Disciplined Exchange.readWord :=
  bind (readRaw 4) fun _ => pure _

theorem readStatus : Disciplined Exchange.readStatus :=
  readRaw 4

theorem readMessage : Disciplined Exchange.readMessage := by
  refine bind (readRaw 4) ?_
  intro digits
  split
  · exact readBlock _ _
  · exact fail _

theorem readPacket : Disciplined Exchange.readPacket :=
  bind (readRaw 5) fun _ => bind (readBlock _ _) fun _ => pure _

theorem sendCommand (command : Bytes) : Disciplined (Exchange.sendCommand command) := by
  refine bind (writeMessage command) fun _ => bind readStatus fun status => ?_
  refine ite (pure _) (bind readMessage fun reply => ?_)
  exact ite (fail _) (fail _)

end Disciplined

/-! ## Failing on a closed connection -/

/-- On a closed connection the operation fails with this error. -/
def FailsClosed (operation : Exchange α) (error : Error) : Prop :=
  ∀ connection : Connection, connection.isOpen = false →
    (operation.on connection).1 = .error error

namespace FailsClosed

theorem fail (error : Error) : FailsClosed (Exchange.fail error : Exchange α) error :=
  fun _ _ => rfl

/-- What begins with a failure fails. -/
theorem bind {operation : Exchange α} {error : Error} (hfirst : FailsClosed operation error)
    (next : α → Exchange β) : FailsClosed (operation >>= next) error := by
  intro connection hclosed
  have hfail := hfirst connection hclosed
  rw [on_bind]
  split
  · rename_i value left hok
    rw [hok] at hfail
    cases hfail
  · rename_i early left hearly
    rw [hearly] at hfail
    have hsame : early = error := by simpa using hfail
    rw [hsame]

/-- A bound is checked before the connection is looked at. -/
theorem bounded {bound : Prop} [Decidable bound] {operation : Exchange α}
    (hoperation : FailsClosed operation .closed) (error : Error) :
    FailsClosed (if bound then operation else Exchange.fail error)
      ((if bound then none else some error).getD .closed) := by
  split
  · exact hoperation
  · exact fail error

theorem writeRaw (data : Bytes) : FailsClosed (Exchange.writeRaw data) .closed := by
  intro connection hclosed
  rw [on_writeRaw_of_closed data hclosed]

theorem readRaw (count : Nat) : FailsClosed (Exchange.readRaw count) .closed := by
  intro connection hclosed
  rw [on_readRaw_of_closed count hclosed]

theorem readLine : FailsClosed Exchange.readLine .closed := by
  intro connection hclosed
  rw [on_readLine_of_closed hclosed]

end FailsClosed

/-! ## Silent operations -/

/-- An operation is silent if it writes nothing. -/
def Silent (operation : Exchange α) : Prop :=
  ∀ connection, (operation.on connection).2.sink = connection.sink

namespace Silent

theorem pure (value : α) : Silent (Pure.pure value : Exchange α) :=
  fun _ => rfl

theorem close : Silent Exchange.close :=
  fun _ => rfl

theorem get : Silent (MonadState.get : Exchange Connection) :=
  fun _ => rfl

theorem throw (error : Error) : Silent (MonadExcept.throw error : Exchange α) :=
  fun _ => rfl

theorem fail (error : Error) : Silent (Exchange.fail error : Exchange α) :=
  fun _ => rfl

/-- After a first operation a silent one leaves what the first one wrote. -/
theorem sink_bind {operation : Exchange α} {next : α → Exchange β}
    (hnext : ∀ value, Silent (next value)) (connection : Connection) :
    ((operation >>= next).on connection).2.sink = (operation.on connection).2.sink := by
  rw [on_bind]
  split
  · rename_i value left hok
    rw [hok]
    exact hnext value left
  · rename_i error left hfail
    rw [hfail]

theorem bind {operation : Exchange α} {next : α → Exchange β} (hfirst : Silent operation)
    (hnext : ∀ value, Silent (next value)) : Silent (operation >>= next) :=
  fun connection => (sink_bind hnext connection).trans (hfirst connection)

theorem ite {condition : Prop} [Decidable condition] {one other : Exchange α}
    (hone : Silent one) (hother : Silent other) :
    Silent (if condition then one else other) := by
  split
  · exact hone
  · exact hother

theorem readRaw (count : Nat) : Silent (Exchange.readRaw count) := by
  intro connection
  rw [on_readRaw]
  split
  · split <;> rfl
  · rfl

theorem readLine : Silent Exchange.readLine := by
  intro connection
  rw [on_readLine]
  split
  · split <;> rfl
  · rfl

theorem readBlock (length limit : Nat) : Silent (Exchange.readBlock length limit) :=
  ite (readRaw _) (fail _)

theorem readMessage : Silent Exchange.readMessage := by
  refine bind (readRaw 4) ?_
  intro digits
  split
  · exact readBlock _ _
  · exact fail _

theorem readPacket : Silent Exchange.readPacket :=
  bind (readRaw 5) fun _ => bind (readBlock _ _) fun _ => pure _

/-- After its frame a command only reads. -/
theorem sink_sendCommand (command : Bytes) (connection : Connection) :
    ((sendCommand command).on connection).2.sink =
      ((writeMessage command).on connection).2.sink := by
  refine sink_bind (fun _ => bind (readRaw 4) fun status => ?_) connection
  exact ite (pure _) (bind readMessage fun _ => ite (fail _) (fail _))

end Silent

/-! ## What a write leaves -/

/-- A block is written whole. -/
theorem of_writeRaw_ok {data : Bytes} {connection left : Connection}
    (hok : (writeRaw data).on connection = (.ok (), left)) :
    connection.isOpen = true ∧ left.isOpen = true ∧ left.source = connection.source ∧
      left.sink.sent = connection.sink.sent ++ data := by
  rw [on_writeRaw] at hok
  split at hok
  · rename_i hopen
    split at hok <;> cases hok
    rename_i sink hwrite
    exact ⟨hopen, hopen, rfl, Sink.sent_of_write_ok hwrite⟩
  · cases hok

/-- Of a block whose write fails a beginning is written. -/
theorem of_writeRaw_error {data : Bytes} {connection left : Connection} {error : Error}
    (hfail : (writeRaw data).on connection = (.error error, left)) :
    ∃ part, part <+: data ∧ left.sink.sent = connection.sink.sent ++ part := by
  rw [on_writeRaw] at hfail
  split at hfail
  · split at hfail <;> cases hfail
    rename_i sink hwrite
    exact Sink.sent_of_write_error hwrite
  · cases hfail
    exact ⟨[], List.nil_prefix, (List.append_nil _).symm⟩

end Exchange

end EmulatorHost.Adb
