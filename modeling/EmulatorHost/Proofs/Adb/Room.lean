import EmulatorHost.Proofs.Adb.Discipline

/-!
# Room on a connection

What of a connection decides whether a block can be written: that it is open, and the room that the
peer has left.
-/

namespace EmulatorHost.Adb

namespace Sink

/-- There is room for this many more bytes. -/
def HasRoom (sink : Sink) (count : Nat) : Prop :=
  ∀ room, sink.room = some room → count ≤ room

def taking (sink : Sink) (data : Bytes) : Sink :=
  { sink with sent := sink.sent ++ data, room := sink.room.map (· - data.length) }

theorem write_of_hasRoom {sink : Sink} {data : Bytes} (hroom : sink.HasRoom data.length) :
    sink.write data = (.ok (), sink.taking data) := by
  rcases sink with ⟨sent, _ | room, fault⟩
  · rfl
  · exact if_pos (hroom room rfl)

theorem write_of_not_hasRoom {sink : Sink} {data : Bytes} (hroom : ¬ sink.HasRoom data.length) :
    (sink.write data).1 = .error sink.fault := by
  rcases sink with ⟨sent, _ | room, fault⟩
  · exact absurd nofun hroom
  · have hless : ¬ data.length ≤ room := by
      intro hle
      refine hroom ?_
      rintro _ ⟨⟩
      exact hle
    simp [write, hless]

theorem taking_append (sink : Sink) (first second : Bytes) :
    (sink.taking first).taking second = sink.taking (first ++ second) := by
  rcases sink with ⟨sent, _ | room, fault⟩
  · simp [taking]
  · simp [taking, Nat.sub_sub]

/-- There is room for two blocks if there is room for the first, and for the second after it. -/
theorem hasRoom_append {sink : Sink} {first second : Bytes} :
    sink.HasRoom (first ++ second).length ↔
      sink.HasRoom first.length ∧ (sink.taking first).HasRoom second.length := by
  rcases sink with ⟨sent, _ | room, fault⟩
  · simp [HasRoom, taking]
  · simp only [HasRoom, taking, Option.map_some, Option.some.injEq, forall_eq', List.length_append]
    omega

end Sink

namespace Connection

/-- The connection is open and the peer takes the whole of a block. -/
def Takes (connection : Connection) (data : Bytes) : Prop :=
  connection.isOpen = true ∧ connection.sink.HasRoom data.length

/-- The connection after a block that the peer takes. -/
def taking (connection : Connection) (data : Bytes) : Connection :=
  { connection with sink := connection.sink.taking data }

theorem taking_append (connection : Connection) (first second : Bytes) :
    (connection.taking first).taking second = connection.taking (first ++ second) :=
  congrArg (fun sink => { connection with sink }) (connection.sink.taking_append first second)

theorem takes_append {connection : Connection} {first second : Bytes} :
    connection.Takes (first ++ second) ↔
      connection.Takes first ∧ (connection.taking first).Takes second := by
  unfold Takes
  rw [Sink.hasRoom_append]
  exact ⟨fun h => ⟨⟨h.1, h.2.1⟩, h.1, h.2.2⟩, fun h => ⟨h.1.1, h.1.2, h.2.2⟩⟩

theorem takes_nil {connection : Connection} : connection.Takes [] ↔ connection.isOpen = true :=
  ⟨fun h => h.1, fun h => ⟨h, fun _ _ => Nat.zero_le _⟩⟩

theorem taking_nil (connection : Connection) : connection.taking [] = connection := by
  rcases connection with ⟨source, ⟨sent, _ | room, fault⟩, isOpen⟩ <;> simp [taking, Sink.taking]

end Connection

namespace Exchange

theorem on_writeRaw_of_takes {connection : Connection} {data : Bytes}
    (htakes : connection.Takes data) :
    (writeRaw data).on connection = (.ok (), connection.taking data) := by
  rw [on_writeRaw, if_pos htakes.1, Sink.write_of_hasRoom htakes.2]
  rfl

theorem on_writeRaw_of_not_takes {connection : Connection} {data : Bytes}
    (htakes : ¬ connection.Takes data) :
    ∃ error left, (writeRaw data).on connection = (.error error, left) ∧ left.isOpen = false := by
  cases hopen : connection.isOpen with
  | true =>
      have hfail := Sink.write_of_not_hasRoom fun hroom => htakes ⟨hopen, hroom⟩
      rw [on_writeRaw, if_pos hopen]
      rcases hwrite : connection.sink.write data with ⟨cause | _, sink⟩
      · exact ⟨_, _, rfl, rfl⟩
      · rw [hwrite] at hfail
        cases hfail
  | false =>
      exact ⟨_, _, on_writeRaw_of_closed data hopen, hopen⟩

/-- Items are written one after another as long as the peer takes them. -/
theorem on_forM_of_takes {α : Type} {write : α → Exchange Unit} {encode : α → Bytes}
    {items : List α}
    (hwrite : ∀ item ∈ items, ∀ connection : Connection, connection.Takes (encode item) →
      (write item).on connection = (.ok (), connection.taking (encode item)))
    {connection : Connection} (htakes : connection.Takes (items.flatMap encode)) :
    (items.forM write).on connection = (.ok (), connection.taking (items.flatMap encode)) := by
  induction items generalizing connection with
  | nil =>
      rw [List.flatMap_nil, Connection.taking_nil]
      rfl
  | cons item later ih =>
      rw [List.forall_mem_cons] at hwrite
      rw [List.flatMap_cons, Connection.takes_append] at htakes
      have hfirst := hwrite.1 connection htakes.1
      have hlater := ih hwrite.2 htakes.2
      calc ((item :: later).forM write).on connection
          = (later.forM write).on (connection.taking (encode item)) := on_bind_of_ok hfirst _
        _ = (.ok (), (connection.taking (encode item)).taking (later.flatMap encode)) := hlater
        _ = (.ok (), connection.taking ((item :: later).flatMap encode)) := by
            rw [Connection.taking_append, List.flatMap_cons]

/-- Only a block that the peer takes leaves the connection open. -/
theorem takes_of_writeRaw {connection : Connection} {data : Bytes}
    (hopen : ((writeRaw data).on connection).2.isOpen = true) : connection.Takes data := by
  refine Classical.byContradiction fun hnot => ?_
  rcases on_writeRaw_of_not_takes hnot with ⟨error, left, hfail, hclosed⟩
  rw [hfail, hclosed] at hopen
  cases hopen

end Exchange

end EmulatorHost.Adb
