import EmulatorHost.Proofs.Adb.Reading
import EmulatorHost.Proofs.Adb.Room

/-!
# Trading blocks with the peer

Some operations give the peer one block and want another block in return. When such an operation
succeeds it is known what has been written and read, and whatever comes of it, nothing but a
beginning of its block has been written. `Trades` says so of one operation, and operations one after
another trade their blocks one after another.
-/

namespace EmulatorHost.Adb

/-! ## Where a connection has gone on to -/

theorem Connection.Onward.takes {connection left : Connection} {rest data : Bytes}
    (honward : connection.Onward rest left) (htakes : connection.Takes data) :
    left.Takes data := by
  refine ⟨honward.isOpen, ?_⟩
  rw [honward.sink]
  exact htakes.2

/-- Where two blocks were written in turn, both were written. -/
theorem Connection.Onward.taking {connection middle left : Connection}
    {first second rest rest' : Bytes} (hfirst : (connection.taking first).Onward rest middle)
    (hsecond : (middle.taking second).Onward rest' left) :
    (connection.taking (first ++ second)).Onward rest' left where
  isOpen := hsecond.isOpen
  bytes := hsecond.bytes
  ending := hsecond.ending.trans hfirst.ending
  sink := by
    have hmiddle : middle.sink = (connection.taking first).sink := hfirst.sink
    calc left.sink
        = middle.sink.taking second := hsecond.sink
      _ = ((connection.taking first).taking second).sink := by rw [hmiddle]; rfl
      _ = (connection.taking (first ++ second)).sink := by rw [Connection.taking_append]

namespace Exchange

/-- On an open connection the operation succeeds exactly if it is `possible`, the peer takes the
block `given`, and the block `wanted` is what comes next; then that is all that has happened.
However it goes, what it writes is a beginning of `given`. -/
structure Trades (operation : Exchange Unit) (possible : Prop) (given wanted : Bytes) : Prop where
  succeeds : ∀ {connection : Connection} {rest : Bytes}, possible → connection.Takes given →
    connection.source.bytes = wanted ++ rest →
    ∃ left, (connection.taking given).Onward rest left ∧
      operation.on connection = (.ok (), left)
  demands : ∀ {connection left : Connection}, connection.isOpen = true →
    operation.on connection = (.ok (), left) →
    possible ∧ connection.Takes given ∧
      ∃ rest, connection.source.bytes = wanted ++ rest ∧
        (connection.taking given).Onward rest left
  writes : ∀ {connection : Connection}, connection.isOpen = true →
    ∃ written, written <+: given ∧
      (operation.on connection).2.sink.sent = connection.sink.sent ++ written

namespace Trades

variable {operation later : Exchange Unit} {possible possible' : Prop}
  {given given' wanted wanted' : Bytes}

theorem congr (htrades : Trades operation possible given wanted)
    (hpossible : possible ↔ possible') : Trades operation possible' given wanted := by
  rw [← propext hpossible]
  exact htrades

theorem pure : Trades (Pure.pure () : Exchange Unit) True [] [] where
  succeeds := by
    intro connection rest _ htakes hbytes
    rw [Connection.taking_nil]
    exact ⟨connection, .refl htakes.1 hbytes, rfl⟩
  demands := by
    intro connection left hopen hok
    cases hok
    rw [Connection.taking_nil]
    exact ⟨trivial, Connection.takes_nil.mpr hopen, _, rfl, .refl hopen rfl⟩
  writes := fun _ => ⟨[], List.nil_prefix, (List.append_nil _).symm⟩

theorem writeRaw (data : Bytes) : Trades (Exchange.writeRaw data) True data [] where
  succeeds := by
    intro connection rest _ htakes hbytes
    have hopen : (connection.taking data).isOpen = true := htakes.1
    exact ⟨_, .refl hopen hbytes, on_writeRaw_of_takes htakes⟩
  demands := by
    intro connection left hopen hok
    have htakes : connection.Takes data := by
      refine takes_of_writeRaw ?_
      rw [hok]
      exact (of_writeRaw_ok hok).2.1
    rw [on_writeRaw_of_takes htakes] at hok
    cases hok
    exact ⟨trivial, htakes, _, rfl, .refl hopen rfl⟩
  writes := by
    intro connection hopen
    rcases hwrite : (Exchange.writeRaw data).on connection with ⟨error | _, left⟩
    · exact of_writeRaw_error hwrite
    · exact ⟨data, List.prefix_refl data, (of_writeRaw_ok hwrite).2.2.2⟩

/-- An operation that only reads, and succeeds only if its block comes next. -/
theorem of_reads (hsilent : Silent operation) (hreads : Reads operation wanted ())
    (hneeds : ∀ {connection left : Connection}, operation.on connection = (.ok (), left) →
      ∃ rest, connection.source.bytes = wanted ++ rest) :
    Trades operation True [] wanted where
  succeeds := by
    intro connection rest _ htakes hbytes
    rw [Connection.taking_nil]
    exact hreads connection rest htakes.1 hbytes
  demands := by
    intro connection left hopen hok
    rcases hneeds hok with ⟨rest, hbytes⟩
    -- The block was there to be read, so this is the run that reads it.
    rcases hreads connection rest hopen hbytes with ⟨other, hother, hdone⟩
    have hsame : other = left := congrArg Prod.snd (hdone.symm.trans hok)
    rw [Connection.taking_nil]
    exact ⟨trivial, Connection.takes_nil.mpr hopen, rest, hbytes, hsame ▸ hother⟩
  writes := by
    intro connection hopen
    refine ⟨[], List.nil_prefix, ?_⟩
    rw [hsilent connection, List.append_nil]

/-- Operations one after another trade their blocks one after another. -/
theorem bind (hfirst : Trades operation possible given wanted)
    (hlater : Trades later possible' given' wanted') :
    Trades (do operation; later) (possible ∧ possible') (given ++ given') (wanted ++ wanted') where
  succeeds := by
    intro connection rest hpossible htakes hbytes
    rw [Connection.takes_append] at htakes
    rw [List.append_assoc] at hbytes
    rcases hfirst.succeeds hpossible.1 htakes.1 hbytes with ⟨middle, hmiddle, hdone⟩
    rcases hlater.succeeds hpossible.2 (hmiddle.takes htakes.2) hmiddle.bytes with
      ⟨left, hleft, hrest⟩
    exact ⟨left, hmiddle.taking hleft, (on_bind_of_ok hdone _).trans hrest⟩
  demands := by
    intro connection left hopen hok
    rcases of_bind_ok hok with ⟨_, middle, hdone, hrest⟩
    rcases hfirst.demands hopen hdone with ⟨hpossible, htakes, rest, hbytes, hmiddle⟩
    rcases hlater.demands hmiddle.isOpen hrest with ⟨hpossible', htakes', rest', hbytes', hleft⟩
    -- What the later operation found room for is what the first one had left.
    have hroom : (connection.taking given).Takes given' := by
      refine ⟨hopen, ?_⟩
      rw [← hmiddle.sink]
      exact htakes'.2
    have hwhole : connection.source.bytes = wanted ++ wanted' ++ rest' := by
      rw [hbytes, ← hmiddle.bytes, hbytes', List.append_assoc]
    exact ⟨⟨hpossible, hpossible'⟩, Connection.takes_append.mpr ⟨htakes, hroom⟩, rest', hwhole,
      hmiddle.taking hleft⟩
  writes := by
    intro connection hopen
    rcases hdone : operation.on connection with ⟨error | _, middle⟩
    · rcases hfirst.writes hopen with ⟨written, hwritten, hsent⟩
      rw [hdone] at hsent
      rw [on_bind_of_error hdone]
      exact ⟨written, hwritten.trans (List.prefix_append given given'), hsent⟩
    · -- The first operation has given all of its block, and the later one goes on after it.
      rcases hfirst.demands hopen hdone with ⟨-, -, rest, -, hmiddle⟩
      rcases hlater.writes hmiddle.isOpen with ⟨written, hwritten, hsent⟩
      rw [on_bind_of_ok hdone]
      refine ⟨given ++ written, (List.prefix_append_right_inj given).mpr hwritten, ?_⟩
      rw [hsent, hmiddle.sink, ← List.append_assoc]
      rfl

/-- An operation that only fails. -/
theorem refused (hsilent : Silent operation)
    (hfails : ∀ connection, (operation.on connection).1 ≠ .ok ()) :
    Trades operation False [] [] where
  succeeds := nofun
  demands := fun _ hok => absurd (congrArg Prod.fst hok) (hfails _)
  writes := by
    intro connection hopen
    refine ⟨[], List.nil_prefix, ?_⟩
    rw [hsilent connection, List.append_nil]

/-- An operation that is refused for what it is asked, without a look at the connection. -/
theorem guarded {bound : Prop} [Decidable bound] {refusal : Exchange Unit}
    (htrades : Trades operation possible given wanted) (hsilent : Silent refusal)
    (hfails : ∀ connection, (refusal.on connection).1 ≠ .ok ()) :
    Trades (if bound then operation else refusal) (bound ∧ possible) given wanted where
  succeeds := by
    intro connection rest hpossible
    rw [if_pos hpossible.1]
    exact htrades.succeeds hpossible.2
  demands := by
    intro connection left hopen hok
    split at hok
    · rename_i hbound
      rcases htrades.demands hopen hok with ⟨hpossible, hrest⟩
      exact ⟨⟨hbound, hpossible⟩, hrest⟩
    · exact absurd (congrArg Prod.fst hok) (hfails connection)
  writes := by
    intro connection hopen
    split
    · exact htrades.writes hopen
    · rcases (refused hsilent hfails).writes hopen with ⟨written, hwritten, hsent⟩
      exact ⟨written, hwritten.trans List.nil_prefix, hsent⟩

/-- Items that are given one after another. -/
theorem forM {α : Type} {give : α → Exchange Unit} {fits : α → Prop} {encode : α → Bytes}
    (hgive : ∀ item, Trades (give item) (fits item) (encode item) []) (items : List α) :
    Trades (items.forM give) (∀ item ∈ items, fits item) (items.flatMap encode) [] := by
  induction items with
  | nil =>
      exact pure.congr (iff_of_true trivial nofun)
  | cons item later ih =>
      exact ((hgive item).bind ih).congr List.forall_mem_cons.symm

end Trades

end Exchange

end EmulatorHost.Adb
