import EmulatorHost.Proofs.Adb.Discipline

/-!
# What reading leaves

A read that succeeds leaves the connection open with the bytes after it still to come, however the
bytes were cut into segments (`Connection.Onward`). A read that fails breaks the connection
(`Exchange.Breaks`), and an operation that is done over and over finds it closed from then on.
-/

namespace EmulatorHost.Adb

/-- The connection, open, has gone on to where `rest` is still to come; nothing was written. -/
structure Connection.Onward (connection : Connection) (rest : Bytes) (left : Connection) :
    Prop where
  isOpen : left.isOpen = true
  bytes : left.source.bytes = rest
  ending : left.source.ending = connection.source.ending
  sink : left.sink = connection.sink

theorem Connection.Onward.refl {connection : Connection} {rest : Bytes}
    (hopen : connection.isOpen = true) (hbytes : connection.source.bytes = rest) :
    connection.Onward rest connection :=
  ⟨hopen, hbytes, rfl, rfl⟩

theorem Connection.Onward.trans {connection middle left : Connection} {rest rest' : Bytes}
    (hfirst : connection.Onward rest middle) (hnext : middle.Onward rest' left) :
    connection.Onward rest' left where
  isOpen := hnext.isOpen
  bytes := hnext.bytes
  ending := hnext.ending.trans hfirst.ending
  sink := hnext.sink.trans hfirst.sink

namespace Exchange

variable {α β : Type} {connection left : Connection}

/-! ## Reads that succeed -/

theorem on_readRaw_of_append {count : Nat} {block rest : Bytes} (hopen : connection.isOpen = true)
    (hbytes : connection.source.bytes = block ++ rest) (hcount : block.length = count) :
    ∃ left, connection.Onward rest left ∧ (readRaw count).on connection = (.ok block, left) := by
  have hthere : count ≤ connection.source.bytes.length := by
    rw [hbytes, List.length_append]
    omega
  -- An exact read says what it has read by the bytes alone, however they were cut.
  rcases Source.readExact_of_le hthere with ⟨hblock, hrest, hending⟩
  rcases hread : connection.source.readExact count with ⟨outcome, source⟩
  rw [hread, hbytes, List.take_left' hcount] at hblock
  rw [hread, hbytes, List.drop_left' hcount] at hrest
  rw [hread] at hending
  have honward : connection.Onward rest { connection with source } := ⟨hopen, hrest, hending, rfl⟩
  refine ⟨_, honward, ?_⟩
  have houtcome : outcome = .ok block := hblock
  rw [on_readRaw, if_pos hopen, hread, houtcome]

theorem on_readRaw_of_le (connection : Connection) {count : Nat}
    (hopen : connection.isOpen = true) (hlength : count ≤ connection.source.bytes.length) :
    ∃ left, (readRaw count).on connection = (.ok (connection.source.bytes.take count), left) := by
  have hsplit : connection.source.bytes =
      connection.source.bytes.take count ++ connection.source.bytes.drop count :=
    (List.take_append_drop count _).symm
  rcases on_readRaw_of_append hopen hsplit (List.length_take_of_le hlength) with ⟨left, -, hread⟩
  exact ⟨left, hread⟩

theorem on_readBlock_of_append {limit : Nat} {block rest : Bytes} (hopen : connection.isOpen = true)
    (hbytes : connection.source.bytes = block ++ rest) (hlimit : block.length ≤ limit) :
    ∃ left, connection.Onward rest left ∧
      (readBlock block.length limit).on connection = (.ok block, left) := by
  rw [readBlock, if_pos hlimit]
  exact on_readRaw_of_append hopen hbytes rfl

/-- These bytes, when they come next, are read as this value, and those after them stay. -/
def Reads (operation : Exchange α) (block : Bytes) (value : α) : Prop :=
  ∀ (connection : Connection) (rest : Bytes), connection.isOpen = true →
    connection.source.bytes = block ++ rest →
    ∃ left, connection.Onward rest left ∧ operation.on connection = (.ok value, left)

namespace Reads

theorem pure (value : α) : Reads (Pure.pure value : Exchange α) [] value := by
  intro connection rest hopen hbytes
  exact ⟨connection, .refl hopen hbytes, rfl⟩

theorem readRaw {count : Nat} {block : Bytes} (hcount : block.length = count) :
    Reads (Exchange.readRaw count) block block := by
  intro connection rest hopen hbytes
  exact on_readRaw_of_append hopen hbytes hcount

theorem readBlock {limit : Nat} {block : Bytes} (hlimit : block.length ≤ limit) :
    Reads (Exchange.readBlock block.length limit) block block := by
  intro connection rest hopen hbytes
  exact on_readBlock_of_append hopen hbytes hlimit

/-- What is read in two parts comes in two parts. -/
theorem bind {operation : Exchange α} {next : α → Exchange β} {first second : Bytes} {value : α}
    {result : β} (hfirst : Reads operation first value) (hnext : Reads (next value) second result) :
    Reads (operation >>= next) (first ++ second) result := by
  intro connection rest hopen hbytes
  rw [List.append_assoc] at hbytes
  rcases hfirst connection _ hopen hbytes with ⟨middle, hmiddle, hread⟩
  rcases hnext middle rest hmiddle.isOpen hmiddle.bytes with ⟨left, hleft, hrest⟩
  exact ⟨left, hmiddle.trans hleft, (on_bind_of_ok hread next).trans hrest⟩

/-- What is made of a value alone needs no further bytes. -/
theorem map {operation : Exchange α} {block : Bytes} {value : α}
    (hread : Reads operation block value) (f : α → β) :
    Reads (do return f (← operation)) block (f value) := by
  have hboth : Reads (do return f (← operation)) (block ++ []) (f value) := bind hread (pure _)
  rw [List.append_nil] at hboth
  exact hboth

end Reads

/-! ## Reads that fail -/

/-- A read for which too few bytes are still to come fails as the peer's direction ends. -/
theorem on_readRaw_of_short {count : Nat} (hopen : connection.isOpen = true)
    (hshort : connection.source.bytes.length < count) :
    ∃ left, (readRaw count).on connection =
        (.error (.io connection.source.ending.shortRead), left) ∧ left.isOpen = false := by
  have hfail := Source.readExact_of_lt hshort
  rcases hread : connection.source.readExact count with ⟨outcome, source⟩
  rw [hread] at hfail
  have houtcome : outcome = .error connection.source.ending.shortRead := hfail
  refine ⟨{ connection with source, isOpen := false }, ?_, rfl⟩
  rw [on_readRaw, if_pos hopen, hread, houtcome]

theorem on_readRaw_of_cut {middle : Connection} {rest : Bytes} {count : Nat}
    (hmiddle : connection.Onward rest middle) (hshort : rest.length < count) :
    ∃ left, (readRaw count).on middle = (.error (.io connection.source.ending.shortRead), left) ∧
      left.isOpen = false := by
  rw [← hmiddle.bytes] at hshort
  rcases on_readRaw_of_short hmiddle.isOpen hshort with ⟨left, hfail, hclosed⟩
  rw [hmiddle.ending] at hfail
  exact ⟨left, hfail, hclosed⟩

/-- A block that is announced longer than the limit is not read, only refused. -/
theorem on_readBlock_of_long {length limit : Nat} {bound : String} (hlong : limit < length)
    (hbound : " bytes, limit is " ++ toString limit = bound) (connection : Connection) :
    (readBlock length limit).on connection =
      (.error (.protocol ("peer announced " ++ toString length ++ bound)),
        { connection with isOpen := false }) := by
  rw [readBlock, if_neg (Nat.not_le_of_lt hlong), String.append_assoc, hbound]
  rfl

/-- On this connection, which is open, the operation fails and closes it. -/
def Breaks (operation : Exchange α) (connection : Connection) : Prop :=
  ∃ error left, operation.on connection = (.error error, left) ∧ error ≠ .closed ∧
    left.isOpen = false

namespace Breaks

theorem fail {error : Error} (herror : error ≠ .closed) (connection : Connection) :
    Breaks (Exchange.fail error : Exchange α) connection :=
  ⟨error, _, rfl, herror, rfl⟩

/-- What begins with an operation that breaks, breaks. -/
theorem bind {operation : Exchange α} (hfirst : Breaks operation connection)
    (next : α → Exchange β) : Breaks (operation >>= next) connection := by
  rcases hfirst with ⟨error, left, hfail, herror, hclosed⟩
  exact ⟨error, left, on_bind_of_error hfail next, herror, hclosed⟩

theorem of_ok {operation : Exchange α} {next : α → Exchange β} {value : α}
    (hok : operation.on connection = (.ok value, left)) (hnext : Breaks (next value) left) :
    Breaks (operation >>= next) connection := by
  unfold Breaks
  rw [on_bind_of_ok hok]
  exact hnext

/-- Too few bytes are still to come. -/
theorem readRaw {count : Nat} (hopen : connection.isOpen = true)
    (hshort : connection.source.bytes.length < count) :
    Breaks (Exchange.readRaw count) connection := by
  rcases on_readRaw_of_short hopen hshort with ⟨left, hfail, hclosed⟩
  exact ⟨_, left, hfail, nofun, hclosed⟩

/-- The length is out of bounds, or too few bytes are still to come. -/
theorem readBlock {length limit : Nat} (hopen : connection.isOpen = true)
    (hbad : ¬ (length ≤ limit ∧ length ≤ connection.source.bytes.length)) :
    Breaks (Exchange.readBlock length limit) connection := by
  unfold Exchange.readBlock
  split
  · rename_i hlimit
    have hshort : connection.source.bytes.length < length := by
      have : ¬ length ≤ connection.source.bytes.length := fun hthere => hbad ⟨hlimit, hthere⟩
      omega
    exact readRaw hopen hshort
  · refine fail ?_ connection
    nofun

end Breaks

theorem on_readRaw_of_lt (connection : Connection) {count : Nat}
    (hlength : connection.source.bytes.length < count) :
    ∃ error left, (readRaw count).on connection = (.error error, left) := by
  cases hopen : connection.isOpen with
  | true =>
      rcases Breaks.readRaw hopen hlength with ⟨error, left, hfail, -, -⟩
      exact ⟨error, left, hfail⟩
  | false =>
      exact ⟨.closed, connection, on_readRaw_of_closed count hopen⟩

/-- What was read is what was to come first. -/
theorem of_readRaw_ok {count : Nat} {block : Bytes}
    (hok : (readRaw count).on connection = (.ok block, left)) :
    count ≤ connection.source.bytes.length ∧ connection.source.bytes.take count = block := by
  by_cases hlength : count ≤ connection.source.bytes.length
  · refine ⟨hlength, ?_⟩
    have hopen : connection.isOpen = true := by
      refine Classical.byContradiction fun hclosed => ?_
      rw [on_readRaw_of_closed count (Bool.not_eq_true _ ▸ hclosed)] at hok
      cases hok
    rcases on_readRaw_of_le connection hopen hlength with ⟨other, hread⟩
    rw [hread] at hok
    cases hok
    rfl
  · rcases on_readRaw_of_lt connection (Nat.lt_of_not_le hlength) with ⟨error, other, hfail⟩
    rw [hfail] at hok
    cases hok

/-! ## An operation done over and over -/

/-- The connection after an operation was done so many times. -/
def afterTurns (operation : Exchange α) (connection : Connection) : Nat → Connection
  | 0 => connection
  | turns + 1 => afterTurns operation (operation.on connection).2 turns

/-- What comes of an operation when it is done after so many times before. -/
def atTurn (operation : Exchange α) (connection : Connection) (turns : Nat) : Except Error α :=
  (operation.on (operation.afterTurns connection turns)).1

theorem atTurn_zero (operation : Exchange α) (connection : Connection) :
    operation.atTurn connection 0 = (operation.on connection).1 :=
  rfl

theorem atTurn_succ (operation : Exchange α) (connection : Connection) (turns : Nat) :
    operation.atTurn connection (turns + 1) =
      operation.atTurn (operation.on connection).2 turns :=
  rfl

/-- Items that come one after another are read one after another, each at its turn, and before each
turn the items that are left are still to come. -/
theorem Reads.turns {operation : Exchange β} {encode : α → Bytes} {value : α → β} {items : List α}
    {rest : Bytes} (hitems : ∀ item ∈ items, Reads operation (encode item) (value item))
    (hopen : connection.isOpen = true)
    (hbytes : connection.source.bytes = items.flatMap encode ++ rest) :
    (∀ turn (hturn : turn < items.length),
        operation.atTurn connection turn = .ok (value items[turn])) ∧
      ∀ turn, turn ≤ items.length →
        connection.Onward ((items.drop turn).flatMap encode ++ rest)
          (operation.afterTurns connection turn) := by
  induction items generalizing connection with
  | nil =>
      refine ⟨nofun, ?_⟩
      intro turn hturn
      have hzero : turn = 0 := Nat.le_zero.mp hturn
      subst hzero
      exact .refl hopen hbytes
  | cons item later ih =>
      rw [List.forall_mem_cons] at hitems
      have hnext : connection.source.bytes = encode item ++ (later.flatMap encode ++ rest) := by
        rw [hbytes, List.flatMap_cons, List.append_assoc]
      rcases hitems.1 connection _ hopen hnext with ⟨left, hleft, hread⟩
      rcases ih hitems.2 hleft.isOpen hleft.bytes with ⟨hvalues, hplaces⟩
      -- The first turn leaves the connection to the turns after it.
      have hafter : (operation.on connection).2 = left := congrArg Prod.snd hread
      constructor
      · intro turn hturn
        cases turn with
        | zero =>
            exact congrArg Prod.fst hread
        | succ turn =>
            rw [atTurn_succ, hafter]
            exact hvalues turn (Nat.lt_of_succ_lt_succ hturn)
      · intro turn hturn
        cases turn with
        | zero =>
            exact .refl hopen hbytes
        | succ turn =>
            rw [afterTurns, hafter]
            exact hleft.trans (hplaces turn (Nat.le_of_succ_le_succ hturn))

/-- What fails and changes nothing, fails every time. -/
theorem atTurn_of_stuck {operation : Exchange α} {error : Error}
    (hstuck : operation.on connection = (.error error, connection)) (turns : Nat) :
    operation.atTurn connection turns = .error error := by
  induction turns with
  | zero =>
      rw [atTurn_zero, hstuck]
  | succ turns ih =>
      rw [atTurn_succ, hstuck]
      exact ih

end Exchange

end EmulatorHost.Adb
