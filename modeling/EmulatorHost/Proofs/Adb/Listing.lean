import EmulatorHost.Proofs.Adb.FileRecord
import EmulatorHost.Proofs.Adb.Framing
import EmulatorHost.Proofs.Adb.Reading
import EmulatorHost.Proofs.Adb.Room
import EmulatorHost.Proofs.Adb.Upload

/-!
# Listings

What a listing makes of the bytes that the device sends, whatever they are. It succeeds exactly if
they begin with directory records and the closing record, gives these records as entries in order,
and has then read that much and no more; otherwise it fails and closes the connection. The main
statement is `lists_iff_whole`.
-/

namespace EmulatorHost.Adb.Sync

open Exchange

structure Record where
  number : UInt32
  stat : FileStat
  name : Bytes
  name_length : name.length ≤ 1024

namespace Record

def fixedPart (record : Record) : Bytes :=
  Bytes.ofString "DNT2" ++ Bytes.ofWord32 record.number ++ record.stat.layout ++
    Bytes.leBytes 4 record.name.length

def bytes (record : Record) : Bytes :=
  record.fixedPart ++ record.name

/-- The entry that a record stands for. What stands where the stat would be does not count if there
is an error number. -/
def entry (record : Record) : Entry where
  name := Utf8.decodeLossy record.name
  stat := if record.number = 0 then .stat record.stat else .error record.number

end Record

/-- A closing record comes first, and then these bytes. -/
def Closes (bytes after : Bytes) : Prop :=
  ∃ closing, closing.length = 76 ∧ closing.take 4 = Bytes.ofString "DONE" ∧
    bytes = closing ++ after

/-- A whole listing comes first: these records and a closing one; and then these bytes. -/
def IsListing (bytes : Bytes) (records : List Record) (after : Bytes) : Prop :=
  ∃ rest, bytes = records.flatMap Record.bytes ++ rest ∧ Closes rest after

/-! ## The fields of a record -/

theorem fields_parts {letters number stat size : Bytes} (hletters : letters.length = 4)
    (hnumber : number.length = 4) (hstat : stat.length = FileStat.recordLength) :
    let fixed := letters ++ number ++ stat ++ size
    fixed.take 4 = letters ∧ (fixed.drop 4).take 4 = number ∧
      (fixed.drop 8).take FileStat.recordLength = stat ∧
      fixed.drop (8 + FileStat.recordLength) = size := by
  intro fixed
  have htwo : (letters ++ number).length = 8 := by simp [hletters, hnumber]
  have hthree : (letters ++ number ++ stat).length = 8 + FileStat.recordLength := by
    rw [List.length_append, htwo, hstat]
  have hfirst : fixed = letters ++ (number ++ (stat ++ size)) := by
    simp only [fixed, List.append_assoc]
  have hsecond : fixed = letters ++ number ++ (stat ++ size) := List.append_assoc _ _ _
  refine ⟨?_, ?_, ?_, List.drop_left' hthree⟩
  · rw [hfirst, List.take_left' hletters]
  · rw [hfirst, List.drop_left' hletters, List.take_left' hnumber]
  · rw [hsecond, List.drop_left' htwo, List.take_left' hstat]

theorem exists_fields {bytes : Bytes} (hlength : 76 ≤ bytes.length) :
    ∃ letters number stat size rest, letters.length = 4 ∧ number.length = 4 ∧ stat.length = 64 ∧
      size.length = 4 ∧ bytes = letters ++ number ++ stat ++ size ++ rest := by
  -- Cut off from the front, one field after the other.
  rcases Bytes.exists_front hlength with ⟨fixed, rest, hfixed, rfl⟩
  have hfour : 4 ≤ fixed.length := by omega
  rcases Bytes.exists_front hfour with ⟨letters, first, hletters, rfl⟩
  rw [List.length_append] at hfixed
  have hfour : 4 ≤ first.length := by omega
  rcases Bytes.exists_front hfour with ⟨number, second, hnumber, rfl⟩
  rw [List.length_append] at hfixed
  have hsixtyFour : 64 ≤ second.length := by omega
  rcases Bytes.exists_front hsixtyFour with ⟨stat, size, hstat, rfl⟩
  rw [List.length_append] at hfixed
  have hsize : size.length = 4 := by omega
  exact ⟨letters, number, stat, size, rest, hletters, hnumber, hstat, hsize,
    by simp only [List.append_assoc]⟩

namespace Record

theorem fixedPart_eq (record : Record) :
    record.fixedPart = Tag.entry.bytes ++ Bytes.ofWord32 record.number ++ record.stat.layout ++
      Bytes.leBytes 4 record.name.length := by
  have hentry : Bytes.ofString "DNT2" = Tag.entry.bytes := by decide
  rw [fixedPart, hentry]

theorem length_fixedPart (record : Record) : record.fixedPart.length = entryLength := by
  simp [fixedPart_eq, Tag.bytes, entryLength, FileStat.recordLength]

theorem leValue_name_length (record : Record) :
    Bytes.leValue (Bytes.leBytes 4 record.name.length) = record.name.length := by
  have hbound : 1024 < Bytes.limit 4 := by decide
  exact leValue_length (Nat.lt_of_le_of_lt record.name_length hbound)

theorem fields (record : Record) :
    record.fixedPart.take 4 = Tag.entry.bytes ∧
      (record.fixedPart.drop 4).take 4 = Bytes.ofWord32 record.number ∧
      (record.fixedPart.drop 8).take FileStat.recordLength = record.stat.layout ∧
      record.fixedPart.drop (8 + FileStat.recordLength) =
        Bytes.leBytes 4 record.name.length := by
  rw [fixedPart_eq]
  exact fields_parts rfl (Bytes.length_ofWord32 _) record.stat.length_layout

theorem selfDelimiting_bytes : Bytes.SelfDelimiting Record.bytes where
  nonempty := by
    intro record hempty
    have hlength := congrArg List.length hempty
    rw [bytes, List.length_append, length_fixedPart] at hlength
    simp [entryLength] at hlength
  inj := by
    intro one other after rest hsame
    -- The fixed parts are of the same length, and the last field of both is that of the name.
    have hparts : one.fixedPart ++ (one.name ++ after) =
        other.fixedPart ++ (other.name ++ rest) := by
      simpa only [bytes, List.append_assoc] using hsame
    have hlengths : one.fixedPart.length = other.fixedPart.length := by
      rw [length_fixedPart, length_fixedPart]
    rcases List.append_inj hparts hlengths with ⟨hfixed, hnames⟩
    rcases one.fields with ⟨-, hnumber, hstat, hsize⟩
    rcases other.fields with ⟨-, hnumber', hstat', hsize'⟩
    rw [hfixed] at hnumber hstat hsize
    have hnumbers : one.number = other.number := by
      calc one.number
          = Bytes.toWord32 (Bytes.ofWord32 one.number) := (Bytes.toWord32_ofWord32 _).symm
        _ = Bytes.toWord32 (Bytes.ofWord32 other.number) := by rw [← hnumber, hnumber']
        _ = other.number := Bytes.toWord32_ofWord32 _
    have hlength : one.name.length = other.name.length := by
      calc one.name.length
          = Bytes.leValue (Bytes.leBytes 4 one.name.length) := one.leValue_name_length.symm
        _ = Bytes.leValue (Bytes.leBytes 4 other.name.length) := by rw [← hsize, hsize']
        _ = other.name.length := other.leValue_name_length
    rcases List.append_inj hnames hlength with ⟨hname, hafter⟩
    have hstats : one.stat = other.stat := by
      calc one.stat
          = FileStat.parse one.stat.layout := (FileStat.parse_layout _).symm
        _ = FileStat.parse other.stat.layout := by rw [← hstat, hstat']
        _ = other.stat := FileStat.parse_layout _
    cases one
    cases other
    cases hnumbers
    cases hstats
    cases hname
    exact ⟨rfl, hafter⟩

end Record

/-- Bytes that have the fields of a record in bounds are one. -/
theorem exists_record {number stat size name : Bytes} (hnumber : number.length = 4)
    (hstat : stat.length = 64) (hsize : size.length = 4) (hname : name.length = Bytes.leValue size)
    (hbound : name.length ≤ 1024) :
    ∃ record : Record, Tag.entry.bytes ++ number ++ stat ++ size ++ name = record.bytes := by
  refine ⟨⟨Bytes.toWord32 number, FileStat.parse stat, name, hbound⟩, ?_⟩
  have hlength : Bytes.leBytes 4 name.length = size := by
    rw [hname, ← hsize]
    exact Bytes.leBytes_leValue size
  rw [Record.bytes, Record.fixedPart_eq]
  simp only [Bytes.ofWord32_toWord32 hnumber, FileStat.layout_parse hstat, hlength]

theorem closes_iff {letters fields rest : Bytes} (hletters : letters.length = 4)
    (hfixed : (letters ++ fields).length = 76) (after : Bytes) :
    Closes (letters ++ fields ++ rest) after ↔ letters = Tag.done.bytes ∧ rest = after := by
  have hdone : Bytes.ofString "DONE" = Tag.done.bytes := by decide
  constructor
  · rintro ⟨closing, hlength, htag, hsame⟩
    rcases List.append_inj hsame (hfixed.trans hlength.symm) with ⟨hclosing, hrest⟩
    rw [← hclosing, List.take_left' hletters, hdone] at htag
    exact ⟨htag, hrest⟩
  · rintro ⟨htag, hrest⟩
    refine ⟨letters ++ fields, hfixed, ?_, by rw [hrest]⟩
    rw [List.take_left' hletters, htag, hdone]

/-! ## One record -/

variable {connection : Connection}

theorem on_readEntry_of_record (hopen : connection.isOpen = true) {record : Record} {rest : Bytes}
    (hbytes : connection.source.bytes = record.bytes ++ rest) :
    ∃ left, connection.Onward rest left ∧
      readEntry.on connection = (.ok (some record.entry), left) := by
  have hfixed : connection.source.bytes = record.fixedPart ++ (record.name ++ rest) := by
    rw [hbytes, Record.bytes, List.append_assoc]
  rcases on_readRaw_of_append hopen hfixed record.length_fixedPart with ⟨middle, hmiddle, hread⟩
  rcases on_readBlock_of_append hmiddle.isOpen hmiddle.bytes record.name_length with
    ⟨left, hleft, hname⟩
  refine ⟨left, hmiddle.trans hleft, ?_⟩
  rcases record.fields with ⟨htag, hnumber, hstat, hsize⟩
  have hnotDone : ¬ (Tag.entry.bytes == Tag.done.bytes) = true := by decide
  have hentry : (Tag.entry.bytes == Tag.entry.bytes) = true := by decide
  have hbody : readEntryBody record.fixedPart = (do
      let name ← readBlock record.name.length 1024
      return some ⟨Utf8.decodeLossy name,
        StatOutcome.ofParts record.number record.stat⟩) := by
    rw [readEntryBody, htag, hnumber, hstat, hsize, record.leValue_name_length, if_neg hnotDone,
      if_pos hentry, Bytes.toWord32_ofWord32, FileStat.parse_layout]
    rfl
  have hstatOutcome : StatOutcome.ofParts record.number record.stat = record.entry.stat := by
    simp [StatOutcome.ofParts, Record.entry]
  rw [readEntry, on_bind_of_ok hread, hbody, on_bind_of_ok hname, hstatOutcome]
  rfl

/-- After a fixed part that closes nothing, and begins no record, a listing breaks. -/
theorem breaks_readEntryBody (hopen : connection.isOpen = true)
    {letters number stat size : Bytes} (hletters : letters.length = 4) (hnumber : number.length = 4)
    (hstat : stat.length = 64) (hsize : size.length = 4)
    (hended : ∀ (record : Record) after,
      letters ++ number ++ stat ++ size ++ connection.source.bytes ≠ record.bytes ++ after)
    (hdone : letters ≠ Tag.done.bytes) :
    Breaks (readEntryBody (letters ++ number ++ stat ++ size)) connection := by
  rcases fields_parts hletters hnumber hstat with ⟨htag, -, -, hdrop⟩
  rw [readEntryBody, htag, if_neg (mt eq_of_beq hdone)]
  by_cases hentry : letters = Tag.entry.bytes
  · rw [if_pos (beq_iff_eq.2 hentry), hdrop]
    refine Breaks.bind (.readBlock hopen fun hname => ?_) _
    -- A name that is in bounds and there would make this a record.
    let name := connection.source.bytes.take (Bytes.leValue size)
    let after := connection.source.bytes.drop (Bytes.leValue size)
    have htake : name.length = Bytes.leValue size := List.length_take_of_le hname.2
    have hbound : name.length ≤ 1024 := htake.symm ▸ hname.1
    rcases exists_record hnumber hstat hsize htake hbound with ⟨record, hrecord⟩
    refine hended record after ?_
    calc letters ++ number ++ stat ++ size ++ connection.source.bytes
        = Tag.entry.bytes ++ number ++ stat ++ size ++ (name ++ after) := by
          rw [hentry, List.take_append_drop]
      _ = record.bytes ++ after := by rw [← List.append_assoc, hrecord]
  · rw [if_neg (mt eq_of_beq hentry)]
    refine .fail ?_ _
    simp

/-- Where no further record comes, a listing ends: with success if a closing record comes, and
otherwise by breaking the connection. -/
theorem readEntry_of_ended (hopen : connection.isOpen = true)
    (hended : ∀ (record : Record) after, connection.source.bytes ≠ record.bytes ++ after) :
    (∃ after left, Closes connection.source.bytes after ∧ connection.Onward after left ∧
        readEntry.on connection = (.ok none, left)) ∨
      ((∀ after, ¬ Closes connection.source.bytes after) ∧ Breaks readEntry connection) := by
  by_cases hlength : 76 ≤ connection.source.bytes.length
  · rcases exists_fields hlength with
      ⟨letters, number, stat, size, rest, hletters, hnumber, hstat, hsize, hbytes⟩
    have hfixed : (letters ++ number ++ stat ++ size).length = entryLength := by
      simp [hletters, hnumber, hstat, hsize, entryLength, FileStat.recordLength]
    rcases on_readRaw_of_append hopen hbytes hfixed with ⟨middle, hmiddle, hread⟩
    have hcloses (after : Bytes) :
        Closes connection.source.bytes after ↔ letters = Tag.done.bytes ∧ rest = after := by
      have hfirst : (letters ++ (number ++ stat ++ size)).length = entryLength := by
        simpa only [List.append_assoc] using hfixed
      have hparts : connection.source.bytes = letters ++ (number ++ stat ++ size) ++ rest := by
        rw [hbytes]
        simp only [List.append_assoc]
      rw [hparts]
      exact closes_iff hletters hfirst after
    by_cases hdone : letters = Tag.done.bytes
    · refine Or.inl ⟨rest, middle, (hcloses rest).2 ⟨hdone, rfl⟩, hmiddle, ?_⟩
      have htag : (letters ++ number ++ stat ++ size).take 4 = letters :=
        (fields_parts hletters hnumber hstat).1
      rw [readEntry, on_bind_of_ok hread, readEntryBody, htag, if_pos (beq_iff_eq.2 hdone)]
      rfl
    · rw [hbytes, ← hmiddle.bytes] at hended
      have hbody :=
        breaks_readEntryBody hmiddle.isOpen hletters hnumber hstat hsize hended hdone
      exact Or.inr ⟨fun after hclosing => hdone ((hcloses after).1 hclosing).1, .of_ok hread hbody⟩
  · have hshort : connection.source.bytes.length < entryLength := Nat.lt_of_not_le hlength
    have hbreaks : Breaks (readRaw entryLength) connection := .readRaw hopen hshort
    refine Or.inr ⟨?_, hbreaks.bind _⟩
    rintro after ⟨closing, hclosing, -, hbytes⟩
    rw [hbytes, List.length_append] at hlength
    omega

/-! ## Whole listings -/

/-- A listing takes the records that the bytes to come begin with, and ends where they end. -/
theorem on_readEntries_of_split {records : List Record} {rest : Bytes} {fuel : Nat}
    (hopen : connection.isOpen = true)
    (hsplit : Bytes.Split Record.bytes connection.source.bytes records rest)
    (hfuel : connection.source.bytes.length < fuel) :
    (∃ after left, Closes rest after ∧ connection.Onward after left ∧
        (readEntries fuel).on connection = (.ok (records.map Record.entry), left)) ∨
      ((∀ after, ¬ Closes rest after) ∧ Breaks (readEntries fuel) connection) := by
  -- A turn of the loop takes bytes, so that the fuel stays above what is still to come.
  induction records generalizing connection fuel with
  | nil =>
      cases fuel with
      | zero =>
          exact absurd hfuel (Nat.not_lt_zero _)
      | succ fuel =>
          have hrest : connection.source.bytes = rest := hsplit.bytes_eq
          have hended : ∀ (record : Record) after,
              connection.source.bytes ≠ record.bytes ++ after :=
            hrest ▸ hsplit.ended
          rcases readEntry_of_ended hopen hended with
            ⟨after, left, hcloses, hleft, hread⟩ | ⟨hnot, hbreaks⟩
          · exact Or.inl ⟨after, left, hrest ▸ hcloses, hleft, on_bind_of_ok hread _⟩
          · exact Or.inr ⟨hrest ▸ hnot, hbreaks.bind _⟩
  | cons record records ih =>
      cases fuel with
      | zero =>
          exact absurd hfuel (Nat.not_lt_zero _)
      | succ fuel =>
          have hbytes : connection.source.bytes =
              record.bytes ++ (records.flatMap Record.bytes ++ rest) := by
            rw [hsplit.bytes_eq, List.flatMap_cons, List.append_assoc]
          rcases on_readEntry_of_record hopen hbytes with ⟨middle, hmiddle, hread⟩
          have hless : middle.source.bytes.length < fuel := by
            have htaken : 0 < record.bytes.length :=
              List.length_pos_iff.2 (Record.selfDelimiting_bytes.nonempty record)
            rw [hbytes, List.length_append] at hfuel
            rw [hmiddle.bytes]
            omega
          rcases ih hmiddle.isOpen ⟨hmiddle.bytes, hsplit.ended⟩ hless with
            ⟨after, left, hcloses, hleft, hlater⟩ | ⟨hnot, hbreaks⟩
          · refine Or.inl ⟨after, left, hcloses, hmiddle.trans hleft, ?_⟩
            rw [readEntries, on_bind_of_ok hread]
            exact on_bind_of_ok hlater _
          · exact Or.inr ⟨hnot, .of_ok hread (hbreaks.bind _)⟩

/-- Where a closing record comes, no further record comes. -/
theorem split_of_closes (records : List Record) {rest after : Bytes} (hcloses : Closes rest after) :
    Bytes.Split Record.bytes (records.flatMap Record.bytes ++ rest) records rest where
  bytes_eq := rfl
  ended := by
    intro record tail hrest
    rcases hcloses with ⟨closing, hlength, htag, hbytes⟩
    have hsame : closing ++ after = record.fixedPart ++ (record.name ++ tail) := by
      rw [← hbytes, hrest, Record.bytes, List.append_assoc]
    have hfixed := (List.append_inj hsame (hlength.trans record.length_fixedPart.symm)).1
    rw [hfixed, record.fields.1] at htag
    revert htag
    decide

theorem Closes.unique {bytes after after' : Bytes} (hone : Closes bytes after)
    (hother : Closes bytes after') : after = after' := by
  rcases hone with ⟨closing, hlength, -, hbytes⟩
  rcases hother with ⟨closing', hlength', -, hbytes'⟩
  have hsame : closing ++ after = closing' ++ after' := hbytes.symm.trans hbytes'
  exact (List.append_inj hsame (hlength.trans hlength'.symm)).2

/-- There is one way only to see bytes as a whole listing. -/
theorem isListing_iff {bytes rest : Bytes} {records : List Record}
    (hsplit : Bytes.Split Record.bytes bytes records rest) (records' : List Record)
    (after : Bytes) : IsListing bytes records' after ↔ records' = records ∧ Closes rest after := by
  constructor
  · rintro ⟨rest', hbytes, hcloses⟩
    have hsplit' := split_of_closes records' hcloses
    rw [← hbytes] at hsplit'
    rcases hsplit'.unique Record.selfDelimiting_bytes hsplit with ⟨hrecords, hrest⟩
    exact ⟨hrecords, hrest ▸ hcloses⟩
  · rintro ⟨hrecords, hcloses⟩
    exact ⟨rest, hrecords ▸ hsplit.bytes_eq, hcloses⟩

theorem IsListing.append {bytes after : Bytes} {records : List Record}
    (hlisting : IsListing bytes records after) (more : Bytes) :
    IsListing (bytes ++ more) records (after ++ more) := by
  rcases hlisting with ⟨rest, hbytes, closing, hlength, htag, hrest⟩
  refine ⟨rest ++ more, by rw [hbytes, List.append_assoc], closing, hlength, htag, ?_⟩
  rw [hrest, List.append_assoc]

theorem IsListing.unique {bytes after after' : Bytes} {records records' : List Record}
    (hone : IsListing bytes records after) (hother : IsListing bytes records' after') :
    records' = records ∧ after' = after := by
  rcases hone with ⟨rest, hbytes, hcloses⟩
  have hsplit := split_of_closes records hcloses
  rw [← hbytes] at hsplit
  rcases (isListing_iff hsplit records' after').1 hother with ⟨hrecords, hcloses'⟩
  exact ⟨hrecords, hcloses'.unique hcloses⟩

theorem on_list {path : String} (hpath : (Bytes.ofString path).length < Bytes.limit 4)
    (htakes : connection.Takes (pathRequest .list (Bytes.ofString path))) :
    (list path).on connection =
      (readEntries (connection.source.size + 1)).on
        (connection.taking (pathRequest .list (Bytes.ofString path))) := by
  have hwrite : writePathRequest .list path [] =
      writeRaw (pathRequest .list (Bytes.ofString path)) := by
    rw [writePathRequest, if_pos hpath, List.append_nil]
  rw [list, hwrite, on_bind_of_ok (on_writeRaw_of_takes htakes), on_bind_of_ok (on_get _)]
  rfl

/-- A listing that the device takes succeeds with the records that come, or breaks where none
comes. -/
theorem list_of_takes {path : String} (hpath : (Bytes.ofString path).length < Bytes.limit 4)
    (htakes : connection.Takes (pathRequest .list (Bytes.ofString path))) :
    (∃ records after left, IsListing connection.source.bytes records after ∧
        (list path).on connection = (.ok (records.map Record.entry), left) ∧
        left.isOpen = true ∧ left.source.bytes = after) ∨
      ((∀ records after, ¬ IsListing connection.source.bytes records after) ∧
        ∃ error left, (list path).on connection = (.error error, left) ∧ left.isOpen = false) := by
  -- Whether there is a whole listing is decided by what stands where no further record comes.
  rcases Bytes.exists_split Record.selfDelimiting_bytes connection.source.bytes with
    ⟨records, rest, hsplit⟩
  have hlisting := isListing_iff hsplit
  let stream := connection.taking (pathRequest .list (Bytes.ofString path))
  have hstream : Bytes.Split Record.bytes stream.source.bytes records rest := hsplit
  have hopen : stream.isOpen = true := htakes.1
  have hfuel : stream.source.bytes.length < stream.source.size + 1 := Nat.lt_succ_self _
  rw [on_list hpath htakes]
  rcases on_readEntries_of_split hopen hstream hfuel with
    ⟨after, left, hcloses, hleft, hok⟩ | ⟨hnot, error, left, hfail, -, hclosed⟩
  · have hfound := (hlisting records after).2 ⟨rfl, hcloses⟩
    exact Or.inl ⟨records, after, left, hfound, hok, hleft.isOpen, hleft.bytes⟩
  · refine Or.inr ⟨fun records' after hother => ?_, error, left, hfail, hclosed⟩
    exact hnot after ((hlisting records' after).1 hother).2

/-- A listing that the device takes succeeds exactly if what the device sends begins with directory
records and a closing record. Then the entries are those of the records, in order, the bytes up to
the end of the closing record have been read, and the connection is open. In every other case, as
when bytes of a whole listing are missing, it fails and the connection is closed. -/
theorem lists_iff_whole (path : String) (hpath : (Bytes.ofString path).length < 0x100000000)
    (connection : Connection)
    (htakes : connection.Takes (pathRequest .list (Bytes.ofString path))) :
    let run := (list path).on connection
    let fails := (∃ error, run.1 = .error error) ∧ run.2.isOpen = false
    (∀ entries, run.1 = .ok entries ↔
        ∃ records after, IsListing connection.source.bytes records after ∧
          entries = records.map Record.entry) ∧
      (∀ records after, IsListing connection.source.bytes records after →
        run.2.isOpen = true ∧ run.2.source.bytes = after) ∧
      ((∀ records after, ¬ IsListing connection.source.bytes records after) → fails) ∧
      ∀ records missing, missing ≠ [] →
        IsListing (connection.source.bytes ++ missing) records [] → fails := by
  intro run fails
  rcases list_of_takes hpath htakes with
    ⟨records, after, left, hfound, hok, hopen, hafter⟩ | ⟨hnone, error, left, hfail, hclosed⟩
  · have hrun : run = (.ok (records.map Record.entry), left) := hok
    rw [hrun]
    refine ⟨fun entries => ⟨?_, ?_⟩, ?_, fun hnone => absurd hfound (hnone records after), ?_⟩
    · rintro ⟨⟩
      exact ⟨records, after, hfound, rfl⟩
    · rintro ⟨records', after', hother, hentries⟩
      rw [hentries, (hfound.unique hother).1]
    · intro records' after' hother
      exact ⟨hopen, hafter.trans (hfound.unique hother).2.symm⟩
    · -- What follows the closing record of a listing is more than nothing.
      intro records' missing hmissing hwhole
      have hnothing := ((hfound.append missing).unique hwhole).2
      exact absurd (List.append_eq_nil_iff.1 hnothing.symm).2 hmissing
  · have hrun : run = (.error error, left) := hfail
    have hfails : fails := by
      simp only [fails, hrun]
      exact ⟨⟨error, rfl⟩, hclosed⟩
    refine ⟨fun entries => ⟨?_, ?_⟩, ?_, fun _ => hfails, fun _ _ _ _ => hfails⟩
    · rw [hrun]
      nofun
    · rintro ⟨records', after, hother, -⟩
      exact absurd hother (hnone records' after)
    · intro records' after hother
      exact absurd hother (hnone records' after)

def refusedRecord : Record where
  number := 13
  stat := default
  name := [0x74, 0x6d, 0x70]
  name_length := by decide

/-- A file that was last read before the epoch. -/
def oldFile : FileStat :=
  ⟨2051, 1048577, 0o100644, 1, 1000, 1001, 4294967296, -1, 1700000000, 1700000001⟩

def oldFileRecord : Record where
  number := 0
  stat := oldFile
  name := [0x61]
  name_length := by decide

/-- A device that sends these bytes, in two segments, and then ends. -/
def listingPeer (sent : Bytes) : Connection :=
  .ofPeer ⟨[sent.take 50, sent.drop 50], .finished⟩ .unlimited

/-- Two records are listed, one with its error number and one with its stat, and the two bytes after
the closing record are left. Of the same listing without its last byte nothing is listed. -/
theorem lists_iff_whole_twoRecords :
    let records := [refusedRecord, oldFileRecord]
    let cut := records.flatMap Record.bytes ++ (Bytes.ofString "DONE" ++ List.replicate 71 0)
    let complete := (list "/data").on (listingPeer (cut ++ [0, 1, 2]))
    let broken := (list "/data").on (listingPeer cut)
    (Bytes.ofString "/data").length < 0x100000000 ∧
      (listingPeer (cut ++ [0, 1, 2])).Takes (pathRequest .list (Bytes.ofString "/data")) ∧
      complete.1 = .ok [⟨"tmp", .error 13⟩, ⟨"a", .stat oldFile⟩] ∧
      complete.2.source.bytes = [1, 2] ∧
      (∃ error, broken.1 = .error error) ∧ broken.2.isOpen = false := by
  intro records cut complete broken
  have hpath : (Bytes.ofString "/data").length < 0x100000000 := by decide
  have htakes (sent : Bytes) :
      (listingPeer sent).Takes (pathRequest .list (Bytes.ofString "/data")) :=
    ⟨rfl, nofun⟩
  have hbytes (sent : Bytes) : (listingPeer sent).source.bytes = sent := by
    simp [listingPeer, Connection.ofPeer, Source.bytes]
  have hcloses (after : Bytes) :
      Closes (Bytes.ofString "DONE" ++ List.replicate 71 0 ++ 0 :: after) after :=
    ⟨Bytes.ofString "DONE" ++ List.replicate 72 0, rfl, rfl, rfl⟩
  have hlisting (after : Bytes) : IsListing (cut ++ 0 :: after) records after :=
    ⟨_, List.append_assoc _ _ _, hcloses after⟩
  -- Only that the bytes make up a listing counts from here on.
  clear_value cut
  have hwhole : IsListing (listingPeer (cut ++ [0, 1, 2])).source.bytes records [1, 2] := by
    rw [hbytes]
    exact hlisting [1, 2]
  have hmissing : IsListing ((listingPeer cut).source.bytes ++ [0]) records [] := by
    rw [hbytes]
    exact hlisting []
  have hentries : records.map Record.entry = [⟨"tmp", .error 13⟩, ⟨"a", .stat oldFile⟩] := by
    decide +kernel
  have hsome : ([0] : Bytes) ≠ [] := List.cons_ne_nil 0 []
  have hcomplete := lists_iff_whole "/data" hpath (listingPeer (cut ++ [0, 1, 2])) (htakes _)
  have hcut := lists_iff_whole "/data" hpath (listingPeer cut) (htakes _)
  refine ⟨hpath, htakes _, ?_, (hcomplete.2.1 _ _ hwhole).2, hcut.2.2.2 _ _ hsome hmissing⟩
  exact (hcomplete.1 _).2 ⟨_, _, hwhole, hentries.symm⟩

end EmulatorHost.Adb.Sync
