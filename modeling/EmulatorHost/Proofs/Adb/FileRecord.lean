import EmulatorHost.Adb.FileStat

/-!
# The layout of a file record

The ten fields of a file record lie side by side, from the first of its 64 bytes to the last
(`tiles_all`). So every byte belongs to one field and to no other, what is written into a field is
read from it again, and a record is nothing but its fields. The main statement is
`parse_inverse_encode`.
-/

namespace EmulatorHost.Adb.FileStat

inductive Field where
  | dev
  | ino
  | mode
  | nlink
  | uid
  | gid
  | size
  | atime
  | mtime
  | ctime
deriving DecidableEq, Repr

namespace Field

/-- The fields in the order in which they lie in a record. -/
def all : List Field :=
  [dev, ino, mode, nlink, uid, gid, size, atime, mtime, ctime]

def offset : Field → Nat
  | dev => 0
  | ino => 8
  | mode => 16
  | nlink => 20
  | uid => 24
  | gid => 28
  | size => 32
  | atime => 40
  | mtime => 48
  | ctime => 56

def width : Field → Nat
  | mode | nlink | uid | gid => 4
  | dev | ino | size | atime | mtime | ctime => 8

def range (field : Field) (record : Bytes) : Bytes :=
  (record.drop field.offset).take field.width

/-- The bytes in which the field's value is written, a time as the word with the same bits. -/
def bytes (stat : FileStat) : Field → Bytes
  | dev => Bytes.ofWord64 stat.dev
  | ino => Bytes.ofWord64 stat.ino
  | mode => Bytes.ofWord32 stat.mode
  | nlink => Bytes.ofWord32 stat.nlink
  | uid => Bytes.ofWord32 stat.uid
  | gid => Bytes.ofWord32 stat.gid
  | size => Bytes.ofWord64 stat.size
  | atime => Bytes.ofWord64 stat.atime.toUInt64
  | mtime => Bytes.ofWord64 stat.mtime.toUInt64
  | ctime => Bytes.ofWord64 stat.ctime.toUInt64

/-- The byte at this position is one of the field's. -/
def Covers (field : Field) (position : Nat) : Prop :=
  field.offset ≤ position ∧ position < field.offset + field.width

/-- The fields lie side by side from one position up to another. -/
def Tiles : Nat → List Field → Nat → Prop
  | start, [], stop => start = stop
  | start, field :: rest, stop => field.offset = start ∧ Tiles (start + field.width) rest stop

theorem tiles_all : Tiles 0 all 64 :=
  ⟨rfl, rfl, rfl, rfl, rfl, rfl, rfl, rfl, rfl, rfl, rfl⟩

theorem mem_all (field : Field) : field ∈ all := by
  cases field <;> decide

theorem length_bytes (stat : FileStat) (field : Field) :
    (field.bytes stat).length = field.width := by
  cases field <;> simp [bytes, width]

theorem length_range {record : Bytes} (hlength : record.length = 64) (field : Field) :
    (field.range record).length = field.width := by
  have hinside : field.offset + field.width ≤ 64 := by
    cases field <;> decide
  rw [range, List.length_take, List.length_drop, hlength]
  omega

/-! ## What follows from lying side by side -/

variable {start stop : Nat} {fields : List Field}

theorem le_offset_of_tiles (htiles : Tiles start fields stop) :
    start ≤ stop ∧ ∀ field ∈ fields, start ≤ field.offset := by
  induction fields generalizing start with
  | nil =>
      exact ⟨Nat.le_of_eq htiles, nofun⟩
  | cons first rest ih =>
      rcases htiles with ⟨hfirst, hrest⟩
      rcases ih hrest with ⟨hstop, hlater⟩
      refine ⟨Nat.le_of_add_right_le hstop, List.forall_mem_cons.mpr ⟨Nat.le_of_eq hfirst.symm, ?_⟩⟩
      intro field hfield
      exact Nat.le_of_add_right_le (hlater field hfield)

/-- Every position between the two ends is covered, and once only. -/
theorem exists_covers (htiles : Tiles start fields stop) {position : Nat}
    (hstart : start ≤ position) (hstop : position < stop) :
    ∃ field ∈ fields, field.Covers position ∧
      ∀ other ∈ fields, other.Covers position → other = field := by
  induction fields generalizing start with
  | nil =>
      have hsame : start = stop := htiles
      omega
  | cons first rest ih =>
      rcases htiles with ⟨rfl, hrest⟩
      have hlater := (le_offset_of_tiles hrest).2
      by_cases hinside : position < first.offset + first.width
      · refine ⟨first, List.mem_cons_self, ⟨hstart, hinside⟩,
          List.forall_mem_cons.mpr ⟨fun _ => rfl, ?_⟩⟩
        -- The fields after the first one begin where it ends.
        intro other hother hcovers
        have hbegins := hlater other hother
        have hreaches := hcovers.1
        omega
      · have hbeyond : first.offset + first.width ≤ position := Nat.le_of_not_lt hinside
        rcases ih hrest hbeyond with ⟨field, hfield, hcovers, hunique⟩
        refine ⟨field, List.mem_cons_of_mem first hfield, hcovers,
          List.forall_mem_cons.mpr ⟨?_, hunique⟩⟩
        intro hfirst
        exact absurd hfirst.2 hinside

/-- The parts of a record that are the fields' make up what lies between the two ends. -/
theorem flatten_range (htiles : Tiles start fields stop) (record : Bytes) :
    (fields.map (·.range record)).flatten = (record.drop start).take (stop - start) := by
  induction fields generalizing start with
  | nil =>
      have hsame : start = stop := htiles
      rw [hsame, Nat.sub_self, List.take_zero]
      rfl
  | cons first rest ih =>
      rcases htiles with ⟨rfl, hrest⟩
      have hreach := (le_offset_of_tiles hrest).1
      have hlength : stop - first.offset = first.width + (stop - (first.offset + first.width)) := by
        omega
      rw [List.map_cons, List.flatten_cons, ih hrest, range, hlength, List.take_add, List.drop_drop]

/-- What is written field by field behind other bytes is found in each field's own part. -/
theorem range_flatten (htiles : Tiles start fields stop) {value : Field → Bytes}
    (hvalue : ∀ field ∈ fields, (value field).length = field.width) {before : Bytes}
    (hbefore : before.length = start) :
    ∀ field ∈ fields, field.range (before ++ (fields.map value).flatten) = value field := by
  -- On the fields. What has been written before a field reaches up to where its part begins.
  induction fields generalizing start before with
  | nil =>
      exact nofun
  | cons first rest ih =>
      rcases htiles with ⟨hfirst, hrest⟩
      rw [List.forall_mem_cons] at hvalue
      rw [List.map_cons, List.flatten_cons]
      refine List.forall_mem_cons.mpr ⟨?_, ?_⟩
      · rw [range, List.drop_left' (hbefore.trans hfirst.symm), List.take_left' hvalue.1]
      · have hnext : (before ++ value first).length = start + first.width := by
          rw [List.length_append, hbefore, hvalue.1]
        rw [← List.append_assoc]
        exact ih hrest hvalue.2 hnext

end Field

/-! ## Records -/

/-- The values of the fields, one behind the other. -/
def layout (stat : FileStat) : Bytes :=
  (Field.all.map (·.bytes stat)).flatten

theorem encode_eq_layout (stat : FileStat) : encode stat = stat.layout := by
  simp [encode, layout, Field.all, Field.bytes]

theorem range_encode (stat : FileStat) (field : Field) :
    field.range (encode stat) = field.bytes stat := by
  have hvalue : ∀ field ∈ Field.all, (field.bytes stat).length = field.width :=
    fun field _ => field.length_bytes stat
  have hbefore : ([] : Bytes).length = 0 := rfl
  rw [encode_eq_layout]
  exact Field.range_flatten Field.tiles_all hvalue hbefore field field.mem_all

theorem parse_encode (stat : FileStat) : parse (encode stat) = stat := by
  calc parse (encode stat)
      = { dev := Bytes.toWord64 (Field.dev.range (encode stat))
          ino := Bytes.toWord64 (Field.ino.range (encode stat))
          mode := Bytes.toWord32 (Field.mode.range (encode stat))
          nlink := Bytes.toWord32 (Field.nlink.range (encode stat))
          uid := Bytes.toWord32 (Field.uid.range (encode stat))
          gid := Bytes.toWord32 (Field.gid.range (encode stat))
          size := Bytes.toWord64 (Field.size.range (encode stat))
          atime := (Bytes.toWord64 (Field.atime.range (encode stat))).toInt64
          mtime := (Bytes.toWord64 (Field.mtime.range (encode stat))).toInt64
          ctime := (Bytes.toWord64 (Field.ctime.range (encode stat))).toInt64 } := rfl
    _ = stat := by
          simp only [range_encode, Field.bytes, Bytes.toWord64_ofWord64, Bytes.toWord32_ofWord32,
            Int64.toInt64_toUInt64]

theorem bytes_parse {record : Bytes} (hlength : record.length = 64) (field : Field) :
    field.bytes (parse record) = field.range record := by
  have hwidth := field.length_range hlength
  cases field with
  | mode | nlink | uid | gid =>
      exact Bytes.ofWord32_toWord32 hwidth
  | dev | ino | size =>
      exact Bytes.ofWord64_toWord64 hwidth
  | atime | mtime | ctime =>
      -- The bits of a word stay when it is read with a sign and written without one.
      change Bytes.ofWord64 (UInt64.toInt64 _).toUInt64 = _
      rw [UInt64.toUInt64_toInt64]
      exact Bytes.ofWord64_toWord64 hwidth

theorem encode_parse {record : Bytes} (hlength : record.length = 64) :
    encode (parse record) = record := by
  calc encode (parse record)
      = (parse record).layout := encode_eq_layout _
    _ = (Field.all.map (·.range record)).flatten := by simp only [layout, bytes_parse hlength]
    _ = record.take 64 := Field.flatten_range Field.tiles_all record
    _ = record := List.take_of_length_le (Nat.le_of_eq hlength)

@[simp] theorem length_layout (stat : FileStat) : stat.layout.length = recordLength := by
  rw [← encode_eq_layout, length_encode]

theorem parse_layout (stat : FileStat) : parse stat.layout = stat := by
  rw [← encode_eq_layout, parse_encode]

theorem layout_parse {record : Bytes} (hlength : record.length = 64) :
    (parse record).layout = record := by
  rw [← encode_eq_layout, encode_parse hlength]

/-- Reading and writing are inverse to each other, between all values of the fields and all blocks
of 64 bytes. Each byte of a block is in the part of one field and of no other, writing puts a
field's value into its part, and reading takes it from there. -/
theorem parse_inverse_encode :
    (∀ stat, (encode stat).length = 64 ∧ parse (encode stat) = stat) ∧
    (∀ record : Bytes, record.length = 64 → encode (parse record) = record) ∧
    (∀ position < 64, ∃ field : Field, field.Covers position ∧
      ∀ other : Field, other.Covers position → other = field) ∧
    ∀ field : Field, (∀ stat, field.range (encode stat) = field.bytes stat) ∧
      ∀ record : Bytes, record.length = 64 → field.bytes (parse record) = field.range record := by
  refine ⟨fun stat => ⟨length_encode stat, parse_encode stat⟩, fun _ => encode_parse, ?_, ?_⟩
  · intro position hposition
    rcases Field.exists_covers Field.tiles_all (Nat.zero_le position) hposition with
      ⟨field, -, hcovers, hunique⟩
    exact ⟨field, hcovers, fun other => hunique other other.mem_all⟩
  · intro field
    exact ⟨fun stat => range_encode stat field, fun _ hlength => bytes_parse hlength field⟩

/-- Bytes that fall from 255 to 192: all values are large, and all times are before the epoch. -/
def fallingRecord : Bytes :=
  (List.range 64).map fun position => UInt8.ofNat (255 - position)

theorem parse_inverse_encode_fallingRecord :
    fallingRecord.length = 64 ∧ encode (parse fallingRecord) = fallingRecord ∧
      Field.uid.bytes (parse fallingRecord) = [0xe7, 0xe6, 0xe5, 0xe4] ∧
      (parse fallingRecord).ctime < 0 := by
  have hlength : fallingRecord.length = 64 := by decide
  rcases parse_inverse_encode with ⟨-, hwritten, -, hfields⟩
  refine ⟨hlength, hwritten fallingRecord hlength, ?_, by decide⟩
  rw [(hfields .uid).2 fallingRecord hlength]
  decide

end EmulatorHost.Adb.FileStat
