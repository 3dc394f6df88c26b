import EmulatorHost.Adb.Client
import EmulatorHost.Proofs.Adb.Framing
import EmulatorHost.Proofs.Adb.Reply
import EmulatorHost.Proofs.Text.Fields

/-!
# Waiting for a device

The daemon tells of its devices in one update after another, each a message behind its length. A
client that waits reads updates up to the first with a line that names a usable device, and nothing
after it. No other update ends the wait; where no further update can be read, it fails as that read
does. The main statement is `waits_for_first_online`.
-/

namespace EmulatorHost.Adb.Client

open Exchange

/-! ## Updates -/

structure Update where
  digits : Bytes
  message : Bytes
  announces : Announces digits message.length

def Update.bytes (update : Update) : Bytes :=
  update.digits ++ update.message

/-- Some line of the message has `device` for its second field. -/
def ShowsOnline (message : Bytes) : Prop :=
  ∃ line ∈ Text.lines (Utf8.decodeLossy message).toList, ∃ serial more,
    Text.Fielded line (serial :: "device".toList :: more)

theorem isOnline_iff {line : List Char} :
    isOnline line = true ↔
      ∃ serial more, Text.Fielded line (serial :: "device".toList :: more) := by
  have hstate : isOnline line = true ↔ (Text.fields line)[1]? = some "device".toList :=
    beq_iff_eq
  rw [hstate]
  constructor
  · intro hsecond
    match hfields : Text.fields line with
    | [] | [_] =>
        rw [hfields] at hsecond
        cases hsecond
    | serial :: state :: more =>
        rw [hfields] at hsecond
        cases hsecond
        exact ⟨serial, more, Text.fields_eq_iff.mp hfields⟩
  · rintro ⟨serial, more, hfielded⟩
    rw [Text.fields_of_fielded hfielded]
    rfl

theorem showsOnline_iff {message : Bytes} : showsOnline message = true ↔ ShowsOnline message := by
  simp only [showsOnline, List.any_eq_true, isOnline_iff, ShowsOnline]

theorem selfDelimiting_update : Bytes.SelfDelimiting Update.bytes where
  nonempty := by
    intro update hempty
    have hfour := length_of_announces update.announces
    rw [(List.append_eq_nil_iff.mp hempty).1] at hfour
    cases hfour
  inj := by
    intro one other after rest hsame
    rw [Update.bytes, Update.bytes, List.append_assoc, List.append_assoc] at hsame
    have hfour := (length_of_announces one.announces).trans
      (length_of_announces other.announces).symm
    rcases List.append_inj hsame hfour with ⟨hdigits, hmessages⟩
    -- The same four bytes announce messages of the same length.
    have hannounces := other.announces
    rw [← hdigits] at hannounces
    rcases List.append_inj hmessages (announces_unique one.announces hannounces) with
      ⟨hmessage, hafter⟩
    cases one
    cases other
    cases hdigits
    cases hmessage
    exact ⟨rfl, hafter⟩

theorem reads_update (update : Update) : Reads readMessage update.bytes update.message := by
  intro connection rest hopen hbytes
  rw [Update.bytes, List.append_assoc] at hbytes
  exact on_readMessage_of_whole hopen update.announces hbytes

/-- Where no update comes, reading one fails. -/
theorem exists_unframed {rest : Bytes} (ending : Ending)
    (hended : ∀ (update : Update) after, rest ≠ update.bytes ++ after) :
    ∃ error, Unframed ending rest error := by
  rcases framed_or_unframed ending rest with ⟨block, message, after, hrest, hframed⟩ | hunframed
  · rcases hframed with ⟨digits, hblock, hannounces⟩
    subst hblock
    exact absurd hrest (hended ⟨digits, message, hannounces⟩ after)
  · exact hunframed

/-! ## One update after another -/

variable {connection : Connection} {rest : Bytes} {update : Update}

/-- A message that is read takes bytes. -/
theorem length_lt_of_readMessage {message : Bytes} {left : Connection}
    (hread : readMessage.on connection = (.ok message, left)) :
    left.source.bytes.length < connection.source.bytes.length := by
  cases hopen : connection.isOpen with
  | false =>
      have hfails : FailsClosed readMessage .closed := (FailsClosed.readRaw 4).bind _
      have hfail := hfails connection hopen
      rw [hread] at hfail
      cases hfail
  | true =>
      rcases framed_or_unframed connection.source.ending connection.source.bytes with
        ⟨block, message', rest, hbytes, digits, rfl, hannounces⟩ | ⟨error, hunframed⟩
      · have hupdate := hbytes
        rw [List.append_assoc] at hbytes
        rcases on_readMessage_of_whole hopen hannounces hbytes with ⟨after, hafter, hwhole⟩
        rw [hread] at hwhole
        cases hwhole
        have hfour := length_of_announces hannounces
        rw [hafter.bytes, hupdate]
        simp only [List.length_append]
        omega
      · rcases on_readMessage_of_unframed hunframed hopen rfl with ⟨after, hfail⟩
        rw [hread] at hfail
        cases hfail

/-- Fuel beyond the bytes to come makes no difference. -/
theorem on_awaitOnline_of_lt {fuel more : Nat} (hfuel : connection.source.bytes.length < fuel)
    (hmore : connection.source.bytes.length < more) :
    (awaitOnline fuel).on connection = (awaitOnline more).on connection := by
  -- On the fuel. Every turn takes bytes, so that the fuel that is left is still beyond them.
  induction fuel generalizing connection more with
  | zero =>
      exact absurd hfuel (Nat.not_lt_zero _)
  | succ fuel ih =>
      cases more with
      | zero =>
          exact absurd hmore (Nat.not_lt_zero _)
      | succ more =>
          rw [awaitOnline, awaitOnline]
          rcases hread : readMessage.on connection with ⟨error | message, left⟩
          · rw [on_bind_of_error hread, on_bind_of_error hread]
          · have hless := length_lt_of_readMessage hread
            rw [on_bind_of_ok hread, on_bind_of_ok hread]
            split
            · rfl
            · exact ih (by omega) (by omega)

/-- The wait reads an update, and goes on if it shows no usable device. -/
theorem on_waitForOnline (connection : Connection) :
    waitForOnline.on connection =
      (do
        let update ← readMessage
        if showsOnline update then pure () else waitForOnline).on connection := by
  have hwait (connection : Connection) : waitForOnline.on connection =
      (awaitOnline (connection.source.size + 1)).on connection :=
    on_bind_of_ok (on_get connection) _
  rw [hwait, awaitOnline]
  rcases hread : readMessage.on connection with ⟨error | message, left⟩
  · rw [on_bind_of_error hread, on_bind_of_error hread]
  · have hless := length_lt_of_readMessage hread
    rw [on_bind_of_ok hread, on_bind_of_ok hread]
    split
    · rfl
    · -- The fuel that is left is still beyond the bytes, as that of a wait begun here.
      rw [hwait]
      exact on_awaitOnline_of_lt hless (Nat.lt_succ_self _)

theorem on_waitForOnline_of_shown (hopen : connection.isOpen = true)
    (hbytes : connection.source.bytes = update.bytes ++ rest)
    (hshown : ShowsOnline update.message) :
    ∃ left, connection.Onward rest left ∧ waitForOnline.on connection = (.ok (), left) := by
  rcases reads_update update connection rest hopen hbytes with ⟨left, hleft, hread⟩
  refine ⟨left, hleft, ?_⟩
  rw [on_waitForOnline, on_bind_of_ok hread, if_pos (showsOnline_iff.mpr hshown)]
  rfl

/-- Updates that show no usable device are read, and the wait is as it was. -/
theorem on_waitForOnline_of_quiet {updates : List Update} (hopen : connection.isOpen = true)
    (hbytes : connection.source.bytes = updates.flatMap Update.bytes ++ rest)
    (hquiet : ∀ update ∈ updates, ¬ ShowsOnline update.message) :
    ∃ after, connection.Onward rest after ∧
      waitForOnline.on connection = waitForOnline.on after := by
  induction updates generalizing connection with
  | nil =>
      exact ⟨connection, .refl hopen hbytes, rfl⟩
  | cons update updates ih =>
      rw [List.forall_mem_cons] at hquiet
      rw [List.flatMap_cons, List.append_assoc] at hbytes
      rcases reads_update update connection _ hopen hbytes with ⟨middle, hmiddle, hread⟩
      rcases ih hmiddle.isOpen hmiddle.bytes hquiet.2 with ⟨after, hafter, hlater⟩
      refine ⟨after, hmiddle.trans hafter, ?_⟩
      rw [on_waitForOnline, on_bind_of_ok hread, if_neg (mt showsOnline_iff.mp hquiet.1)]
      exact hlater

theorem on_waitForOnline_of_unframed {error : Error} (hopen : connection.isOpen = true)
    (hunframed : Unframed connection.source.ending connection.source.bytes error) :
    ∃ left, waitForOnline.on connection = (.error error, left) ∧ left.isOpen = false := by
  rcases on_readMessage_of_unframed hunframed hopen rfl with ⟨left, hread⟩
  refine ⟨left, ?_, Disciplined.readMessage.closes hread⟩
  rw [on_waitForOnline]
  exact on_bind_of_error hread _

/-! ## Waiting -/

variable {updates : List Update}

/-- Of the updates that show a usable device there is a first one. -/
theorem exists_first_shown (hshown : ∃ update ∈ updates, ShowsOnline update.message) :
    ∃ before update after, updates = before ++ update :: after ∧
      (∀ earlier ∈ before, ¬ ShowsOnline earlier.message) ∧ ShowsOnline update.message := by
  rcases hshown with ⟨update, hupdate, hshown⟩
  have hsome : (updates.find? fun update => showsOnline update.message).isSome = true :=
    List.find?_isSome.mpr ⟨update, hupdate, showsOnline_iff.mpr hshown⟩
  rcases Option.isSome_iff_exists.mp hsome with ⟨first, hfound⟩
  rcases List.find?_eq_some_iff_append.mp hfound with ⟨hfirst, before, after, heq, hbefore⟩
  refine ⟨before, first, after, heq, ?_, showsOnline_iff.mp hfirst⟩
  intro earlier hearlier hshows
  have hnot := hbefore earlier hearlier
  rw [showsOnline_iff.mpr hshows] at hnot
  cases hnot

/-- The first update that shows a usable device ends the wait. -/
theorem on_waitForOnline_of_first {before after : List Update} (hopen : connection.isOpen = true)
    (hbytes : connection.source.bytes =
      (before ++ update :: after).flatMap Update.bytes ++ rest)
    (hquiet : ∀ earlier ∈ before, ¬ ShowsOnline earlier.message)
    (hshown : ShowsOnline update.message) :
    ∃ left, connection.Onward (after.flatMap Update.bytes ++ rest) left ∧
      waitForOnline.on connection = (.ok (), left) := by
  have hparts : connection.source.bytes =
      before.flatMap Update.bytes ++ (update.bytes ++ (after.flatMap Update.bytes ++ rest)) := by
    rw [hbytes]
    simp only [List.flatMap_append, List.flatMap_cons, List.append_assoc]
  rcases on_waitForOnline_of_quiet hopen hparts hquiet with ⟨middle, hmiddle, hwait⟩
  rcases on_waitForOnline_of_shown hmiddle.isOpen hmiddle.bytes hshown with ⟨left, hleft, hdone⟩
  exact ⟨left, hmiddle.trans hleft, hwait.trans hdone⟩

/-- Where no update shows a usable device, the wait ends as the first read that fails. -/
theorem on_waitForOnline_of_none {error : Error} (hopen : connection.isOpen = true)
    (hbytes : connection.source.bytes = updates.flatMap Update.bytes ++ rest)
    (hunframed : Unframed connection.source.ending rest error)
    (hquiet : ∀ update ∈ updates, ¬ ShowsOnline update.message) :
    ∃ left, waitForOnline.on connection = (.error error, left) ∧ left.isOpen = false := by
  rcases on_waitForOnline_of_quiet hopen hbytes hquiet with ⟨middle, hmiddle, hwait⟩
  rw [← hmiddle.ending, ← hmiddle.bytes] at hunframed
  rcases on_waitForOnline_of_unframed hmiddle.isOpen hunframed with ⟨left, hfail, hclosed⟩
  exact ⟨left, hwait.trans hfail, hclosed⟩

/-- What the daemon sends begins with updates, which are what one read of a message after another
yields, and the first read that fails is the one after the last of them. The wait succeeds exactly
if some update shows a usable device. Then it has gone on to the end of the first such update, and
the connection is open; otherwise it fails as that read fails, and the connection is closed. An
update whose lines all have fewer than two fields or another second field, as one without lines,
leaves the wait as it is. -/
theorem waits_for_first_online (connection : Connection) (hopen : connection.isOpen = true) :
    let run := waitForOnline.on connection
    ∃ updates rest error, Bytes.Split Update.bytes connection.source.bytes updates rest ∧
      (∀ turn (hturn : turn < updates.length),
        readMessage.atTurn connection turn = .ok updates[turn].message) ∧
      readMessage.atTurn connection updates.length = .error error ∧
      (run.1 = .ok () ↔ ∃ update ∈ updates, ShowsOnline update.message) ∧
      (∀ before update after, updates = before ++ update :: after →
        (∀ earlier ∈ before, ¬ ShowsOnline earlier.message) → ShowsOnline update.message →
        connection.Onward (after.flatMap Update.bytes ++ rest) run.2) ∧
      ((∀ update ∈ updates, ¬ ShowsOnline update.message) →
        run.1 = .error error ∧ run.2.isOpen = false) ∧
      ∀ update later, connection.source.bytes = Update.bytes update ++ later →
        (∀ line ∈ Text.lines (Utf8.decodeLossy update.message).toList, ∀ words,
          Text.Fielded line words → words[1]? ≠ some "device".toList) →
        ∃ left, connection.Onward later left ∧ run = waitForOnline.on left := by
  intro run
  rcases Bytes.exists_split selfDelimiting_update connection.source.bytes with
    ⟨updates, rest, hsplit⟩
  rcases exists_unframed connection.source.ending hsplit.ended with ⟨error, hunframed⟩
  rcases Reads.turns (fun update _ => reads_update update) hopen hsplit.bytes_eq with
    ⟨hvalues, hplaces⟩
  have hend : readMessage.atTurn connection updates.length = .error error := by
    have hlast := hplaces updates.length (Nat.le_refl _)
    rw [List.drop_length] at hlast
    rw [← hlast.ending] at hunframed
    rcases on_readMessage_of_unframed hunframed hlast.isOpen hlast.bytes with ⟨left, hread⟩
    exact congrArg Prod.fst hread
  have hnone : (∀ update ∈ updates, ¬ ShowsOnline update.message) →
      run.1 = .error error ∧ run.2.isOpen = false := by
    intro hquiet
    rcases on_waitForOnline_of_none hopen hsplit.bytes_eq hunframed hquiet with
      ⟨left, hfail, hclosed⟩
    have hrun : run = (.error error, left) := hfail
    rw [hrun]
    exact ⟨rfl, hclosed⟩
  refine ⟨updates, rest, error, hsplit, hvalues, hend, ?_, ?_, hnone, ?_⟩
  · constructor
    · intro hdone
      refine Classical.byContradiction fun hnothing => ?_
      have hquiet : ∀ update ∈ updates, ¬ ShowsOnline update.message := by
        intro update hupdate hshown
        exact hnothing ⟨update, hupdate, hshown⟩
      rw [(hnone hquiet).1] at hdone
      cases hdone
    · intro hshown
      rcases exists_first_shown hshown with ⟨before, update, after, rfl, hquiet, hfirst⟩
      rcases on_waitForOnline_of_first hopen hsplit.bytes_eq hquiet hfirst with ⟨left, -, hdone⟩
      exact congrArg Prod.fst hdone
  · intro before update after hupdates hquiet hshown
    subst hupdates
    rcases on_waitForOnline_of_first hopen hsplit.bytes_eq hquiet hshown with ⟨left, hleft, hdone⟩
    have hrun : run = (.ok (), left) := hdone
    rw [hrun]
    exact hleft
  · intro update later hbytes hlines
    have hquiet : ∀ one ∈ [update], ¬ ShowsOnline one.message := by
      intro one hone
      rw [List.mem_singleton] at hone
      subst hone
      rintro ⟨line, hline, serial, more, hfielded⟩
      exact hlines line hline _ hfielded rfl
    have hone : connection.source.bytes = [update].flatMap Update.bytes ++ later := by
      rw [hbytes, List.flatMap_singleton]
    exact on_waitForOnline_of_quiet hopen hone hquiet

/-- An update without lines, one with an empty line and a device that is not there yet, and one with
a usable device. -/
def threeUpdates : List Update :=
  [⟨Bytes.ofString "0000", [], (announcedLength?_eq_some_iff rfl).mp rfl⟩,
    ⟨Bytes.ofString "000C", Bytes.ofString "\ne-1\toffline",
      (announcedLength?_eq_some_iff rfl).mp rfl⟩,
    ⟨Bytes.ofString "000d", Bytes.ofString "e-1  device x",
      (announcedLength?_eq_some_iff rfl).mp rfl⟩]

/-- The third update ends the wait, and the byte after it is left, also where the segments cut the
updates. Without the third update the wait fails for want of more bytes. -/
theorem waits_for_first_online_thirdUpdate :
    let shown := Connection.ofPeer ⟨[Bytes.ofString "0000000", Bytes.ofString "C\ne-1\toffline000d",
      Bytes.ofString "e-1  device x!"], .finished⟩ .unlimited
    let unseen := Connection.ofPeer
      ⟨[Bytes.ofString "0000000C\ne-1\toffline!"], .finished⟩ .unlimited
    (shown.isOpen = true ∧ unseen.isOpen = true) ∧
      (waitForOnline.on shown).1 = .ok () ∧
      shown.Onward (Bytes.ofString "!") (waitForOnline.on shown).2 ∧
      (waitForOnline.on unseen).1 = .error (.io (.text "early eof")) ∧
      (waitForOnline.on unseen).2.isOpen = false := by
  intro shown unseen
  -- What is left in the end is too short for another update.
  have hended : ∀ (update : Update) after, Bytes.ofString "!" ≠ update.bytes ++ after := by
    intro update after hsame
    have hfour := length_of_announces update.announces
    have hlength := congrArg List.length hsame
    have hone : (Bytes.ofString "!").length = 1 := by decide
    rw [hone, List.length_append, Update.bytes, List.length_append] at hlength
    omega
  have hthree : Bytes.Split Update.bytes shown.source.bytes threeUpdates (Bytes.ofString "!") :=
    ⟨by decide, hended⟩
  have htwo : Bytes.Split Update.bytes unseen.source.bytes (threeUpdates.take 2)
      (Bytes.ofString "!") := ⟨by decide, hended⟩
  have hquiet : ∀ update ∈ threeUpdates.take 2, ¬ ShowsOnline update.message := by
    simp only [← showsOnline_iff]
    decide +kernel
  have hshown : ShowsOnline (Bytes.ofString "e-1  device x") :=
    showsOnline_iff.mp (by decide +kernel)
  refine ⟨⟨rfl, rfl⟩, ?_⟩
  constructor
  · rcases waits_for_first_online shown rfl with
      ⟨updates, rest, error, hsplit, -, -, hsucceeds, -⟩
    rcases hsplit.unique selfDelimiting_update hthree with ⟨rfl, rfl⟩
    exact hsucceeds.mpr ⟨_, List.getLast_mem (List.cons_ne_nil _ _), hshown⟩
  constructor
  · rcases waits_for_first_online shown rfl with
      ⟨updates, rest, error, hsplit, -, -, -, hfirst, -⟩
    rcases hsplit.unique selfDelimiting_update hthree with ⟨rfl, rfl⟩
    exact hfirst (threeUpdates.take 2) _ [] rfl hquiet hshown
  · rcases waits_for_first_online unseen rfl with
      ⟨updates, rest, error, hsplit, -, hend, -, -, hnone, -⟩
    rcases hsplit.unique selfDelimiting_update htwo with ⟨rfl, rfl⟩
    have herror : readMessage.atTurn unseen 2 = .error (.io (.text "early eof")) := by decide
    have hsame : error = .io (.text "early eof") := Except.error.inj (hend.symm.trans herror)
    rw [← hsame]
    exact hnone hquiet

end EmulatorHost.Adb.Client
