import EmulatorHost.Proofs.Adb.Handshake
import EmulatorHost.Proofs.Adb.Messages
import EmulatorHost.Proofs.Adb.Push
import EmulatorHost.Proofs.Adb.ShellService

/-!
# Reaching the services of the device

Every service of the device is asked for by a fixed list of messages: the switch to the device, the
switch to the service, and for the file service the request itself (`Service.messages`). On the
connection that is dialled for it, a message is sent only once every message before it was sent and
confirmed (`SentInTurn`), so nothing reaches a device or a service that was not switched to.
-/

namespace EmulatorHost.Adb

open Exchange

namespace Sync

/-! ## Answers of the file service -/

theorem silent_readEntry : Silent readEntry := by
  refine .bind (.readRaw _) fun record => ?_
  refine .ite (.pure _) (.ite ?_ (.fail _))
  exact .bind (.readBlock _ _) fun _ => .pure _

theorem silent_readEntries (fuel : Nat) : Silent (readEntries fuel) := by
  induction fuel with
  | zero =>
      exact .fail _
  | succ fuel ih =>
      refine .bind silent_readEntry fun entry => ?_
      cases entry with
      | none =>
          exact .pure _
      | some entry =>
          exact .bind ih fun _ => .pure _

end Sync

namespace Client

/-! ## What is asked of the device -/

inductive Message where
  -- A command, which is answered with a status.
  | command (text : String)
  -- A request for a path: its letters, and what stands after the path.
  | file (letters path : String) (options : Bytes)

namespace Message

/-- A message as it is sent: a command behind four hexadecimal digits of its length, and a request
for a path with the length of the path in four bytes. -/
def bytes : Message → Bytes
  | command text => paddedHex (Bytes.ofString text).length ++ Bytes.ofString text
  | file letters path options =>
    Bytes.ofString letters ++ Bytes.leBytes 4 (Bytes.ofString path).length ++
      Bytes.ofString path ++ options

/-- The length field of the message can hold the length. -/
def Fits : Message → Prop
  | command text => (Bytes.ofString text).length ≤ 0xffff
  | file _ path _ => (Bytes.ofString path).length < 0x100000000

/-- A status is read before anything else is done. -/
def AwaitsStatus : Message → Prop
  | command _ => True
  | file _ _ _ => False

theorem bytes_of_fits {text : String} (hfits : (command text).Fits) :
    (command text).bytes = messageFrame (Bytes.ofString text) :=
  (messageFrame_eq hfits).symm

end Message

inductive Service where
  | list (path : String)
  | stat (path : String) (followLinks : Bool)
  | pull (path : String)
  | push (path : String) (mode : UInt32)
  | root
  | shell (request : Shell.Request)

namespace Service

def Outcome : Service → Type
  | list _ => List Sync.Entry
  | stat _ _ => StatOutcome
  | root => Option String
  | pull _ | push _ _ | shell _ => Unit

/-- The operation of a client that uses the service; a transfer and a shell are only opened. -/
def perform : (service : Service) → Exchange service.Outcome
  | list path => Client.list path
  | stat path followLinks => Client.stat path followLinks
  | pull path => openPull path
  | push path mode => openPush path mode
  | root => Client.root
  | shell request => openShell request

/-- The messages that ask for the service, in their order. -/
def messages : Service → List Message
  | list path => [.command "host:transport-local", .command "sync:", .file "LIS2" path []]
  | stat path followLinks =>
    [.command "host:transport-local", .command "sync:",
      .file (if followLinks then "STA2" else "LST2") path []]
  | pull path =>
    [.command "host:transport-local", .command "sync:",
      .file "RCV2" path (Bytes.ofString "RCV2" ++ Bytes.ofWord32 0)]
  | push path mode =>
    [.command "host:transport-local", .command "sync:",
      .file "SND2" path (Bytes.ofString "SND2" ++ Bytes.ofWord32 mode ++ Bytes.ofWord32 0)]
  | root => [.command "host:transport-local", .command "root:"]
  | shell request =>
    [.command "host:transport-local",
      .command ("shell,v2" ++ request.termText ++ request.kind.mark ++ request.command.getD "")]

end Service

/-! ## Messages sent in turn -/

/-- The status at this place in the reply of the peer accepts. -/
def Confirmed (reply : Bytes) (place : Nat) : Prop :=
  (reply.drop (4 * place)).take 4 = Bytes.ofString "OKAY"

theorem confirmed_zero {reply : Bytes} :
    Confirmed reply 0 ↔ ∃ rest, reply = statusOkay ++ rest := by
  rw [Confirmed, ofString_okay, Nat.mul_zero, List.drop_zero]
  constructor
  · intro hstatus
    exact ⟨reply.drop 4, by rw [← hstatus, List.take_append_drop]⟩
  · rintro ⟨rest, rfl⟩
    exact List.take_left' rfl

/-- The status after the first one is the first one of what comes after it. -/
theorem confirmed_succ {reply : Bytes} {place : Nat} :
    Confirmed reply (place + 1) ↔ Confirmed (reply.drop 4) place := by
  unfold Confirmed
  rw [List.drop_drop, Nat.mul_add_one, Nat.add_comm]

/-- Of these messages `count` were sent, in their order, each of them once all before it were sent
and confirmed; this is what came of it, and what was sent in all. -/
structure SentInTurn {α : Type} (messages : List Message) (reply : Bytes)
    (outcome : Except Error α) (sent : Bytes) (count : Nat) : Prop where
  bounded : count ≤ messages.length
  sent_eq : sent = (messages.take count).flatMap Message.bytes
  -- A message is sent exactly if it fits, and all before it were sent and confirmed.
  sends_iff : ∀ next (hnext : next < messages.length), next < count ↔
    messages[next].Fits ∧ ∀ earlier < next, earlier < count ∧ Confirmed reply earlier
  -- If not all were sent, the operation failed.
  unfinished : count < messages.length → ∃ error, outcome = .error error
  -- After a message that was not confirmed nothing more was sent, and the operation failed.
  refused : ∀ asked (hasked : asked < messages.length), asked < count →
    messages[asked].AwaitsStatus → ¬ Confirmed reply asked →
    count = asked + 1 ∧ ∃ error, outcome = .error error

namespace SentInTurn

variable {α : Type} {message : Message} {later : List Message} {reply sent : Bytes}
  {outcome : Except Error α} {count : Nat}

/-- With nothing to ask nothing is sent. -/
theorem nil (reply : Bytes) (outcome : Except Error α) : SentInTurn [] reply outcome [] 0 where
  bounded := Nat.le_refl 0
  sent_eq := rfl
  sends_iff := nofun
  unfinished := nofun
  refused := nofun

/-- A message that does not fit is not sent, and neither is any after it. -/
theorem of_not_fits (hfits : ¬ message.Fits) (error : Error) :
    SentInTurn (message :: later) reply (.error error : Except Error α) [] 0 where
  bounded := Nat.zero_le _
  sent_eq := rfl
  sends_iff := by
    intro next hnext
    refine iff_of_false (Nat.not_lt_zero next) ?_
    rintro ⟨hthis, hearlier⟩
    -- Either this is the message that does not fit, or that message would have to be sent before.
    cases next with
    | zero =>
        exact hfits hthis
    | succ next =>
        exact Nat.not_lt_zero 0 (hearlier 0 (Nat.succ_pos next)).1
  unfinished := fun _ => ⟨error, rfl⟩
  refused := nofun

/-- A message that is not confirmed is the last one that is sent. -/
theorem of_not_confirmed (hfits : message.Fits) (hreply : ¬ Confirmed reply 0) (error : Error) :
    SentInTurn (message :: later) reply (.error error : Except Error α) message.bytes 1 where
  bounded := Nat.succ_pos _
  sent_eq := by simp
  sends_iff := by
    intro next hnext
    cases next with
    | zero =>
        exact iff_of_true Nat.one_pos ⟨hfits, nofun⟩
    | succ next =>
        refine iff_of_false (by omega) ?_
        rintro ⟨-, hearlier⟩
        exact hreply (hearlier 0 (Nat.succ_pos next)).2
  unfinished := fun _ => ⟨error, rfl⟩
  refused := by
    intro asked hasked hsent hawaits hnot
    have hzero : asked = 0 := Nat.lt_one_iff.mp hsent
    subst hzero
    exact ⟨rfl, error, rfl⟩

/-- After the last message, which awaits no status, anything may come. -/
theorem last (hfits : message.Fits) (hawaits : ¬ message.AwaitsStatus) (reply : Bytes)
    (outcome : Except Error α) : SentInTurn [message] reply outcome message.bytes 1 where
  bounded := Nat.le_refl 1
  sent_eq := by simp
  sends_iff := by
    intro next hnext
    have hzero : next = 0 := Nat.lt_one_iff.mp hnext
    subst hzero
    exact iff_of_true Nat.one_pos ⟨hfits, nofun⟩
  unfinished := fun hless => absurd hless (Nat.lt_irrefl 1)
  refused := by
    intro asked hasked hsent hasks
    have hzero : asked = 0 := Nat.lt_one_iff.mp hasked
    subst hzero
    exact absurd hasks hawaits

/-- After a message that is confirmed the later ones are sent in their turn. -/
theorem cons (hfits : message.Fits) (hreply : Confirmed reply 0)
    (hlater : SentInTurn later (reply.drop 4) outcome sent count) :
    SentInTurn (message :: later) reply outcome (message.bytes ++ sent) (count + 1) where
  bounded := Nat.succ_le_succ hlater.bounded
  sent_eq := by
    rw [hlater.sent_eq, List.take_succ_cons, List.flatMap_cons]
  sends_iff := by
    intro next hnext
    cases next with
    | zero =>
        exact iff_of_true (Nat.succ_pos count) ⟨hfits, nofun⟩
    | succ next =>
        rw [Nat.succ_lt_succ_iff, hlater.sends_iff next (Nat.lt_of_succ_lt_succ hnext)]
        refine and_congr_right fun _ => ?_
        -- The earlier messages are the first one, and the earlier ones among the others.
        constructor
        · intro hearlier earlier hless
          cases earlier with
          | zero =>
              exact ⟨Nat.succ_pos count, hreply⟩
          | succ earlier =>
              have hthat := hearlier earlier (Nat.lt_of_succ_lt_succ hless)
              exact ⟨Nat.succ_lt_succ hthat.1, confirmed_succ.mpr hthat.2⟩
        · intro hearlier earlier hless
          have hthat := hearlier (earlier + 1) (Nat.succ_lt_succ hless)
          exact ⟨Nat.lt_of_succ_lt_succ hthat.1, confirmed_succ.mp hthat.2⟩
  unfinished := fun hless => hlater.unfinished (Nat.lt_of_succ_lt_succ hless)
  refused := by
    intro asked hasked hsent hawaits hnot
    cases asked with
    | zero =>
        exact absurd hreply hnot
    | succ asked =>
        have hrefused := hlater.refused asked (Nat.lt_of_succ_lt_succ hasked)
          (Nat.lt_of_succ_lt_succ hsent) hawaits fun hyes => hnot (confirmed_succ.mpr hyes)
        exact ⟨congrArg Nat.succ hrefused.1, hrefused.2⟩

end SentInTurn

/-! ## Operations that ask in turn -/

theorem takes_of_unlimited {connection : Connection} (hopen : connection.isOpen = true)
    (hroom : connection.sink.room = none) (data : Bytes) : connection.Takes data := by
  refine ⟨hopen, ?_⟩
  intro room hlimited
  rw [hroom] at hlimited
  cases hlimited

/-- On an open connection whose peer takes everything, the operation sends these messages in their
turn. -/
def Asks {α : Type} (operation : Exchange α) (messages : List Message) : Prop :=
  ∀ connection : Connection, connection.isOpen = true → connection.sink.room = none →
    ∃ sent count,
      (operation.on connection).2.sink.sent = connection.sink.sent ++ sent ∧
        SentInTurn messages connection.source.bytes (operation.on connection).1 sent count

namespace Asks

variable {α : Type} {later : List Message}

/-- What writes nothing asks for nothing. -/
theorem silent {operation : Exchange α} (hsilent : Silent operation) : Asks operation [] := by
  intro connection _ _
  refine ⟨[], 0, ?_, .nil _ _⟩
  rw [hsilent connection, List.append_nil]

/-- A command is sent if it fits, and what comes after it only if the daemon accepts. -/
theorem command (text : String) {next : Exchange α} (hnext : Asks next later) :
    Asks (do request text; next) (.command text :: later) := by
  intro connection hopen hroom
  have htakes := takes_of_unlimited hopen hroom (messageFrame (Bytes.ofString text))
  by_cases hfits : (Message.command text).Fits
  · by_cases hreply : Confirmed connection.source.bytes 0
    · -- The command is done, and the rest is asked on what it leaves.
      rcases confirmed_zero.mp hreply with ⟨rest, hbytes⟩
      have hrest : rest = connection.source.bytes.drop 4 := by
        rw [hbytes]
        rfl
      rcases (trades_sendCommand _).succeeds hfits htakes hbytes with ⟨left, hleft, hdone⟩
      have hwhole : (do request text; next : Exchange α).on connection = next.on left :=
        on_bind_of_ok hdone _
      have hsink : left.sink = connection.sink.taking (Message.command text).bytes := by
        rw [Message.bytes_of_fits hfits]
        exact hleft.sink
      have hunlimited : left.sink.room = none := by
        rw [hsink, Sink.taking, hroom]
        rfl
      rcases hnext left hleft.isOpen hunlimited with ⟨sent, count, hsent, hturns⟩
      rw [hleft.bytes, hrest] at hturns
      rw [hwhole]
      refine ⟨(Message.command text).bytes ++ sent, count + 1, ?_, .cons hfits hreply hturns⟩
      rw [hsent, hsink, ← List.append_assoc]
      rfl
    · -- The command is on its way, but whatever the daemon sends instead, the operation ends here.
      have hsink := sink_sendCommand_of_takes hfits htakes
      rcases hdone : (sendCommand (Bytes.ofString text)).on connection with ⟨error | _, left⟩
      · rw [hdone] at hsink
        have hwhole : (do request text; next : Exchange α).on connection = (.error error, left) :=
          on_bind_of_error hdone _
        rw [← Message.bytes_of_fits hfits] at hsink
        rw [hwhole]
        exact ⟨_, 1, congrArg Sink.sent hsink, .of_not_confirmed hfits hreply error⟩
      · rcases (trades_sendCommand _).demands hopen hdone with ⟨-, -, rest, hbytes, -⟩
        exact absurd (confirmed_zero.mpr ⟨rest, hbytes⟩) hreply
  · rcases on_sendCommand_of_long hfits connection with ⟨error, hfail⟩
    have hwhole : (do request text; next : Exchange α).on connection =
        (.error error, { connection with isOpen := false }) := on_bind_of_error hfail _
    rw [hwhole]
    exact ⟨[], 0, (List.append_nil _).symm, .of_not_fits hfits error⟩

/-- A request for a path comes last; whatever is done after it only reads. -/
theorem file {letters path : String} {tag : Tag} {options : Bytes} {next : Exchange α}
    (hletters : Bytes.ofString letters = tag.bytes) (hnext : Silent next) :
    Asks (do Sync.writePathRequest tag path options; next) [.file letters path options] := by
  intro connection hopen hroom
  by_cases hfits : (Message.file letters path options).Fits
  · have hlength : (Bytes.ofString path).length < Bytes.limit 4 := hfits
    have hwritten : ((do Sync.writePathRequest tag path options; next : Exchange α).on
        connection).2.sink = connection.sink.taking (Message.file letters path options).bytes := by
      rw [Silent.sink_bind (fun _ => hnext), Sync.writePathRequest, if_pos hlength,
        on_writeRaw_of_takes (takes_of_unlimited hopen hroom _), Message.bytes, hletters]
      rfl
    refine ⟨_, 1, ?_, .last hfits nofun _ _⟩
    exact congrArg Sink.sent hwritten
  · have hfail : ∃ error, (Sync.writePathRequest tag path options).on connection =
        (.error error, connection) := by
      have hlength : ¬ (Bytes.ofString path).length < Bytes.limit 4 := hfits
      rw [Sync.writePathRequest, if_neg hlength]
      exact ⟨_, rfl⟩
    rcases hfail with ⟨error, hfail⟩
    rw [on_bind_of_error hfail]
    exact ⟨[], 0, (List.append_nil _).symm, .of_not_fits hfits error⟩

/-- An operation that only asks. -/
theorem bare {operation : Exchange Unit} {messages : List Message}
    (hasks : Asks (do operation; pure ()) messages) : Asks operation messages := by
  rw [bind_pure_unit] at hasks
  exact hasks

/-- The file service is asked for before anything that it is to do. -/
theorem sync {next : Exchange α} (hnext : Asks next later) :
    Asks (do openSync; next)
      (.command "host:transport-local" :: .command "sync:" :: later) := by
  rw [openSync, openDevice, bind_assoc]
  exact .command _ (.command _ hnext)

end Asks

/-! ## The services -/

/-- Every service is asked for by its messages in their turn. -/
theorem Service.asks (service : Service) : Asks service.perform service.messages := by
  cases service with
  | list path =>
      refine Asks.sync (.file (by decide) ?_)
      exact .bind .get fun _ => Sync.silent_readEntries _
  | stat path followLinks =>
      refine Asks.sync (.file ?_ ?_)
      · cases followLinks <;> decide
      refine .bind (.readRaw _) fun reply => ?_
      -- What is made of a reply that is no failure; the tag is judged once more.
      have hstat : Silent (do
          if reply.take 4 != Tag.stat.bytes && reply.take 4 != Tag.linkStat.bytes then
            Sync.unexpected (reply.take 4) "in stat reply"
          return StatOutcome.ofParts (Bytes.toWord32 ((reply.drop 4).take 4))
            (FileStat.parse (reply.drop 8)) : Exchange StatOutcome) :=
        .ite (.bind (.fail _) fun _ => .pure _) (.pure _)
      exact .ite (.bind (Sync.silent_readFailure _) fun _ => .bind (.throw _) fun _ => hstat) hstat
  | pull path =>
      exact Asks.sync (.bare (.file (by decide) (.pure ())))
  | push path mode =>
      exact Asks.sync (.bare (.file (by decide) (.pure ())))
  | root =>
      exact Asks.command _ (.command _ (.silent .readLine))
  | shell request =>
      rw [messages, ← request.service_eq]
      exact Asks.command _ (.bare (.command _ (.silent (.pure ()))))

/-- A service that is asked for dials once. On that connection its messages are sent in their turn,
each of them once all before it were sent and confirmed, so that nothing is asked of a device or of
a service that was not switched to; if the daemon cannot be reached, nothing is sent at all. -/
theorem sends_only_confirmed (service : Service) (daemon : Daemon) :
    match Daemon.dial daemon.reach with
    | .error error => daemon.run service.perform = (.error error, daemon)
    | .ok (peer, reach) =>
      ∃ outcome left count,
        daemon.run service.perform = (outcome, ⟨reach, daemon.dialled ++ [left]⟩) ∧
          SentInTurn service.messages peer.source.bytes outcome left.sink.sent count := by
  split
  · rename_i error hdial
    rw [Daemon.run, Daemon.use, hdial]
  · rename_i peer reach hdial
    rcases service.asks (.ofPeer peer.source .unlimited) rfl rfl with ⟨sent, count, hsent, hturns⟩
    have hall : (service.perform.on (.ofPeer peer.source .unlimited)).2.sink.sent = sent := hsent
    refine ⟨_, _, count, ?_, hall ▸ hturns⟩
    rw [Daemon.run, Daemon.use, hdial]
    rfl

/-- A file service that the daemon refuses is not asked for the file. -/
example :
    let peer : Peer := ⟨.ofBytes (Bytes.ofString "OKAYFAIL0002no") .finished, false⟩
    ((Daemon.ofReach (.answering [peer])).run (openPull "/x")).2.sentSince 0 =
      [Bytes.ofString "0014host:transport-local0005sync:"] := by
  decide

end Client

end EmulatorHost.Adb
