import EmulatorHost.Adb.Client
import EmulatorHost.Proofs.Adb.Trade

/-!
# Switching a connection

Before anything is asked of the device, a connection is switched to it, and then to the service that
is wanted. Each switch is a request of its own, and it is done once the daemon has answered with its
accepting status; the bytes after the status are for what comes next.
-/

namespace EmulatorHost.Adb

open Exchange

namespace Exchange

theorem ofString_okay : Bytes.ofString "OKAY" = statusOkay := by
  decide

/-- What a request waits for: it is done after the accepting status, and fails after any other. -/
def awaitOkay : Exchange Unit := do
  let status ← readStatus
  if status == statusOkay then pure ()
  else
    let reply ← readMessage
    if status == statusFail then fail (.server (Utf8.decodeLossy reply))
    else fail (.protocol ("status " ++ Text.quoted (Utf8.decodeLossy status)))

theorem sendCommand_eq (command : Bytes) :
    sendCommand command = (do writeMessage command; awaitOkay) :=
  rfl

theorem trades_awaitOkay : Trades awaitOkay True [] statusOkay := by
  refine .of_reads ?_ ?_ ?_
  · refine .bind (.readRaw 4) fun status => .ite (.pure ()) ?_
    exact .bind .readMessage fun _ => .ite (.fail _) (.fail _)
  · intro connection rest hopen hbytes
    have hfour : statusOkay.length = 4 := rfl
    rcases on_readRaw_of_append hopen hbytes hfour with ⟨left, hleft, hstatus⟩
    refine ⟨left, hleft, ?_⟩
    change readStatus.on _ = _ at hstatus
    rw [awaitOkay, on_bind_of_ok hstatus, if_pos (beq_self_eq_true _)]
    rfl
  · intro connection left hok
    rcases of_bind_ok hok with ⟨status, middle, hstatus, hverdict⟩
    refine ⟨connection.source.bytes.drop 4, ?_⟩
    split at hverdict
    · rename_i haccepts
      rw [← beq_iff_eq.mp haccepts, ← (of_readRaw_ok hstatus).2, List.take_append_drop]
    · rcases of_bind_ok hverdict with ⟨reply, last, -, hrefusal⟩
      split at hrefusal <;> cases hrefusal

/-- A request is done exactly if it fits its length field, the peer takes it and the daemon accepts
it. -/
theorem trades_sendCommand (command : Bytes) :
    Trades (sendCommand command) (command.length ≤ maxMessageLength) (messageFrame command)
      statusOkay := by
  have hwrite : Trades (writeMessage command) (command.length ≤ maxMessageLength ∧ True)
      (messageFrame command) [] := .guarded (.writeRaw _) (.fail _) nofun
  have hboth := hwrite.bind trades_awaitOkay
  rw [List.append_nil, List.nil_append] at hboth
  rw [sendCommand_eq]
  exact hboth.congr (by simp only [and_true])

/-- Only on an open connection is a request accepted. -/
theorem isOpen_of_sendCommand_ok {command : Bytes} {connection left : Connection}
    (hok : (sendCommand command).on connection = (.ok (), left)) : connection.isOpen = true := by
  cases hopen : connection.isOpen with
  | true =>
      rfl
  | false =>
      have hwrite : ((writeMessage command).on connection).1 = _ :=
        FailsClosed.bounded (.writeRaw _) _ connection hopen
      rcases of_bind_ok hok with ⟨_, middle, hwritten, -⟩
      rw [hwritten] at hwrite
      cases hwrite

/-- A request that does not fit its length field is not sent. -/
theorem on_sendCommand_of_long {command : Bytes} (hlong : ¬ command.length ≤ maxMessageLength)
    (connection : Connection) :
    ∃ error, (sendCommand command).on connection =
      (.error error, { connection with isOpen := false }) := by
  rw [sendCommand, writeMessage, if_neg hlong]
  exact ⟨_, on_bind_of_error (on_fail _ connection) _⟩

/-- A request that the peer takes is sent, and nothing after it, whatever the daemon answers. -/
theorem sink_sendCommand_of_takes {connection : Connection} {command : Bytes}
    (hlength : command.length ≤ maxMessageLength)
    (htakes : connection.Takes (messageFrame command)) :
    ((sendCommand command).on connection).2.sink =
      connection.sink.taking (messageFrame command) := by
  rw [Silent.sink_sendCommand, writeMessage, if_pos hlength, on_writeRaw_of_takes htakes]
  rfl

end Exchange

namespace Client

/-- What is written to reach the file service of the device. -/
def syncRequests : Bytes :=
  messageFrame (Bytes.ofString "host:transport-local") ++ messageFrame (Bytes.ofString "sync:")

theorem syncRequests_eq :
    syncRequests = Bytes.ofString "0014host:transport-local0005sync:" := by
  decide

/-- The file service is reached exactly if the peer takes both requests and the daemon accepts
them. -/
theorem trades_openSync : Trades openSync True syncRequests (statusOkay ++ statusOkay) := by
  have hdevice : (Bytes.ofString "host:transport-local").length ≤ maxMessageLength := by decide
  have hsync : (Bytes.ofString "sync:").length ≤ maxMessageLength := by decide
  exact ((trades_sendCommand _).bind (trades_sendCommand _)).congr
    (iff_of_true ⟨hdevice, hsync⟩ trivial)

end Client

end EmulatorHost.Adb
