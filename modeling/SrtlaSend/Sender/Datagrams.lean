import SrtlaSend.Sender.PacketHandler

/-!
# Sending a batch

A drained batch leaves in calls that take at most 32 datagrams and may accept fewer. The
socket is a parameter of the model. Flushing a link over it refines `flushConnection`, which
only knows whether the batch got away.
-/

namespace SrtlaSend

def batchSendSize : Nat := 32

inductive IoErrorKind
  | writeZero
  | other (code : Int)
deriving DecidableEq, Repr

structure IoError where
  kind : IoErrorKind
  message : String
deriving DecidableEq, Repr

/-- How far a flush got before the socket refused it. -/
structure BatchSendError where
  sent : Nat
  total : Nat
  source : IoError
deriving DecidableEq, Repr

/-- A socket with its state. A call reports an error, or the number of datagrams it
accepted from the front of what it was offered. -/
structure BatchUdpSocket (σ : Type) where
  sendBatch : σ → List Bytes → σ × Except IoError Nat
  /-- The datagrams handed over so far. -/
  wire : σ → List Bytes
  wire_of_ok : ∀ s bufs n, bufs.length ≤ batchSendSize → (sendBatch s bufs).2 = .ok n →
    n ≤ bufs.length ∧ wire (sendBatch s bufs).1 = wire s ++ bufs.take n
  wire_of_error : ∀ s bufs e, bufs.length ≤ batchSendSize → (sendBatch s bufs).2 = .error e →
    wire (sendBatch s bufs).1 = wire s

namespace BatchUdpSocket

variable {σ : Type} (socket : BatchUdpSocket σ)

/-- The loop of `sendAllDatagrams`, with `sent` datagrams away. -/
def sendFrom (bufs : List Bytes) (s : σ) (sent : Nat) : σ × Except BatchSendError Unit :=
  let total := bufs.length
  if sent < total then
    let take := min (total - sent) batchSendSize
    match socket.sendBatch s ((bufs.drop sent).take take) with
    -- no progress ends the flush, so that the link is retried and the loop is not
    | (s, .ok 0) =>
      (s, .error ⟨sent, total, ⟨.writeZero, "sendmmsg accepted no datagrams"⟩⟩)
    | (s, .ok (n + 1)) => sendFrom bufs s (sent + (n + 1))
    | (s, .error e) => (s, .error ⟨sent, total, e⟩)
  else (s, .ok ())
termination_by bufs.length - sent

def sendAllDatagrams (s : σ) (bufs : List Bytes) : σ × Except BatchSendError Unit :=
  socket.sendFrom bufs s 0

/-- Drain a link's queue and transmit it. -/
def sendConnectionBatch (s : σ) (conn : SrtlaConnection) (now : Nat) :
    σ × SrtlaConnection × Except BatchSendError Unit :=
  let (conn, batch) := conn.takeBatch now
  if batch.isEmpty then (s, conn, .ok ())
  else
    match socket.sendAllDatagrams s (batch.map (·.1)) with
    | (s, .ok _) => (s, conn.noteSent now, .ok ())
    | (s, .error e) => (s, conn, .error e)

def flushConnection (s : σ) (conn : SrtlaConnection) (tracker : SequenceTracker) (now : Nat) :
    σ × SrtlaConnection × SequenceTracker :=
  match socket.sendConnectionBatch s conn now with
  | (s, conn, .ok _) => (s, conn, tracker)
  | (s, conn, .error _) => (s, recoverConnection conn tracker)

/-- Whether the socket takes all that the link has queued. -/
def takes (s : σ) (conn : SrtlaConnection) (now : Nat) : Bool :=
  (socket.sendConnectionBatch s conn now).2.2.isOk

/-- Over any socket, a flush does to link and tracker what the model of the sender says it
does for a batch that the socket takes or refuses. -/
theorem flushConnection_refines (s : σ) (conn : SrtlaConnection) (tracker : SequenceTracker)
    (now : Nat) :
    (socket.flushConnection s conn tracker now).2 =
      SrtlaSend.flushConnection conn ⟨now, socket.takes s conn now⟩ tracker := by
  simp only [flushConnection, SrtlaSend.flushConnection, SrtlaSend.sendConnectionBatch, takes,
    sendConnectionBatch]
  by_cases empty : (conn.takeBatch now).2.isEmpty = true
  · simp only [empty, if_true]
  · rw [Bool.not_eq_true] at empty
    rcases away : socket.sendAllDatagrams s ((conn.takeBatch now).2.map (·.1)) with ⟨s', outcome⟩
    simp only [empty, away, Bool.false_eq_true, if_false]
    cases outcome with
    | ok => rfl
    | error e => rfl

end BatchUdpSocket

end SrtlaSend
