import SrtlaSend.Control.Sessions
import SrtlaSend.Lib.LineReader
import Mathlib.Logic.Function.Basic

/-!
# Client streams

What the clients of the control socket write, byte by byte, and how it becomes lines. A
connection waits in one `select!` for a line and for an event to write out. If the event comes
first, the `read_line` under way is dropped, and with it what it has taken of its line.
-/

namespace SrtlaSend

def newline : UInt8 := 10

def ControlEvent.isLine : ControlEvent → Bool
  | .line _ _ _ => true
  | _ => false

/-- The control plane, and by connection what its client sends. -/
structure ControlSocket where
  plane : ControlPlane
  readers : Nat → LineReader UInt8 := fun _ => {}

/-- Lines come from the streams alone; everything else the tasks do as before. -/
inductive SocketEvent
  | write (conn : Nat) (bytes : Bytes)
  | finish (conn : Nat)
  | read (conn n : Nat) (view : StatusView)
  | readFailed (conn : Nat) (view : StatusView)
  | task (e : ControlEvent) (other : e.isLine = false)

/-- An event to write out is there, and the connection is not busy. -/
def ControlPlane.takesPush (p : ControlPlane) (conn : Nat) : Bool :=
  match p.sessions[conn]? with
  | some s =>
    match s.phase with
    | .selecting => s.channel.recv.isSome
    | _ => false
  | none => false

namespace ControlSocket

variable (fromStr : List Char → Except String Request)

def setReader (s : ControlSocket) (conn : Nat) (reader : LineReader UInt8) : ControlSocket :=
  { s with readers := Function.update s.readers conn reader }

/-- Only a client that is connected can write. -/
def fromClient (s : ControlSocket) (conn : Nat) (f : LineReader UInt8 → LineReader UInt8) :
    ControlSocket :=
  if conn < s.plane.sessions.length then s.setReader conn (f (s.readers conn)) else s

/-- `read_line` is polled while `n` more bytes can be had. A line that is not UTF-8 is an error. -/
def read (s : ControlSocket) (conn n : Nat) (view : StatusView) : ControlSocket :=
  if s.plane.selects conn then
    let (reader, result) := (s.readers conn).poll newline n
    let s := s.setReader conn reader
    match result with
    | .pending => s
    | .line bytes => { s with plane := s.plane.readLine fromStr conn (Text.ofUtf8 bytes) view }
    | .ended => { s with plane := s.plane.readLine fromStr conn none view }
  else s

def readFailed (s : ControlSocket) (conn : Nat) (view : StatusView) : ControlSocket :=
  if s.plane.selects conn then
    { s.setReader conn (s.readers conn).giveUp with
      plane := s.plane.readLine fromStr conn none view }
  else s

/-- `select!` takes the event and drops the read. -/
def takePush (s : ControlSocket) (conn : Nat) : ControlSocket :=
  let plane := s.plane.takePush conn
  if s.plane.takesPush conn then { s.setReader conn (s.readers conn).giveUp with plane }
  else { s with plane }

def step (s : ControlSocket) : SocketEvent → ControlSocket
  | .write conn bytes => s.fromClient conn (·.write bytes)
  | .finish conn => s.fromClient conn (·.finish)
  | .read conn n view => s.read fromStr conn n view
  | .readFailed conn view => s.readFailed fromStr conn view
  | .task (.takePush conn) _ => s.takePush conn
  | .task e _ => { s with plane := s.plane.step fromStr e }

end ControlSocket

end SrtlaSend
