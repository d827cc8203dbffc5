import SrtlaSend.Lib.Run

/-!
# Readers of lines

A stream of symbols that comes in pieces and is read line by line, each line with the `stop` at
its end. The read under way holds the symbols of its line that have come in. It may be given up
before the line is complete, and what it holds is lost then. Over a run the lines that are read
and the parts that are lost are the stream in its order, cut after its stops and where a read was
given up.
-/

open Runs

variable {α : Type}

structure LineReader (α : Type) where
  /-- Come in, and not yet taken. -/
  unread : List α := []
  /-- Held by the read under way. -/
  taken : List α := []
  /-- Nothing more will come. -/
  ended : Bool := false

namespace LineReader

inductive ReadResult (α : Type)
  | pending
  | line (symbols : List α)
  | ended

inductive Op (α : Type)
  | write (symbols : List α)
  | finish
  | poll (n : Nat)
  | giveUp

/-- What leaves the stream. -/
inductive Piece (α : Type)
  | line (symbols : List α)
  | lost (symbols : List α)
deriving DecidableEq

namespace Piece

def symbols : Piece α → List α
  | line symbols => symbols
  | lost symbols => symbols

end Piece

def write (r : LineReader α) (symbols : List α) : LineReader α :=
  if r.ended then r else { r with unread := r.unread ++ symbols }

def finish (r : LineReader α) : LineReader α := { r with ended := true }

def giveUp (r : LineReader α) : LineReader α := { r with taken := [] }

section

variable [DecidableEq α] (stop : α)

/-- The read goes on with the next `n` symbols, as far as they have come in. What is left at the
end of the stream is a line too. -/
def poll : Nat → LineReader α → LineReader α × ReadResult α
  | 0, r => (r, .pending)
  | n + 1, r =>
    match r.unread with
    | [] =>
      if r.ended then
        ({ r with taken := [] }, if r.taken.isEmpty then .ended else .line r.taken)
      else (r, .pending)
    | x :: unread =>
      if x = stop then ({ r with unread, taken := [] }, .line (r.taken ++ [x]))
      else poll n { r with unread, taken := r.taken ++ [x] }

def ReadResult.piece : ReadResult α → Option (Piece α)
  | .line symbols => some (.line symbols)
  | _ => none

def step (r : LineReader α) : Op α → LineReader α × List (Piece α)
  | .write symbols => (r.write symbols, [])
  | .finish => (r.finish, [])
  | .poll n => ((r.poll stop n).1, (r.poll stop n).2.piece.toList)
  | .giveUp => (r.giveUp, if r.taken.isEmpty then [] else [.lost r.taken])

/-- What comes in, if the stream has not ended. -/
def written (r : LineReader α) : Op α → List α
  | .write symbols => if r.ended then [] else symbols
  | _ => []

def after (r : LineReader α) (ops : List (Op α)) : LineReader α :=
  run (fun r op => (r.step stop op).1) r ops

variable {stop} {r : LineReader α}

end

end LineReader
