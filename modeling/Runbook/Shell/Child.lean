import Runbook.Program.Basic

/-!
# Children

Processes that a shell begins and does not wait for, and what processes write as time goes by. Each
process has a number, and the shell itself has number zero.
-/

namespace Runbook.Shell

/-- Bytes that a process writes at once. -/
structure Chunk where
  milliseconds : Nat
  /-- How many chunks were written before it, at the same time or at other times. -/
  turn : Nat
  writer : Nat
  bytes : List UInt8
deriving DecidableEq, Repr, Inhabited

/-- Whether a chunk comes before another one, or at the same time. -/
def Chunk.isBefore (left right : Chunk) : Bool :=
  left.milliseconds < right.milliseconds
    || (left.milliseconds == right.milliseconds && left.turn ≤ right.turn)

/-- What was written to a place by many processes, in the order of time. -/
def Chunk.merge (chunks : List Chunk) : List UInt8 :=
  (chunks.mergeSort Chunk.isBefore).flatMap (·.bytes)

/-- What was written to two places, in the order of time. -/
def Chunk.interleave (output complaints : List Chunk) : Program.Writings :=
  let marked (channel : Program.Channel) (chunks : List Chunk) : List (Program.Channel × Chunk) :=
    chunks.map fun chunk => (channel, chunk)
  ((marked .output output ++ marked .complaints complaints).mergeSort fun left right =>
    left.2.isBefore right.2).map fun (channel, chunk) => (channel, chunk.bytes)

/-- A process that a shell has begun and does not wait for. -/
structure Child where
  number : Nat
  parent : Nat
  /-- Whether it is one program, so that nothing is left of it when a signal ends it. -/
  single : Bool
  /-- When it ends; it may run forever. -/
  finish : Option Nat
  /-- When nothing writes any more to the places that it writes to. -/
  release : Option Nat
  places : List Nat
  status : Nat
  /-- The signal that ended it, if the shell sent one. -/
  signal? : Option Nat
deriving DecidableEq, Repr, Inhabited

namespace Child

/-- Whether it still runs at some time. -/
def runsAt (child : Child) (time : Nat) : Bool := child.finish.all (time < ·)

/-- The child after a signal has hit it at some time. A program that it waits for goes on without
it. -/
def hit (child : Child) (signal time : Nat) : Child :=
  { child with
    finish := some time
    release := if child.single || child.release.isNone then some time else child.release
    status := 128 + signal
    signal? := some signal }

/-- The number of the process to other programs. -/
def outerNumber (number : Nat) : Nat := 4242 + number

end Child

end Runbook.Shell
