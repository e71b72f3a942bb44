/-
# Command line

The program on a host where the memory of other processes is out of reach.
-/
import MemWatch.Program

open MemWatch

/-- Runs the program with the given arguments. -/
def main (args : List String) : IO UInt32 := do
  let outcome := Program.run ("memwatch" :: args) ⟨0, 0⟩ .bare
  (← IO.getStdout).write ⟨outcome.output.written⟩
  (← IO.getStderr).putStr outcome.errors
  return UInt32.ofNat outcome.code.toNat
