import ClusterTriage.Machine

/-!
# The command

The program on the machine that it is started on.
-/

open ClusterTriage in
/-- Runs the program on the words of the command line. -/
def main (words : List String) : IO UInt32 := do
  let ending ← (Program.run (← Machine.surroundings) words).run' {}
  (← IO.getStdout).putStr ending.output
  (← IO.getStderr).putStr ending.complaint
  return ending.code.toUInt32
