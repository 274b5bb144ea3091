import Keypad.Automaton.Typical
import Keypad.CommandLine.Reply
/-!
The program: it answers its arguments.
-/

def main (arguments : List String) : IO UInt32 := do
  let reply := Keypad.CommandLine.answer .typical arguments
  (← IO.getStdout).putStr reply.output
  (← IO.getStderr).putStr reply.errors
  return UInt32.ofNat reply.exit
