import Majuscule.CommandLine
import Majuscule.Json.Printer
import Majuscule.Wire.Connection

/-!
# The program

Reads the command line and then serves one client over standard input and output.
-/

namespace Majuscule.Main

open Wire

/-- Send messages to the client. -/
def deliver (messages : List Json) : IO Unit := do
  let out ← IO.getStdout
  for m in messages do
    out.putStr (Frame.write m.compress)
  out.flush

/-- Serve until the input ends or nothing more is read, and return the exit code. -/
partial def serve (c : Connection) : IO UInt32 := do
  let bytes ← (← IO.getStdin).read 65536
  if bytes.isEmpty then
    deliver c.finish
    return c.exitCode.toUInt32
  else
    let (c, sent) := c.feed bytes.toList
    deliver sent
    if c.isLive then serve c else return c.exitCode.toUInt32

end Majuscule.Main

open Majuscule Majuscule.CommandLine in
/-- Do what the command line asks for. -/
def main (arguments : List String) : IO UInt32 :=
  match parse arguments with
  | .help => do
    IO.print helpText
    return 0
  | .version => do
    IO.print versionText
    return 0
  | .refused e => do
    IO.eprintln e.message
    return 2
  | .serve => Majuscule.Main.serve {}
