import Pasteboard.Command.Run
import Std.Time.DateTime.Timestamp
/-!
The program: reads the command line and the variables, and runs the command on a fresh board.
-/

namespace Pasteboard.Main

open Pasteboard.Command

/-- The variables of the environment. -/
def environment : IO (String → Option String) := do
  let found ← Settings.variableNames.filterMapM fun name => do
    return (← IO.getEnv name).map fun value => (name, value)
  return fun name => found.lookup name

/-- A board with all tables, the time of day and fresh secrets. -/
def freshBoard (s : Settings) : IO Board := do
  let now ← Std.Time.Timestamp.now
  let seed ← IO.getRandomBytes 24
  let board : Board :=
    ⟨.blank, Supply.ticking now.toSecondsSinceUnixEpoch.val 0, Board.secretsFrom seed⟩
  return ((Board.createTables s.fullText).run.run board).2

/-- Runs a command line with the variables of the environment. -/
def runLine (line : Line) : IO UInt32 := do
  match Settings.read (← environment) with
  | .error fault =>
    IO.eprintln ("error: " ++ fault.message)
    return 1
  | .ok s =>
    match ((line.run s).run.run (← freshBoard (s.override line.overrides))).1 with
    | .ok out =>
      IO.print out
      return 0
    | .error failure =>
      IO.eprintln ("error: " ++ failure.message)
      return 1

end Pasteboard.Main

def main (args : List String) : IO UInt32 := do
  match Pasteboard.Command.Line.read args with
  | .ok line => Pasteboard.Main.runLine line
  | .error .version =>
    IO.println ("karing " ++ Pasteboard.Api.version)
    return 0
  | .error fault =>
    IO.eprintln ("error: " ++ fault.name)
    return 2
