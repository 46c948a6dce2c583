import ResponsiveStyles.CommandLine.Run

/-!
# The program

Reads the files and the input that a call asks for, and writes what the call gives.
-/
open ResponsiveStyles ResponsiveStyles.CommandLine

def attempt (read : IO String) : IO (Option Text) := do
  try return some (← read).toList
  catch _ => return none

/-- Reads a text, when it can be read. A call whose input is a terminal does not go on. -/
def readText : Source → IO (Option Text)
  | .file path => attempt (IO.FS.readFile (String.ofList path))
  | .input => do
    let stdin ← IO.getStdin
    if ← stdin.isTty then
      throw (IO.userError "No input provided. Use --file or pipe input via stdin.")
    attempt stdin.readToEnd

def report (o : Outcome) : IO UInt32 := do
  IO.print (String.ofList o.output)
  match o.failure with
  | some f => IO.eprintln ("error: " ++ String.ofList f.report)
  | none => if o.code = 2 then IO.eprintln "error: unusable arguments, see rsa --help"
  return o.code

def main (arguments : List String) : IO UInt32 := do
  let environment ← IO.getEnv "RSA_CONFIG"
  let spareSeed ← IO.rand 1 999999999
  try
    report (← outcome (arguments.map String.toList) (environment.map String.toList) readText
      spareSeed.toUInt32)
  catch e =>
    IO.eprintln ("error: " ++ toString e)
    return 1
