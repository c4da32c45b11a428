import DeviceGateway.Startup
/-!
The command line: starts a gateway with the settings of the environment, and with a file of
variables from standard input where a hyphen is the only argument. It says on standard error why the
gateway does not start; without a database within reach it never does.
-/
namespace DeviceGateway.CommandLine

def environment : IO Environment := do
  let values ← Settings.names.filterMapM fun name => do
    return (← IO.getEnv name).map fun value => (name, Bytes.ofString value)
  return ⟨values⟩

/-- What is left of a stream, line by line. -/
partial def contents (stream : IO.FS.Stream) (read : String) : IO String := do
  let line ← stream.getLine
  if line.isEmpty then return read else contents stream (read ++ line)

def run (args : List String) : IO UInt32 := do
  let file ← if args = ["-"] then contents (← IO.getStdin) "" else pure ""
  match start (fun _ => none) (← environment) file with
  | .ok _ => return 0
  | .error e => do
    (← IO.getStderr).putStrLn ("Error: " ++ e.shown)
    return 1

end DeviceGateway.CommandLine

def main (args : List String) : IO UInt32 := DeviceGateway.CommandLine.run args
