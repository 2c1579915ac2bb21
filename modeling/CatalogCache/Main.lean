import CatalogCache.Http.Wire
import CatalogCache.Service

/-!
# The program

The outer layer: it gathers the surroundings of a run, does what the run decided, and then
answers requests until the input ends. Requests come on standard input and are answered on
standard output, as a program does that is started for a connection. There is no way to
reach other hosts from here, so storage counts as not reachable.
-/

open CatalogCache

namespace CatalogCache.Program

/-- The content of a file, if there is one. -/
def fileContent? (path : String) : IO (Option Bytes) := do
  try
    return some (← IO.FS.readBinFile path).toList
  catch _ => return none

/-- The names of the variables that can make a difference: those that the service reads, and
those that the file sets. -/
def variableNames (file : Option Bytes) : List String :=
  ["CATALOG_OUTPUT_FORMAT", "CATALOG_HOST", "CATALOG_PORT", "CATALOG_STORAGE_URL",
    "CATALOG_STORAGE_TOKEN", "CATALOG_STORAGE_TIMEOUT", "LOG_LEVEL", "LOG_FILE"] ++
    (DotEnv.pairs (Utf8.decodeLossy (file.getD []))).map Prod.fst

/-- The variables of the process. -/
def environment (names : List String) : IO Environment := do
  let mut env := Table.empty
  for name in names do
    if let some value := ← IO.getEnv name then
      env := env.insert name value
  return env

/-- The folder of a path, if it names one. -/
def folder? (path : String) : Option String :=
  let segments := (Text.Path.segments path.toList).dropLast
  let root := Text.Path.root path.toList
  if segments.isEmpty then none else some (Text.Path.ofSegments root segments)

/-- Opens a file for log records, and makes its folder if need be. -/
def openLog (path : String) : IO IO.FS.Handle := do
  if let some folder := folder? path then
    IO.FS.createDirAll folder
  IO.FS.Handle.mk path .append

/-- The failure to open the file for log records that variables ask for, if there is one. -/
def openingFailure? (env : Environment) : IO (Option Fault) := do
  let some path := (LogSetup.ofEnvironment env).bind LogSetup.file | return none
  try
    let _ ← openLog path
    return none
  catch e => return some (.system (toString e))

/-- A line for people, its surrogates written by their numbers. -/
def readable (line : Text) : String :=
  String.ofList (line.flatMap fun
    | .char c => [c]
    | .surrogate n => Text.numbered (CodePoint.surrogate n).toNat)

/-- Writes the records that are kept, with the milliseconds since the start. A line that has no
encoding is not written to a file. -/
def writeLog (logging : Logging) (log : Log) : IO Unit := do
  let some setup := logging.setup? | return
  let now ← IO.monoMsNow
  let lines := (setup.lines log).map fun line => ((toString now ++ " " : String) ++ line : Text)
  match setup.file with
  | none =>
    let errors ← IO.getStderr
    for line in lines do
      errors.putStrLn (readable line)
  | some path =>
    let handle ← openLog path
    for line in lines.filterMap Text.string? do
      handle.putStrLn line

/-- The lines up to an empty one. -/
partial def headLines (input : IO.FS.Stream) : IO (List (List Char)) := do
  let line := (← input.getLine).toList.filter fun c => c != '\r' && c != '\n'
  if line.isEmpty then return []
  return line :: (← headLines input)

/-- The next `n` bytes, or as many as there are. -/
partial def take (input : IO.FS.Stream) (n : Nat) : IO Bytes := do
  if n = 0 then return []
  let bytes := (← input.read n.toUSize).toList
  if bytes.isEmpty then return []
  return bytes ++ (← take input (n - bytes.length))

/-- Answers requests until the input ends. -/
partial def answerAll (app : Http.App) (logging : Logging) : IO Unit := do
  let input ← IO.getStdin
  let output ← IO.getStdout
  let some head := Http.Head.ofLines? (← headLines input) | return
  let body ← take input head.bodyLength
  let id := Http.requestIdOf (← IO.getRandomBytes 16).toList
  let exchange := app.serve id (head.request body)
  writeLog logging exchange.log
  output.write ⟨exchange.response.toWire.toArray⟩
  output.flush
  answerAll { app with state := exchange.state } logging

end CatalogCache.Program

/-- Runs the service with the arguments of the command line. -/
def main (arguments : List String) : IO UInt32 := do
  let file ← Program.fileContent? ".env"
  let env ← Program.environment (Program.variableNames file)
  let failure ← Program.openingFailure? env
  let run := Service.run {
    arguments, vars := ⟨env, false⟩, logging := .undecided, file
    transport := fun _ _ => .unreachable "no connection"
    opening := fun _ => failure }
  (← IO.getStdout).putStr run.output
  (← IO.getStderr).putStr run.errors
  Program.writeLog run.logging run.log
  match run.ending with
  | .answered status => return status.toUInt32
  | .fault fault =>
    (← IO.getStderr).putStrLn fault.message
    return 1
  | .returned status =>
    if let (some (_, app), some _) := (run.service, run.listening) then
      Program.answerAll app run.logging
    return status.toUInt32
