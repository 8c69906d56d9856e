import FilterClause.Command.Run

/-!
The command itself: takes arguments, environment, files and standard input in, runs, and prints. The log
and the error line go to the standard error stream.
-/

namespace FilterClause.Command

/-- What opening or reading may fail for, by number, with its kind and its text. -/
def systemErrors : List (Nat × String × String) :=
  [(1, "PermissionDenied", "Operation not permitted"), (2, "NotFound", "No such file or directory"),
    (5, "Uncategorized", "Input/output error"), (9, "Uncategorized", "Bad file descriptor"),
    (11, "WouldBlock", "Resource temporarily unavailable"), (13, "PermissionDenied", "Permission denied"),
    (20, "NotADirectory", "Not a directory"), (21, "IsADirectory", "Is a directory"),
    (22, "InvalidInput", "Invalid argument"), (24, "Uncategorized", "Too many open files"),
    (36, "InvalidFilename", "File name too long"),
    (40, "FilesystemLoop", "Too many levels of symbolic links")]

/-- Some numbers come as negative words. -/
def ReadError.ofCode (code : UInt32) (details : String) : ReadError :=
  let code := if code.toNat < 0x80000000 then code.toNat else 0x100000000 - code.toNat
  match systemErrors.lookup code with
  | some (kind, text) => .system code kind text
  | none => .system code "Uncategorized" details

def ReadError.ofSystem : IO.Error → ReadError
  | .noFileOrDirectory _ code details | .permissionDenied _ code details
  | .inappropriateType _ code details | .invalidArgument _ code details
  | .resourceExhausted _ code details | .noSuchThing _ code details
  | .interrupted _ code details | .hardwareFault code details | .resourceBusy code details
  | .unsupportedOperation code details | .otherError code details => .ofCode code details
  | e => .ofCode 5 (toString e)

def attempt (read : IO ByteArray) : IO (Except ReadError ByteArray) := do
  try
    let bytes ← read
    return .ok bytes
  catch e => return .error (.ofSystem e)

/-- Reads beforehand what a run may ask for. -/
def surroundings (invocation : Invocation) : IO Surroundings := do
  let files ← invocation.paths.mapM fun (path : String) => do
    return (path, ← attempt (IO.FS.readBinFile path))
  let stdin ← if invocation.readsStdin then attempt (do (← IO.getStdin).readBinToEnd)
    else pure (.ok .empty)
  return ⟨fun path => (files.lookup path).getD (.error .missing), stdin⟩

/-- The filter comes from the environment; one that cannot be read is passed over. -/
def logFilter : IO LogFilter := do
  let text ← IO.getEnv "RUST_LOG"
  return (text.bind LogFilter.ofText?).getD LogFilter.usual

def report (o : Outcome) : IO UInt32 := do
  for line in o.log.lines do
    IO.eprintln line
  IO.print o.stdout
  if let some e := o.error then
    IO.eprintln ("Error: " ++ e.diagnostic)
  return o.exitCode.toUInt32

end FilterClause.Command

open FilterClause.Command in
def main (args : List String) : IO UInt32 := do
  match Invocation.ofArguments args with
  | none =>
    IO.eprintln "usage: filterc (convert | ast) [--input FILE] [OPTIONS]"
    return 2
  | some invocation => do
    let w ← surroundings invocation
    report (invocation.run w (← logFilter))
