import EntropyTables.Command.Run
import Std.Time.DateTime.PlainDateTime
import Std.Time.DateTime.Timestamp
/-!
# The program

`main` runs the program on the files, the streams and the clock of the machine it is started on.
-/
namespace EntropyTables

/-- Actions on the machine, with the file that the log goes to once one is open. -/
abbrev Machine := ReaderT (IO.Ref (Option IO.FS.Handle)) IO

namespace Machine

/-! ## Faults -/

/-- The code of a step that leads through something that is no directory. -/
def notADirectoryCode : UInt32 := 20

def nameTooLongCode : UInt32 := 36

def faultOf : IO.Error → Fault
  | .noFileOrDirectory .. => .notFound
  | .alreadyExists .. => .alreadyExists
  | .inappropriateType _ code _ =>
    if code = notADirectoryCode then .notADirectory else .isADirectory
  | .resourceBusy .. => .busy
  | .resourceVanished .. => .brokenPipe
  | .timeExpired .. => .timedOut
  | .invalidArgument name code details =>
    if code = nameTooLongCode then .nameTooLong
    else .refused (toString (IO.Error.invalidArgument name code details))
  | e => .refused (toString e)

/-- What an action answers, or the fault that stops it. -/
def attempt (action : IO α) : Machine (Except Fault α) := do
  match ← action.toBaseIO with
  | .ok a => return .ok a
  | .error e => return .error (faultOf e)

/-- What an action on a path answers; a path with a null character leads nowhere. -/
def attemptAt (p : Path) (action : String → IO α) : Machine (Except Fault α) :=
  if '\x00' ∈ p.text.toList then return .error .nullInPath else attempt (action p.text)

def leadsTo (p : Path) (test : IO.FS.FileType → Bool) : Machine Bool := do
  let found ← attemptAt p fun text => do
    return test (← (← IO.FS.realPath text).metadata).type
  return found.toOption.getD false

/-! ## Time -/

def twoDigits (n : Nat) : String := if n < 10 then "0" ++ Text.decimal n else Text.decimal n

/-- A moment in universal time, with six places of the second. -/
def momentText (t : Std.Time.PlainDateTime) : String :=
  let two (n : Int) := twoDigits n.toNat
  let micros := Text.decimal (t.nanosecond.val / 1000)
  Text.decimal t.year ++ "-" ++ two t.month.val ++ "-" ++ two t.day.val ++ "T" ++ two t.hour.val
    ++ ":" ++ two t.minute.val ++ ":" ++ two t.second.val ++ "."
    ++ String.ofList (List.replicate (6 - micros.length) '0') ++ micros ++ "Z"

/-! ## Streams -/

/-- The bytes of a stream through the next line feed, after those that were read already. -/
partial def readThrough (stream : IO.FS.Stream) (before : ByteArray) : IO ByteArray := do
  let bytes ← stream.read 1
  if bytes.isEmpty then return before
  else if bytes.toList = [10] then return before ++ bytes
  else readThrough stream (before ++ bytes)

instance : System Machine where
  write text := attempt do (← IO.getStdout).putStr text
  flush := attempt do (← IO.getStdout).flush
  readLine := do readThrough (← IO.getStdin) .empty
  load p := attemptAt p fun text => IO.FS.withFile text .read fun handle => handle.readBinToEnd
  isFile p := leadsTo p fun type => type matches .file
  isDirectory p := leadsTo p fun type => type matches .dir
  makeDirectory p := attemptAt p fun text => IO.FS.createDir text
  store p bytes := attemptAt p fun text => IO.FS.writeBinFile text bytes
  move source target :=
    if '\x00' ∈ target.text.toList then return .error .nullInPath
    else attemptAt source fun text => IO.FS.rename text target.text
  remove p := do
    if ← leadsTo p fun type => type matches .dir then return .error .isADirectory
    attemptAt p fun text => IO.FS.removeFile text
  complain text := do (← IO.getStderr).putStr text
  openLog p := do
    match ← attemptAt p fun text => IO.FS.Handle.mk text .append with
    | .error fault => return .error fault
    | .ok handle =>
      (← read).set (some handle)
      return .ok ()
  log text := do
    match ← (← read).get with
    | some handle =>
      handle.putStr text
      handle.flush
    | none => (← IO.getStderr).putStr text
  now := do
    let stamp ← Std.Time.Timestamp.now
    return momentText (.ofWallTime (.ofDuration stamp.toDurationSinceUnixEpoch))

end Machine

end EntropyTables

/-- Runs the program with its arguments and answers with the exit code. -/
def main (args : List String) : IO UInt32 := do
  let logFile ← IO.mkRef none
  let environment ← IO.getEnv "RUST_LOG"
  (EntropyTables.Command.run args environment : EntropyTables.Machine UInt32).run logFile
