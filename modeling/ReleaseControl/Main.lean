import ReleaseControl.CommandLine.Session

/-! # The command

Runs a session on the real files and environment. Log lines go to standard output, errors to
standard error; the end of standard input is the signal to stop. -/

open ReleaseControl

namespace ReleaseControl.Command

/-- The files under the working directory. -/
def realDisk : Disk IO where
  look path := do
    try
      let real ← IO.FS.realPath path
      if ← real.isDir then
        return .folder ((← real.readDir).toList.map (·.fileName))
      return .file (← IO.FS.readBinFile path)
    catch _ => return .nothing

/-- The variables of the process, as the system lists them. -/
def environment : IO Environment := do
  let listing ← try IO.FS.readFile "/proc/self/environ" catch _ => pure ""
  return (Text.splitText '\x00' listing).filterMap fun entry =>
    match entry.toList.dropWhile (· != '=') with
    | _ :: text => some (String.ofList (entry.toList.takeWhile (· != '=')), String.ofList text)
    | [] => none

def printLog (lines : List LogLine) : IO Unit :=
  lines.forM fun l => IO.println s!"INFO {l.text}"

/-- Reads standard input to its end. -/
partial def awaitEnd (input : IO.FS.Stream) : IO Unit := do
  if (← input.read 4096).isEmpty then return
  awaitEnd input

end ReleaseControl.Command

open ReleaseControl.Command in
def main (args : List String) : IO UInt32 := do
  let now := s!"{← IO.monoMsNow}ms"
  match ← Session.start realDisk now args (← environment) with
  | .error (e, output) =>
    printLog output.log
    output.errors.forM IO.eprintln
    return UInt32.ofNat e.exitCode
  | .ok session =>
    session.output.errors.forM IO.eprintln
    printLog session.output.log
    awaitEnd (← IO.getStdin)
    printLog (session.stop.output.log.drop session.output.log.length)
    return 0
