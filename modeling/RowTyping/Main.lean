import RowTyping.Command.Answer

namespace RowTyping.Command

/-- The system's code for a path that leads to a directory. -/
def directoryCode : UInt32 := 21

/-- What stands at a path. Nothing stands below a file. -/
def lookFile (path : String) : IO FileState := do
  try
    return .contents (← IO.FS.readBinFile path)
  catch
    | .noFileOrDirectory .. => return .missing
    | .inappropriateType _ code _ => return if code = directoryCode then .directory else .missing
    | failure => return .unreadable (toString failure)

def currentEnvironment : IO Environment := do
  return {
    noColor := ← IO.getEnv "NO_COLOR"
    log := ← IO.getEnv "MASKJIT_LOG"
    terminal := ← IO.getEnv "TERM" }

def Report.write (report : Report) : IO Unit := do
  IO.print report.output
  IO.eprint report.errors

def execute (args : List String) : IO UInt32 := do
  let report ← match Invocation.ofArguments args with
    | .ok invocation => do
      let file ← lookFile invocation.options.configPath
      pure (invocation.run (← currentEnvironment) file)
    | .error stop => pure stop.report
  report.write
  return report.exitCode.toUInt32

end RowTyping.Command

def main (args : List String) : IO UInt32 := RowTyping.Command.execute args
