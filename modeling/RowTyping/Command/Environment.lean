import RowTyping.Command.Log

namespace RowTyping.Command

structure Environment where
  /-- Forbids colors, with any value. -/
  noColor : Option String := none
  /-- Names the least urgent log level shown. -/
  log : Option String := none
  terminal : Option String := none
deriving DecidableEq, Repr

namespace Environment

/-- Whether output has colors, given the choice on the command line. Without a definite choice
they need a terminal that is not `dumb`. -/
def colored (env : Environment) (choice : Option String) : Bool :=
  if env.noColor.isSome then false
  else
    match choice with
    | some "always" => true
    | some "never" => false
    | _ => env.terminal.any (· ≠ "dumb")

/-- The least urgent level shown: `debug` when asked to be verbose, else what the environment names,
else `warn`. -/
def leastLevel (env : Environment) (verbose : Bool) : Option Level :=
  if verbose then some .debug
  else
    match env.log with
    | some name => Level.ofName? name
    | none => some .warn

end Environment

end RowTyping.Command
