import AssessmentItem.Command

/-!
# The program

`check ITEM` checks an item; `run ITEM --responses FILE` drives a session over submissions, with
`--delivery FILE`, `--seed N` and `--max-attempts N` if they are given.  Both take `--output text`,
`--output json` and `--quiet`.
-/

namespace AssessmentItem.Program

/-- The arguments of the program, with what holds where an option is not given. -/
structure Arguments where
  format : Command.Format := .text
  quiet : Bool := false
  responses : Option String := none
  delivery : Option String := none
  seed : UInt64 := 0
  maxAttempts : Option UInt32 := none
  /-- The command and the paths, in the order in which they are given. -/
  words : List String := []

/-- A natural number below `bound`. -/
def number? (bound : Nat) (text : String) : Option Nat := do
  let n ← text.toNat?
  if n < bound then some n else none

/-- Reads the arguments, options and words in any order; there are none if a number is not in its
range. -/
def Arguments.read? (arguments : Arguments) : List String → Option Arguments
  | [] => some { arguments with words := arguments.words.reverse }
  | "--quiet" :: rest => read? { arguments with quiet := true } rest
  | "--output" :: "text" :: rest => read? { arguments with format := .text } rest
  | "--output" :: "json" :: rest => read? { arguments with format := .json } rest
  | "--responses" :: path :: rest => read? { arguments with responses := some path } rest
  | "--delivery" :: path :: rest => read? { arguments with delivery := some path } rest
  | "--seed" :: text :: rest => do
    let n ← number? 18446744073709551616 text
    read? { arguments with seed := UInt64.ofNat n } rest
  | "--max-attempts" :: text :: rest => do
    let n ← number? 4294967296 text
    read? { arguments with maxAttempts := some (UInt32.ofNat n) } rest
  | word :: rest => read? { arguments with words := word :: arguments.words } rest

/-- The file of a path with its text, if it can be read. -/
def readFile (path : String) : IO Command.File := do
  try return ⟨path, some (← IO.FS.readFile path)⟩
  catch _ => return ⟨path, none⟩

/-- Runs `Command.check` or `Command.run`; there is no output where the words are not understood. -/
def perform (arguments : Arguments) : IO (Option Command.Output) := do
  let reporting : Command.Reporting := ⟨arguments.format, arguments.quiet⟩
  match arguments.words, arguments.responses with
  | ["check", item], _ => return some (Command.check reporting (← readFile item))
  | ["run", item], some responses =>
    let delivery ← arguments.delivery.mapM readFile
    return some (Command.run reporting ⟨← readFile item, ← readFile responses, delivery,
      arguments.seed, arguments.maxAttempts⟩)
  | _, _ => return none

end AssessmentItem.Program

open AssessmentItem.Program in
/-- Reads the arguments, runs the command and writes what it gives. -/
def main (arguments : List String) : IO UInt32 := do
  let output ←
    match Arguments.read? {} arguments with
    | some arguments => perform arguments
    | none => pure none
  match output with
  | some output =>
    (← IO.getStdout).putStr output.stdout
    (← IO.getStderr).putStr output.stderr
    return output.code.toUInt32
  | none =>
    (← IO.getStderr).putStrLn "usage: [--output text|json] [--quiet] check ITEM"
    (← IO.getStderr).putStrLn "       [--output text|json] [--quiet] run ITEM --responses FILE"
    return 2
