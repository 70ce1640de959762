import Receipt.CommandLine.Command

/-!
# The program

Reads what the command asks for, and prints what comes of it.

This is `main` of `main`, with the files it is asked to read.
-/

namespace Receipt.CommandLine

/-- All of the standard input. -/
partial def readInput (input : IO.FS.Stream) (lines : String) : IO String := do
  let line ← input.getLine
  if line.isEmpty then return lines else readInput input (lines ++ line)

/-- A file and its contents, if it can be read. -/
def readFile (name : List Char) : IO (List Char × Option (List Char)) := do
  try
    let content ← IO.FS.readFile (String.ofList name)
    return (name, some content.toList)
  catch _ => return (name, none)

def gather (c : Command) : IO Sources := do
  let input ← if c.readsInput then readInput (← IO.getStdin) "" else pure ""
  let files ← c.files.mapM readFile
  return ⟨input.toList, fun name => (files.lookup name).join⟩

end Receipt.CommandLine

open Receipt.CommandLine in
def main (args : List String) : IO UInt32 := do
  let command := Command.ofArguments? (args.map String.toList)
  let sources ← match command with
    | some c => gather c
    | none => pure ⟨[], fun _ => none⟩
  let result := outcome command sources
  (← IO.getStdout).putStr (String.ofList result.output)
  match result.complaint with
  | some text => (← IO.getStderr).putStrLn (String.ofList text)
  | none => pure ()
  return UInt32.ofNat result.exit
