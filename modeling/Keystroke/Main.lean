import Keystroke.CommandLine.Watch

/-! The program: reads what a run needs, and writes what it reports. -/
namespace Keystroke.Program

open Keystroke.CommandLine Keystroke.Dump Keystroke.Files

def readText (path : String) : IO (Except FileError String) := do
  try
    let text ← IO.FS.readFile path
    pure (.ok text)
  catch
    | .noFileOrDirectory .. => pure (.error ⟨.opening, path, .missing⟩)
    | _ => pure (.error ⟨.reading, path, .isDirectory⟩)

/-- The files at hand, of which only those with the given paths can be read. -/
def accessTo (paths : List String) : IO Access := do
  let texts ← paths.mapM fun path => do pure (path, ← readText path)
  pure
    { read := fun path => (texts.lookup path).getD (.error ⟨.opening, path, .missing⟩)
      writeError? := fun _ => none
      watchError? := fun _ => none }

def write (output : Output) : IO Unit := do
  match output.target, output.content with
  | .standard, .text value => (← IO.getStdout).putStr value
  | .standard, .bytes value => (← IO.getStdout).write ⟨value.toArray⟩
  | .file path, .text value => IO.FS.writeFile path value
  | .file path, .bytes value => IO.FS.writeBinFile path ⟨value.toArray⟩

def emit (report : Report) : IO Unit := do
  for line in report.log do
    IO.eprintln line
  for output in report.outputs do
    write output
  (← IO.getStdout).flush

/-- Converts a watched file each time its text changes. -/
partial def follow (watched : Watched) (last : Except FileError String) : IO Unit := do
  IO.sleep 500
  let text ← readText watched.input
  let changed := match last, text with
    | .ok before, .ok after => before != after
    | .error _, .ok _ => true
    | _, .error _ => false
  if changed then
    emit (watched.react {} (.change watched.input [.write] (← accessTo [watched.input])))
  follow watched text

def start (args : List String) : IO UInt32 := do
  let usage := (readUsage args).toOption
  let input := (usage.bind fun (_, choices) => choices.files.head?).getD ""
  let config := (usage.map fun (_, choices) => choices.config).getD ""
  let access ← accessTo [config, input]
  let wantsInput := match usage with
    | some (.list, _) | some (.watch, _) => input = "" || input = "-"
    | _ => false
  let stdin ← if wantsInput then (← IO.getStdin).readToEnd else pure ""
  let report := run access stdin args []
  emit report
  match usage, settingsOf access ((usage.map Prod.snd).getD {}) with
  | some (.watch, choices), .ok settings =>
    follow ⟨settings.apply {}, input, choices.output⟩ (← readText input)
  | _, _ => pure ()
  match report.error with
  | some error =>
    IO.eprintln ("hp15c: " ++ error.message)
    pure 1
  | none => pure 0

end Keystroke.Program

def main (args : List String) : IO UInt32 :=
  Keystroke.Program.start args
