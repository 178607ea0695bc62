import SourceOutline.CommandLine
import SourceOutline.Files.Json

/-! The program. The files that it looks at come as JSON on standard input. -/
open SourceOutline

def main (args : List String) : IO UInt32 := do
  match Files.ofText? (← (← IO.getStdin).readToEnd) with
  | none =>
    IO.eprintln "Error: the files on standard input cannot be read"
    return 1
  | some files =>
    let outcome := CommandLine.run files args
    IO.print outcome.printed
    if let some (path, text) := outcome.saved then IO.FS.writeFile path text
    if let some text := outcome.failure then IO.eprintln text
    return UInt32.ofNat outcome.exit
