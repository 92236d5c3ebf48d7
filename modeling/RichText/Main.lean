import RichText.CommandLine

/-!
# Program

Reads a document from standard input, prints its leaves on standard output and problems on standard
error.
-/

def main : IO UInt32 := do
  let stdin ← IO.getStdin
  let mut input := ByteArray.empty
  let mut more := true
  while more do
    let chunk ← stdin.read 65536
    input := input ++ chunk
    more := !chunk.isEmpty
  let outcome := RichText.CommandLine.run input.toList
  IO.print outcome.output
  IO.eprint outcome.errors
  return outcome.exitCode.toUInt32
