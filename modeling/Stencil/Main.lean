import Stencil.CommandLine.Ending

/-!
# Main

The program: files and the standard input are read, and what a run ends with is written.
-/

namespace Stencil

open CommandLine

/-- What a failed attempt to read says about the file. -/
def faultOf : IO.Error → FileFault
  | .noFileOrDirectory .. => .missing
  | error => .other (toString error)

/-- All bytes of a source. -/
def readSource (source : Source) : IO (Except FileFault (List UInt8)) := do
  try
    let bytes ← match source with
      | .file path => IO.FS.readBinFile path
      | .standardInput => (← IO.getStdin).readBinToEnd
    return .ok bytes.toList
  catch error => return .error (faultOf error)

end Stencil

/-- A run of the program. -/
def main (words : List String) : IO UInt32 := do
  let ending ← Stencil.CommandLine.run words Stencil.readSource
  IO.print ending.output
  if let some report := ending.report then IO.eprint report
  return ending.code.toUInt32
