import Ingest.CommandLine.Run
import Ingest.Machine
import Ingest.Media.Common
/-!
# The program

The first argument names the tool, and all others are that tool's own.
-/

namespace Ingest

def Machine.entropy : IO Entropy := do
  let bytes ← IO.getRandomBytes 16
  return Vector.ofFn fun i => bytes.data.getD i.val 0

def Machine.runTool (tool : CommandLine.Tool) (arguments : List String) : IO Nat := do
  let entropy : ImportEntropy := ⟨← Machine.entropy, ← Machine.entropy⟩
  let environment ← Machine.environment
  (CommandLine.program tool arguments environment entropy).perform
    fun q => Machine.answer q

end Ingest

/-- Run the tool that the first argument names. -/
def main (arguments : List String) : IO UInt32 := do
  match arguments with
  | name :: rest =>
    match Ingest.CommandLine.Tool.ofName? name with
    | some tool => return UInt32.ofNat (← Ingest.Machine.runTool tool rest)
    | none =>
      IO.eprintln s!"error: no tool is named {name}"
      return 2
  | [] =>
    IO.eprintln "error: the first argument names a tool, import-data or prepare-all"
    return 2
