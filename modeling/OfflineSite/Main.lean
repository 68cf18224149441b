import OfflineSite.Native
import OfflineSite.Program

open OfflineSite

def main (arguments : List String) : IO UInt32 := do
  let ending ← Std.Async.Async.block do
    let machine := Native.machine (← Native.environment)
    let ending ← machine.run arguments
    if let .failed (.bind address cause) := ending then
      machine.log ⟨.error, (Failure.bind address cause).text⟩
    return ending
  IO.print ending.output
  IO.eprint ending.errors
  return ending.code
