/-
Module: NginxFleet.Main
Layer: Program
Purpose: The command line. With the word for it, the definition of the resource is printed; else the
  operator starts, writes its log lines, and stops with an error, since it knows of no cluster.
Main exports: main
-/
import NginxFleet.Crd.Manifest
import NginxFleet.Startup.Launch

namespace NginxFleet

/-- The variables that the operator reads. -/
def environmentKeys : List String :=
  [watchNamespaceKey, resyncPeriodKey, errorRequeueKey, LogFilter.key]

/-- The variables as they are set. -/
def readEnvironment : IO Environment :=
  environmentKeys.filterMapM fun key => do
    let value ← IO.getEnv key
    return value.map fun text => (key, .text text)

/-- Starts the operator. -/
def start : IO UInt32 := do
  let (entries, error) := launch (← readEnvironment)
  for entry in entries do
    IO.println entry.text
  IO.eprintln error.text
  return 1

end NginxFleet

/-- The command line. -/
def main (args : List String) : IO UInt32 := do
  if args = ["crdgen"] then
    IO.print NginxFleet.crdManifestText
    return 0
  else NginxFleet.start
