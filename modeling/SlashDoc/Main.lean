import SlashDoc.Command.Run
import SlashDoc.Log

/-!
The command itself: looks up the files that the arguments name, runs the command on them, and hands
out what it prints, logs and writes.
-/

namespace SlashDoc.Command

def Arguments.paths (arguments : Arguments) : List Path :=
  ([arguments.file] ++ arguments.template.join.toList ++ arguments.output.join.toList).map
    Path.ofText

/-- The places that lie on the way along a path, each with the path to it. -/
def waypoints (path : Path) : List (Place × Text) :=
  (List.range path.names.length).map fun n =>
    let part := { path with names := path.names.take (n + 1) }
    (Place.ofPath part, part.toText)

def lookUp (path : Text) : IO (Option Node) := do
  try
    let bytes ← IO.FS.readBinFile (String.ofList path)
    return some (.file bytes.toList)
  catch
    | .inappropriateType .. => return some .directory
    | .permissionDenied .. => return some .locked
    | _ => return none

/-- The part of the disk that the paths lead through. -/
def diskTree (paths : List Path) : IO FileTree := do
  let mut entries : Array (Place × Node) := #[]
  for (place, path) in paths.flatMap waypoints do
    if let some node ← lookUp path then
      entries := entries.push (place, node)
  return ⟨entries.toList⟩

def Outcome.deliver (outcome : Outcome) : IO UInt32 := do
  if outcome.jsonLogs then
    for event in outcome.events do
      IO.eprintln (String.ofList (event.jsonLine programName))
  IO.print (String.ofList outcome.printed)
  if let some (path, bytes) := outcome.written then
    IO.FS.writeBinFile (String.ofList path) ⟨bytes.toArray⟩
  if let some complaint := outcome.complaint then
    IO.eprintln (String.ofList complaint)
  return outcome.exitCode.toUInt32

end SlashDoc.Command

open SlashDoc Command in
def main (given : List String) : IO UInt32 := do
  let arguments := given.map String.toList
  let paths :=
    match Arguments.parse arguments with
    | .ok parsed => parsed.paths
    | .error _ => []
  match run .standard (← diskTree paths) arguments with
  | .ok outcome => outcome.deliver
  | .error breakdown =>
    IO.eprintln (String.ofList breakdown.message)
    return 1
