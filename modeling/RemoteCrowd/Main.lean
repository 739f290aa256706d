import RemoteCrowd.CommandLine.Server

/-!
The server as a program. It serves one client over its standard input and output, so that
whoever accepts connections can start it for each of them. Files that a packet asks for are
read just before the packet is answered.
-/

namespace RemoteCrowd

/-- The paths that the commands of a packet load scenarios from. -/
def Service.wantedPaths {μ : Type} (service : Service μ) (body : Bytes) : List String :=
  (Wire.splitFrames body).1.filterMap fun frame =>
    match Command.ofFrame service.table frame with
    | .ok (.load options) => scenarioPath? options
    | _ => none

namespace Main

/-- What stands on the disk under a path, if anything does. -/
def readContent? (path : String) : IO (Option FileContent) := do
  try
    let bytes ← IO.FS.readBinFile path
    return some (.file bytes.toList)
  catch
    | .inappropriateType .. => return some .directory
    | _ => return none

/-- What stands on the disk under the given paths. -/
def readFiles (paths : List String) : IO Files := do
  let contents ← paths.filterMapM fun path => do
    return (← readContent? path).map fun content => (path, content)
  return Files.ofPaths contents

/-- Read until the given number of bytes is there or the input ends. -/
partial def readBytes (input : IO.FS.Stream) (count : Nat) : IO Bytes := do
  if count = 0 then return []
  let chunk ← input.read (USize.ofNat (min count 65536))
  if chunk.isEmpty then return []
  return chunk.toList ++ (← readBytes input (count - chunk.size))

/-- Write and flush. -/
def send (output : IO.FS.Stream) (bytes : Bytes) : IO Unit := do
  output.write ⟨bytes.toArray⟩
  output.flush

/-- Tell an error and give the exit code for it. -/
def fail (cause : Error) : IO UInt32 := do
  IO.eprintln cause.message
  return 1

/-- Answer packets until the client closes or is gone. -/
partial def converse (service : Service Unit) (input output : IO.FS.Stream)
    (session : Session Unit) : IO UInt32 := do
  let header ← readBytes input 4
  let announced : Wire.Stream := [.data header]
  match Wire.bodyLength service.config.maxPacketSize header with
  | .ok length =>
    if header.length < 4 then finish announced
    else
      let body ← readBytes input length
      if body.length < length then return 0
      let files ← readFiles (service.wantedPaths body)
      match { service with files }.respond body session with
      | .ok (bytes, flow) after =>
        send output bytes
        match flow with
        | .close => return 0
        | .stay => converse service input output after
      | .error lapse _ => give lapse
  | .error _ => finish announced
where
  /-- End a conversation that no whole length field or no sensible one came in. -/
  finish (announced : Wire.Stream) : IO UInt32 := do
    let last := service.converse announced session
    send output last.sent
    match last.result with
    | .ok () => return 0
    | .error lapse => give lapse
  /-- Give the exit code for a lapse. Behind one that goes on for ever there is none to give. -/
  give : Lapse → IO UInt32
    | .error cause => fail cause
    | .endless => return 1

end Main

end RemoteCrowd

open RemoteCrowd

def main (arguments : List String) : IO UInt32 := do
  let wanted := match CommandLine.ServerSettings.ofArguments arguments with
    | .ok settings => settings.scenario.toList
    | .error _ => []
  let files ← Main.readFiles wanted
  match CommandLine.startUp Movement.constantVelocity files arguments with
  | .error refused =>
    IO.print refused.output
    IO.eprint refused.complaint
    return refused.code
  | .ok (service, session) =>
    Main.converse service (← IO.getStdin) (← IO.getStdout) session
