import RemoteCrowd.CommandLine.Item
import RemoteCrowd.Service.Conversation

/-!
The command line of the server, and how the server starts: the settings must be consistent,
the scenario must load, and the address must be one that can be listened on.
-/

namespace RemoteCrowd.CommandLine

/-- What the command line of the server sets. -/
structure ServerSettings where
  listen : Option String := none
  scenario : Option String := none
  readTimeout : Option Nat := none
  /-- The size of the largest packet in units of 2 ^ 20 bytes. -/
  maxPacket : Option Nat := none
  simulationOpcode : Option UInt8 := none
  guiOpcode : Option UInt8 := none
deriving DecidableEq, Inhabited

def serverName : String := "traci-server"

namespace ServerSettings

private def switches : List Switch :=
  [⟨"listen", some 'l', true⟩, ⟨"scenario", some 's', true⟩,
    ⟨"read-timeout-ms", none, true⟩, ⟨"max-packet-mb", none, true⟩,
    ⟨"set-simulation-state-id", none, true⟩, ⟨"set-gui-state-id", none, true⟩,
    helpSwitch, versionSwitch]

private def take (settings : ServerSettings) : Item → Except Refusal ServerSettings
  | .option "listen" value =>
    return { settings with listen := ← once settings.listen (some value) }
  | .option "scenario" value =>
    return { settings with scenario := ← once settings.scenario (path? value) }
  | .option "read-timeout-ms" value =>
    return { settings with readTimeout := ← once settings.readTimeout (longWord? value) }
  | .option "max-packet-mb" value =>
    return { settings with maxPacket := ← once settings.maxPacket (longWord? value) }
  | .option "set-simulation-state-id" value =>
    return { settings with
      simulationOpcode := ← once settings.simulationOpcode (byte? value) }
  | .option "set-gui-state-id" value =>
    return { settings with guiOpcode := ← once settings.guiOpcode (byte? value) }
  | .flag "help" => throw .help
  | .flag "version" => throw .version
  | _ => throw .misuse

/-- The settings on a command line. -/
def ofArguments (arguments : List String) : Except Refusal ServerSettings :=
  fill take (items switches false arguments).1 {}

/-- The settings of the server, with the usual ones where nothing is said. Sizes are
counted in 64 bits. -/
def config (settings : ServerSettings) : Config :=
  let usual : Config := {}
  { usual with
    listenAddress := settings.listen.getD usual.listenAddress
    readTimeout := settings.readTimeout.getD usual.readTimeout
    maxPacketSize := settings.maxPacket.getD 16 * 1024 * 1024 % UInt64.size
    opcodes := ⟨settings.simulationOpcode.getD usual.opcodes.simulation,
      settings.guiOpcode.getD usual.opcodes.gui⟩ }

end ServerSettings

/-- Refuse an address that is not a host and a port. -/
def checkAddress (address : String) : Except Error Unit :=
  match address.splitOn ":" with
  | [] | [_] => .error (.network (.cannotBind address "invalid socket address"))
  | parts =>
    match parts.getLast?.bind (Text.naturalBelow? 65536) with
    | some _ => .ok ()
    | none => .error (.network (.cannotBind address "invalid port value"))

/-- The service and the session that the server starts with. -/
def startServer {μ : Type} (movement : Movement μ) (files : Files)
    (settings : ServerSettings) : Except Error (Service μ × Session μ) := do
  let config := settings.config
  config.validate
  let session ← match settings.scenario with
    | none => pure {}
    | some path => do pure (Session.load movement (← Scenario.ofFile Scenario.read files path) {})
  let service ← Service.create config movement files
  checkAddress config.listenAddress
  return (service, session)

/-- The exit of a server that does not come to serving anyone. What is wrong goes to the
log. -/
def startUp {μ : Type} (movement : Movement μ) (files : Files) (arguments : List String) :
    Except Exit (Service μ × Session μ) :=
  match ServerSettings.ofArguments arguments with
  | .error refusal => .error (refusal.exit serverName programVersion)
  | .ok settings =>
    match startServer movement files settings with
    | .error _ => .error { code := 1 }
    | .ok started => .ok started

end RemoteCrowd.CommandLine
