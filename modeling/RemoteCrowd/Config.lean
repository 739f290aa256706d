import RemoteCrowd.Command.Operation
import RemoteCrowd.Error

/-!
The settings of a server and its clients, with their defaults, and the check that they are
consistent.
-/

namespace RemoteCrowd

/-- The version of this program. -/
def programVersion : String := "0.1.0"

structure Config where
  listenAddress : String := "127.0.0.1:9999"
  /-- How long a read may take, in milliseconds; zero for as long as it takes. -/
  readTimeout : Nat := 0
  /-- How long a write may take, in milliseconds; zero for as long as it takes. -/
  writeTimeout : Nat := 5000
  /-- The size of the largest packet that is accepted, with its length field. -/
  maxPacketSize : Nat := 16 * 1024 * 1024
  /-- The version of the protocol that clients are told. -/
  versionId : Int32 := 20
  versionText : String := "traci-manager " ++ programVersion
  opcodes : AssignedOpcodes := {}
  /-- How often a client tries to connect. -/
  connectAttempts : Nat := 14
  /-- How long a client waits before its second attempt, in milliseconds. The wait doubles
  after every failure. -/
  initialBackoff : Nat := 500
deriving DecidableEq, Inhabited

/-- Refuse settings that contradict each other or leave nothing to do. -/
def Config.validate (config : Config) : Except Error Unit :=
  if config.opcodes.simulation = config.opcodes.gui then
    .error (.config (.sharedOpcode config.opcodes.gui))
  else if config.maxPacketSize < 4 then
    .error (.config (.packetSize config.maxPacketSize))
  else if config.connectAttempts = 0 then .error (.config .noAttempts)
  else .ok ()

end RemoteCrowd
