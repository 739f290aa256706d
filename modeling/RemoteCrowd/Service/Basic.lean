import RemoteCrowd.Command.Codec
import RemoteCrowd.Config
import RemoteCrowd.Reply.Packet
import RemoteCrowd.Service.Query
import RemoteCrowd.Session.Basic

/-!
The service: it performs the commands of a packet on the session, one after another, and
answers each of them with one reply. A command that fails is answered with its error, and
the next one is performed all the same. Bytes that no command can be delimited in are
answered once, and nothing behind them is read. A step that never ends has no answer.
-/

namespace RemoteCrowd

/-- What happens to a connection after a packet. -/
inductive Flow where
  | stay
  | close
deriving DecidableEq, Inhabited

/-- What commands are performed with: the settings, the opcodes, the movement of the crowd,
the files that can be loaded, and the machine that the runs are started on. -/
structure Service (μ : Type) where
  config : Config
  table : OpcodeTable
  movement : Movement μ
  files : Files := {}
  /-- How the descriptions of scenarios are read. -/
  reader : Scenario.Reader := Scenario.read
  /-- Why the machine cannot start the thread of a run, by the id of the run. -/
  threadFault? : Nat → Option String := fun _ => none

/-- The opcode in the status that answers bytes without a delimited command. -/
def unframedOpcode : UInt8 := 0x00

/-- The path behind the first option that announces a scenario. -/
def scenarioPath? : List String → Option String
  | option :: path :: rest =>
    if option = "-c" ∨ option = "--scenario" then some path else scenarioPath? (path :: rest)
  | _ => none

/-- The path of the scenario that options ask for. -/
def scenarioPath (options : List String) : Except Error String :=
  match scenarioPath? options with
  | some path => .ok path
  | none => .error (.load (.noScenarioOption options))

namespace Service

variable {μ : Type}

/-- The service for settings that are consistent. -/
def create (config : Config) (movement : Movement μ) (files : Files := {}) :
    Except Error (Service μ) := do
  config.validate
  return { config, table := ← OpcodeTable.build config.opcodes, movement, files }

/-- What a command does to the session, and its reply. Where it fails, the session is left as
far as it got. -/
abbrev Performance (μ : Type) := EStateM Lapse (Session μ)

/-- A result that leaves the session alone. -/
def pureResult {α : Type} (result : Except Error α) : Performance μ α :=
  match result with
  | .ok value => return value
  | .error cause => throw (.error cause)

/-- Something done to the state of the simulation. -/
def access {α : Type} (handling : World.Handling α) : Performance μ α := fun session =>
  match session.usable with
  | .error cause => .error (.error cause) session
  | .ok run =>
    match handling.run run.course.world with
    | .ok value world => .ok value (session.setWorld world)
    | .error cause world => .error (.error cause) (session.setWorld world)

/-- Something read off the state of the simulation. -/
def inspect {α : Type} (question : World → Except Error α) : Performance μ α :=
  access (World.ask question)

/-- Start a run of a scenario. The present run ends, even if the new one cannot be started. -/
def launch (service : Service μ) (scenario : Scenario) : Performance μ Unit := fun session =>
  match service.threadFault? session.nextId with
  | none => .ok () (session.load service.movement scenario)
  | some reason => .error (.error (threadError reason)) session.withoutRun

/-- Let the run make the steps of a request. -/
def step (service : Service μ) (target : Option Double) : Performance μ Unit := fun session =>
  match session.step service.movement target with
  | .ok after => .ok () after
  | .error lapse => .error lapse session

/-- The reply for an operation that the service does not have. -/
def decline (opcode : UInt8) (operation : Operation) : Reply :=
  .status (.notImplemented opcode operation.label)

def performGet (service : Service μ) (opcode : UInt8) (domain : Domain)
    (variableId : UInt8) (element : String) : Performance μ Reply := do
  let reply (value : Value) : Reply :=
    .value (.ok opcode) (service.table.opcodeOf (.getResponse domain)) variableId element value
  match domain with
  | .simulation =>
    let asked ← pureResult (SimulationVariable.ofId variableId)
    return reply (← inspect fun world => .ok (world.simulationValue asked))
  | .person =>
    let asked ← pureResult (PersonVariable.ofId variableId)
    return reply (← inspect (World.personValue asked element))
  | _ => return decline opcode (.get domain)

/-- The variable that a command may set to the given value. -/
def settable (variableId : UInt8) (value : Value) : Except Error PersonVariable := do
  let asked ← PersonVariable.ofId variableId
  if asked.writable then
    value.expect asked.type
    return asked
  else throw (.unknownVariable "writable person" variableId)

def performSet (opcode : UInt8) (domain : Domain) (variableId : UInt8)
    (element : String) (value : Value) : Performance μ Reply := do
  match domain with
  | .person =>
    let asked ← pureResult (settable variableId value)
    access (World.setPersonValue asked element value)
    return .status (.ok opcode)
  | _ => return decline opcode (.set domain)

/-- Perform a command that came with the given opcode. -/
def perform (service : Service μ) (opcode : UInt8) : Command → Performance μ Reply
  | .getVersion =>
    return .version (.ok opcode) service.config.versionId service.config.versionText
  | .load options => do
    let path ← pureResult (scenarioPath options)
    service.launch (← pureResult (Scenario.ofFile service.reader service.files path))
    return .status (.ok opcode)
  | .sendFile text => do
    service.launch (← pureResult (Scenario.ofText service.reader text))
    return .status (.ok opcode)
  | .simStep target => do
    service.step (if Double.zero.lt target then some target else none)
    -- a step that ended the run is answered with the reason why
    let _ ← inspect fun world => .ok world.time
    return .simTime (.ok opcode) (.integer 0)
  | .setOrder _ => return .status (.ok opcode)
  | .close => do
    modify Session.close
    return .status (.ok opcode)
  | .get domain variableId element => performGet service opcode domain variableId element
  | .set domain variableId element value => performSet opcode domain variableId element value
  | .subscribe domain _ => return decline opcode (.subscribe domain)

/-- Whether a command ends the connection once it is answered. -/
def flowOf : Command → Flow
  | .close => .close
  | _ => .stay

/-- Read and perform the command in a frame. -/
def attempt (service : Service μ) (frame : Wire.Frame) : Performance μ (Reply × Flow) := do
  let command ← pureResult (Command.ofFrame service.table frame)
  let reply ← service.perform frame.opcode command
  return (reply, flowOf command)

/-- The reply that tells what went wrong with a command. -/
def refusal (opcode : UInt8) (cause : Error) : Status :=
  .err opcode (Text.asciiOnly cause.message)

/-- Tell what went wrong with a command. Only errors that end the connection are left to
the caller. -/
def tell (opcode : UInt8) (cause : Error) (packet : Packet) : Performance μ (Packet × Flow) :=
  if cause.isFatal then throw (.error cause)
  else return (← pureResult (packet.grow (Packet.addStatus (refusal opcode cause))), .stay)

/-- Answer the command in a frame. What went wrong is told behind whatever the packet holds
by then. -/
def answerFrame (service : Service μ) (frame : Wire.Frame) (packet : Packet) :
    Performance μ (Packet × Flow) := fun session =>
  match service.attempt frame session with
  | .error .endless after => .error .endless after
  | .error (.error cause) after => tell frame.opcode cause packet after
  | .ok (reply, flow) after =>
    match (Packet.appendReply reply).run packet with
    | .ok _ answered => .ok (answered, flow) after
    | .error cause left => tell frame.opcode cause left after

/-- Answer frames one after another, until one of them closes the connection. -/
def answerFrames (service : Service μ) : List Wire.Frame → Packet →
    Performance μ (Packet × Flow)
  | [], packet => return (packet, .stay)
  | frame :: rest, packet => do
    match ← service.answerFrame frame packet with
    | (answered, .close) => return (answered, .close)
    | (answered, .stay) => answerFrames service rest answered

/-- Answer the body of a packet. -/
def answer (service : Service μ) (body : Bytes) : Performance μ (Packet × Flow) := do
  let (frames, fault) := Wire.splitFrames body
  match ← service.answerFrames frames {}, fault with
  | (packet, .stay), some cause =>
    return (← pureResult (packet.grow (Packet.addStatus (refusal unframedOpcode cause))), .stay)
  | answered, _ => return answered

end Service

end RemoteCrowd
