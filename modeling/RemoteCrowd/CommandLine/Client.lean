import RemoteCrowd.Client
import RemoteCrowd.Command.Variable
import RemoteCrowd.CommandLine.Item
import RemoteCrowd.Files
import RemoteCrowd.Number.Decimal

/-!
The command line of the client: where the server is, and one thing to do there. What is
printed before an error stays printed.
-/

namespace RemoteCrowd.CommandLine

/-- What the client is told to do. -/
inductive Task where
  | version
  /-- Send a file of the client's to the server, to be loaded. -/
  | sendFile (path : String)
  /-- Load a file of the server's. -/
  | load (path : String)
  | step (count : Nat) (target : Option Double)
  | persons
  | time
  | setSpeed (element : String) (speed : Double)
  | close
deriving DecidableEq, Inhabited

/-- What the command line of the client sets. -/
structure ClientSettings where
  server : Option String := none
  attempts : Option Nat := none
deriving DecidableEq, Inhabited

def clientName : String := "traci-cli"

/-- The words of a task: its operands in order, and its options. -/
private structure TaskWords where
  operands : List String := []
  count : Option Nat := none
  target : Option Double := none

/-- One more operand, which has to be fit for its position. -/
private def addOperand (fits : List (String → Bool)) (words : TaskWords) (text : String) :
    Except Refusal TaskWords :=
  match fits[words.operands.length]? with
  | some fit =>
    if fit text then .ok { words with operands := words.operands ++ [text] }
    else .error .misuse
  | none => .error .misuse

private def takeTask (fits : List (String → Bool)) (words : TaskWords) :
    Item → Except Refusal TaskWords
  | .operand text => addOperand fits words text
  | .option "count" value => return { words with count := ← once words.count (word? value) }
  | .option "target" value =>
    return { words with target := ← once words.target (Number.double? value) }
  | .flag "help" => throw .help
  | _ => throw .misuse

private def readWords (fits : List (String → Bool)) (switches : List Switch)
    (arguments : List String) : Except Refusal TaskWords :=
  fill (takeTask fits) (items (helpSwitch :: switches) false arguments).1 {}

private def withoutOperands (task : Task) (arguments : List String) : Except Refusal Task := do
  let _ ← readWords [] [] arguments
  return task

private def taskNames : List String :=
  ["version", "send-file", "load", "step", "persons", "time", "set-speed", "close", "help"]

/-- The task that a command names. -/
def Task.ofArguments (name : String) (arguments : List String) : Except Refusal Task := do
  match name with
  | "version" => withoutOperands .version arguments
  | "persons" => withoutOperands .persons arguments
  | "time" => withoutOperands .time arguments
  | "close" => withoutOperands .close arguments
  | "send-file" =>
    match (← readWords [fun path => path ≠ ""] [] arguments).operands with
    | [path] => return .sendFile path
    | _ => throw .misuse
  | "load" =>
    match (← readWords [fun _ => true] [] arguments).operands with
    | [path] => return .load path
    | _ => throw .misuse
  | "step" =>
    let words ← readWords [] [⟨"count", some 'c', true⟩, ⟨"target", some 't', true⟩] arguments
    return .step (words.count.getD 1) words.target
  | "set-speed" =>
    let isNumber (text : String) : Bool := (Number.double? text).isSome
    match (← readWords [fun _ => true, isNumber] [] arguments).operands with
    | [element, speed] =>
      match Number.double? speed with
      | some speed => return .setSpeed element speed
      | none => throw .misuse
    | _ => throw .misuse
  | "help" =>
    match arguments with
    | [] => throw .help
    | [command] => throw (if command ∈ taskNames then .help else .misuse)
    | _ => throw .misuse
  | _ => throw .misuse

namespace ClientSettings

private def switches : List Switch :=
  [⟨"server", some 's', true⟩, ⟨"attempts", none, true⟩, helpSwitch]

private def take (settings : ClientSettings) : Item → Except Refusal ClientSettings
  | .option "server" value =>
    return { settings with server := ← once settings.server (some value) }
  | .option "attempts" value =>
    return { settings with attempts := ← once settings.attempts (word? value) }
  | .flag "help" => throw .help
  | _ => throw .misuse

/-- The settings on a command line, and the task. -/
def ofArguments (arguments : List String) : Except Refusal (ClientSettings × Task) := do
  let (said, rest) := items switches true arguments
  let settings ← fill take said {}
  match rest with
  | [] => throw .misuse
  | name :: arguments => return (settings, ← Task.ofArguments name arguments)

/-- The settings of the client, with the usual ones where nothing is said. -/
def config (settings : ClientSettings) : Config :=
  let usual : Config := {}
  { usual with connectAttempts := settings.attempts.getD usual.connectAttempts }

/-- The address of the server. -/
def address (settings : ClientSettings) : String :=
  settings.server.getD ({} : Config).listenAddress

end ClientSettings

/-- A connection, and what was printed so far. -/
structure Console where
  link : Link
  printed : String := ""
deriving DecidableEq, Inhabited

/-- Something done over a connection that prints. -/
abbrev Performance := EStateM Error Console

/-- Do something over the connection. -/
private def onLink {α : Type} (exchange : Client.Exchange α) : Performance α := fun console =>
  match exchange console.link with
  | .ok value link => .ok value { console with link }
  | .error cause link => .error cause { console with link }

private def print (line : String) : Performance Unit :=
  modify fun console => { console with printed := console.printed ++ line ++ "\n" }

private def check {α : Type} : Except Error α → Performance α
  | .ok value => return value
  | .error cause => throw cause

/-- The value of a variable of the server's. -/
private def ask (client : Client) (domain : Domain) (variableId : UInt8) (element : String) :
    Performance Value := do
  match ← onLink (client.getValue domain variableId element) with
  | .value _ _ _ _ content => return content
  | other => throw (Client.unexpected "value" other)

private def printTime (client : Client) : Performance Unit := do
  let time ← check (← ask client .simulation SimulationVariable.time.id "").asDouble
  print ("t = " ++ Number.plain.render time)

private def stepTimes (client : Client) : Nat → Performance Unit
  | 0 => return ()
  | left + 1 => do
    let _ ← onLink (client.nextStep .zero)
    stepTimes client left

private def printPersons (client : Client) : List String → Performance Unit
  | [] => return ()
  | element :: rest => do
    let position ← check
      (← ask client .person PersonVariable.position.id element).asPosition2D
    print (element ++ "\t" ++ Number.fixedPlaces 3 position.x ++ "\t" ++
      Number.fixedPlaces 3 position.y)
    printPersons client rest

/-- Do a task with the server, and print what comes of it. -/
def perform (client : Client) (files : Files) : Task → Performance Unit
  | .version => do
    match ← onLink client.getVersion with
    | .version _ id text => print (text ++ " (api " ++ Text.integer id.toInt ++ ")")
    | other => throw (Client.unexpected "version" other)
  | .sendFile path => do
    match files.readText path with
    | .error fault => throw (.transport ⟨.other, fault.message⟩)
    | .ok text =>
      let _ ← onLink (client.sendFile text)
      print "OK"
  | .load path => do
    let _ ← onLink (client.load ["-c", path])
    print "OK"
  | .step _ (some target) => do
    let _ ← onLink (client.nextStep target)
    printTime client
  | .step count none => do
    stepTimes client count
    printTime client
  | .persons => do
    let elements ← check (← ask client .person PersonVariable.idList.id "").asStringList
    printPersons client elements
  | .time => printTime client
  | .setSpeed element speed => do
    let _ ← onLink (client.setValue .person PersonVariable.speed.id element (.double speed))
    print "OK"
  | .close => do
    let _ ← onLink client.close
    print "OK"

/-- The complaint about an error. -/
private def complaint (cause : Error) : String := "error: " ++ cause.message ++ "\n"

/-- Run the client: connect, and do the task. -/
def runClient (dial : Nat → Except String Link) (files : Files) (arguments : List String) :
    Exit :=
  match ClientSettings.ofArguments arguments with
  | .error refusal => refusal.exit clientName programVersion
  | .ok (settings, task) =>
    match Client.connect dial settings.config settings.address with
    | .error cause => { code := 1, complaint := complaint cause }
    | .ok (client, link) =>
      match perform client files task { link } with
      | .ok _ console => { code := 0, output := console.printed }
      | .error cause console =>
        { code := 1, output := console.printed, complaint := complaint cause }

end RemoteCrowd.CommandLine
