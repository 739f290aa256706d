import RemoteCrowd.Reply.Basic

/-!
Replies in words: what a reply is and what each of its fields holds. Clients tell it where
they get another reply than they asked for.
-/

namespace RemoteCrowd

open Text (integer quoted quotedList)

/-- A name with one thing behind it in parentheses. -/
def describeOne (name content : String) : String := name ++ "(" ++ content ++ ")"

/-- A name with named fields behind it in braces. -/
def describeFields (name : String) (fields : List (String × String)) : String :=
  name ++ " \x7b " ++
    ", ".intercalate (fields.map fun (field, content) => field ++ ": " ++ content) ++ " \x7d"

private def describeList (contents : List String) : String :=
  "[" ++ ", ".intercalate contents ++ "]"

private def describeByte (value : UInt8) : String := integer value.toNat

private def describeDouble (value : Double) : String := Number.marked.render value

def Point.describe (point : Point) : String :=
  describeFields "Point2D" [("x", describeDouble point.x), ("y", describeDouble point.y)]

def SignalPhase.describe (phase : SignalPhase) : String :=
  describeFields "TrafficLightPhase"
    [("preceding_road", quoted phase.preceding), ("succeeding_road", quoted phase.succeeding),
      ("phase", phase.light.name)]

def Color.describe (color : Color) : String :=
  describeFields "Color"
    [("r", describeByte color.red), ("g", describeByte color.green),
      ("b", describeByte color.blue), ("a", describeByte color.alpha)]

def Value.describe (value : Value) : String :=
  let name := value.type.name
  match value with
  | .ubyte value => describeOne name (describeByte value)
  | .byte value => describeOne name (Text.integer value.toInt)
  | .integer value => describeOne name (Text.integer value.toInt)
  | .double value => describeOne name (describeDouble value)
  | .string text => describeOne name (quoted text)
  | .stringList texts => describeOne name (quotedList texts)
  | .position2D point => describeOne name point.describe
  | .position3D x y z =>
    describeFields name
      [("x", describeDouble x), ("y", describeDouble y), ("z", describeDouble z)]
  | .roadMapPosition road position lane =>
    describeFields name
      [("road_id", quoted road), ("pos", describeDouble position),
        ("lane_id", describeByte lane)]
  | .lonLatPosition lon lat =>
    describeFields name [("lon", describeDouble lon), ("lat", describeDouble lat)]
  | .lonLatAltPosition lon lat alt =>
    describeFields name
      [("lon", describeDouble lon), ("lat", describeDouble lat), ("alt", describeDouble alt)]
  | .polygon points => describeOne name (describeList (points.map Point.describe))
  | .signalPhases phases => describeOne name (describeList (phases.map SignalPhase.describe))
  | .color shade => describeOne name shade.describe

def Status.describe (status : Status) : String :=
  describeFields "StatusResponse"
    [("cmd_id", describeByte status.opcode), ("code", status.code.name),
      ("description", quoted status.description)]

def Reply.describe : Reply → String
  | status head => describeOne "Status" head.describe
  | value head responseId variableId element content =>
    describeOne "Get" (describeFields "GetResponse"
      [("status", head.describe), ("response_id", describeByte responseId),
        ("variable_id", describeByte variableId), ("element_id", quoted element),
        ("value", content.describe)])
  | version head id text =>
    describeOne "Version" (describeFields "VersionResponse"
      [("status", head.describe), ("version_id", integer id.toInt),
        ("version_string", quoted text)])
  | simTime head data =>
    describeOne "SimTime" (describeFields "SimTimeResponse"
      [("status", head.describe), ("data", data.describe)])

end RemoteCrowd
