import RemoteCrowd.Command.Codec
import RemoteCrowd.Proofs.OpcodeTable
import RemoteCrowd.Proofs.ValueLengths

/-!
Commands in frames. The arguments of an operation are read from exactly those payloads that
writing them produces. Together with the table of opcodes this makes reading a frame and
writing a command inverse to each other on the operations of the protocol.
-/

namespace RemoteCrowd

open Wire

namespace Command

/-- Every length of the command fits its field. Only the value of a change is written without a
look at them. -/
def FitsLengths : Command → Prop
  | set _ _ _ value => value.FitsLengths
  | _ => True

/-- The bytes are the arguments of a command of the operation. -/
structure IsArguments (operation : Operation) (command : Command) (front : Bytes) : Prop where
  operation : command.operation = operation
  fits : command.FitsLengths
  bytes : command.writeArguments = .ok front

/-- Arguments that are one thing. -/
private theorem accepts_argument {α : Type} {reader : Decoder α} {Form : α → Bytes → Prop}
    (accepts : Accepts reader Form) (make : α → Command) (operation : Operation)
    (only : ∀ command : Command, command.operation = operation ↔ ∃ a, command = make a)
    (fits : ∀ a, (make a).FitsLengths)
    (same : ∀ a front, Form a front ↔ (make a).writeArguments = .ok front) :
    Accepts (do return make (← reader)) (IsArguments operation) := by
  refine (accepts.bind fun a => .pure (make a)).congr ?_
  intro command front
  constructor
  · intro formed
    obtain ⟨a, _, _, form, ⟨rfl, rfl⟩, rfl⟩ := formed
    rw [List.append_nil]
    exact ⟨(only _).mpr ⟨a, rfl⟩, fits a, (same ..).mp form⟩
  · intro written
    obtain ⟨a, rfl⟩ := (only command).mp written.operation
    exact ⟨a, front, [], (same ..).mpr written.bytes, ⟨rfl, rfl⟩, (List.append_nil _).symm⟩

/-- A command without arguments. -/
private theorem accepts_bare (given : Command)
    (only : ∀ command : Command, command.operation = given.operation ↔ command = given)
    (fits : given.FitsLengths) (bare : given.writeArguments = .ok []) :
    Accepts (pure given) (IsArguments given.operation) := by
  refine (Accepts.pure given).congr ?_
  intro command front
  constructor
  · intro formed
    obtain ⟨rfl, rfl⟩ := formed
    exact ⟨rfl, fits, bare⟩
  · intro written
    obtain rfl := (only command).mp written.operation
    exact ⟨rfl, Except.ok.inj (written.bytes.symm.trans bare)⟩

theorem writeArguments_get_eq_ok_iff {domain : Domain} {variableId : UInt8} {element : String}
    {front : Bytes} :
    (Command.get domain variableId element).writeArguments = .ok front ↔
      ∃ name, writeString element = .ok name ∧ front = variableId :: name := by
  simp only [writeArguments, bind_eq_ok_iff, pure_eq_ok_iff, eq_comm (a := front)]

theorem writeArguments_set_eq_ok_iff {domain : Domain} {variableId : UInt8} {element : String}
    {value : Value} {front : Bytes} :
    (Command.set domain variableId element value).writeArguments = .ok front ↔
      ∃ name content, writeString element = .ok name ∧ value.write = .ok content ∧
        front = variableId :: name ++ content := by
  simp only [writeArguments, bind_eq_ok_iff, pure_eq_ok_iff]
  constructor
  · intro written
    obtain ⟨name, named, content, encoded, rfl⟩ := written
    exact ⟨name, content, named, encoded, rfl⟩
  · intro written
    obtain ⟨name, content, named, encoded, rfl⟩ := written
    exact ⟨name, named, content, encoded, rfl⟩

private theorem accepts_get (opcode : UInt8) (domain : Domain) :
    Accepts (readArguments opcode (.get domain)) (IsArguments (.get domain)) := by
  refine (accepts_uint8.bind fun variableId => inverts_string.bind fun element =>
    .pure (get domain variableId element)).congr ?_
  intro command front
  constructor
  · intro formed
    obtain ⟨variableId, _, _, rfl, ⟨element, name, _, named, ⟨rfl, rfl⟩, rfl⟩, rfl⟩ := formed
    refine ⟨rfl, trivial, writeArguments_get_eq_ok_iff.mpr ⟨name, named, ?_⟩⟩
    rw [List.append_nil, List.singleton_append]
  · intro written
    obtain ⟨same, -, written⟩ := written
    cases command <;> cases same
    obtain ⟨name, named, rfl⟩ := writeArguments_get_eq_ok_iff.mp written
    refine ⟨_, _, _, rfl, ⟨_, name, [], named, ⟨rfl, rfl⟩, rfl⟩, ?_⟩
    rw [List.append_nil, List.singleton_append]

private theorem accepts_set (opcode : UInt8) (domain : Domain) :
    Accepts (readArguments opcode (.set domain)) (IsArguments (.set domain)) := by
  refine (accepts_uint8.bind fun variableId => inverts_string.bind fun element =>
    accepts_tagged.bind fun value => .pure (set domain variableId element value)).congr ?_
  intro command front
  constructor
  · intro formed
    obtain ⟨variableId, _, _, rfl, ⟨element, name, _, named, ⟨value, content, _,
      ⟨fits, encoded⟩, ⟨rfl, rfl⟩, rfl⟩, rfl⟩, rfl⟩ := formed
    refine ⟨rfl, fits, writeArguments_set_eq_ok_iff.mpr ⟨name, content, named, encoded, ?_⟩⟩
    rw [List.append_nil, List.singleton_append, List.cons_append]
  · intro written
    obtain ⟨same, fits, written⟩ := written
    cases command <;> cases same
    obtain ⟨name, content, named, encoded, rfl⟩ := writeArguments_set_eq_ok_iff.mp written
    refine ⟨_, _, _, rfl, ⟨_, name, _, named, ⟨_, content, [], ⟨fits, encoded⟩, ⟨rfl, rfl⟩,
      rfl⟩, rfl⟩, ?_⟩
    rw [List.append_nil, List.singleton_append, List.cons_append]

/-- The arguments of every operation but a subscription have an end of their own. -/
theorem accepts_arguments (opcode : UInt8) (operation : Operation)
    (delimited : ∀ domain, operation ≠ .subscribe domain) :
    Accepts (readArguments opcode operation) (IsArguments operation) := by
  cases operation with
  | getVersion =>
    refine accepts_bare getVersion ?_ trivial rfl
    intro command
    cases command <;> simp [Command.operation]
  | close =>
    refine accepts_bare close ?_ trivial rfl
    intro command
    cases command <;> simp [Command.operation]
  | load =>
    refine accepts_argument inverts_stringList load .load ?_ (fun _ => trivial) fun _ _ => Iff.rfl
    intro command
    cases command <;> simp [Command.operation]
  | simStep =>
    refine accepts_argument accepts_double simStep .simStep ?_ (fun _ => trivial) ?_
    · intro command
      cases command <;> simp [Command.operation]
    · intro target front
      rw [writeArguments, Except.ok.injEq, eq_comm]
  | setOrder =>
    refine accepts_argument accepts_int32 setOrder .setOrder ?_ (fun _ => trivial) ?_
    · intro command
      cases command <;> simp [Command.operation]
    · intro order front
      rw [writeArguments, Except.ok.injEq, eq_comm]
  | sendFile =>
    refine accepts_argument inverts_string sendFile .sendFile ?_ (fun _ => trivial) fun _ _ => Iff.rfl
    intro command
    cases command <;> simp [Command.operation]
  | get domain => exact accepts_get opcode domain
  | set domain => exact accepts_set opcode domain
  | subscribe domain => exact absurd rfl (delimited domain)
  | getResponse domain | subscribeResponse domain =>
    refine (Accepts.fail (.unknownOpcode opcode)).congr ?_
    intro command front
    refine ⟨nofun, fun written => ?_⟩
    have same := written.operation
    cases command <;> cases same

theorem run_readWhole_eq_ok (opcode : UInt8) {operation : Operation} {payload rest : Bytes}
    {command : Command} :
    (readWhole opcode operation).run payload = .ok command rest ↔
      command.IsArguments operation payload ∧ rest = [] := by
  by_cases subscription : ∃ domain, operation = .subscribe domain
  · -- a subscription takes whatever there is, and nothing is left behind it
    obtain ⟨domain, rfl⟩ := subscription
    have read : (readWhole opcode (.subscribe domain)).run payload =
        .ok (subscribe domain payload) [] := rfl
    rw [read]
    constructor
    · intro same
      obtain ⟨rfl, rfl⟩ := EStateM.Result.ok.inj same
      exact ⟨⟨rfl, trivial, rfl⟩, rfl⟩
    · intro written
      obtain ⟨⟨same, -, written⟩, rfl⟩ := written
      cases command <;> cases same
      obtain rfl := Except.ok.inj written
      rfl
  · exact run_toEnd_eq_ok (accepts_arguments opcode operation (not_exists.mp subscription))

theorem write_eq_ok_iff {table : OpcodeTable} {command : Command} {body : Bytes} :
    command.write table = .ok body ↔
      ∃ arguments, command.writeArguments = .ok arguments ∧
        body = table.opcodeOf command.operation :: arguments := by
  simp only [Command.write, bind_eq_ok_iff, pure_eq_ok_iff, eq_comm (a := body)]

/-- A command that is not too long for a frame has no length in it that does not fit. -/
theorem fitsLengths_of_write {table : OpcodeTable} {command : Command} {body : Bytes}
    (written : command.write table = .ok body) (short : body.length ≤ maxLength) :
    command.FitsLengths := by
  obtain ⟨arguments, made, rfl⟩ := write_eq_ok_iff.mp written
  cases command with
  | set domain variableId element value =>
    obtain ⟨name, content, -, encoded, rfl⟩ := writeArguments_set_eq_ok_iff.mp made
    refine value.fitsLengths_of_write encoded ?_
    simp only [List.length_cons, List.length_append] at short
    omega
  | _ => trivial

variable {assigned : AssignedOpcodes} {table : OpcodeTable}

theorem ofFrame_eq_ok_iff_lookup {frame : Frame} {command : Command} :
    ofFrame table frame = .ok command ↔
      table.lookup frame.opcode = .ok command.operation ∧
        command.FitsLengths ∧ command.writeArguments = .ok frame.payload := by
  unfold ofFrame
  split
  · next cause unknown => simp [unknown]
  · next operation known =>
    rw [known, Except.ok.injEq]
    split
    · next read =>
      obtain ⟨⟨rfl, fits, written⟩, rfl⟩ := (run_readWhole_eq_ok _).mp read
      constructor
      · intro same
        obtain rfl := Except.ok.inj same
        exact ⟨rfl, fits, written⟩
      · intro wanted
        have again := (run_readWhole_eq_ok frame.opcode).mpr ⟨⟨wanted.1.symm, wanted.2.1, wanted.2.2⟩, rfl⟩
        obtain ⟨rfl, -⟩ := EStateM.Result.ok.inj (read.symm.trans again)
        rfl
    · next refused =>
      constructor
      · intro same
        cases same
      · intro wanted
        have read := (run_readWhole_eq_ok frame.opcode).mpr ⟨⟨wanted.1.symm, wanted.2.1, wanted.2.2⟩, rfl⟩
        cases refused.symm.trans read

/-- Reading a frame gives a command just when the body of the frame is what writing the
command produces, with no length that does not fit. -/
theorem ofFrame_eq_ok_iff (built : OpcodeTable.build assigned = .ok table) {frame : Frame}
    {command : Command} :
    ofFrame table frame = .ok command ↔
      command.operation ∈ Operation.all ∧ command.FitsLengths ∧
        command.write table = .ok frame.body := by
  rw [ofFrame_eq_ok_iff_lookup, OpcodeTable.lookup_eq_ok_iff built, write_eq_ok_iff, and_assoc]
  refine and_congr_right fun _ => ?_
  constructor
  · intro read
    obtain ⟨opcode, fits, written⟩ := read
    exact ⟨fits, frame.payload, written, by rw [opcode]; rfl⟩
  · intro written
    obtain ⟨fits, arguments, written, same⟩ := written
    obtain ⟨opcode, rfl⟩ := List.cons.inj same
    exact ⟨opcode.symm, fits, written⟩

/-- On the operations of the protocol, a frame is read as a command just when the command
is written as the body of the frame, under every assignment of the free opcodes. No frame is
read as a command with a length that does not fit its field. -/
theorem ofFrame_eq_ok_iff_write_eq_ok (built : OpcodeTable.build assigned = .ok table)
    (frame : Frame) (command : Command) (member : command.operation ∈ Operation.all) :
    ofFrame table frame = .ok command ↔
      command.FitsLengths ∧ command.write table = .ok frame.body := by
  rw [ofFrame_eq_ok_iff built]
  exact and_iff_right member

private def exampleTable : OpcodeTable :=
  let assigned : AssignedOpcodes := ⟨0x80, 0x81⟩
  ⟨assigned, Operation.all.map fun operation => (operation.opcode assigned, operation)⟩

/-- A change of the user interface under an opcode of its own, with a nested value. -/
theorem ofFrame_eq_ok_iff_write_eq_ok_signalPhases :
    let command := Command.set .gui 0x20 "g" (.signalPhases [⟨"a", "", .green⟩])
    let frame : Frame := ⟨0x81,
      [0x20, 0, 0, 0, 1, 103, 0x0D, 1, 0, 0, 0, 1, 97, 0, 0, 0, 0, 0x03]⟩
    OpcodeTable.build ⟨0x80, 0x81⟩ = .ok exampleTable ∧ command.operation ∈ Operation.all ∧
      ofFrame exampleTable frame = .ok command := by
  intro command frame
  have built : OpcodeTable.build ⟨0x80, 0x81⟩ = .ok exampleTable := by rfl
  have member : command.operation ∈ Operation.all := by decide
  have fits : command.FitsLengths := ⟨by decide +kernel, nofun⟩
  have written : command.write exampleTable = .ok frame.body := by rfl
  have read := (ofFrame_eq_ok_iff_write_eq_ok built frame command member).mpr ⟨fits, written⟩
  exact ⟨built, member, read⟩

end Command

end RemoteCrowd
