import RemoteCrowd.Proofs.CommandCodec
import RemoteCrowd.Proofs.Wire.Composition

/-!
What the bytes behind can change. Reading goes from the front and asks only for bytes that it
needs, so more bytes behind change neither a value that was read nor an error about the bytes
that are there. Only a fault of framing can be due to bytes that are missing. An encoding that
is cut short is therefore refused for a fault of framing, wherever it is cut.
-/

namespace RemoteCrowd

open Wire

namespace Wire

variable {α β : Type}

/-- More bytes behind change nothing of what the reader says, be it a value or an error, unless
the error is a fault of framing. -/
structure Lasts (reader : Decoder α) : Prop where
  value : ∀ {bytes rest value}, reader.run bytes = .ok value rest →
    ∀ more, reader.run (bytes ++ more) = .ok value (rest ++ more)
  error : ∀ {bytes rest cause}, reader.run bytes = .error cause rest → ¬cause.IsFraming →
    ∀ more, reader.run (bytes ++ more) = .error cause (rest ++ more)

theorem run_bind_of_error {first : Decoder α} {next : α → Decoder β} {bytes rest : Bytes}
    {cause : Error} (failed : first.run bytes = .error cause rest) :
    (first >>= next).run bytes = .error cause rest := by
  rw [EStateM.run_bind, failed]

namespace Lasts

/-- A reader that fails for framing only need not last where it fails. -/
theorem of_throwsOnly {reader : Decoder α} (throws : ThrowsOnly Error.IsFraming reader)
    (value : ∀ {bytes rest value}, reader.run bytes = .ok value rest →
      ∀ more, reader.run (bytes ++ more) = .ok value (rest ++ more)) : Lasts reader where
  value := value
  error failed notFraming := absurd (throws _ _ _ failed) notFraming

theorem pure (given : α) : Lasts (pure given : Decoder α) where
  value := by
    intro bytes rest value read more
    obtain ⟨rfl, rfl⟩ := EStateM.Result.ok.inj read
    rfl
  error := by
    intro bytes rest cause failed
    cases failed

theorem throw (cause : Error) : Lasts (throw cause : Decoder α) where
  value := by
    intro bytes rest value read
    cases read
  error := by
    intro bytes rest thrown failed notFraming more
    obtain ⟨rfl, rfl⟩ := EStateM.Result.error.inj failed
    rfl

theorem bind {first : Decoder α} {next : α → Decoder β} (lasts : Lasts first)
    (later : ∀ a, Lasts (next a)) : Lasts (first >>= next) where
  value := by
    intro bytes rest value read more
    obtain ⟨a, mid, begun, done⟩ := run_bind_eq_ok.mp read
    exact run_bind_eq_ok.mpr ⟨a, mid ++ more, lasts.value begun more, (later a).value done more⟩
  error := by
    intro bytes rest cause failed notFraming more
    cases begun : first.run bytes with
    | ok a mid =>
      rw [EStateM.run_bind, begun] at failed
      rw [EStateM.run_bind, lasts.value begun more]
      exact (later a).error failed notFraming more
    | error thrown mid =>
      rw [run_bind_of_error begun] at failed
      obtain ⟨rfl, rfl⟩ := EStateM.Result.error.inj failed
      exact run_bind_of_error (lasts.error begun notFraming more)

/-- A form that is cut short is refused for a fault of framing. -/
theorem framing_of_cut {reader : Decoder α} (lasts : Lasts reader) {cut missing : Bytes} {value : α}
    (read : reader.run (cut ++ missing) = .ok value []) (short : missing ≠ []) :
    ∃ fault rest, reader.run cut = .error (.framing fault) rest := by
  cases early : reader.run cut with
  | ok given rest =>
    -- what was read from the part would leave the missing bytes unread in the whole
    obtain ⟨-, none⟩ := EStateM.Result.ok.inj ((lasts.value early missing).symm.trans read)
    exact absurd (List.append_eq_nil_iff.mp none).2 short
  | error cause rest =>
    by_cases framing : cause.IsFraming
    · obtain ⟨fault, rfl⟩ := framing
      exact ⟨fault, rest, rfl⟩
    · cases (lasts.error early framing missing).symm.trans read

end Lasts

theorem lasts_need (count : Nat) (item : String) : Lasts (need count item) := by
  refine .of_throwsOnly (throwsOnly_need count item) ?_
  intro bytes rest value read more
  obtain ⟨rfl, enough⟩ := run_need_eq_ok.mp read
  refine run_need_eq_ok.mpr ⟨rfl, ?_⟩
  rw [List.length_append]
  omega

theorem lasts_take (count : Nat) (item : String) : Lasts (take count item) := by
  refine .of_throwsOnly (throwsOnly_take count item) ?_
  intro bytes rest front read more
  obtain ⟨rfl, length⟩ := run_take_eq_ok.mp read
  exact run_take_eq_ok.mpr ⟨List.append_assoc .., length⟩

theorem lasts_uint8Named (item : String) : Lasts (readUInt8Named item) := by
  refine .of_throwsOnly (throwsOnly_uint8Named item) ?_
  intro bytes rest value read more
  obtain rfl := run_readUInt8Named_eq_ok.mp read
  rfl

theorem compositional_lasts : Compositional fun _ reader => Lasts reader where
  pure := Lasts.pure
  throw := fun _ => Lasts.throw _
  bind := Lasts.bind
  need := lasts_need
  take := lasts_take
  uint8Named := lasts_uint8Named

end Wire

namespace Command

theorem isRequest_operation (command : Command) : IsRequest command.operation := by
  cases command <;> trivial

theorem ofFrame_of_readWhole {table : OpcodeTable} {opcode : UInt8} {operation : Operation}
    (known : table.lookup opcode = .ok operation) {payload rest : Bytes} {cause : Error}
    (refused : (readWhole opcode operation).run payload = .error cause rest) :
    ofFrame table ⟨opcode, payload⟩ = .error (cause.wrap opcode) := by
  unfold ofFrame
  simp only [known, refused]

/-- Arguments that leave something over are refused. -/
theorem run_readWhole_of_leftover {opcode : UInt8} {operation : Operation} {payload rest : Bytes}
    {command : Command} (read : (readArguments opcode operation).run payload = .ok command rest)
    (leftover : rest ≠ []) :
    (readWhole opcode operation).run payload =
      .error (.framing (.trailing rest.length operation.label)) rest := by
  obtain ⟨first, later, rfl⟩ := List.exists_cons_of_ne_nil leftover
  rw [readWhole, EStateM.run_bind, read]
  rfl

end Command

theorem ofNat_add_mul (n times : Nat) : Int32.ofNat (n + times * 2 ^ 32) = Int32.ofNat n := by
  have same : UInt32.ofNat (n + times * 2 ^ 32) = UInt32.ofNat n := by
    rw [← UInt32.toNat_inj, UInt32.toNat_ofNat', UInt32.toNat_ofNat', Nat.add_mul_mod_self_right]
  exact congrArg UInt32.toInt32 same

/-- The length field of a text loses a multiple of what it can count. What stands in it is then
the length of the first letters, and the others follow. -/
theorem Value.write_string_append {first second : String} {times : Nat}
    (ascii : Text.isAscii first = true) (ascii' : Text.isAscii second = true)
    (wraps : second.length = times * 2 ^ 32) {front : Bytes}
    (written : (Value.string first).write = .ok front) :
    (Value.string (first ++ second)).write = .ok (front ++ asciiBytes second) := by
  obtain ⟨-, rfl⟩ := write_eq_ok_iff.mp written
  have ascii'' : Text.isAscii (first ++ second) = true := by
    rw [Text.isAscii_append, ascii, ascii']
    rfl
  have passed := checkAscii_eq_ok_iff.mpr ascii''
  refine write_eq_ok_iff.mpr ⟨passed, ?_⟩
  have letters : utf8Bytes (first ++ second) = utf8Bytes first ++ asciiBytes second := by
    rw [← utf8Bytes_of_isAscii ascii', utf8Bytes, String.toList_append, List.flatMap_append]
    rfl
  simp only [unchecked, uncheckedString, letters, List.length_append, length_asciiBytes, wraps,
    ofNat_add_mul, List.append_assoc, List.cons_append, type]

theorem Value.fitsLengths_string {text : String} (ascii : Text.isAscii text = true)
    (fits : text.length ≤ maxLength) : (Value.string text).FitsLengths := by
  refine ⟨fun given member => ?_, nofun⟩
  obtain rfl := List.mem_singleton.mp member
  rw [length_utf8Bytes_of_isAscii ascii]
  exact fits

/-- A text whose length field counts its first letters only: the field and these letters are read
as a text, and nothing behind them is looked at. -/
theorem exists_cut_of_wrapped {text : String} (ascii : Text.isAscii text = true)
    (long : maxLength < text.length) (counted : text.length % 2 ^ 32 ≤ maxLength) :
    ∃ cut missing first, (Value.string text).write = .ok (cut ++ missing) ∧ missing ≠ [] ∧
      ∀ more, readTagged.run (cut ++ more) = .ok (.string first) more := by
  let first := String.ofList (text.toList.take (text.length % 2 ^ 32))
  let second := String.ofList (text.toList.drop (text.length % 2 ^ 32))
  have split : text = first ++ second := by
    rw [← String.ofList_append, List.take_append_drop, String.ofList_toList]
  have counted' : first.length = text.length % 2 ^ 32 := by
    rw [String.length_ofList, List.length_take, String.length_toList]
    exact Nat.min_eq_left (Nat.mod_le _ _)
  have others : second.length = text.length / 2 ^ 32 * 2 ^ 32 := by
    rw [String.length_ofList, List.length_drop, String.length_toList]
    omega
  have ascii' := ascii
  rw [split, Text.isAscii_append, Bool.and_eq_true] at ascii'
  obtain ⟨asciiFirst, asciiSecond⟩ := ascii'
  have written : (Value.string first).write = .ok _ :=
    Value.write_eq_ok_iff.mpr ⟨checkAscii_eq_ok_iff.mpr asciiFirst, rfl⟩
  have fits := Value.fitsLengths_string asciiFirst (counted'.trans_le counted)
  have whole := Value.write_string_append asciiFirst asciiSecond others written
  rw [← split] at whole
  refine ⟨_, asciiBytes second, first, whole, ?_, fun more => ?_⟩
  · rw [← List.length_pos_iff, length_asciiBytes, others]
    unfold maxLength at long counted
    omega
  · exact (readTagged_eq_ok_iff _ more _).mpr ⟨fits, _, written, rfl⟩

/-- A length field that states a negative number is refused, and so is every part of it. -/
theorem framing_of_negative {length : Nat} {letters cut missing : Bytes}
    (negative : maxLength < length % 2 ^ 32)
    (split : 0x0C :: (writeInt32 (.ofNat length) ++ letters) = cut ++ missing) :
    ∃ fault rest, readTagged.run cut = .error (.framing fault) rest := by
  cases cut with
  | nil => exact ⟨_, _, rfl⟩
  | cons tag word =>
    obtain ⟨rfl, same⟩ := List.cons.inj split
    have tagged : readTagged.run (0x0C :: word) = (readUntagged .string).run word := rfl
    by_cases short : word.length < 4
    · have refused : (readUntagged .string).run word = _ :=
        run_bind_of_error (run_bind_of_error (run_readInt32_of_short short))
      exact ⟨_, _, tagged.trans refused⟩
    · obtain ⟨field, rest, rfl⟩ := exists_eq_writeInt32_append short
      have read := run_readInt32_append (.ofNat length) letters
      have same' : writeInt32 (.ofNat length) ++ letters = writeInt32 field ++ (rest ++ missing) :=
        same.trans (List.append_assoc ..)
      rw [same', run_readInt32_append] at read
      obtain ⟨rfl, -⟩ := EStateM.Result.ok.inj read
      have below : Int32.ofNat length < 0 := by
        have zero : (0 : Int32).toInt = 0 := rfl
        have size : Int32.size = 4294967296 := rfl
        rw [Int32.lt_iff_toInt_lt, Int32.toInt_ofNat', zero, size, Int.bmod]
        unfold maxLength at negative
        omega
      have refused : readString.run (writeInt32 (.ofNat length) ++ rest) =
          .error (.framing (.negativeString (.ofNat length))) rest := by
        rw [readString, EStateM.run_bind, run_readInt32_append]
        simp only [below, ↓reduceIte]
        rfl
      exact ⟨_, _, tagged.trans (run_bind_of_error refused)⟩

/-- An encoding that is cut short is refused for a fault of framing, wherever it is cut: a value
behind its tag, and the payload of every command but a subscription. A payload with anything
behind it is refused for a fault of framing as well. This takes lengths that fit their fields,
which are not looked at in a value. A longer text is refused wherever it is cut if its field
states a negative number, and only then. -/
theorem framing_of_misfit {assigned : AssignedOpcodes} {table : OpcodeTable}
    (built : OpcodeTable.build assigned = .ok table) :
    (∀ (value : Value) (cut missing : Bytes), value.FitsLengths →
      value.write = .ok (cut ++ missing) → missing ≠ [] →
      ∃ fault rest, readTagged.run cut = .error (.framing fault) rest) ∧
    (∀ (command : Command) (opcode : UInt8) (payload : Bytes),
      command.operation ∈ Operation.all → (∀ domain, command.operation ≠ .subscribe domain) →
      command.FitsLengths → command.write table = .ok (opcode :: payload) →
      (∀ cut missing, payload = cut ++ missing → missing ≠ [] →
        ∃ fault, Command.ofFrame table ⟨opcode, cut⟩ = .error (.command opcode (.framing fault))) ∧
      (∀ extra, extra ≠ [] → ∃ fault,
        Command.ofFrame table ⟨opcode, payload ++ extra⟩ =
          .error (.command opcode (.framing fault)))) ∧
    ∀ (text : String), Text.isAscii text = true →
      ((∀ cut missing, (Value.string text).write = .ok (cut ++ missing) → missing ≠ [] →
          ∃ fault rest, readTagged.run cut = .error (.framing fault) rest) ↔
        text.length ≤ maxLength ∨ maxLength < text.length % 2 ^ 32) := by
  have values (value : Value) (cut missing : Bytes) (fits : value.FitsLengths)
      (written : value.write = .ok (cut ++ missing)) (short : missing ≠ []) :
      ∃ fault rest, readTagged.run cut = .error (.framing fault) rest := by
    have read := (readTagged_eq_ok_iff _ [] value).mpr
      ⟨fits, _, written, (List.append_nil _).symm⟩
    exact compositional_lasts.tagged.framing_of_cut read short
  refine ⟨values, ?_, fun text ascii => ⟨fun refuses => ?_, fun counts => ?_⟩⟩
  · intro command opcode payload member delimited fits written
    obtain ⟨arguments, encoded, same⟩ := Command.write_eq_ok_iff.mp written
    obtain ⟨rfl, rfl⟩ := List.cons.inj same
    have known := OpcodeTable.lookup_opcodeOf built member
    have accepts := Command.accepts_arguments (table.opcodeOf command.operation) _ delimited
    have read (rest : Bytes) := (accepts (payload ++ rest) rest command).mpr
      ⟨payload, ⟨rfl, fits, encoded⟩, rfl⟩
    constructor
    · intro cut missing split short
      have whole := read []
      rw [List.append_nil, split] at whole
      have lasts := Command.arguments_of_compositional compositional_lasts
        (table.opcodeOf command.operation) command.isRequest_operation delimited
      obtain ⟨fault, rest, refused⟩ := lasts.framing_of_cut whole short
      exact ⟨fault, Command.ofFrame_of_readWhole known (run_bind_of_error refused)⟩
    · intro extra leftover
      have refused := Command.run_readWhole_of_leftover (read extra) leftover
      exact ⟨_, Command.ofFrame_of_readWhole known refused⟩
  · rcases Nat.lt_or_ge maxLength text.length with long | fits
    · rcases Nat.lt_or_ge maxLength (text.length % 2 ^ 32) with negative | counted
      · exact .inr negative
      · obtain ⟨cut, missing, first, written, short, read⟩ :=
          exists_cut_of_wrapped ascii long counted
        obtain ⟨fault, rest, refused⟩ := refuses cut missing written short
        have read' := read []
        rw [List.append_nil] at read'
        cases read'.symm.trans refused
    · exact .inl fits
  · intro cut missing written short
    rcases counts with fits | negative
    · exact values _ cut missing (Value.fitsLengths_string ascii fits) written short
    · obtain ⟨-, split⟩ := Value.write_eq_ok_iff.mp written
      rw [← length_utf8Bytes_of_isAscii ascii] at negative
      exact framing_of_negative negative split.symm

/-- A value that is cut between the letters of a nested text, and a change that is cut right in
front of the tag of its value, or has one byte too many. -/
theorem framing_of_misfit_nested :
    let value : Value := .signalPhases [⟨"a", "bc", .green⟩]
    let cut : Bytes := [0x0D, 1, 0, 0, 0, 1, 97, 0, 0, 0, 2, 98]
    let command : Command := .set .person 0x42 "7" (.stringList ["x"])
    let front : Bytes := [0x42, 0, 0, 0, 1, 55]
    let content : Bytes := [0x0E, 0, 0, 0, 1, 0, 0, 0, 1, 120]
    (value.FitsLengths ∧ value.write = .ok (cut ++ [99, 3]) ∧
        ∃ fault rest, readTagged.run cut = .error (.framing fault) rest) ∧
      OpcodeTable.build {} = .ok .standard ∧ command.operation ∈ Operation.all ∧
      command.FitsLengths ∧ command.write .standard = .ok (0xce :: (front ++ content)) ∧
      (∃ fault, Command.ofFrame .standard ⟨0xce, front⟩ =
        .error (.command 0xce (.framing fault))) ∧
      ∃ fault, Command.ofFrame .standard ⟨0xce, front ++ content ++ [0]⟩ =
        .error (.command 0xce (.framing fault)) := by
  intro value cut command front content
  have fits : value.FitsLengths := ⟨by decide +kernel, nofun⟩
  have encoded : value.write = .ok (cut ++ [99, 3]) := by rfl
  have built : OpcodeTable.build {} = .ok .standard := by rfl
  have member : command.operation ∈ Operation.all := by decide
  have delimited : ∀ domain, command.operation ≠ .subscribe domain := fun domain => nofun
  have fits' : (Value.stringList ["x"]).FitsLengths :=
    ⟨by decide +kernel, fun _ same => by cases same; decide +kernel⟩
  have written : command.write .standard = .ok (0xce :: (front ++ content)) := by rfl
  obtain ⟨values, commands, -⟩ := framing_of_misfit built
  obtain ⟨short, long⟩ := commands command 0xce _ member delimited fits' written
  exact ⟨⟨fits, encoded, values value cut [99, 3] fits encoded (by decide)⟩, built,
    member, fits', written, short front content rfl (by decide), long [0] (by decide)⟩

/-- A text can be so long that the beginning of its encoding is that of the empty text. -/
theorem not_framing_of_long_text :
    ¬ ∀ (value : Value) (cut missing : Bytes), value.write = .ok (cut ++ missing) →
      missing ≠ [] → ∃ fault rest, readTagged.run cut = .error (.framing fault) rest := by
  intro refuses
  let letters := String.ofList (List.replicate (2 ^ 32) 'a')
  have ascii : Text.isAscii letters = true := by
    rw [Text.isAscii, String.toList_ofList, List.all_replicate]
    decide
  have count : letters.length = 1 * 2 ^ 32 := by
    rw [String.length_ofList, List.length_replicate, Nat.one_mul]
  have empty : (Value.string "").write = .ok [0x0C, 0, 0, 0, 0] := by rfl
  have written := Value.write_string_append (by rfl) ascii count empty
  have missing : asciiBytes letters ≠ [] := by
    rw [← List.length_pos_iff, length_asciiBytes, count]
    decide
  obtain ⟨_, _, refused⟩ := refuses _ _ _ written missing
  have read : readTagged.run [0x0C, 0, 0, 0, 0] = .ok (.string "") [] := by rfl
  cases read.symm.trans refused

end RemoteCrowd
