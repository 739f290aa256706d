import RemoteCrowd.Proofs.Wire.Streams
import RemoteCrowd.Service.Conversation

/-!
What a client delivers over a stream: whole packets, and an end behind the last of them. Both
are a matter of the bytes in front of the first read that fails, and not of how the reads cut
them.
-/

namespace RemoteCrowd

open Wire

namespace Wire

/-- A body behind the length field that counts both. -/
def packetOfBody (body : Bytes) : Bytes :=
  bigEndian packetField (packetField + body.length) ++ body

/-- A packet of this length can be announced, and may be as long as that. -/
def Admits (limit length : Nat) : Prop := length ≤ maxLength ∧ length ≤ limit

/-- Bytes of a packet that has not arrived as a whole, in the middle of its length field or
behind it. -/
inductive Unfinished (limit : Nat) : Bytes → Prop where
  | length {part : Bytes} (short : part.length < packetField) : Unfinished limit part
  | body {length : Nat} {part : Bytes} (admits : Admits limit (packetField + length))
    (short : part.length < length) :
    Unfinished limit (bigEndian packetField (packetField + length) ++ part)

/-- The next read gives nothing. -/
inductive Stream.Halted : Stream → Prop where
  | ended : Halted []
  | failed (fault : TransportFault) (rest : Stream) : Halted (.failed fault :: rest)

/-- How a conversation ends on bytes that do not begin with a whole packet, and on the reads
behind them. -/
inductive Ends (limit : Nat) : Bytes → Stream → Except Error Unit → Prop where
  | between : Ends limit [] [] (.ok ())
  | insideBody {length : Nat} {part : Bytes} (admits : Admits limit (packetField + length))
    (short : part.length < length) :
    Ends limit (bigEndian packetField (packetField + length) ++ part) [] (.ok ())
  /-- The client is gone, or silent for too long. -/
  | departed {part : Bytes} {fault : TransportFault} {rest : Stream}
    (unfinished : Unfinished limit part) (departs : fault.failure.isDeparture = true) :
    Ends limit part (.failed fault :: rest) (.ok ())
  | failed {part : Bytes} {fault : TransportFault} {rest : Stream}
    (unfinished : Unfinished limit part) (stays : fault.failure.isDeparture = false) :
    Ends limit part (.failed fault :: rest) (.error (.transport fault))
  | insideLength {part : Bytes} (begun : part ≠ []) (short : part.length < packetField) :
    Ends limit part [] (.error (.framing (.truncatedPacketLength part.length)))
  | badLength {total : Int32} {more : Bytes} {rest : Stream} (bad : total < 4) :
    Ends limit (writeInt32 total ++ more) rest (.error (.framing (.packetLength total)))
  | tooLong {length : Nat} {more : Bytes} {rest : Stream} (counted : packetField ≤ length)
    (fits : length ≤ maxLength) (long : limit < length) :
    Ends limit (bigEndian packetField length ++ more) rest
      (.error (.framing (.packetTooLarge length limit)))

/-- A stream brings packets with these bodies, and ends a conversation behind them. -/
def Delivers (limit : Nat) (stream : Stream) (bodies : List Bytes) (result : Except Error Unit) :
    Prop :=
  (∀ body ∈ bodies, Admits limit (packetField + body.length)) ∧
    ∃ tail rest, stream.Brings (bodies.flatMap packetOfBody ++ tail) rest ∧
      Ends limit tail rest result

theorem Stream.exists_brings (stream : Stream) :
    ∃ bytes rest, stream.Brings bytes rest ∧ rest.Halted := by
  induction stream with
  | nil => exact ⟨[], [], .nothing [], .ended⟩
  | cons read later ih =>
    obtain ⟨bytes, rest, brings, halted⟩ := ih
    cases read with
    | data front => exact ⟨front ++ bytes, rest, .data front brings, halted⟩
    | interrupted => exact ⟨bytes, rest, .interrupted brings, halted⟩
    | failed fault => exact ⟨[], _, .nothing _, .failed fault later⟩

variable {limit : Nat} {rest : Stream}

theorem Unfinished.exists_ends {part : Bytes} (unfinished : Unfinished limit part)
    (halted : rest.Halted) : ∃ result, Ends limit part rest result := by
  cases halted with
  | ended =>
    cases unfinished with
    | length short =>
      by_cases begun : part = []
      · subst begun
        exact ⟨_, .between⟩
      · exact ⟨_, .insideLength begun short⟩
    | body admits short => exact ⟨_, .insideBody admits short⟩
  | failed fault rest =>
    cases departs : fault.failure.isDeparture with
    | true => exact ⟨_, .departed unfinished departs⟩
    | false => exact ⟨_, .failed unfinished departs⟩

/-- Four bytes are a signed word. -/
theorem exists_writeInt32 {header : Bytes} (size : header.length = 4) :
    ∃ total, header = writeInt32 total := by
  have small := ofBigEndian_lt header
  rw [size] at small
  refine ⟨(UInt32.ofNat (ofBigEndian header)).toInt32, ?_⟩
  rw [writeInt32, UInt32.toUInt32_toInt32, UInt32.toNat_ofNat_of_lt' small, ← size,
    bigEndian_ofBigEndian]

/-- Bytes begin with a whole packet, or end a conversation. -/
theorem begins_or_ends (limit : Nat) (halted : rest.Halted) (bytes : Bytes) :
    (∃ body later, Admits limit (packetField + body.length) ∧
      bytes = packetOfBody body ++ later) ∨ ∃ result, Ends limit bytes rest result := by
  by_cases short : bytes.length < packetField
  · exact .inr ((Unfinished.length short).exists_ends halted)
  · have size : (bytes.take packetField).length = 4 :=
      List.length_take_of_le (Nat.not_lt.mp short)
    obtain ⟨total, header⟩ := exists_writeInt32 size
    rw [← List.take_append_drop packetField bytes, header]
    generalize bytes.drop packetField = more
    by_cases bad : total < 4
    · exact .inr ⟨_, .badLength bad⟩
    · have counted : 4 ≤ total.toInt := Int32.le_iff_toInt_le.mp (Int32.not_lt.mp bad)
      obtain ⟨length, fits, rfl⟩ := exists_ofNat_of_nonneg (Int.le_trans (by decide) counted)
      rw [toInt_ofNat fits] at counted
      obtain ⟨size, rfl⟩ := Nat.exists_eq_add_of_le (Int.ofNat_le.mp counted)
      rw [writeInt32_ofNat fits]
      by_cases long : limit < 4 + size
      · exact .inr ⟨_, .tooLong (Nat.le_add_right ..) fits long⟩
      · have admits : Admits limit (packetField + size) := ⟨fits, Nat.not_lt.mp long⟩
        by_cases part : more.length < size
        · exact .inr ((Unfinished.body admits part).exists_ends halted)
        · have whole : (more.take size).length = size :=
            List.length_take_of_le (Nat.not_lt.mp part)
          refine .inl ⟨more.take size, more.drop size, ?_, ?_⟩
          · rw [whole]
            exact admits
          · rw [packetOfBody, whole, List.append_assoc, List.take_append_drop]
            rfl

theorem exists_packets_end (limit : Nat) (halted : rest.Halted) (bytes : Bytes) :
    ∃ (bodies : List Bytes) (tail : Bytes) (result : Except Error Unit),
      (∀ body ∈ bodies, Admits limit (packetField + body.length)) ∧
      bytes = bodies.flatMap packetOfBody ++ tail ∧ Ends limit tail rest result := by
  induction size : bytes.length using Nat.strong_induction_on generalizing bytes with
  | _ size ih =>
    subst size
    rcases begins_or_ends limit halted bytes with ⟨body, later, admits, rfl⟩ | ⟨result, ends⟩
    · have fewer : later.length < (packetOfBody body ++ later).length := by
        simp [packetOfBody, packetField]
        omega
      obtain ⟨bodies, tail, result, admitted, rfl, ends⟩ := ih _ fewer later rfl
      refine ⟨body :: bodies, tail, result, List.forall_mem_cons.mpr ⟨admits, admitted⟩, ?_, ends⟩
      rw [List.flatMap_cons, List.append_assoc]
    · exact ⟨[], bytes, result, List.forall_mem_nil _, rfl, ends⟩

theorem exists_delivers (limit : Nat) (stream : Stream) :
    ∃ bodies result, Delivers limit stream bodies result := by
  obtain ⟨bytes, rest, brings, halted⟩ := stream.exists_brings
  obtain ⟨bodies, tail, result, admitted, rfl, ends⟩ := exists_packets_end limit halted bytes
  exact ⟨bodies, result, admitted, tail, rest, brings, ends⟩

variable {stream : Stream} {body : Bytes} {bodies : List Bytes} {result : Except Error Unit}

theorem Delivers.readPacket (delivers : Delivers limit stream (body :: bodies) result) :
    ∃ left, stream.readPacket limit = (.ok (some body), left) ∧
      Delivers limit left bodies result := by
  obtain ⟨admitted, tail, rest, brings, ends⟩ := delivers
  obtain ⟨⟨fits, allowed⟩, admitted'⟩ := List.forall_mem_cons.mp admitted
  rw [List.flatMap_cons, List.append_assoc] at brings
  obtain ⟨left, read, brings'⟩ := brings.readPacket_append fits allowed
  exact ⟨left, read, admitted', tail, rest, brings', ends⟩

theorem Admits.bodyLength {length : Nat} (admits : Admits limit (packetField + length)) :
    bodyLength limit (bigEndian packetField (packetField + length)) = .ok length :=
  Stream.bodyLength_bigEndian admits.1 admits.2

/-- A failure in the middle of a packet is the failure to read it. -/
theorem Unfinished.readPacket {part : Bytes} {fault : TransportFault}
    (unfinished : Unfinished limit part) (brings : stream.Brings part (.failed fault :: rest)) :
    ∃ left, stream.readPacket limit = (.error (.transport fault), left) := by
  cases unfinished with
  | length short =>
    have gathered : stream.gather 4 = ⟨part, .failed fault, rest⟩ :=
      brings.gather_of_failed short
    refine ⟨rest, ?_⟩
    rw [Stream.readPacket, gathered]
  | body admits short =>
    obtain ⟨behind, brings', read⟩ := brings.readPacket_of_header (length_bigEndian ..) limit
    simp only [admits.bodyLength, brings'.gather_of_failed short] at read
    exact ⟨rest, read⟩

/-- What a failure to read a packet is to a conversation. -/
def resultOf (cause : Error) : Except Error Unit :=
  if cause.isDeparture then .ok () else .error cause

/-- Nothing more is read where a conversation ends, be it that there is nothing more, or that
reading fails. -/
theorem Ends.readPacket {tail : Bytes} (ends : Ends limit tail rest result)
    (brings : stream.Brings tail rest) :
    ∃ left, (stream.readPacket limit = (.ok none, left) ∧ result = .ok ()) ∨
      ∃ cause, stream.readPacket limit = (.error cause, left) ∧ result = resultOf cause := by
  cases ends with
  | between =>
    refine ⟨[], .inl ⟨?_, rfl⟩⟩
    rw [Stream.readPacket, brings.gather_of_ended (by decide)]
    rfl
  | insideBody admits short =>
    obtain ⟨behind, brings', read⟩ := brings.readPacket_of_header (length_bigEndian ..) limit
    simp only [admits.bodyLength, brings'.gather_of_ended short] at read
    exact ⟨[], .inr ⟨_, read, rfl⟩⟩
  | departed unfinished departs =>
    obtain ⟨left, read⟩ := unfinished.readPacket brings
    exact ⟨left, .inr ⟨_, read, (if_pos departs).symm⟩⟩
  | failed unfinished stays =>
    obtain ⟨left, read⟩ := unfinished.readPacket brings
    exact ⟨left, .inr ⟨_, read, (if_neg (by simp [Error.isDeparture, stays])).symm⟩⟩
  | insideLength begun short =>
    have gathered : stream.gather 4 = ⟨tail, .ended, []⟩ := brings.gather_of_ended short
    refine ⟨[], .inr ⟨.framing (.truncatedPacketLength tail.length), ?_, rfl⟩⟩
    simp only [Stream.readPacket, gathered, List.isEmpty_iff, begun, if_false]
  | badLength bad =>
    obtain ⟨behind, -, read⟩ := brings.readPacket_of_header (length_bigEndian ..) limit
    rw [Stream.bodyLength_writeInt32, if_pos bad] at read
    exact ⟨behind, .inr ⟨_, read, rfl⟩⟩
  | tooLong counted fits long =>
    obtain ⟨behind, -, read⟩ := brings.readPacket_of_header (length_bigEndian ..) limit
    have refused : bodyLength limit (bigEndian packetField _) = _ :=
      Stream.bodyLength_of_counted counted fits
    rw [refused, if_pos long] at read
    exact ⟨behind, .inr ⟨_, read, rfl⟩⟩

end Wire

end RemoteCrowd
