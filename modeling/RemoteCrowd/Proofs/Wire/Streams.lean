import RemoteCrowd.Proofs.Wire.Counted
import RemoteCrowd.Wire.Stream

/-!
Packets in streams. However the reads cut its bytes, and however often one is interrupted, a
packet is read as a whole, and the stream behind it is as it was.
-/

namespace RemoteCrowd.Wire.Stream

/-- The stream brings these bytes, and then it is at the rest. -/
inductive Brings : Stream → Bytes → Stream → Prop where
  | nothing (rest : Stream) : Brings rest [] rest
  | data (bytes : Bytes) {stream rest : Stream} {later : Bytes}
    (brings : Brings stream later rest) : Brings (.data bytes :: stream) (bytes ++ later) rest
  | interrupted {stream rest : Stream} {bytes : Bytes} (brings : Brings stream bytes rest) :
    Brings (.interrupted :: stream) bytes rest

@[simp] theorem gather_zero (stream : Stream) : stream.gather 0 = ⟨[], .enough, stream⟩ := by
  cases stream with
  | nil => rfl
  | cons read rest => cases read <;> simp [gather]

namespace Brings

variable {stream rest : Stream} {bytes : Bytes}

/-- Bytes are gathered as they are brought, and the others stay in the stream. -/
theorem gather (brings : stream.Brings bytes rest) {count : Nat} (fits : count ≤ bytes.length) :
    ∃ left, stream.gather count = ⟨bytes.take count, .enough, left⟩ ∧
      left.Brings (bytes.drop count) rest := by
  induction brings generalizing count with
  | nothing rest =>
    obtain rfl := Nat.le_zero.mp fits
    exact ⟨rest, gather_zero rest, .nothing rest⟩
  | @data front stream rest later brings ih =>
    by_cases short : count ≤ front.length
    · refine ⟨.data (front.drop count) :: stream, ?_, ?_⟩
      · rw [Stream.gather, if_pos short, List.take_append_of_le_length short]
      · rw [List.drop_append_of_le_length short]
        exact .data _ brings
    · have fits' : count - front.length ≤ later.length := by
        rw [List.length_append] at fits
        omega
      have whole : front.take count = front := List.take_of_length_le (by omega)
      have gone : front.drop count = [] := List.drop_eq_nil_of_le (by omega)
      obtain ⟨left, gathered, brings'⟩ := ih fits'
      refine ⟨left, ?_, ?_⟩
      · rw [Stream.gather, if_neg short, gathered, List.take_append, whole]
      · rw [List.drop_append, gone]
        exact brings'
  | @interrupted stream rest bytes brings ih =>
    by_cases zero : count = 0
    · subst zero
      exact ⟨_, gather_zero _, .interrupted brings⟩
    · obtain ⟨left, gathered, brings'⟩ := ih fits
      refine ⟨left, ?_, brings'⟩
      rw [Stream.gather, if_neg zero, gathered]

/-- Where more is asked for than the stream brings, its rest is asked for what is missing. -/
theorem gather_of_lt (brings : stream.Brings bytes rest) {count : Nat}
    (short : bytes.length < count) :
    stream.gather count =
      ⟨bytes ++ (rest.gather (count - bytes.length)).bytes,
        (rest.gather (count - bytes.length)).stop, (rest.gather (count - bytes.length)).rest⟩ := by
  induction brings generalizing count with
  | nothing rest => rfl
  | @data front stream rest later brings ih =>
    rw [List.length_append] at short
    have missing : count - (front ++ later).length = count - front.length - later.length := by
      rw [List.length_append]
      omega
    rw [Stream.gather, if_neg (by omega), ih (by omega), missing, List.append_assoc]
  | interrupted brings ih =>
    rw [Stream.gather, if_neg (by omega), ih short]

theorem gather_of_ended (brings : stream.Brings bytes []) {count : Nat}
    (short : bytes.length < count) : stream.gather count = ⟨bytes, .ended, []⟩ := by
  have missing : count - bytes.length ≠ 0 := by omega
  rw [brings.gather_of_lt short, Stream.gather, if_neg missing, List.append_nil]

theorem gather_of_failed {fault : TransportFault} (brings : stream.Brings bytes (.failed fault :: rest))
    {count : Nat} (short : bytes.length < count) :
    stream.gather count = ⟨bytes, .failed fault, rest⟩ := by
  have missing : count - bytes.length ≠ 0 := by omega
  rw [brings.gather_of_lt short, Stream.gather, if_neg missing, List.append_nil]

/-- A stream that brings nothing is as good as its rest. -/
theorem gather_eq (silent : stream.Brings [] rest) {count : Nat} (positive : count ≠ 0) :
    stream.gather count = rest.gather count :=
  silent.gather_of_lt (Nat.pos_of_ne_zero positive)

theorem readPacket_eq (silent : stream.Brings [] rest) (limit : Nat) :
    stream.readPacket limit = rest.readPacket limit := by
  unfold readPacket
  rw [silent.gather_eq (by decide)]

end Brings

theorem bodyLength_writeInt32 (limit : Nat) (total : Int32) :
    bodyLength limit (writeInt32 total) =
      if total < 4 then .error (.framing (.packetLength total))
      else if limit < total.toInt.toNat then
        .error (.framing (.packetTooLarge total.toInt.toNat limit))
      else .ok (total.toInt.toNat - 4) := by
  have small : total.toUInt32.toNat % byteWeight 4 = total.toUInt32.toNat :=
    Nat.mod_eq_of_lt total.toUInt32.toNat_lt
  have read : (UInt32.ofNat (ofBigEndian (writeInt32 total))).toInt32 = total := by
    rw [writeInt32, ofBigEndian_bigEndian, small, UInt32.ofNat_toNat, Int32.toInt32_toUInt32]
  rw [bodyLength, read]

/-- A length that can be announced is only compared with the limit. -/
theorem bodyLength_of_counted {limit total : Nat} (counted : 4 ≤ total)
    (fits : total ≤ maxLength) :
    bodyLength limit (bigEndian 4 total) =
      if limit < total then .error (.framing (.packetTooLarge total limit))
      else .ok (total - 4) := by
  have read : (Int32.ofNat total).toInt = total := toInt_ofNat fits
  have four : (4 : Int32).toInt = 4 := rfl
  have enough : ¬ Int32.ofNat total < 4 := by
    rw [Int32.lt_iff_toInt_lt, read, four]
    omega
  rw [← writeInt32_ofNat fits, bodyLength_writeInt32, if_neg enough, read, Int.toNat_natCast]

theorem bodyLength_bigEndian {limit length : Nat} (fits : 4 + length ≤ maxLength)
    (allowed : 4 + length ≤ limit) : bodyLength limit (bigEndian 4 (4 + length)) = .ok length := by
  rw [bodyLength_of_counted (Nat.le_add_right ..) fits, if_neg (Nat.not_lt.mpr allowed),
    Nat.add_sub_cancel_left]

/-- A packet goes by the length in its length field, and by what is brought behind it. -/
theorem Brings.readPacket_of_header {stream rest : Stream} {header later : Bytes}
    (brings : stream.Brings (header ++ later) rest) (size : header.length = 4) (limit : Nat) :
    ∃ behind, behind.Brings later rest ∧
      stream.readPacket limit =
        match bodyLength limit header with
        | .error cause => (.error cause, behind)
        | .ok length =>
          match (behind.gather length).stop with
          | .enough => (.ok (some (behind.gather length).bytes), (behind.gather length).rest)
          | .ended => (.error (.transport .unexpectedEnd), (behind.gather length).rest)
          | .failed fault => (.error (.transport fault), (behind.gather length).rest) := by
  obtain ⟨behind, gathered, brings'⟩ := brings.gather (by simp [size] : 4 ≤ _)
  rw [List.take_left' size] at gathered
  rw [List.drop_left' size] at brings'
  refine ⟨behind, brings', ?_⟩
  cases counted : bodyLength limit header with
  | error cause => simp only [Stream.readPacket, gathered, counted]
  | ok length =>
    cases stop : (behind.gather length).stop <;>
      simp only [Stream.readPacket, gathered, counted, stop]

/-- A packet that is not too long is read as a whole, whatever is brought behind it. -/
theorem Brings.readPacket_append {stream rest : Stream} {body later : Bytes} {limit : Nat}
    (brings : stream.Brings (bigEndian 4 (4 + body.length) ++ body ++ later) rest)
    (fits : 4 + body.length ≤ maxLength) (allowed : 4 + body.length ≤ limit) :
    ∃ left, stream.readPacket limit = (.ok (some body), left) ∧ left.Brings later rest := by
  rw [List.append_assoc] at brings
  obtain ⟨behind, brings', read⟩ := brings.readPacket_of_header (length_bigEndian ..) limit
  obtain ⟨left, gathered, brings''⟩ := brings'.gather (by simp : body.length ≤ _)
  rw [List.take_left' rfl] at gathered
  rw [List.drop_left' rfl] at brings''
  refine ⟨left, ?_, brings''⟩
  rw [read, bodyLength_bigEndian fits allowed]
  simp only [gathered]

/-- A packet that is not too long is read as a whole. -/
theorem Brings.readPacket {stream rest : Stream} {body : Bytes} {limit : Nat}
    (brings : stream.Brings (bigEndian 4 (4 + body.length) ++ body) rest)
    (fits : 4 + body.length ≤ maxLength) (allowed : 4 + body.length ≤ limit) :
    ∃ left, stream.readPacket limit = (.ok (some body), left) ∧ left.Brings [] rest := by
  rw [← List.append_nil (_ ++ body)] at brings
  exact brings.readPacket_append fits allowed

end RemoteCrowd.Wire.Stream
