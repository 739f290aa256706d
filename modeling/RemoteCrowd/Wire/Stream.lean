import RemoteCrowd.Wire.Decoder

/-!
Incoming packets. A stream is the list of what its reads give, and it ends behind the
last of them. How the bytes are cut into reads makes no difference to the packets.
-/

namespace RemoteCrowd.Wire

/-- What one read of the transport gives. -/
inductive Read where
  | data (bytes : Bytes)
  /-- The read was interrupted before it began, and is tried again. -/
  | interrupted
  | failed (fault : TransportFault)
deriving DecidableEq, Inhabited

/-- The reads that are still to come. -/
abbrev Stream := List Read

/-- All bytes of the stream, if no read failed. -/
def Stream.bytes : Stream → Bytes
  | [] => []
  | .data bytes :: rest => bytes ++ Stream.bytes rest
  | _ :: rest => Stream.bytes rest

/-- Why gathering bytes stopped. -/
inductive Stop where
  | enough
  | ended
  | failed (fault : TransportFault)
deriving DecidableEq, Inhabited

/-- What was gathered from a stream, and the stream behind it. -/
structure Gathered where
  bytes : Bytes
  stop : Stop
  rest : Stream
deriving DecidableEq, Inhabited

/-- Gather `count` bytes from as many reads as it takes. -/
def Stream.gather (count : Nat) : Stream → Gathered
  | [] => ⟨[], if count = 0 then .enough else .ended, []⟩
  | .interrupted :: rest =>
    if count = 0 then ⟨[], .enough, .interrupted :: rest⟩ else Stream.gather count rest
  | .failed fault :: rest =>
    if count = 0 then ⟨[], .enough, .failed fault :: rest⟩ else ⟨[], .failed fault, rest⟩
  | .data bytes :: rest =>
    if count ≤ bytes.length then
      ⟨bytes.take count, .enough, .data (bytes.drop count) :: rest⟩
    else
      let later := Stream.gather (count - bytes.length) rest
      ⟨bytes ++ later.bytes, later.stop, later.rest⟩

/-- The size of a packet's body, by its length field. A packet may not exceed `limit` bytes
with its length field. -/
def bodyLength (limit : Nat) (header : Bytes) : Except Error Nat :=
  let total := (UInt32.ofNat (ofBigEndian header)).toInt32
  if total < 4 then .error (.framing (.packetLength total))
  else if limit < total.toInt.toNat then
    .error (.framing (.packetTooLarge total.toInt.toNat limit))
  else .ok (total.toInt.toNat - 4)

/-- The next packet without its length field, or nothing where the stream ends in front of
it. -/
def Stream.readPacket (limit : Nat) (stream : Stream) :
    Except Error (Option Bytes) × Stream :=
  let header := stream.gather 4
  match header.stop with
  | .failed fault => (.error (.transport fault), header.rest)
  | .ended =>
    if header.bytes.isEmpty then (.ok none, header.rest)
    else (.error (.framing (.truncatedPacketLength header.bytes.length)), header.rest)
  | .enough =>
    match bodyLength limit header.bytes with
    | .error cause => (.error cause, header.rest)
    | .ok length =>
      let body := header.rest.gather length
      match body.stop with
      | .enough => (.ok (some body.bytes), body.rest)
      | .ended => (.error (.transport .unexpectedEnd), body.rest)
      | .failed fault => (.error (.transport fault), body.rest)

namespace Stream

/-- A bound on the reads that are left. -/
def size : Stream → Nat
  | [] => 0
  | .data bytes :: rest => bytes.length + 1 + size rest
  | _ :: rest => 1 + size rest

/-- What is gathered is no longer in the stream. -/
theorem size_gather (count : Nat) (stream : Stream) :
    (stream.gather count).bytes.length + size (stream.gather count).rest ≤ size stream := by
  induction stream generalizing count with
  | nil => simp [gather, size]
  | cons read rest ih =>
    cases read with
    | data bytes =>
      unfold gather
      split
      · simp only [size, List.length_take, List.length_drop]
        omega
      · have later := ih (count - bytes.length)
        simp only [size, List.length_append]
        omega
    | interrupted =>
      unfold gather
      split
      · simp
      · have later := ih count
        simp only [size]
        omega
    | failed fault =>
      unfold gather
      split <;> simp [size]

theorem length_of_gather_enough {count : Nat} {stream : Stream}
    (enough : (stream.gather count).stop = .enough) :
    (stream.gather count).bytes.length = count := by
  induction stream generalizing count with
  | nil =>
    unfold gather at enough ⊢
    simp only at enough
    split at enough
    · next zero => simp [zero]
    · cases enough
  | cons read rest ih =>
    cases read with
    | data bytes =>
      unfold gather at enough ⊢
      split
      · next fits => simp [fits]
      · next short =>
        simp only [short, if_false] at enough
        have later := ih enough
        simp only [List.length_append]
        omega
    | interrupted =>
      unfold gather at enough ⊢
      split
      · next zero => simp [zero]
      · next positive =>
        simp only [positive, if_false] at enough
        exact ih enough
    | failed fault =>
      unfold gather at enough ⊢
      split
      · next zero => simp [zero]
      · next positive =>
        simp only [positive, if_false] at enough
        cases enough

/-- A packet takes at least its length field from the stream. -/
theorem size_of_readPacket {limit : Nat} {stream rest : Stream} {body : Bytes}
    (read : stream.readPacket limit = (.ok (some body), rest)) : size rest < size stream := by
  unfold readPacket at read
  simp only at read
  split at read
  · cases read
  · split at read <;> cases read
  · next enough =>
    have header := size_gather 4 stream
    rw [length_of_gather_enough enough] at header
    split at read
    · cases read
    · next length _ =>
      split at read
      · obtain ⟨-, rfl⟩ := Prod.mk.inj read
        have later := size_gather length (stream.gather 4).rest
        omega
      · cases read
      · cases read

end Stream

end RemoteCrowd.Wire
