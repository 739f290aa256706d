import RemoteCrowd.Proofs.Packet
import RemoteCrowd.Proofs.Wire.Streams

/-!
Packets one after another from one stream. If no read fails, what is read is a matter of the
bytes alone: where the reads cut them, and how often a read is interrupted, shows neither in the
packets nor in the errors. Packets that were written are read as they were, one by one.
-/

namespace RemoteCrowd.Wire

/-- No read of the stream fails. It may be interrupted. -/
def Stream.Unbroken (stream : Stream) : Prop := ∀ fault, Read.failed fault ∉ stream

/-- The results of several attempts to read a packet, and the stream behind them. An attempt
follows also where the one before it failed. -/
def Stream.readPackets (limit : Nat) :
    Nat → Stream → List (Except Error (Option Bytes)) × Stream
  | 0, stream => ([], stream)
  | count + 1, stream =>
    let first := stream.readPacket limit
    let later := readPackets limit count first.2
    (first.1 :: later.1, later.2)

/-- The packet at the front of bytes that are all there, and the bytes behind it. -/
def takePacket (limit : Nat) (bytes : Bytes) : Except Error (Option Bytes) × Bytes :=
  if bytes = [] then (.ok none, [])
  else if bytes.length < packetField then
    (.error (.framing (.truncatedPacketLength bytes.length)), [])
  else
    let behind := bytes.drop packetField
    match bodyLength limit (bytes.take packetField) with
    | .error cause => (.error cause, behind)
    | .ok length =>
      if length ≤ behind.length then (.ok (some (behind.take length)), behind.drop length)
      else (.error (.transport .unexpectedEnd), [])

/-- The results of several attempts to take a packet off the front, and the bytes behind them. -/
def takePackets (limit : Nat) : Nat → Bytes → List (Except Error (Option Bytes)) × Bytes
  | 0, bytes => ([], bytes)
  | count + 1, bytes =>
    let first := takePacket limit bytes
    let later := takePackets limit count first.2
    (first.1 :: later.1, later.2)

namespace Stream

variable {stream : Stream} {bytes : Bytes}

theorem Unbroken.brings (unbroken : stream.Unbroken) : stream.Brings stream.bytes [] := by
  induction stream with
  | nil => exact .nothing []
  | cons read rest ih =>
    have brings := ih fun fault member => unbroken fault (List.mem_cons_of_mem _ member)
    cases read with
    | data front => exact .data front brings
    | interrupted => exact .interrupted brings
    | failed fault => exact absurd List.mem_cons_self (unbroken fault)

theorem Brings.bytes_eq (brings : stream.Brings bytes []) : stream.bytes = bytes := by
  generalize ended : ([] : Stream) = rest at brings
  induction brings with
  | nothing rest =>
    subst ended
    rfl
  | data front brings ih => rw [Stream.bytes, ih ended]
  | interrupted brings ih => exact ih ended

/-- A packet is read as it is taken off the bytes that the stream brings. -/
theorem Brings.readPacket_eq_takePacket (brings : stream.Brings bytes []) (limit : Nat) :
    ∃ left, stream.readPacket limit = ((takePacket limit bytes).1, left) ∧
      left.Brings (takePacket limit bytes).2 [] := by
  unfold takePacket
  by_cases ended : bytes = []
  · subst ended
    refine ⟨[], ?_, .nothing []⟩
    rw [Stream.readPacket, brings.gather_of_ended (by decide)]
    rfl
  · rw [if_neg ended]
    by_cases short : bytes.length < packetField
    · rw [if_pos short]
      have gathered : stream.gather 4 = ⟨bytes, .ended, []⟩ := brings.gather_of_ended short
      refine ⟨[], ?_, .nothing []⟩
      simp only [Stream.readPacket, gathered, List.isEmpty_iff, ended, if_false]
    · rw [if_neg short]
      have size : (bytes.take packetField).length = packetField :=
        List.length_take_of_le (Nat.not_lt.mp short)
      rw [← List.take_append_drop packetField bytes] at brings
      obtain ⟨behind, brings', read⟩ := brings.readPacket_of_header size limit
      cases counted : bodyLength limit (bytes.take packetField) with
      | error cause =>
        simp only [counted] at read ⊢
        exact ⟨behind, read, brings'⟩
      | ok length =>
        simp only [counted] at read ⊢
        by_cases whole : length ≤ (bytes.drop packetField).length
        · obtain ⟨left, gathered, brings''⟩ := brings'.gather whole
          simp only [gathered] at read
          rw [if_pos whole]
          exact ⟨left, read, brings''⟩
        · simp only [brings'.gather_of_ended (Nat.not_le.mp whole)] at read
          rw [if_neg whole]
          exact ⟨[], read, .nothing []⟩

/-- Packets are read as they are taken off the bytes that the stream brings. -/
theorem Brings.readPackets_eq_takePackets (brings : stream.Brings bytes []) (limit count : Nat) :
    ∃ left, stream.readPackets limit count = ((takePackets limit count bytes).1, left) ∧
      left.Brings (takePackets limit count bytes).2 [] := by
  induction count generalizing stream bytes with
  | zero => exact ⟨stream, rfl, brings⟩
  | succ count ih =>
    obtain ⟨mid, read, brings'⟩ := brings.readPacket_eq_takePacket limit
    obtain ⟨left, later, brings''⟩ := ih brings'
    refine ⟨left, ?_, brings''⟩
    rw [readPackets, read, later]
    rfl

end Stream

variable {limit : Nat}

theorem takePacket_of_send {body front : Bytes} (allowed : packetField + body.length ≤ limit)
    (sent : Packet.send { frames := body } = .ok front) (later : Bytes) :
    takePacket limit (front ++ later) = (.ok (some body), later) := by
  obtain ⟨fits, rfl⟩ := Packet.send_eq_ok_iff.mp sent
  have size : (bigEndian packetField (packetField + body.length)).length = packetField :=
    length_bigEndian ..
  have counted : bodyLength limit (bigEndian packetField (packetField + body.length)) =
      .ok body.length := Stream.bodyLength_bigEndian fits allowed
  have long : ¬ (bigEndian packetField (packetField + body.length) ++ body ++ later).length <
      packetField := by
    rw [List.append_assoc, List.length_append, size]
    omega
  have begun : bigEndian packetField (packetField + body.length) ++ body ++ later ≠ [] := by
    intro empty
    rw [empty] at long
    exact long (by decide)
  rw [takePacket, if_neg begun, if_neg long, List.append_assoc, List.take_left' size,
    List.drop_left' size]
  simp [counted]

theorem takePackets_of_writeMany {bodies : List Bytes} {bytes : Bytes}
    (allowed : ∀ body ∈ bodies, packetField + body.length ≤ limit)
    (written : writeMany (fun body => Packet.send { frames := body }) bodies = .ok bytes)
    (later : Bytes) :
    takePackets limit bodies.length (bytes ++ later) =
      (bodies.map fun body => .ok (some body), later) := by
  induction bodies generalizing bytes with
  | nil =>
    obtain rfl := Except.ok.inj written
    rfl
  | cons body rest ih =>
    obtain ⟨front, tail, sent, writtenRest, rfl⟩ := writeMany_cons_eq_ok_iff.mp written
    obtain ⟨allowedFirst, allowedRest⟩ := List.forall_mem_cons.mp allowed
    rw [List.length_cons, takePackets, List.append_assoc, takePacket_of_send allowedFirst sent,
      ih allowedRest writtenRest]
    rfl

theorem takePackets_add (first second : Nat) (bytes : Bytes) :
    takePackets limit (first + second) bytes =
      ((takePackets limit first bytes).1 ++
          (takePackets limit second (takePackets limit first bytes).2).1,
        (takePackets limit second (takePackets limit first bytes).2).2) := by
  induction first generalizing bytes with
  | zero =>
    rw [Nat.zero_add]
    rfl
  | succ first ih =>
    rw [Nat.succ_add, takePackets, ih]
    rfl

/-- Behind the last byte nothing more is found, however often it is looked for. -/
theorem takePackets_nil (count : Nat) :
    takePackets limit count [] = (List.replicate count (.ok none), []) := by
  induction count with
  | zero => rfl
  | succ count ih =>
    have none : takePacket limit [] = (.ok none, []) := rfl
    rw [takePackets, none, ih]
    rfl

/-- Streams of the same bytes give the same packets and the same errors, for any number of
attempts, and have the same bytes left behind them. Packets that were written one after another
are read in their order, each up to its last byte, and behind them the stream is at its end for
good. -/
theorem readPackets_of_bytes (limit : Nat) :
    (∀ first second : Stream, first.Unbroken → second.Unbroken → first.bytes = second.bytes →
      ∀ count, (first.readPackets limit count).1 = (second.readPackets limit count).1 ∧
        (first.readPackets limit count).2.bytes = (second.readPackets limit count).2.bytes) ∧
    ∀ (bodies : List Bytes) (bytes : Bytes) (stream : Stream),
      (∀ body ∈ bodies, packetField + body.length ≤ limit) →
      writeMany (fun body => Packet.send { frames := body }) bodies = .ok bytes →
      stream.Unbroken → stream.bytes = bytes →
      (∀ count, (stream.readPackets limit (bodies.length + count)).1 =
        bodies.map (fun body => .ok (some body)) ++ List.replicate count (.ok none)) ∧
      ∀ front back, bodies = front ++ back →
        writeMany (fun body => Packet.send { frames := body }) back =
          .ok (stream.readPackets limit front.length).2.bytes := by
  constructor
  · intro first second unbroken unbroken' same count
    have brings := unbroken'.brings
    rw [← same] at brings
    obtain ⟨left, read, silent⟩ := unbroken.brings.readPackets_eq_takePackets limit count
    obtain ⟨left', read', silent'⟩ := brings.readPackets_eq_takePackets limit count
    rw [read, read', silent.bytes_eq, silent'.bytes_eq]
    exact ⟨rfl, rfl⟩
  · intro bodies bytes stream allowed written unbroken same
    have brings := unbroken.brings
    rw [same] at brings
    constructor
    · intro count
      have taken := takePackets_of_writeMany allowed written []
      rw [List.append_nil] at taken
      obtain ⟨left, read, -⟩ := brings.readPackets_eq_takePackets limit (bodies.length + count)
      rw [read, takePackets_add, taken, takePackets_nil]
    · intro front back parts
      subst parts
      obtain ⟨head, tail, writtenFront, writtenBack, rfl⟩ := writeMany_append_eq_ok_iff.mp written
      have taken := takePackets_of_writeMany
        (fun body member => allowed body (List.mem_append_left _ member)) writtenFront tail
      obtain ⟨left, read, silent⟩ := brings.readPackets_eq_takePackets limit front.length
      rw [taken] at read silent
      rw [read, silent.bytes_eq, writtenBack]

/-- Two packets, an empty one among them, cut in the middle of a length field and of a body, and
interrupted in both; and bytes in which a length field makes no sense. -/
theorem readPackets_of_bytes_cut :
    let cut : Stream := [.data [0], .interrupted, .data [0, 0], .data [6, 7], .interrupted,
      .data [8, 0, 0, 0], .interrupted, .data [4], .interrupted]
    let garbled : Stream := [.data [0, 0, 0], .interrupted, .data [2, 9]]
    let whole : Stream := [.data [0, 0, 0, 2, 9]]
    (cut.readPackets 16 4).1 = [.ok (some [7, 8]), .ok (some []), .ok none, .ok none] ∧
      (cut.readPackets 16 1).2.bytes = [0, 0, 0, 4] ∧
      (garbled.readPackets 16 3).1 = (whole.readPackets 16 3).1 := by
  intro cut garbled whole
  obtain ⟨same, packets⟩ := readPackets_of_bytes 16
  obtain ⟨all, each⟩ := packets [[7, 8], []] cut.bytes cut (by decide) (by decide +kernel)
    (by simp [Stream.Unbroken, cut]) rfl
  refine ⟨all 2, ?_, ?_⟩
  · have rest := each [[7, 8]] [[]] rfl
    exact (Except.ok.inj rest).symm
  · have unbroken : garbled.Unbroken := by simp [Stream.Unbroken, garbled]
    have unbroken' : whole.Unbroken := by simp [Stream.Unbroken, whole]
    exact (same garbled whole unbroken unbroken' rfl 3).1

end RemoteCrowd.Wire
