import Marquee.Link.Logged
import Marquee.Proofs.Link.Exchange

/-!
# An exchange on a queue of replies

Where the far end has said all that it will say and nothing fails, the queue decides what becomes of
an exchange (`exchange_exact`). If it begins with a whole answer, this answer is taken from it and
reported, whatever its status is, and the rest of the queue stays. If not, the exchange has timed
out in one of its two reads, and nothing of the queue is left.
-/

namespace Marquee

/-- A link to a far end with these replies, after these operations. -/
def queuedLink (queue : List UInt8) (log : List ChannelAct) : ChannelLink (Logged ReplyQueue) :=
  ⟨⟨⟨queue⟩, log⟩⟩

namespace ReplyQueue

section Queued

variable {queue : List UInt8} (log : List ChannelAct)

theorem write_queued (bytes : List UInt8) :
    Channel.write bytes (⟨⟨queue⟩, log⟩ : Logged ReplyQueue) =
      (.ok (), ⟨⟨queue⟩, log ++ [.write bytes]⟩) := rfl

theorem flush_queued :
    Channel.flush (⟨⟨queue⟩, log⟩ : Logged ReplyQueue) = (.ok (), ⟨⟨queue⟩, log ++ [.flush]⟩) := rfl

theorem read_queued (queue : List UInt8) (log : List ChannelAct) (n : Nat) :
    Channel.read n (⟨⟨queue⟩, log⟩ : Logged ReplyQueue) =
      ((takeExactly n queue).1, ⟨⟨(takeExactly n queue).2⟩, log ++ [.read n]⟩) := rfl

theorem readPart_queued_of_le (opcode : UInt8) {n : Nat} (h : n ≤ queue.length) :
    ChannelLink.readPart opcode n (queuedLink queue log) =
      (.ok ⟨queue.take n, List.length_take_of_le h⟩,
        queuedLink (queue.drop n) (log ++ [.read n])) := by
  have hread := read_queued queue log n
  rw [takeExactly_of_le h] at hread
  exact ChannelLink.readPart_of_ok opcode hread

/-- A read of more than is there empties the queue. -/
theorem readPart_queued_of_lt (opcode : UInt8) {n : Nat} (h : queue.length < n) :
    ChannelLink.readPart opcode n (queuedLink queue log) =
      (.error (.exchange (.timeout opcode)), queuedLink [] (log ++ [.read n, .discard])) := by
  have hread := read_queued queue log n
  rw [takeExactly_of_lt h] at hread
  rw [queuedLink, ChannelLink.readPart_of_timeout opcode hread]
  change (_, queuedLink [] (log ++ [.read n] ++ [.discard])) = _
  rw [List.append_assoc]
  rfl

end Queued

end ReplyQueue

/-! ## The three outcomes after the request is sent -/

section Outcomes

variable (opcode : Opcode) {payload queue : List UInt8}

/-- The bytes of the frame that is sent. -/
theorem new?_of_fits (fits : payload.length ≤ maxPayload) :
    ∃ request, Frame.new? opcode.toByte payload = .ok request ∧
      request.encode = opcode.toByte :: UInt8.ofNat payload.length :: payload := by
  refine ⟨⟨opcode.toByte, ⟨payload, fits⟩⟩, ?_, rfl⟩
  rw [Frame.new?, Payload.ofList?_of_le fits]
  rfl

variable (fits : payload.length ≤ maxPayload)

include fits

/-- If the whole answer is queued, its status decides, and what comes after it stays queued. -/
theorem exchange_of_whole (status : UInt8) {n : UInt8} {rest : List UInt8}
    (enough : n.toNat ≤ rest.length) :
    Link.exchange opcode payload (queuedLink (status :: n :: rest) []) =
      (if status = statusOk then .ok (rest.take n.toNat)
        else .error (.exchange (.status opcode.toByte statusOk status)),
        queuedLink (rest.drop n.toNat)
          [.write (opcode.toByte :: UInt8.ofNat payload.length :: payload), .flush, .read 2,
            .read n.toNat]) := by
  obtain ⟨request, hnew, hencode⟩ := new?_of_fits opcode fits
  have two : 2 ≤ (status :: n :: rest).length := Nat.le_add_left 2 rest.length
  have hheader :=
    ReplyQueue.readPart_queued_of_le [.write request.encode, .flush] opcode.toByte two
  have hpayload :=
    ReplyQueue.readPart_queued_of_le [.write request.encode, .flush, .read 2] opcode.toByte enough
  have hexchange := ChannelLink.exchange_of_answer hnew (ReplyQueue.write_queued [] _)
    (ReplyQueue.flush_queued _) hheader hpayload
  rw [← hencode]
  refine hexchange.trans (congrArg (·, _) ?_)
  by_cases hok : status = statusOk
  · have hreported : (status == statusOk) = true := beq_iff_eq.mpr hok
    rw [if_pos hok]
    exact if_pos hreported
  · have hreported : ¬ (status == statusOk) = true := fun h => hok (beq_iff_eq.mp h)
    rw [if_neg hok]
    exact if_neg hreported

/-- If not even a header is queued, the exchange times out and empties the queue. -/
theorem exchange_of_short_header (short : queue.length < 2) :
    Link.exchange opcode payload (queuedLink queue []) =
      (.error (.exchange (.timeout opcode.toByte)),
        queuedLink []
          [.write (opcode.toByte :: UInt8.ofNat payload.length :: payload), .flush, .read 2,
            .discard]) := by
  obtain ⟨request, hnew, hencode⟩ := new?_of_fits opcode fits
  rw [← hencode]
  exact ChannelLink.exchange_of_header hnew (ReplyQueue.write_queued [] _)
    (ReplyQueue.flush_queued _) (ReplyQueue.readPart_queued_of_lt _ opcode.toByte short)

/-- If less is queued than the header promises, the exchange times out and empties the queue. -/
theorem exchange_of_short_payload (status : UInt8) {n : UInt8} {rest : List UInt8}
    (short : rest.length < n.toNat) :
    Link.exchange opcode payload (queuedLink (status :: n :: rest) []) =
      (.error (.exchange (.timeout opcode.toByte)),
        queuedLink []
          [.write (opcode.toByte :: UInt8.ofNat payload.length :: payload), .flush, .read 2,
            .read n.toNat, .discard]) := by
  obtain ⟨request, hnew, hencode⟩ := new?_of_fits opcode fits
  have two : 2 ≤ (status :: n :: rest).length := Nat.le_add_left 2 rest.length
  have hheader :=
    ReplyQueue.readPart_queued_of_le [.write request.encode, .flush] opcode.toByte two
  rw [← hencode]
  exact ChannelLink.exchange_of_payload hnew (ReplyQueue.write_queued [] _)
    (ReplyQueue.flush_queued _) hheader (ReplyQueue.readPart_queued_of_lt _ opcode.toByte short)

end Outcomes

/-- What one exchange does on any queue of replies. A payload that fits no frame is turned away and
nothing is touched. Otherwise the request is written and flushed once. If the queue begins with a
status, a length and that many bytes, these are taken from it and nothing is dropped; the bytes are
the answer if the status is that of success, and the status is reported if it is another. In all
other cases the exchange has timed out, and after one discard the queue is empty. So an answer that
a panel has encoded is taken as it is and nothing after it. -/
theorem exchange_exact (opcode : Opcode) (payload queue : List UInt8) :
    let result := Link.exchange opcode payload (queuedLink queue [])
    let request := opcode.toByte :: UInt8.ofNat payload.length :: payload
    (maxPayload < payload.length →
        result = (.error (.argument .payloadTooLarge), queuedLink queue [])) ∧
      (payload.length ≤ maxPayload →
        (∀ status n rest, queue = status :: n :: rest → n.toNat ≤ rest.length →
          result =
            (if status = 0 then .ok (rest.take n.toNat)
              else .error (.exchange (.status opcode.toByte 0 status)),
              queuedLink (rest.drop n.toNat)
                [.write request, .flush, .read 2, .read n.toNat])) ∧
        ((¬ ∃ status n rest, queue = status :: n :: rest ∧ n.toNat ≤ rest.length) →
          ∃ reads, (∀ act ∈ reads, ∃ n, act = .read n) ∧
            result =
              (.error (.exchange (.timeout opcode.toByte)),
                queuedLink [] ([.write request, .flush] ++ reads ++ [.discard]))) ∧
        ∀ (r : Response) rest, queue = r.encode ++ rest →
          result =
            (if r.status = 0 then .ok r.payload.toList
              else .error (.exchange (.status opcode.toByte 0 r.status)),
              queuedLink rest
                [.write request, .flush, .read 2, .read r.payload.toList.length])) := by
  intro result request
  refine ⟨fun large => ?_, fun fits => ⟨?_, fun hother => ?_, ?_⟩⟩
  · have hnew : Frame.new? opcode.toByte payload = .error .payloadTooLarge := by
      rw [Frame.new?, Payload.ofList?_of_lt large]
      rfl
    exact ChannelLink.exchange_of_unfit hnew
  · rintro status n rest rfl enough
    exact exchange_of_whole opcode fits status enough
  · rcases queue with _ | ⟨status, _ | ⟨n, rest⟩⟩
    · exact ⟨[.read 2], by simp, exchange_of_short_header opcode fits (by decide)⟩
    · exact ⟨[.read 2], by simp, exchange_of_short_header opcode fits (Nat.lt_succ_self 1)⟩
    · have short : rest.length < n.toNat :=
        Nat.not_le.mp fun enough => hother ⟨status, n, rest, rfl, enough⟩
      exact ⟨[.read 2, .read n.toNat], by simp, exchange_of_short_payload opcode fits status short⟩
  · rintro r rest rfl
    have hlength : r.payload.lengthByte.toNat = r.payload.toList.length :=
      r.payload.toNat_lengthByte
    have enough : r.payload.lengthByte.toNat ≤ (r.payload.toList ++ rest).length := by
      rw [hlength, List.length_append]
      exact Nat.le_add_right _ _
    have hwhole := exchange_of_whole opcode fits r.status enough
    rw [hlength, List.take_left, List.drop_left] at hwhole
    exact hwhole

end Marquee
