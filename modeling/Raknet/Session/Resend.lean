-- SUMMARY: Tracking of sent datagrams: receipts, acknowledgements, negative acknowledgements and resends.
import Mathlib.Data.List.Sort
import Raknet.Session.State

namespace Raknet

variable {F H : Type} [F64 F]

/-- Some frame of the datagram satisfies `p`; control datagrams have no frames. -/
def Datagram.anyFrame (p : Reliability → Bool) (d : Datagram) : Bool :=
  d.framesOf.any fun f => p f.header.reliability

namespace Session

/-- Count one more datagram for a receipt. -/
def countReceipt (tracking : AssocMap UInt64 Nat) (receiptId : UInt64) : AssocMap UInt64 Nat :=
  tracking.insert receiptId ((tracking.lookup receiptId).getD 0 + 1)

def trackSentReliableDatagram (s : Session F H) (datagram : Datagram) (now : Instant)
    (receiptIds : List UInt64) : Session F H :=
  let hasReliable := datagram.anyFrame Reliability.isReliable
  let hasAckReceipt := datagram.anyFrame Reliability.isWithAckReceipt
  if !hasReliable && !hasAckReceipt && receiptIds.isEmpty then
    s
  else
    let metrics :=
      if hasReliable then
        { s.metrics with reliableSentDatagrams := satAdd s.metrics.reliableSentDatagrams 1 }
      else
        s.metrics
    { s with
      metrics
      receiptTracking := receiptIds.foldl countReceipt s.receiptTracking
      sentDatagrams := s.sentDatagrams.insert datagram.header.sequence
        { datagram
          sendTime := now
          nextSend := now + s.congestion.resendRto
          retries := 0
          nackResendPending := false
          resendable := hasReliable
          receiptIds } }

/-! ## Incoming acknowledgements -/

/-- One datagram of a receipt is acknowledged: count down, or report the
    receipt when it was the last. -/
def ackReceipt (acc : AssocMap UInt64 Nat × List UInt64) (receiptId : UInt64) :
    AssocMap UInt64 Nat × List UInt64 :=
  match acc.1.lookup receiptId with
  | none => acc
  | some pending =>
    if pending > 1 then
      (acc.1.insert receiptId (pending - 1), acc.2)
    else
      (acc.1.erase receiptId, acc.2 ++ [receiptId])

/-- The callback for one acknowledged sequence number. -/
def ackSequence (now : Instant) (acc : ReceiptProgress × Session F H) (seq : Sequence24) :
    ReceiptProgress × Session F H :=
  let (progress, s) := acc
  match s.sentDatagrams.lookup seq with
  | none => acc
  | some acked =>
    let congestion := s.congestion.onReliableAck
    let congestion :=
      if acked.retries = 0 then congestion.observeRttSample (now - acked.sendTime)
      else congestion
    let (receiptTracking, ackedReceiptIds) :=
      acked.receiptIds.foldl ackReceipt (s.receiptTracking, progress.ackedReceiptIds)
    ({ progress with acked := progress.acked + 1, ackedReceiptIds },
      { s with
        sentDatagrams := s.sentDatagrams.erase seq
        congestion
        receiptTracking })

/-- The callback for one negatively acknowledged sequence number. -/
def nackSequence (now : Instant) (acc : ReceiptProgress × Session F H) (seq : Sequence24) :
    ReceiptProgress × Session F H :=
  let (progress, s) := acc
  match s.sentDatagrams.lookup seq with
  | none => acc
  | some entry =>
    if entry.resendable && entry.nextSend > now then
      ({ progress with nacked := progress.nacked + 1 },
        { s with
          sentDatagrams := s.sentDatagrams.insert seq
            { entry with nextSend := now, nackResendPending := true } })
    else
      acc

/-- The numbers a list of ranges visits, range after range. -/
def sequencesOf (ranges : List SequenceRange) : List Sequence24 :=
  ranges.flatMap SequenceRange.sequences

/-- The first half of `process_incoming_receipts`: drain the acknowledgements. -/
def processAcks (s : Session F H) (now : Instant) : ReceiptProgress × Session F H :=
  let (progress, s') := (sequencesOf s.incomingAcks).foldl (ackSequence now)
    (⟨0, 0, []⟩, { s with incomingAcks := [] })
  (progress, { s' with
    metrics := { s'.metrics with
      ackedDatagrams := satAdd s'.metrics.ackedDatagrams progress.acked } })

/-- The second half: drain the negative acknowledgements. -/
def processNacks (progress : ReceiptProgress) (s : Session F H) (now : Instant) :
    ReceiptProgress × Session F H :=
  let (progress, s') := (sequencesOf s.incomingNacks).foldl (nackSequence now)
    (progress, { s with incomingNacks := [] })
  let s' :=
    if progress.nacked > 0 then { s' with congestion := s'.congestion.onNackLoss now } else s'
  (progress, { s' with
    metrics := { s'.metrics with
      nackedDatagrams := satAdd s'.metrics.nackedDatagrams progress.nacked } })

def processIncomingReceipts (s : Session F H) (now : Instant) : ReceiptProgress × Session F H :=
  let (progress, s) := s.processAcks now
  processNacks progress s now

/-! ## Resends -/

/-- The map's iteration order. -/
def sentInOrder (s : Session F H) : List (Sequence24 × TrackedDatagram) :=
  (s.sentDatagrams.entries.map fun e => (e.1, e.2)).insertionSort fun a b => a.1.cmp b.1 ≠ .gt

/-- The selection loop of `collect_resendable`: the chosen numbers, and whether
    one of them timed out. -/
def selectResendable (now : Instant) (maxCount maxBytes : Nat) :
    List (Sequence24 × TrackedDatagram) → Nat → List Sequence24 → Bool → List Sequence24 × Bool
  | [], _, selected, timeout => (selected, timeout)
  | (seq, tracked) :: rest, totalBytes, selected, timeout =>
    if selected.length ≥ maxCount then
      (selected, timeout)
    else if !tracked.resendable then
      selectResendable now maxCount maxBytes rest totalBytes selected timeout
    else if tracked.nextSend > now then
      selectResendable now maxCount maxBytes rest totalBytes selected timeout
    else
      let size := tracked.datagram.encodedSize
      if totalBytes + size > maxBytes then
        (selected, timeout)
      else
        selectResendable now maxCount maxBytes rest (totalBytes + size) (selected ++ [seq])
          (timeout || !tracked.nackResendPending)

/-- `retries` is a `u32` with `saturating_add`. -/
def bumpRetries (retries : Nat) : Nat := min (retries + 1) (2 ^ 32 - 1)

/-- The resend loop: stamp each selected entry and emit its datagram again. -/
def resendSelected (now nextSendAt : Instant) :
    List Sequence24 → Session F H → List Datagram × Session F H
  | [], s => ([], s)
  | seq :: rest, s =>
    match s.sentDatagrams.lookup seq with
    | none => resendSelected now nextSendAt rest s
    | some tracked =>
      let s := { s with
        sentDatagrams := s.sentDatagrams.insert seq
          { tracked with
            sendTime := now
            nextSend := nextSendAt
            retries := bumpRetries tracked.retries
            nackResendPending := false }
        metrics := { s.metrics with resentDatagrams := satAdd s.metrics.resentDatagrams 1 } }
      let (out, s) := resendSelected now nextSendAt rest s
      (tracked.datagram :: out, s)

def collectResendable (s : Session F H) (now : Instant) (maxCount maxBytes : Nat) :
    List Datagram × Session F H :=
  let (selected, timeoutLossObserved) :=
    selectResendable now maxCount maxBytes s.sentInOrder 0 [] false
  if selected.isEmpty then
    ([], s)
  else
    let s :=
      if timeoutLossObserved then { s with congestion := s.congestion.onTimeout now } else s
    resendSelected now (now + s.congestion.resendRto) selected s

end Session

end Raknet
