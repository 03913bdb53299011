-- SUMMARY: Reassembly of split payloads, with expiry and limits.
import Raknet.Error
import Raknet.Lib.Containers
import Raknet.Protocol.Frame

namespace Raknet

/-- A point in time, in nanoseconds. -/
abbrev Instant := Nat
/-- A span of time, in nanoseconds. -/
abbrev Duration := Nat

structure SplitEntry where
  header : FrameHeader
  reliableIndex : Option Sequence24
  sequenceIndex : Option Sequence24
  orderingIndex : Option Sequence24
  orderingChannel : Option UInt8
  partCount : UInt32
  received : Nat
  parts : List (Option Bytes)
  lastUpdate : Instant
deriving DecidableEq, Repr

structure SplitAssembler where
  entries : AssocMap UInt16 SplitEntry
  ttl : Duration
  maxParts : UInt32
  maxConcurrent : Nat

namespace SplitAssembler

def new (ttl : Duration) (maxParts : UInt32) (maxConcurrent : Nat) : SplitAssembler :=
  { entries := ∅
    ttl := if ttl = 0 then 30000000000 else ttl
    maxParts := if maxParts = 0 then 1 else maxParts
    maxConcurrent := max maxConcurrent 1 }

/-- Drop the compounds without an update for `ttl`; the result counts them. -/
def prune (a : SplitAssembler) (now : Instant) : Nat × SplitAssembler :=
  let entries := AssocMap.retain (fun _ e => !decide (now - e.lastUpdate ≥ a.ttl)) a.entries
  (a.entries.size - entries.size, { a with entries })

/-- The entry `or_insert_with` creates for the first part of a compound. -/
def freshEntry (frame : Frame) (split : SplitInfo) (now : Instant) : SplitEntry :=
  { header := frame.header
    reliableIndex := frame.reliableIndex
    sequenceIndex := frame.sequenceIndex
    orderingIndex := frame.orderingIndex
    orderingChannel := frame.orderingChannel
    partCount := split.partCount
    received := 0
    parts := List.replicate split.partCount.toNat none
    lastUpdate := now }

/-- The bytes of a compound, if no part is missing. -/
def mergeParts : List (Option Bytes) → Option Bytes
  | [] => some []
  | none :: _ => none
  | some part :: rest => (mergeParts rest).map (part ++ ·)

/-- The frame handed on for a completed compound. -/
def assembledFrame (entry : SplitEntry) (payload : Bytes) : Frame :=
  { header := { entry.header with isSplit := false }
    bitLength := bitLengthOf payload.length
    reliableIndex := entry.reliableIndex
    sequenceIndex := entry.sequenceIndex
    orderingIndex := entry.orderingIndex
    orderingChannel := entry.orderingChannel
    split := none
    payload }

/-- The part of `add` behind the checks on the split information: find or
    create the entry, store the part, and assemble when it was the last. -/
def addPart (a : SplitAssembler) (frame : Frame) (split : SplitInfo) (now : Instant) :
    Except DecodeError (Option Frame) × SplitAssembler :=
  let fresh := freshEntry frame split now
  let entry := (a.entries.lookup split.partId).getD fresh
  let a := { a with entries := AssocMap.insertIfNew split.partId fresh a.entries }
  if entry.partCount ≠ split.partCount then
    (.error .splitCountMismatch, a)
  else if entry.parts.length ≠ split.partCount.toNat then
    (.error .splitCountMismatch, a)
  else
    let index := split.partIndex.toNat
    if index ≥ entry.parts.length then
      (.error .splitIndexOutOfRange, a)
    else if ((entry.parts.getD index none).isSome) then
      (.ok none, a)
    else
      let entry := { entry with
        parts := entry.parts.set index (some frame.payload)
        received := entry.received + 1
        lastUpdate := now }
      let a := { a with entries := a.entries.insert split.partId entry }
      if entry.received ≠ entry.parts.length then
        (.ok none, a)
      else
        match mergeParts entry.parts with
        | none => (.error .splitCountMismatch, a)
        | some payload =>
          (.ok (some (assembledFrame entry payload)),
            { a with entries := a.entries.erase split.partId })

def add (a : SplitAssembler) (frame : Frame) (now : Instant) :
    Except DecodeError (Option Frame) × SplitAssembler :=
  if !frame.header.isSplit then
    (.ok (some frame), a)
  else
    let a := (a.prune now).2
    match frame.split with
    | none => (.error .missingSplitInfo, a)
    | some split =>
      if split.partCount = 0 then
        (.error .splitCountZero, a)
      else if split.partCount > a.maxParts then
        (.error .splitTooLarge, a)
      else if split.partIndex ≥ split.partCount then
        (.error .splitIndexOutOfRange, a)
      else if a.entries.size ≥ a.maxConcurrent ∧ split.partId ∉ a.entries then
        (.error .splitBufferFull, a)
      else
        addPart a frame split now

end SplitAssembler

end Raknet
