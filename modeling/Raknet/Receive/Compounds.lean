-- SUMMARY: The compounds of the reassembly: their bounds, what completes them, and how often.
import Raknet.Receive.Reassembly
import Raknet.Lib.Machine

/-!
# Compounds

The assembler as a machine of `add` and `prune` calls with arbitrary frames. Its
compounds are bounded in number and in parts, each waits for at least one part, and
a refused frame leaves them as `prune` does. What a compound is removed for it
forgets: a part that arrives behind the last one starts the compound again.
-/

namespace Raknet

/-- The calls of an assembler. -/
inductive SplitOp where
  | add (frame : Frame) (now : Instant)
  | prune (now : Instant)

inductive SplitOut where
  | added (result : Except DecodeError (Option Frame))
  | pruned (dropped : Nat)

/-- The frame that a call hands on. -/
def SplitOut.assembled : SplitOut → Option Frame
  | .added (.ok frame) => frame
  | _ => none

/-- A compound that waits for a part. -/
structure SplitEntry.Waits (e : SplitEntry) (maxParts : UInt32) : Prop where
  slots : e.parts.length = e.partCount.toNat
  count_pos : 1 ≤ e.partCount.toNat
  count_le : e.partCount ≤ maxParts
  received : e.received = e.parts.countP Option.isSome
  waits : e.received < e.partCount.toNat

namespace SplitAssembler

def step (a : SplitAssembler) : SplitOp → SplitAssembler × SplitOut
  | .add frame now => ((a.add frame now).2, .added (a.add frame now).1)
  | .prune now => ((a.prune now).2, .pruned (a.prune now).1)

def machine : Machine SplitAssembler SplitOp SplitOut := ⟨step⟩

/-! ## Bounds -/

/-- The split information that `add` accepts. -/
structure Checked (a : SplitAssembler) (split : SplitInfo) : Prop where
  count_pos : 0 < split.partCount.toNat
  count_le : split.partCount ≤ a.maxParts
  index_lt : split.partIndex < split.partCount
  room : a.entries.size < a.maxConcurrent ∨ (a.entries.lookup split.partId).isSome = true

/-- A part that is not refused has passed the checks. -/
theorem add_checked {a : SplitAssembler} {frame : Frame} {now : Instant} {r : Option Frame}
    (hsplit : frame.header.isSplit = true) (h : (a.add frame now).1 = .ok r) :
    ∃ split, frame.split = some split ∧ (a.prune now).2.Checked split := by
  unfold add at h
  simp only [hsplit, Bool.not_true, Bool.false_eq_true, if_false] at h
  cases hinfo : frame.split with
  | none =>
    rw [hinfo] at h
    cases h
  | some split =>
    rw [hinfo] at h
    dsimp only at h
    refine ⟨split, rfl, ?_⟩
    by_cases hzero : split.partCount = 0
    · rw [if_pos hzero] at h
      cases h
    rw [if_neg hzero] at h
    by_cases hlarge : split.partCount > (a.prune now).2.maxParts
    · rw [if_pos hlarge] at h
      cases h
    rw [if_neg hlarge] at h
    by_cases hindex : split.partIndex ≥ split.partCount
    · rw [if_pos hindex] at h
      cases h
    rw [if_neg hindex] at h
    by_cases hfull : (a.prune now).2.entries.size ≥ (a.prune now).2.maxConcurrent ∧
        split.partId ∉ (a.prune now).2.entries
    · rw [if_pos hfull] at h
      cases h
    refine ⟨Nat.pos_of_ne_zero fun h0 => hzero (UInt32.toNat_inj.mp h0), UInt32.not_lt.mp hlarge,
      UInt32.not_le.mp hindex, ?_⟩
    rw [AList.lookup_isSome]
    rcases Nat.lt_or_ge (a.prune now).2.entries.size (a.prune now).2.maxConcurrent with hlt | hge
    · exact .inl hlt
    · exact .inr (by_contra fun hnew => hfull ⟨hge, hnew⟩)

/-- Fewer compounds than the limit, and each waits. -/
structure Bounded (a : SplitAssembler) : Prop where
  size : a.entries.size ≤ a.maxConcurrent
  entry : ∀ id e, a.entries.lookup id = some e → e.Waits a.maxParts
  ttl_pos : 0 < a.ttl

theorem Bounded.wellFormed {a : SplitAssembler} (h : a.Bounded) : a.WellFormed :=
  ⟨fun id e he => ⟨(h.entry id e he).slots, (h.entry id e he).received⟩, h.ttl_pos⟩

theorem new_bounded (ttl : Duration) (maxParts : UInt32) (maxConcurrent : Nat) :
    (new ttl maxParts maxConcurrent).Bounded :=
  ⟨Nat.zero_le _, fun _ _ h => (by cases h), (new_wellFormed ttl maxParts maxConcurrent).ttl_pos⟩

theorem Bounded.prune {a : SplitAssembler} (h : a.Bounded) (now : Instant) :
    (a.prune now).2.Bounded where
  size := (AssocMap.size_le_of_keys fun id hid => by
    obtain ⟨e, he⟩ := Option.isSome_iff_exists.mp hid
    rw [(lookup_prune.mp he).1]
    rfl).trans h.size
  entry := fun id e he => h.entry id e (lookup_prune.mp he).1
  ttl_pos := h.ttl_pos

/-- A part that hands nothing on leaves a compound that was there or is not full. -/
theorem addPart_notFull {a : SplitAssembler} {frame : Frame} {split : SplitInfo} {now : Instant}
    (hcount : 0 < split.partCount.toNat) (h : (addPart a frame split now).1 = .ok none)
    {e : SplitEntry}
    (he : (addPart a frame split now).2.entries.lookup split.partId = some e) :
    a.entries.lookup split.partId = some e ∨ e.received ≠ e.parts.length := by
  have hcases := a.entryFor_cases frame split now
  have hinsert := AssocMap.lookup_insertIfNew a.entries split.partId split.partId
    (freshEntry frame split now)
  rw [if_pos rfl] at hinsert
  change _ = some (a.entryFor frame split now) at hinsert
  rw [addPart_eq] at h he
  dsimp only at h he
  generalize AssocMap.insertIfNew split.partId (freshEntry frame split now) a.entries = entries
    at hcases hinsert h he
  generalize a.entryFor frame split now = entry at hcases hinsert h he
  split at h
  · cases h
  next hmatch =>
  rw [if_neg hmatch] at he
  split at h
  · cases h
  next hslots =>
  rw [if_neg hslots] at he
  split at h
  · cases h
  next hindex =>
  rw [if_neg hindex] at he
  split at h
  · next hfilled =>
    rw [if_pos hfilled] at he
    obtain rfl := Option.some.inj (hinsert.symm.trans he)
    rcases hcases with ⟨hold, -⟩ | ⟨-, hfresh⟩
    · exact .inl hold
    · refine .inr ?_
      rw [hfresh]
      simp only [freshEntry, List.length_replicate]
      omega
  next hempty =>
  rw [if_neg hempty] at he
  split at h
  · next hwaits =>
    rw [if_pos hwaits, AList.lookup_insert] at he
    obtain rfl := Option.some.inj he
    exact .inr hwaits
  · split at h <;> cases h

theorem add_eq_addPart {a : SplitAssembler} {frame : Frame} {now : Instant} {split : SplitInfo}
    (hsplit : frame.header.isSplit = true) (hinfo : frame.split = some split)
    (h : (a.prune now).2.Checked split) :
    a.add frame now = addPart (a.prune now).2 frame split now := by
  have hzero : split.partCount ≠ 0 := by
    rintro h0
    have := h.count_pos
    rw [h0] at this
    exact Nat.lt_irrefl 0 this
  have hroom : ¬((a.prune now).2.entries.size ≥ (a.prune now).2.maxConcurrent ∧
      split.partId ∉ (a.prune now).2.entries) := by
    rintro ⟨hge, hnew⟩
    rcases h.room with hlt | hold
    · exact absurd hge (Nat.not_le.mpr hlt)
    · exact hnew (AList.lookup_isSome.mp hold)
  unfold add
  simp only [hsplit, Bool.not_true, Bool.false_eq_true, if_false, hinfo]
  rw [if_neg hzero, if_neg (UInt32.not_lt.mpr h.count_le), if_neg (UInt32.not_le.mpr h.index_lt),
    if_neg hroom]

/-- Storing a part adds at most one compound, and there was room for it. -/
theorem Checked.size_le {a : SplitAssembler} {split : SplitInfo} (h : a.Checked split)
    (hsize : a.entries.size ≤ a.maxConcurrent) {entries : AssocMap UInt16 SplitEntry}
    (e : SplitEntry)
    (hkeys : ∀ id, id ≠ split.partId → entries.lookup id = a.entries.lookup id) :
    entries.size ≤ a.maxConcurrent := by
  rcases h.room with hlt | hold
  · refine Nat.le_trans (AssocMap.size_le_of_keys (m := a.entries.insert split.partId e) ?_)
      (Nat.le_trans (AssocMap.size_insert_le a.entries split.partId e) hlt)
    intro id hid
    rw [AssocMap.lookup_insert_eq]
    split
    · rfl
    · next hne => rwa [← hkeys id hne]
  · refine Nat.le_trans (AssocMap.size_le_of_keys fun id hid => ?_) hsize
    rcases eq_or_ne id split.partId with rfl | hne
    · exact hold
    · rwa [← hkeys id hne]

theorem Bounded.add {a : SplitAssembler} (hb : a.Bounded) (frame : Frame) (now : Instant) :
    (a.add frame now).2.Bounded := by
  have hpruned := hb.prune now
  have houtcome := add_outcome hb.wellFormed frame now
  generalize hr : a.add frame now = r at houtcome
  cases houtcome with
  | whole _ => exact hb
  | refused _ _ => exact hpruned
  | repeated _ _ _ _ => exact hpruned
  | @stored hsplit split entries hinfo hcount hslot hentries =>
    obtain ⟨split', hinfo', hchecked⟩ := add_checked hsplit (congrArg Prod.fst hr)
    obtain rfl : split = split' := Option.some.inj (hinfo.symm.trans hinfo')
    refine ⟨hchecked.size_le hpruned.size (freshEntry frame split now) fun id hne => ?_,
      fun id e he => ?_, hb.ttl_pos⟩
    · rw [hentries, if_neg hne]
    · have he' := he
      rw [hentries] at he'
      split at he'
      · next heq =>
        subst heq
        obtain rfl := Option.some.inj he'
        rw [add_eq_addPart hsplit hinfo hchecked] at hr
        have hwf := (hpruned.wellFormed.entryFor frame split now).store frame.payload now hslot
        have hnotFull := addPart_notFull hchecked.count_pos (congrArg Prod.fst hr)
          (by rw [hr]; exact he)
        rcases hnotFull with hold | hnotFull
        · exact hpruned.entry _ _ hold
        · have hlength := hwf.slots
          refine ⟨hwf.slots, ?_, ?_, hwf.received, ?_⟩
          · exact hcount ▸ hchecked.count_pos
          · exact hcount ▸ hchecked.count_le
          · rw [← hlength]
            refine lt_of_le_of_ne ?_ hnotFull
            rw [hwf.received]
            exact List.countP_le_length
      · exact hpruned.entry id e he'
  | @completed hsplit split entries ps hinfo hcount hslot hparts hentries =>
    refine ⟨Nat.le_trans (AssocMap.size_le_of_keys fun id hid => ?_) hpruned.size,
      fun id e he => ?_, hb.ttl_pos⟩
    · dsimp only at hid
      rw [hentries] at hid
      split at hid
      · cases hid
      · exact hid
    · dsimp only at he
      rw [hentries] at he
      split at he
      · cases he
      · exact hpruned.entry id e he

theorem Bounded.step {a : SplitAssembler} (hb : a.Bounded) (op : SplitOp) :
    (a.step op).1.Bounded := by
  cases op with
  | add frame now => exact hb.add frame now
  | prune now => exact hb.prune now

theorem exec_bounded (ttl : Duration) (maxParts : UInt32) (maxConcurrent : Nat)
    (ops : List SplitOp) : (machine.exec (new ttl maxParts maxConcurrent) ops).Bounded :=
  machine.run_invariant (P := fun _ _ a => a.Bounded) (new_bounded ttl maxParts maxConcurrent)
    (fun _ _ _ op ha => ha.step op) ops

/-- The parts of a compound whose last empty slot is filled merge. -/
theorem mergeParts_store {e : SplitEntry} (h : e.WellFormed) {index : Nat} (part : Bytes)
    (now : Instant) (hslot : e.parts[index]? = some none)
    (hfull : (e.store index part now).received = (e.store index part now).parts.length) :
    mergeParts (e.store index part now).parts ≠ none := by
  have hstore := h.store part now hslot
  obtain ⟨ps, -, hmerge⟩ := mergeParts_of_full (hstore.received ▸ hfull)
  rw [hmerge]
  exact Option.some_ne_none _

/-- A count mismatch comes of a compound with another count. -/
theorem addPart_countMismatch {a : SplitAssembler} (hwf : a.WellFormed) {frame : Frame}
    {split : SplitInfo} {now : Instant} (hindex : split.partIndex < split.partCount)
    (h : (addPart a frame split now).1 = .error .splitCountMismatch) :
    ∃ entry, a.entries.lookup split.partId = some entry ∧ entry.partCount ≠ split.partCount := by
  by_cases hcount : (a.entryFor frame split now).partCount = split.partCount
  · -- the parts of a compound with this count are in its slots, and merge when it is full
    have hentry := hwf.entryFor frame split now
    have hlt : split.partIndex.toNat < (a.entryFor frame split now).parts.length := by
      rw [hentry.slots, hcount]
      exact hindex
    rw [addPart_eq] at h
    dsimp only at h
    rw [if_neg (not_not.mpr hcount), if_neg (by rw [hentry.slots, hcount]; simp),
      if_neg (by omega)] at h
    split at h
    · cases h
    · next hempty =>
      have hslot : (a.entryFor frame split now).parts[split.partIndex.toNat]? = some none := by
        rw [List.getD_eq_getElem?_getD, List.getElem?_eq_getElem hlt, Option.getD_some,
          Option.not_isSome_iff_eq_none] at hempty
        rw [List.getElem?_eq_getElem hlt, hempty]
      split at h
      · cases h
      · next hfull =>
        split at h
        · next hnone =>
          exact absurd hnone (mergeParts_store hentry frame.payload now hslot (not_not.mp hfull))
        · cases h
  · rcases a.entryFor_cases frame split now with ⟨hold, -⟩ | ⟨-, hfresh⟩
    · exact ⟨_, hold, hcount⟩
    · rw [hfresh] at hcount
      exact absurd rfl hcount

theorem add_countMismatch {a : SplitAssembler} (hwf : a.WellFormed) {frame : Frame}
    {now : Instant} (h : (a.add frame now).1 = .error .splitCountMismatch) :
    ∃ split entry, frame.split = some split ∧
      (a.prune now).2.entries.lookup split.partId = some entry ∧
      entry.partCount ≠ split.partCount := by
  unfold add at h
  split at h
  · cases h
  cases hinfo : frame.split with
  | none =>
    rw [hinfo] at h
    cases h
  | some split =>
    rw [hinfo] at h
    dsimp only at h
    split at h
    · cases h
    split at h
    · cases h
    split at h
    · cases h
    next hindex =>
    split at h
    · cases h
    obtain ⟨entry, hentry, hcount⟩ :=
      addPart_countMismatch (hwf.prune now) (UInt32.not_le.mp hindex) h
    exact ⟨split, entry, rfl, hentry, hcount⟩

/-- Every assembler that calls with arbitrary frames and times can lead to: its
    compounds are within the limits and wait for a part, and a refused frame leaves the
    compounds as pruning does. A mismatch of counts is one with a compound that is
    there; the parts of a compound merge whenever the last slot is filled. -/
theorem assembler_invariant (ttl : Duration) (maxParts : UInt32) (maxConcurrent : Nat)
    (ops : List SplitOp) :
    let a := machine.exec (new ttl maxParts maxConcurrent) ops
    a.entries.size ≤ a.maxConcurrent ∧
    (∀ id e, a.entries.lookup id = some e →
      e.parts.length = e.partCount.toNat ∧ 1 ≤ e.partCount.toNat ∧ e.partCount ≤ a.maxParts ∧
      e.received = e.parts.countP Option.isSome ∧ e.received < e.partCount.toNat) ∧
    (∀ frame now e, (a.add frame now).1 = .error e →
      (a.add frame now).2.entries = (a.prune now).2.entries) ∧
    (∀ frame now, (a.add frame now).1 = .error .splitCountMismatch →
      ∃ split entry, frame.split = some split ∧
        (a.prune now).2.entries.lookup split.partId = some entry ∧
        entry.partCount ≠ split.partCount) ∧
    ∀ frame split now,
      let entry := (a.prune now).2.entryFor frame split now
      let stored := entry.store split.partIndex.toNat frame.payload now
      entry.parts[split.partIndex.toNat]? = some none →
      stored.received = stored.parts.length → mergeParts stored.parts ≠ none := by
  intro a
  have hb : a.Bounded := exec_bounded ttl maxParts maxConcurrent ops
  refine ⟨hb.size, fun id e he => ?_, fun frame now e h => ?_, fun frame now h => ?_,
    fun frame split now => ?_⟩
  · obtain ⟨hslots, hpos, hle, hreceived, hwaits⟩ := hb.entry id e he
    exact ⟨hslots, hpos, hle, hreceived, hwaits⟩
  · rw [(add_error hb.wellFormed h).2]
  · exact add_countMismatch hb.wellFormed h
  · exact mergeParts_store ((hb.prune now).wellFormed.entryFor frame split now) frame.payload now

/-! ## The length of an assembled frame -/

/-- The bytes of the parts in the slots. -/
def slotBytes (parts : List (Option Bytes)) : Nat := (parts.map fun p => (p.getD []).length).sum

/-- The bytes of the parts that the compound of an id has got in time. -/
def heldBytes (a : SplitAssembler) (id : UInt16) (now : Instant) : Nat :=
  (((a.prune now).2.entries.lookup id).map fun e => slotBytes e.parts).getD 0

theorem slotBytes_set {parts : List (Option Bytes)} {index : Nat} (part : Bytes)
    (hslot : parts[index]? = some none) :
    slotBytes (parts.set index (some part)) = slotBytes parts + part.length := by
  induction parts generalizing index with
  | nil => cases hslot
  | cons p parts ih =>
    cases index with
    | zero =>
      obtain rfl : p = none := by simpa using hslot
      simp [slotBytes, Nat.add_comm]
    | succ index =>
      have hslot' : parts[index]? = some none := by simpa using hslot
      have hrest := ih hslot'
      simp only [slotBytes] at hrest
      simp only [slotBytes, List.set_cons_succ, List.map_cons, List.sum_cons, hrest]
      omega

theorem slotBytes_full (ps : List Bytes) : slotBytes (ps.map some) = ps.flatten.length := by
  simp only [slotBytes, List.map_map, List.length_flatten]
  rfl

theorem slotBytes_entryFor (a : SplitAssembler) (frame : Frame) (split : SplitInfo)
    (now : Instant) :
    slotBytes ((a.prune now).2.entryFor frame split now).parts = a.heldBytes split.partId now := by
  unfold heldBytes entryFor
  cases (a.prune now).2.entries.lookup split.partId with
  | none => simp [freshEntry, slotBytes]
  | some e => rfl

/-- The frame of a completed compound tells its own length exactly if its parts are
    shorter than 8192 bytes together. -/
theorem assembled_length_iff (ttl : Duration) (maxParts : UInt32) (maxConcurrent : Nat)
    (ops : List SplitOp) {frame f : Frame} {split : SplitInfo} {now : Instant}
    (hsplit : frame.header.isSplit = true) (hinfo : frame.split = some split)
    (h : ((machine.exec (new ttl maxParts maxConcurrent) ops).add frame now).1 = .ok (some f)) :
    f.payloadLen = f.payload.length ↔
      (machine.exec (new ttl maxParts maxConcurrent) ops).heldBytes split.partId now
        + frame.payload.length < 8192 := by
  have hwf := (exec_bounded ttl maxParts maxConcurrent ops).wellFormed
  generalize machine.exec (new ttl maxParts maxConcurrent) ops = a at h hwf
  have houtcome := add_outcome hwf frame now
  generalize a.add frame now = r at h houtcome
  cases houtcome with
  | whole hwhole =>
    rw [hwhole] at hsplit
    cases hsplit
  | refused | repeated | stored => cases h
  | @completed _ split' entries ps hinfo' hcount hslot hparts hentries =>
    obtain rfl : split = split' := Option.some.inj (hinfo.symm.trans hinfo')
    obtain rfl := Option.some.inj (Except.ok.inj h)
    have hlength : ps.flatten.length = a.heldBytes split.partId now + frame.payload.length := by
      rw [← slotBytes_full, ← hparts, ← slotBytes_entryFor a frame split now]
      exact slotBytes_set frame.payload hslot
    rw [← hlength]
    exact payloadLen_bitLengthOf_iff ps.flatten.length

/-- Part `index` of a compound of `count` parts, each of this many bytes. -/
def fullPart (count index bytes : Nat) : Frame :=
  { header := FrameHeader.new .reliableOrdered true false
    bitLength := bitLengthOf bytes
    reliableIndex := some (Sequence24.new index)
    sequenceIndex := none
    orderingIndex := some (Sequence24.new 0)
    orderingChannel := some 0
    split := some { partCount := UInt32.ofNat count, partId := 7, partIndex := UInt32.ofNat index }
    payload := List.replicate bytes 1 }

/-- The assembler behind all parts but the last. -/
def allButLast (count bytes : Nat) : SplitAssembler :=
  machine.exec (new 0 128 4)
    ((List.range (count - 1)).map fun i => .add (fullPart count i bytes) 0)

/-- Eight parts of 1024 bytes give a frame that claims to be empty. -/
theorem assembled_length_wraps :
    ((allButLast 8 1024).add (fullPart 8 7 1024) 0).1.toOption.join.map
      (fun f => (f.payloadLen, f.payload.length)) = some (0, 8192) := by
  decide +kernel

theorem assembled_length_iff_two :
    ((allButLast 2 3).add (fullPart 2 1 3) 0).1
      = .ok (some { fullPart 2 0 6 with
          header := FrameHeader.new .reliableOrdered false false
          split := none }) ∧
    { fullPart 2 0 6 with
      header := FrameHeader.new .reliableOrdered false false
      split := none }.payloadLen = 6 := by
  have h : ((allButLast 2 3).add (fullPart 2 1 3) 0).1
      = .ok (some { fullPart 2 0 6 with
          header := FrameHeader.new .reliableOrdered false false
          split := none }) := by decide +kernel
  exact ⟨h, (assembled_length_iff 0 128 4 _ rfl rfl h).mpr (by decide +kernel)⟩

/-! ## How often a compound is assembled -/

/-- At most one call hands a frame on, and behind it the calls give nothing and leave no
    compound under the id. -/
structure AssembledOnce (a : SplitAssembler) (id : UInt16) (ops : List SplitOp) : Prop where
  once : (machine.outputs a ops).countP (fun o => o.assembled.isSome) ≤ 1
  behind : ∀ pre frame now post, ops = pre ++ .add frame now :: post →
    (∃ o ∈ machine.outputs a pre, o.assembled.isSome = true) →
    ((machine.exec a pre).add frame now).1 = .ok none ∧
      ((machine.exec a pre).add frame now).2.entries.lookup id = none

/-- The call that hands a frame on is the last. -/
def CompletesLast (a : SplitAssembler) (ops : List SplitOp) : Prop :=
  ∀ pre op post, ops = pre ++ op :: post →
    ((machine.exec a pre).step op).2.assembled.isSome = true → post = []

theorem completesLast_nil (a : SplitAssembler) : a.CompletesLast [] := by
  intro pre op post h
  simp at h

theorem completesLast_cons {a : SplitAssembler} {op : SplitOp} {ops : List SplitOp} :
    a.CompletesLast (op :: ops) ↔
      ((a.step op).2.assembled.isSome = true → ops = []) ∧ (a.step op).1.CompletesLast ops := by
  constructor
  · intro h
    exact ⟨h [] op ops rfl, fun pre op' post hops =>
      h (op :: pre) op' post (congrArg (op :: ·) hops)⟩
  · rintro ⟨hfirst, hrest⟩ pre op' post hops hassembled
    cases pre with
    | nil =>
      obtain ⟨rfl, rfl⟩ := List.cons.inj hops
      exact hfirst hassembled
    | cons op'' pre =>
      obtain ⟨rfl, htail⟩ := List.cons.inj hops
      exact hrest pre op' post htail hassembled

instance decidableCompletesLast :
    ∀ (a : SplitAssembler) (ops : List SplitOp), Decidable (a.CompletesLast ops)
  | a, [] => isTrue (completesLast_nil a)
  | a, op :: ops =>
    have := decidableCompletesLast (a.step op).1 ops
    have : Decidable (ops = []) := decidable_of_iff _ List.isEmpty_iff
    decidable_of_iff _ completesLast_cons.symm

theorem CompletesLast.once {a : SplitAssembler} {ops : List SplitOp} (h : a.CompletesLast ops) :
    (machine.outputs a ops).countP (fun o => o.assembled.isSome) ≤ 1 := by
  induction ops generalizing a with
  | nil => exact Nat.zero_le 1
  | cons op ops ih =>
    obtain ⟨hfirst, hrest⟩ := completesLast_cons.mp h
    rw [Machine.outputs_cons, List.countP_cons]
    split
    · next hassembled =>
      rw [hfirst hassembled]
      exact Nat.le_refl 1
    · exact ih hrest

/-- A compound that was handed on is gone. -/
theorem lookup_of_assembled {a : SplitAssembler} (hwf : a.WellFormed) {frame : Frame}
    {now : Instant} {split : SplitInfo} (hsplit : frame.header.isSplit = true)
    (hinfo : frame.split = some split)
    (h : (SplitOut.added (a.add frame now).1).assembled.isSome = true) :
    (a.add frame now).2.entries.lookup split.partId = none := by
  have houtcome := add_outcome hwf frame now
  generalize a.add frame now = r at h houtcome
  cases houtcome with
  | whole hwhole =>
    rw [hwhole] at hsplit
    cases hsplit
  | refused | repeated | stored => cases h
  | @completed _ split' _ _ hinfo' _ _ _ hentries =>
    obtain rfl : split = split' := Option.some.inj (hinfo.symm.trans hinfo')
    exact (hentries split.partId).trans (if_pos rfl)

/-- A part without a compound is refused, starts a compound, or is one itself. -/
theorem add_starts {a : SplitAssembler} (hwf : a.WellFormed) {frame : Frame} {now : Instant}
    {split : SplitInfo} (hinfo : frame.split = some split)
    (hnone : a.entries.lookup split.partId = none) (h : (a.add frame now).1 = .ok none) :
    (a.add frame now).2.entries.lookup split.partId ≠ none := by
  have hpruned : (a.prune now).2.entries.lookup split.partId = none := by
    by_contra hsome
    obtain ⟨e, he⟩ := Option.ne_none_iff_exists'.mp hsome
    have hkept := (lookup_prune.mp he).1
    rw [hnone] at hkept
    cases hkept
  have houtcome := add_outcome hwf frame now
  generalize a.add frame now = r at h houtcome
  cases houtcome with
  | whole | refused | completed => cases h
  | @repeated _ split' _ _ hinfo' hentry _ =>
    obtain rfl : split = split' := Option.some.inj (hinfo.symm.trans hinfo')
    rw [hpruned] at hentry
    cases hentry
  | @stored _ split' _ hinfo' _ _ hentries =>
    obtain rfl : split = split' := Option.some.inj (hinfo.symm.trans hinfo')
    dsimp only
    rw [hentries, if_pos rfl]
    exact Option.some_ne_none _

/-- The parts of one compound are assembled once, and repeats behind it give nothing,
    exactly if no part is repeated behind the one that completes the compound. -/
theorem assembled_once_iff (ttl : Duration) (maxParts : UInt32) (maxConcurrent : Nat)
    (id : UInt16) (calls : List (Frame × Instant))
    (hparts : ∀ call ∈ calls, call.1.header.isSplit = true ∧
      ∃ split, call.1.split = some split ∧ split.partId = id) :
    AssembledOnce (new ttl maxParts maxConcurrent) id
        (calls.map fun call => .add call.1 call.2) ↔
      CompletesLast (new ttl maxParts maxConcurrent)
        (calls.map fun call => .add call.1 call.2) := by
  constructor
  · intro h pre op post hops hassembled
    by_contra hpost
    obtain ⟨op', post', rfl⟩ := List.exists_cons_of_ne_nil hpost
    -- both calls are parts of the compound
    have hcall : ∀ op ∈ calls.map (fun call => SplitOp.add call.1 call.2), ∃ frame now split,
        op = .add frame now ∧ frame.header.isSplit = true ∧ frame.split = some split ∧
          split.partId = id := by
      intro op hop
      obtain ⟨call, hmem, rfl⟩ := List.mem_map.mp hop
      obtain ⟨hsplit, split, hinfo, hid⟩ := hparts call hmem
      exact ⟨call.1, call.2, split, rfl, hsplit, hinfo, hid⟩
    rw [hops] at hcall
    obtain ⟨frame, now, split, rfl, hsplit, hinfo, rfl⟩ := hcall op (by simp)
    obtain ⟨frame', now', split', rfl, -, hinfo', hid⟩ := hcall op' (by simp)
    have hwf := (exec_bounded ttl maxParts maxConcurrent pre).wellFormed
    have hgone := lookup_of_assembled hwf hsplit hinfo hassembled
    have hwf' := (exec_bounded ttl maxParts maxConcurrent (pre ++ [.add frame now])).wellFormed
    obtain ⟨hnothing, hempty⟩ := h.behind (pre ++ [.add frame now]) frame' now' post'
      (by rw [hops]; simp)
      ⟨_, by rw [Machine.outputs_append]; exact List.mem_append_right _ List.mem_cons_self,
        hassembled⟩
    rw [Machine.exec_append] at hwf' hnothing hempty
    rw [← hid] at hgone hempty
    exact add_starts hwf' hinfo' hgone hnothing hempty
  · intro h
    refine ⟨h.once, fun pre frame now post hops ⟨o, ho, hassembled⟩ => ?_⟩
    -- the call that handed the frame on would have been the last
    obtain ⟨before, op, rest, rfl, rfl⟩ := Machine.exists_step_of_mem_outputs _ ho
    have hlast := h before op (rest ++ .add frame now :: post) (by rw [hops]; simp) hassembled
    simp at hlast

/-- A repeat behind the completing part opens a compound that nothing completes, and a
    compound of one part is handed on as often as its part comes. -/
theorem late_repeat_assembles :
    (let ops := [.add (fullPart 2 0 3) 0, .add (fullPart 2 1 3) 1];
      (machine.outputs (new 10000 128 4) ops).countP (fun o => o.assembled.isSome) = 1 ∧
      ((machine.exec (new 10000 128 4) ops).add (fullPart 2 1 3) 2).2.entries.lookup 7 ≠ none) ∧
    (machine.outputs (new 10000 128 4)
      [.add (fullPart 1 0 3) 0, .add (fullPart 1 0 3) 1]).countP
        (fun o => o.assembled.isSome) = 2 := by
  decide +kernel

/-- The first part, its repeat, and the second part. -/
def repeatedCalls : List (Frame × Instant) :=
  [(fullPart 2 0 3, 0), (fullPart 2 0 3, 1), (fullPart 2 1 3, 2)]

theorem assembled_once_iff_repeated :
    AssembledOnce (new 10000 128 4) 7 (repeatedCalls.map fun call => .add call.1 call.2) := by
  have hparts : ∀ call ∈ repeatedCalls, call.1.header.isSplit = true ∧
      ∃ split, call.1.split = some split ∧ split.partId = 7 := by
    intro call hcall
    simp only [repeatedCalls, List.mem_cons, List.not_mem_nil, or_false] at hcall
    rcases hcall with rfl | rfl | rfl <;> exact ⟨rfl, _, rfl, rfl⟩
  refine (assembled_once_iff 10000 128 4 7 repeatedCalls hparts).mpr ?_
  decide +kernel

end SplitAssembler

end Raknet
