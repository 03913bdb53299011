-- SUMMARY: Split payloads come out of the reassembly whole, in whatever order their frames arrive.
import Raknet.Send.Framing
import Raknet.Receive.Compounds

/-!
# Splitting and reassembly

The frames that `enqueue_split_frames` makes of a payload, passed to an assembler in
any order, with repeats, and between the frames of other payloads. As long as a part
is missing, the compound of the payload holds exactly the parts that were passed; the
part that was missing last gives the payload back.
-/

namespace Raknet

/-- A split payload: what its frames have in common, and its pieces. -/
structure SplitPayload where
  id : UInt16
  header : FrameHeader
  sequenceIndex : Option Sequence24
  orderingIndex : Option Sequence24
  orderingChannel : Option UInt8
  parts : List Bytes

namespace SplitPayload

/-- The frame is the one of piece `i`. -/
structure IsPart (p : SplitPayload) (i : Nat) (f : Frame) : Prop where
  header : f.header = p.header
  sequenceIndex : f.sequenceIndex = p.sequenceIndex
  orderingIndex : f.orderingIndex = p.orderingIndex
  orderingChannel : f.orderingChannel = p.orderingChannel
  split : f.split = some
    { partCount := UInt32.ofNat p.parts.length, partId := p.id, partIndex := UInt32.ofNat i }
  payload : p.parts[i]? = some f.payload

/-- The frame carries the payload unsplit. -/
structure IsWhole (p : SplitPayload) (f : Frame) : Prop where
  header : f.header = { p.header with isSplit := false }
  sequenceIndex : f.sequenceIndex = p.sequenceIndex
  orderingIndex : f.orderingIndex = p.orderingIndex
  orderingChannel : f.orderingChannel = p.orderingChannel
  split : f.split = none
  payload : f.payload = p.parts.flatten

theorem IsPart.lt {p : SplitPayload} {i : Nat} {f : Frame} (h : p.IsPart i f) :
    i < p.parts.length :=
  (List.getElem?_eq_some_iff.mp h.payload).1

end SplitPayload

/-- The compound holds these parts of the payload. -/
structure SplitEntry.Holds (e : SplitEntry) (p : SplitPayload) (seen : Nat → Prop) : Prop where
  header : e.header = p.header
  sequenceIndex : e.sequenceIndex = p.sequenceIndex
  orderingIndex : e.orderingIndex = p.orderingIndex
  orderingChannel : e.orderingChannel = p.orderingChannel
  count : e.partCount = UInt32.ofNat p.parts.length
  slots : e.parts.length = p.parts.length
  filled : ∀ i part, p.parts[i]? = some part → seen i → e.parts[i]? = some (some part)
  empty : ∀ i, i < p.parts.length → ¬seen i → e.parts[i]? = some none

namespace SplitEntry.Holds

variable {e : SplitEntry} {p : SplitPayload} {seen : Nat → Prop}

theorem fresh {i : Nat} {f : Frame} (hf : p.IsPart i f) {split : SplitInfo}
    (hsplit : f.split = some split) (hparts : p.parts.length < 2 ^ 32)
    (hunseen : ∀ i, i < p.parts.length → ¬seen i) (now : Instant) :
    (SplitAssembler.freshEntry f split now).Holds p seen := by
  obtain rfl := Option.some.inj (hsplit.symm.trans hf.split)
  have hcount : (UInt32.ofNat p.parts.length).toNat = p.parts.length :=
    UInt32.toNat_ofNat_of_lt' hparts
  refine ⟨hf.header, hf.sequenceIndex, hf.orderingIndex, hf.orderingChannel, rfl, ?_,
    fun j part hj hseen => ?_, fun j hj _ => ?_⟩
  · rw [SplitAssembler.freshEntry, List.length_replicate, hcount]
  · exact absurd hseen (hunseen j (List.getElem?_eq_some_iff.mp hj).1)
  · rw [SplitAssembler.freshEntry, hcount, List.getElem?_replicate, if_pos hj]

theorem store (h : e.Holds p seen) {i : Nat} {part : Bytes} (hpart : p.parts[i]? = some part)
    (now : Instant) : (e.store i part now).Holds p (fun j => j = i ∨ seen j) := by
  refine ⟨h.header, h.sequenceIndex, h.orderingIndex, h.orderingChannel, h.count,
    by simpa [SplitEntry.store] using h.slots, fun j part' hj hseen => ?_, fun j hj hunseen => ?_⟩
  · have hlt := (List.getElem?_eq_some_iff.mp hj).1
    simp only [SplitEntry.store, List.getElem?_set]
    split
    · next heq =>
      subst heq
      rw [if_pos (h.slots ▸ hlt), Option.some.inj (hpart.symm.trans hj)]
    · next hne => exact h.filled j part' hj (hseen.resolve_left fun heq => hne heq.symm)
  · rw [not_or] at hunseen
    simp only [SplitEntry.store, List.getElem?_set]
    rw [if_neg fun heq => hunseen.1 heq.symm]
    exact h.empty j hj hunseen.2

/-- A part that is there already changes nothing. -/
theorem again (h : e.Holds p seen) {i : Nat} (hi : seen i) :
    e.Holds p (fun j => j = i ∨ seen j) :=
  { h with
    filled := fun j part hj hseen => h.filled j part hj (hseen.elim (fun heq => heq ▸ hi) id)
    empty := fun j hj hunseen => h.empty j hj fun hseen => hunseen (.inr hseen) }

/-- A compound without an empty slot holds all parts, and in it the payload. -/
theorem of_full (h : e.Holds p seen) {ps : List Bytes} (hfull : e.parts = ps.map some) :
    (∀ i, i < p.parts.length → seen i) ∧ ps = p.parts := by
  have hlength : ps.length = p.parts.length := by rw [← h.slots, hfull, List.length_map]
  have hseen : ∀ i, i < p.parts.length → seen i := by
    intro i hi
    by_contra hunseen
    have hempty := h.empty i hi hunseen
    rw [hfull, List.getElem?_map] at hempty
    cases hps : ps[i]? <;> simp [hps] at hempty
  refine ⟨hseen, List.ext_getElem? fun i => ?_⟩
  rcases Nat.lt_or_ge i p.parts.length with hi | hi
  · have hslot := h.filled i p.parts[i] (List.getElem?_eq_getElem hi) (hseen i hi)
    rw [hfull, List.getElem?_map, Option.map_eq_some_iff] at hslot
    obtain ⟨part, hpart, heq⟩ := hslot
    rw [hpart, List.getElem?_eq_getElem hi, Option.some.inj heq]
  · rw [List.getElem?_eq_none hi, List.getElem?_eq_none (hlength ▸ hi)]

/-- A compound that waits lacks a part. -/
theorem lacks (h : e.Holds p seen) {maxParts : UInt32} (hwaits : e.Waits maxParts) :
    ∃ i, i < p.parts.length ∧ ¬seen i := by
  by_contra hall
  push Not at hall
  have hfull : e.parts.countP Option.isSome = e.parts.length := by
    refine List.countP_eq_length.mpr fun slot hslot => ?_
    obtain ⟨i, hi⟩ := List.mem_iff_getElem?.mp hslot
    have hlt : i < p.parts.length := h.slots ▸ (List.getElem?_eq_some_iff.mp hi).1
    rw [h.filled i p.parts[i] (List.getElem?_eq_getElem hlt) (hall i hlt)] at hi
    rw [← Option.some.inj hi]
    rfl
  have hreceived := hwaits.received
  rw [hfull, hwaits.slots] at hreceived
  exact absurd hwaits.waits (hreceived ▸ Nat.lt_irrefl _)

end SplitEntry.Holds

namespace SplitAssembler

/-- The assembler has these parts of the payload, from no earlier than `since`. -/
structure Gathers (a : SplitAssembler) (p : SplitPayload) (since : Instant) (seen : Nat → Prop) :
    Prop where
  bounded : a.Bounded
  count_le : p.parts.length ≤ a.maxParts.toNat
  entry : ∀ e, a.entries.lookup p.id = some e → e.Holds p seen ∧ since ≤ e.lastUpdate
  unseen : a.entries.lookup p.id = none → ∀ i, i < p.parts.length → ¬seen i

namespace Gathers

variable {a : SplitAssembler} {p : SplitPayload} {since now : Instant} {seen : Nat → Prop}

theorem count_lt (h : a.Gathers p since seen) : p.parts.length < 2 ^ 32 :=
  Nat.lt_of_le_of_lt h.count_le a.maxParts.toNat_lt

theorem congr {a' : SplitAssembler} (h : a.Gathers p since seen) (hb : a'.Bounded)
    (hmax : a'.maxParts = a.maxParts)
    (hlookup : a'.entries.lookup p.id = a.entries.lookup p.id) : a'.Gathers p since seen :=
  ⟨hb, hmax ▸ h.count_le, fun e he => h.entry e (hlookup ▸ he), fun he => h.unseen (hlookup ▸ he)⟩

/-- Within `ttl` the compound does not expire. -/
theorem lookup_prune_eq (h : a.Gathers p since seen) (hnow : now < since + a.ttl) :
    (a.prune now).2.entries.lookup p.id = a.entries.lookup p.id := by
  refine Option.ext fun e => lookup_prune.trans ⟨And.left, fun he => ⟨he, ?_⟩⟩
  rcases Nat.le_total now e.lastUpdate with hle | hle
  · rw [Nat.sub_eq_zero_of_le hle]
    exact h.bounded.ttl_pos
  · exact Nat.sub_lt_left_of_lt_add hle
      (Nat.lt_of_lt_of_le hnow (Nat.add_le_add_right (h.entry e he).2 _))

theorem prune (h : a.Gathers p since seen) (hnow : now < since + a.ttl) :
    (a.prune now).2.Gathers p since seen :=
  h.congr (h.bounded.prune now) rfl (h.lookup_prune_eq hnow)

/-- The frames of other payloads leave the compound alone. -/
theorem add_other (h : a.Gathers p since seen) {f : Frame} (hnow : now < since + a.ttl)
    (hf : f.split.map SplitInfo.partId ≠ some p.id) : (a.add f now).2.Gathers p since seen := by
  have hb := h.bounded.add f now
  have hpruned := h.prune hnow
  have hother : ∀ split, f.split = some split → p.id ≠ split.partId := by
    rintro split hsplit heq
    rw [hsplit, heq] at hf
    exact hf rfl
  have houtcome := add_outcome h.bounded.wellFormed f now
  generalize a.add f now = r at hb houtcome
  cases houtcome with
  | whole => exact h
  | refused | repeated => exact hpruned
  | stored _ hinfo _ _ hentries =>
    exact hpruned.congr hb rfl ((hentries p.id).trans (if_neg (hother _ hinfo)))
  | completed _ hinfo _ _ _ hentries =>
    exact hpruned.congr hb rfl ((hentries p.id).trans (if_neg (hother _ hinfo)))

/-- The split information of a part passes the checks if the compounds of other payloads
    leave room. -/
theorem checked (h : a.Gathers p since seen) {i : Nat} {f : Frame} (hf : p.IsPart i f)
    {split : SplitInfo} (hsplit : f.split = some split)
    (hroom : AssocMap.size (a.entries.erase p.id) < a.maxConcurrent) : a.Checked split := by
  obtain rfl := Option.some.inj (hsplit.symm.trans hf.split)
  have hlt := hf.lt
  have hcount : (UInt32.ofNat p.parts.length).toNat = p.parts.length :=
    UInt32.toNat_ofNat_of_lt' h.count_lt
  have hindex : (UInt32.ofNat i).toNat = i := UInt32.toNat_ofNat_of_lt' (hlt.trans h.count_lt)
  refine ⟨?_, ?_, ?_, ?_⟩
  · exact Nat.lt_of_lt_of_eq (Nat.zero_lt_of_lt hlt) hcount.symm
  · exact UInt32.le_iff_toNat_le.mpr (hcount.symm ▸ h.count_le)
  · rw [UInt32.lt_iff_toNat_lt]
    dsimp only
    rwa [hcount, hindex]
  · cases hlookup : a.entries.lookup p.id with
    | some e => exact .inr rfl
    | none =>
      refine .inl (Nat.lt_of_le_of_lt (AssocMap.size_le_of_keys fun id hid => ?_) hroom)
      rw [AssocMap.lookup_erase_eq]
      split
      · next heq =>
        rw [heq, hlookup] at hid
        cases hid
      · exact hid

theorem entryFor (h : a.Gathers p since seen) {i : Nat} {f : Frame} (hf : p.IsPart i f)
    {split : SplitInfo} (hsplit : f.split = some split) (now : Instant) :
    (a.entryFor f split now).Holds p seen := by
  have hid : split.partId = p.id := by
    obtain rfl := Option.some.inj (hsplit.symm.trans hf.split)
    rfl
  rcases a.entryFor_cases f split now with ⟨hold, -⟩ | ⟨hnew, hfresh⟩
  · exact (h.entry _ (hid ▸ hold)).1
  · rw [hfresh]
    exact .fresh hf hsplit h.count_lt (h.unseen (hid ▸ hnew)) now

/-- A part of the payload is kept as long as another is missing, and gives the payload
    back if none is. -/
theorem add_part (h : a.Gathers p since seen) {i : Nat} {f : Frame} (hf : p.IsPart i f)
    (hheader : p.header.isSplit = true) (hsince : since ≤ now) (hnow : now < since + a.ttl)
    (hroom : AssocMap.size ((a.prune now).2.entries.erase p.id) < a.maxConcurrent) :
    ((a.add f now).1 = .ok none ∧ (a.add f now).2.Gathers p since (fun j => j = i ∨ seen j) ∧
      ∃ j, j < p.parts.length ∧ ¬(j = i ∨ seen j)) ∨
    ((∃ whole, (a.add f now).1 = .ok (some whole) ∧ p.IsWhole whole) ∧
      (a.add f now).2.entries.lookup p.id = none ∧
      ∀ j, j < p.parts.length → j = i ∨ seen j) := by
  have hpruned := h.prune hnow
  have hb := h.bounded.add f now
  have hsplit : f.header.isSplit = true := hf.header ▸ hheader
  have hchecked := hpruned.checked hf hf.split hroom
  have hentry := hpruned.entryFor hf hf.split now
  rw [add_eq_addPart hsplit hf.split hchecked] at hb ⊢
  have hindex : (UInt32.ofNat i).toNat = i := UInt32.toNat_ofNat_of_lt' (hf.lt.trans h.count_lt)
  have hstored := hentry.store hf.payload now
  rcases addPart_cases hpruned.bounded.wellFormed f now hchecked.index_lt with
    hrefused | ⟨hold, ⟨part, hslot⟩, hadd⟩ |
    ⟨-, -, entries, ⟨hentries, hadd⟩ | ⟨ps, hparts, hentries, hadd⟩⟩
  · -- a refusal would be a mismatch with the count of the compound
    exfalso
    obtain ⟨e, he, hne⟩ := addPart_countMismatch hpruned.bounded.wellFormed hchecked.index_lt
      (congrArg Prod.fst hrefused)
    exact hne (hpruned.entry e he).1.count
  · left
    rw [hadd]
    have hseen : seen i := by
      by_contra hunseen
      rw [hindex, hentry.empty i hf.lt hunseen] at hslot
      cases hslot
    have hagain := hentry.again hseen
    refine ⟨rfl, ⟨hpruned.bounded, hpruned.count_le, fun e he => ?_, fun hnone => ?_⟩,
      hagain.lacks (hpruned.bounded.entry _ _ hold)⟩
    · rw [Option.some.inj (he.symm.trans hold)]
      exact ⟨hagain, (hpruned.entry _ hold).2⟩
    · rw [hnone] at hold
      cases hold
  · left
    rw [hadd] at hb ⊢
    rw [hindex] at hentries
    have hlookup := (hentries p.id).trans (if_pos rfl)
    refine ⟨rfl, ⟨hb, hpruned.count_le, fun e he => ?_, fun hnone => ?_⟩,
      hstored.lacks (hb.entry _ _ hlookup)⟩
    · rw [← Option.some.inj (hlookup.symm.trans he)]
      exact ⟨hstored, hsince⟩
    · dsimp only at hnone
      rw [hlookup] at hnone
      cases hnone
  · right
    rw [hadd]
    rw [hindex] at hparts ⊢
    obtain ⟨hall, rfl⟩ := hstored.of_full hparts
    refine ⟨⟨_, rfl, ?_⟩, (hentries p.id).trans (if_pos rfl), hall⟩
    exact ⟨congrArg (fun header : FrameHeader => { header with isSplit := false }) hstored.header,
      hstored.sequenceIndex, hstored.orderingIndex, hstored.orderingChannel, rfl, rfl⟩

end Gathers

/-! ## Runs -/

/-- The frames that the calls pass. -/
def passed (ops : List SplitOp) : List Frame :=
  ops.filterMap fun
    | .add frame _ => some frame
    | .prune _ => none

/-- A call within `ttl` of `since`, with a frame of the payload while the compounds of
    others leave room, or with a frame of another payload. -/
def Interleaved (made : List Frame) (id : UInt16) (since : Instant) (a : SplitAssembler) :
    SplitOp → Prop
  | .add frame now => (since ≤ now ∧ now < since + a.ttl) ∧
    (frame ∈ made ∧ AssocMap.size ((a.prune now).2.entries.erase id) < a.maxConcurrent ∨
      frame.split.map SplitInfo.partId ≠ some id)
  | .prune now => since ≤ now ∧ now < since + a.ttl

instance (made : List Frame) (id : UInt16) (since : Instant) (a : SplitAssembler) :
    ∀ op, Decidable (Interleaved made id since a op)
  | .add _ _ => inferInstanceAs (Decidable (_ ∧ _))
  | .prune _ => inferInstanceAs (Decidable (_ ∧ _))

section Runs

variable {p : SplitPayload} {made : List Frame} {since : Instant} {a : SplitAssembler}

/-- The frames of the payload are told apart by their indices. -/
theorem index_of_made (hmade : ∀ i f, made[i]? = some f → p.IsPart i f)
    (hcount : p.parts.length < 2 ^ 32) {i j : Nat} {f : Frame} (hi : made[i]? = some f)
    (hj : made[j]? = some f) : j = i := by
  have hpi := hmade i f hi
  have hpj := hmade j f hj
  have hinfo := Option.some.inj (hpi.split.symm.trans hpj.split)
  have hindex := congrArg (fun info : SplitInfo => info.partIndex.toNat) hinfo
  dsimp only at hindex
  rw [UInt32.toNat_ofNat_of_lt' (hpi.lt.trans hcount),
    UInt32.toNat_ofNat_of_lt' (hpj.lt.trans hcount)] at hindex
  exact hindex.symm

/-- As long as a part is missing, the compound holds the parts that were passed. -/
theorem gathers_run (hmade : ∀ i f, made[i]? = some f → p.IsPart i f)
    (hlength : made.length = p.parts.length) (hheader : p.header.isSplit = true)
    (h : a.Gathers p since fun _ => False) (ops : List SplitOp)
    (hops : machine.AllSteps (Interleaved made p.id since) a ops)
    (hmissing : ∃ g ∈ made, g ∉ passed ops) :
    (machine.exec a ops).Gathers p since fun i => ∃ g ∈ passed ops, made[i]? = some g := by
  refine machine.run_invariant_of_steps
    (P := fun ops _ a => (∃ g ∈ made, g ∉ passed ops) →
      a.Gathers p since fun i => ∃ g ∈ passed ops, made[i]? = some g)
    (fun _ => ?_) (fun ops _ a op ih hop hmissing => ?_) ops hops hmissing
  · simpa [passed] using h
  cases op with
  | prune now =>
    have hpassed : passed (ops ++ [.prune now]) = passed ops := by simp [passed]
    rw [hpassed] at hmissing ⊢
    exact (ih hmissing).prune hop.2
  | add f now =>
    have hpassed : passed (ops ++ [.add f now]) = passed ops ++ [f] := by simp [passed]
    rw [hpassed] at hmissing ⊢
    obtain ⟨g, hg, hnew⟩ := hmissing
    have hgathers := ih ⟨g, hg, fun hmem => hnew (List.mem_append_left _ hmem)⟩
    obtain ⟨⟨hsince, hnow⟩, ⟨hf, hroom⟩ | hother⟩ := hop
    · obtain ⟨i, hi⟩ := List.mem_iff_getElem?.mp hf
      have hseen : (fun j : Nat => ∃ g ∈ passed ops ++ [f], made[j]? = some g)
          = fun j => j = i ∨ ∃ g ∈ passed ops, made[j]? = some g := by
        funext j
        refine propext ⟨?_, ?_⟩
        · rintro ⟨g, hmem, hj⟩
          rcases List.mem_append.mp hmem with hmem | hmem
          · exact .inr ⟨g, hmem, hj⟩
          · obtain rfl := List.mem_singleton.mp hmem
            exact .inl (index_of_made hmade hgathers.count_lt hi hj)
        · rintro (rfl | ⟨g, hmem, hj⟩)
          · exact ⟨f, by simp, hi⟩
          · exact ⟨g, List.mem_append_left _ hmem, hj⟩
      rw [hseen]
      rcases hgathers.add_part (hmade i f hi) hheader hsince hnow hroom with
        ⟨-, hnext, -⟩ | ⟨-, -, hall⟩
      · exact hnext
      · -- all parts were passed
        obtain ⟨j, hj⟩ := List.mem_iff_getElem?.mp hg
        have hlt : j < p.parts.length := hlength ▸ (List.getElem?_eq_some_iff.mp hj).1
        have hall' := hall j hlt
        rw [← congrFun hseen j] at hall'
        obtain ⟨g', hmem, hj'⟩ := hall'
        rw [← Option.some.inj (hj.symm.trans hj')] at hmem
        exact absurd hmem hnew
    · have hseen : (fun j : Nat => ∃ g ∈ passed ops ++ [f], made[j]? = some g)
          = fun j => ∃ g ∈ passed ops, made[j]? = some g := by
        funext j
        refine propext ⟨?_, ?_⟩
        · rintro ⟨g, hmem, hj⟩
          rcases List.mem_append.mp hmem with hmem | hmem
          · exact ⟨g, hmem, hj⟩
          · obtain rfl := List.mem_singleton.mp hmem
            exact absurd (congrArg (Option.map SplitInfo.partId) (hmade j g hj).split) hother
        · rintro ⟨g, hmem, hj⟩
          exact ⟨g, List.mem_append_left _ hmem, hj⟩
      rw [hseen]
      exact hgathers.add_other hnow hother

end Runs

end SplitAssembler

variable {F H : Type}

namespace Session

open SplitAssembler

/-- What the frames of a payload that is split have in common. -/
def splitPayload (s : Session F H) (payload : Bytes) (reliability : Reliability)
    (channel : UInt8) : SplitPayload :=
  let effective := normalizeReliabilityForSplit reliability
  { id := s.splitWriteIndex
    header := FrameHeader.new effective true false
    sequenceIndex := s.writeIndices.sequenceIndex effective channel
    orderingIndex := s.writeIndices.orderingIndex effective channel
    orderingChannel := (s.writeIndices.orderingIndex effective channel).map fun _ => channel
    parts := s.splitParts payload reliability }

section

variable [MinHeap H QueuedFrame QueuedFrame.weight]

/-- The frames that `enqueue_split_frames` makes, in the order of their parts. -/
def splitFrames (s : Session F H) (payload : Bytes) (reliability : Reliability) (channel : UInt8)
    (priority : RakPriority) (receiptId : Option UInt64) : List Frame :=
  (s.enqueueSplitFrames payload reliability channel priority receiptId).2.1.map QueuedFrame.frame

theorem splitFrames_isPart (s : Session F H) (payload : Bytes) (reliability : Reliability)
    (channel : UInt8) (priority : RakPriority) (receiptId : Option UInt64) {i : Nat} {f : Frame}
    (hf : (s.splitFrames payload reliability channel priority receiptId)[i]? = some f) :
    (s.splitPayload payload reliability channel).IsPart i f := by
  rw [splitFrames, (s.enqueueSplitFrames_made payload reliability channel priority receiptId).1]
    at hf
  obtain ⟨w, part, hpart, rfl⟩ := WriteIndices.getElem?_partFrames hf
  refine ⟨rfl, rfl, rfl, rfl, ?_, hpart⟩
  rw [Nat.zero_add]
  simp [SplitContext.frame, splitPayload, splitContext, splitParts, writeIndices]

theorem length_splitFrames (s : Session F H) (payload : Bytes) (reliability : Reliability)
    (channel : UInt8) (priority : RakPriority) (receiptId : Option UInt64) :
    (s.splitFrames payload reliability channel priority receiptId).length
      = (s.splitPayload payload reliability channel).parts.length := by
  rw [splitFrames, (s.enqueueSplitFrames_made payload reliability channel priority receiptId).1,
    WriteIndices.length_partFrames]
  rfl

/-- The frames of a split payload, passed in any order, repeated, and between those of
    other payloads: one that leaves another missing gives nothing, and the one that was
    missing last gives the payload, unsplit and under the indices of its frames. -/
theorem split_reassembles (s : Session F H) (payload : Bytes) (reliability : Reliability)
    (channel : UInt8) (priority : RakPriority) (receiptId : Option UInt64) (ttl : Duration)
    (maxParts : UInt32) (maxConcurrent : Nat) (history pre : List SplitOp) (since now : Instant)
    (f : Frame) :
    let made := s.splitFrames payload reliability channel priority receiptId
    let a := machine.exec (SplitAssembler.new ttl maxParts maxConcurrent) history
    made.length ≤ a.maxParts.toNat →
    a.entries.lookup s.splitWriteIndex = none →
    machine.AllSteps (Interleaved made s.splitWriteIndex since) a (pre ++ [.add f now]) →
    f ∈ made → (∃ g ∈ made, g ∉ passed pre) →
    let r := (machine.exec a pre).add f now
    ((∃ g ∈ made, g ∉ passed pre ∧ g ≠ f) → r.1 = .ok none) ∧
    ((∀ g ∈ made, g ∈ passed pre ∨ g = f) →
      r.2.entries.lookup s.splitWriteIndex = none ∧
      ∃ whole, r.1 = .ok (some whole) ∧ whole.payload = payload ∧
        whole.header.isSplit = false ∧ whole.split = none ∧
        whole.header.reliability = normalizeReliabilityForSplit reliability ∧
        ∀ g ∈ made, whole.header.reliability = g.header.reliability ∧
          whole.orderingIndex = g.orderingIndex ∧ whole.sequenceIndex = g.sequenceIndex ∧
          whole.orderingChannel = g.orderingChannel) := by
  intro made a hcount hnew hops hf hmissing r
  have hmade : ∀ i g, made[i]? = some g → (s.splitPayload payload reliability channel).IsPart i g :=
    fun i g => s.splitFrames_isPart payload reliability channel priority receiptId
  have hlength : made.length = (s.splitPayload payload reliability channel).parts.length :=
    s.length_splitFrames payload reliability channel priority receiptId
  have hstart : a.Gathers (s.splitPayload payload reliability channel) since fun _ => False :=
    ⟨exec_bounded ttl maxParts maxConcurrent history, hlength ▸ hcount,
      fun e he => absurd (he.symm.trans hnew) (Option.some_ne_none e), fun _ _ _ => id⟩
  obtain ⟨hpre, hlast, -⟩ := (machine.allSteps_append _ a pre [.add f now]).mp hops
  have hgathers := gathers_run hmade hlength rfl hstart pre hpre hmissing
  obtain ⟨⟨hsince, hnow⟩, hplace⟩ := hlast
  obtain ⟨i, hi⟩ := List.mem_iff_getElem?.mp hf
  have hpart := hmade i f hi
  have hroom := (hplace.resolve_right fun hother =>
    hother (congrArg (Option.map SplitInfo.partId) hpart.split)).2
  -- a frame is missing exactly if its index is
  have hseen : ∀ j g, made[j]? = some g →
      ((j = i ∨ ∃ g ∈ passed pre, made[j]? = some g) ↔ g ∈ passed pre ∨ g = f) := by
    intro j g hj
    constructor
    · rintro (rfl | ⟨g', hmem, hj'⟩)
      · exact .inr (Option.some.inj (hj.symm.trans hi))
      · exact .inl (Option.some.inj (hj'.symm.trans hj) ▸ hmem)
    · rintro (hmem | rfl)
      · exact .inr ⟨g, hmem, hj⟩
      · exact .inl (index_of_made hmade hgathers.count_lt hi hj)
  rcases hgathers.add_part hpart rfl hsince hnow hroom with
    ⟨hnone, -, j, hj, hlacks⟩ | ⟨⟨whole, hwhole, hw⟩, hgone, hall⟩
  · refine ⟨fun _ => hnone, fun hcomplete => absurd ?_ hlacks⟩
    have hj' : made[j]? = some (made.get ⟨j, hlength ▸ hj⟩) := List.getElem?_eq_getElem _
    exact (hseen j _ hj').mpr (hcomplete _ (List.mem_of_getElem? hj'))
  · refine ⟨fun ⟨g, hg, hnot, hne⟩ => ?_, fun _ => ⟨hgone, whole, hwhole, ?_, ?_, hw.split, ?_, ?_⟩⟩
    · obtain ⟨j, hj⟩ := List.mem_iff_getElem?.mp hg
      have hj' : j < (s.splitPayload payload reliability channel).parts.length :=
        hlength ▸ (List.getElem?_eq_some_iff.mp hj).1
      exact absurd ((hseen j g hj).mp (hall j hj')) (not_or.mpr ⟨hnot, hne⟩)
    · rw [hw.payload]
      exact s.flatten_splitParts payload reliability
    · rw [hw.header]
    · rw [hw.header]
      rfl
    · intro g hg
      obtain ⟨j, hj⟩ := List.mem_iff_getElem?.mp hg
      have hgpart := hmade j g hj
      refine ⟨?_, hw.orderingIndex.trans hgpart.orderingIndex.symm,
        hw.sequenceIndex.trans hgpart.sequenceIndex.symm,
        hw.orderingChannel.trans hgpart.orderingChannel.symm⟩
      rw [hw.header, hgpart.header]

end

/-- The two frames of 600 bytes under the smallest MTU. -/
def twoFrames : List Frame :=
  (withTunables 576 SessionTunables.standard 0 : ConcreteSession).splitFrames
    (List.replicate 600 1) .reliableOrdered 3 .normal none

/-- The second frame, the first of another payload, and the second frame again. -/
def secondFirst : List SplitOp :=
  [.add (twoFrames.getD 1 (fullPart 2 0 3)) 5, .add (fullPart 2 0 3) 6,
    .add (twoFrames.getD 1 (fullPart 2 0 3)) 7]

theorem split_reassembles_second_first :
    ∃ whole, ((machine.exec (SplitAssembler.new 0 128 4) secondFirst).add
      (twoFrames.getD 0 (fullPart 2 0 3)) 8).1 = .ok (some whole) ∧
      whole.payload = List.replicate 600 1 := by
  have h := ((withTunables 576 SessionTunables.standard 0 : ConcreteSession).split_reassembles
    (List.replicate 600 1) .reliableOrdered 3 .normal none 0 128 4 [] secondFirst 0 8
    (twoFrames.getD 0 (fullPart 2 0 3)) (by decide +kernel) rfl (by decide +kernel)
    (by decide +kernel) (by decide +kernel)).2 (by decide +kernel)
  obtain ⟨-, whole, hwhole, hpayload, -⟩ := h
  exact ⟨whole, hwhole, hpayload⟩

end Session

end Raknet
