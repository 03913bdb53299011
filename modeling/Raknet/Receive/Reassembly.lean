-- SUMMARY: Reassembly of split payloads: well-formed compounds and the outcomes of adding a part.
import Raknet.Session.SplitAssembler

/-!
# Reassembly

A compound has one slot for each part and counts the filled ones. Under this
invariant adding a part has four outcomes: the part is refused and nothing
changes, its slot is filled already and nothing changes, it is stored, or it is
the last one and the payload is handed on.
-/

namespace Raknet

namespace SplitEntry

structure WellFormed (e : SplitEntry) : Prop where
  slots : e.parts.length = e.partCount.toNat
  received : e.received = e.parts.countP Option.isSome

/-- The compound with one more part. -/
def store (e : SplitEntry) (index : Nat) (part : Bytes) (now : Instant) : SplitEntry :=
  { e with
    parts := e.parts.set index (some part)
    received := e.received + 1
    lastUpdate := now }

theorem WellFormed.store {e : SplitEntry} (h : e.WellFormed) {index : Nat} (part : Bytes)
    (now : Instant) (hslot : e.parts[index]? = some none) : (e.store index part now).WellFormed := by
  obtain ⟨hlt, hget⟩ := List.getElem?_eq_some_iff.mp hslot
  refine ⟨?_, ?_⟩
  · simpa [SplitEntry.store] using h.slots
  · simp only [SplitEntry.store, List.countP_set hlt, hget, h.received]
    rfl

end SplitEntry

namespace SplitAssembler

structure WellFormed (a : SplitAssembler) : Prop where
  entry : ∀ id e, a.entries.lookup id = some e → e.WellFormed
  ttl_pos : 0 < a.ttl

theorem new_wellFormed (ttl : Duration) (maxParts : UInt32) (maxConcurrent : Nat) :
    (new ttl maxParts maxConcurrent).WellFormed := by
  refine ⟨?_, ?_⟩
  · intro id e h
    cases h
  · simp only [new]
    split
    · exact Nat.succ_pos _
    · next h => exact Nat.pos_of_ne_zero h

/-- Expiry keeps the compounds with an update within `ttl`. -/
theorem lookup_prune {a : SplitAssembler} {now : Instant} {id : UInt16} {e : SplitEntry} :
    (a.prune now).2.entries.lookup id = some e ↔
      a.entries.lookup id = some e ∧ now - e.lastUpdate < a.ttl := by
  simp only [prune, AssocMap.lookup_retain, Option.filter_eq_some_iff]
  simp

theorem WellFormed.prune {a : SplitAssembler} (h : a.WellFormed) (now : Instant) :
    (a.prune now).2.WellFormed :=
  ⟨fun id e he => h.entry id e (lookup_prune.mp he).1, h.ttl_pos⟩

theorem freshEntry_wellFormed (frame : Frame) (split : SplitInfo) (now : Instant) :
    (freshEntry frame split now).WellFormed := by
  refine ⟨List.length_replicate, ?_⟩
  simp [freshEntry, List.countP_replicate]

/-- The parts of a compound merge exactly if none is missing. -/
theorem mergeParts_eq_some {parts : List (Option Bytes)} {payload : Bytes} :
    mergeParts parts = some payload ↔
      ∃ ps : List Bytes, parts = ps.map some ∧ payload = ps.flatten := by
  induction parts generalizing payload with
  | nil =>
    constructor
    · intro h
      exact ⟨[], rfl, (Option.some.inj h).symm⟩
    · rintro ⟨ps, hps, rfl⟩
      rw [List.map_eq_nil_iff.mp hps.symm]
      rfl
  | cons part rest ih =>
    cases part with
    | none =>
      constructor
      · intro h
        cases h
      · rintro ⟨ps, hps, -⟩
        cases ps <;> cases hps
    | some part =>
      simp only [mergeParts, Option.map_eq_some_iff, ih]
      constructor
      · rintro ⟨_, ⟨ps, rfl, rfl⟩, rfl⟩
        exact ⟨part :: ps, rfl, rfl⟩
      · rintro ⟨ps, hps, rfl⟩
        cases ps with
        | nil => cases hps
        | cons p ps =>
          obtain ⟨hp, hrest⟩ := List.cons.inj hps
          obtain rfl := Option.some.inj hp
          exact ⟨ps.flatten, ⟨ps, hrest, rfl⟩, rfl⟩

/-- A full compound merges. -/
theorem mergeParts_of_full {parts : List (Option Bytes)}
    (h : parts.countP Option.isSome = parts.length) :
    ∃ ps : List Bytes, parts = ps.map some ∧ mergeParts parts = some ps.flatten := by
  rw [List.countP_eq_length] at h
  obtain ⟨ps, hps⟩ : ∃ ps : List Bytes, parts = ps.map some := by
    induction parts with
    | nil => exact ⟨[], rfl⟩
    | cons part rest ih =>
      obtain ⟨ps, hps⟩ := ih fun p hp => h p (List.mem_cons_of_mem _ hp)
      obtain ⟨p, hp⟩ := Option.isSome_iff_exists.mp (h part List.mem_cons_self)
      exact ⟨p :: ps, by rw [hp, hps]; rfl⟩
  exact ⟨ps, hps, mergeParts_eq_some.mpr ⟨ps, hps, rfl⟩⟩

/-! ## Adding a part -/

/-- The compound a part belongs to: the one under its id, or a new one. -/
def entryFor (a : SplitAssembler) (frame : Frame) (split : SplitInfo) (now : Instant) :
    SplitEntry :=
  (a.entries.lookup split.partId).getD (freshEntry frame split now)

theorem WellFormed.entryFor {a : SplitAssembler} (h : a.WellFormed) (frame : Frame)
    (split : SplitInfo) (now : Instant) : (a.entryFor frame split now).WellFormed := by
  unfold SplitAssembler.entryFor
  cases hl : a.entries.lookup split.partId with
  | none => exact freshEntry_wellFormed frame split now
  | some e => exact h.entry _ e hl

theorem addPart_eq (a : SplitAssembler) (frame : Frame) (split : SplitInfo) (now : Instant) :
    addPart a frame split now =
      let entry := a.entryFor frame split now
      let stored := entry.store split.partIndex.toNat frame.payload now
      let entries := AssocMap.insertIfNew split.partId (freshEntry frame split now) a.entries
      if entry.partCount ≠ split.partCount then
        (.error .splitCountMismatch, { a with entries })
      else if entry.parts.length ≠ split.partCount.toNat then
        (.error .splitCountMismatch, { a with entries })
      else if split.partIndex.toNat ≥ entry.parts.length then
        (.error .splitIndexOutOfRange, { a with entries })
      else if (entry.parts.getD split.partIndex.toNat none).isSome then
        (.ok none, { a with entries })
      else if stored.received ≠ stored.parts.length then
        (.ok none, { a with entries := entries.insert split.partId stored })
      else
        match mergeParts stored.parts with
        | none =>
          (.error .splitCountMismatch, { a with entries := entries.insert split.partId stored })
        | some payload =>
          (.ok (some (assembledFrame stored payload)),
            { a with entries := (entries.insert split.partId stored).erase split.partId }) := rfl

/-- A compound exists already, or the part starts one with empty slots. -/
theorem entryFor_cases (a : SplitAssembler) (frame : Frame) (split : SplitInfo) (now : Instant) :
    (a.entries.lookup split.partId = some (a.entryFor frame split now) ∧
      AssocMap.insertIfNew split.partId (freshEntry frame split now) a.entries = a.entries) ∨
    (a.entries.lookup split.partId = none ∧
      a.entryFor frame split now = freshEntry frame split now) := by
  unfold SplitAssembler.entryFor AssocMap.insertIfNew
  cases hl : a.entries.lookup split.partId with
  | none => exact .inr ⟨rfl, rfl⟩
  | some e => exact .inl ⟨rfl, rfl⟩

/-- The outcomes of adding a part whose split information passed the checks. -/
theorem addPart_cases {a : SplitAssembler} (hwf : a.WellFormed) (frame : Frame)
    {split : SplitInfo} (now : Instant) (hindex : split.partIndex < split.partCount) :
    (addPart a frame split now = (.error .splitCountMismatch, a)) ∨
    (a.entries.lookup split.partId = some (a.entryFor frame split now) ∧
      (∃ part, (a.entryFor frame split now).parts[split.partIndex.toNat]? = some (some part)) ∧
      addPart a frame split now = (.ok none, a)) ∨
    ((a.entryFor frame split now).partCount = split.partCount ∧
      (a.entryFor frame split now).parts[split.partIndex.toNat]? = some none ∧
      ∃ entries : AssocMap UInt16 SplitEntry,
        ((∀ id, entries.lookup id = if id = split.partId then
            some ((a.entryFor frame split now).store split.partIndex.toNat frame.payload now)
            else a.entries.lookup id) ∧
          addPart a frame split now = (.ok none, { a with entries })) ∨
        ∃ ps : List Bytes,
          ((a.entryFor frame split now).store split.partIndex.toNat frame.payload now).parts
            = ps.map some ∧
          (∀ id, entries.lookup id
            = if id = split.partId then none else a.entries.lookup id) ∧
          addPart a frame split now = (.ok (some (assembledFrame
            ((a.entryFor frame split now).store split.partIndex.toNat frame.payload now)
            ps.flatten)), { a with entries })) := by
  have hentry := hwf.entryFor frame split now
  have hcases := a.entryFor_cases frame split now
  have hinsert := fun id => AssocMap.lookup_insertIfNew a.entries split.partId id
    (freshEntry frame split now)
  rw [addPart_eq]
  dsimp only
  generalize AssocMap.insertIfNew split.partId (freshEntry frame split now) a.entries = entries
    at hcases hinsert ⊢
  generalize a.entryFor frame split now = entry at hentry hcases ⊢
  by_cases hcount : entry.partCount = split.partCount
  · have hlt : split.partIndex.toNat < entry.parts.length := by
      rw [hentry.slots, hcount]
      exact hindex
    rw [if_neg (not_not.mpr hcount), if_neg (by rw [hentry.slots, hcount]; simp),
      if_neg (by omega)]
    rcases hslot : entry.parts[split.partIndex.toNat] with _ | part
    · have hempty : entry.parts[split.partIndex.toNat]? = some none := by
        rw [List.getElem?_eq_getElem hlt, hslot]
      rw [if_neg (by simp [List.getD_eq_getElem?_getD, hempty])]
      refine .inr (.inr ⟨hcount, hempty, ?_⟩)
      have hstore := hentry.store frame.payload now hempty
      generalize entry.store split.partIndex.toNat frame.payload now = stored at hstore ⊢
      have hlookup : ∀ id, (entries.insert split.partId stored).lookup id
          = if id = split.partId then some stored else a.entries.lookup id := by
        intro id
        rw [AssocMap.lookup_insert_eq, hinsert]
        split <;> rfl
      by_cases hfull : stored.received = stored.parts.length
      · obtain ⟨ps, hps, hmerge⟩ := mergeParts_of_full (hstore.received ▸ hfull)
        rw [if_neg (not_not.mpr hfull), hmerge]
        refine ⟨_, .inr ⟨ps, hps, fun id => ?_, rfl⟩⟩
        rw [AssocMap.lookup_erase_eq]
        split
        · rfl
        · next hne => rw [hlookup, if_neg hne]
      · rw [if_pos hfull]
        exact ⟨_, .inl ⟨hlookup, rfl⟩⟩
    · have hfilled : entry.parts[split.partIndex.toNat]? = some (some part) := by
        rw [List.getElem?_eq_getElem hlt, hslot]
      rw [if_pos (by simp [List.getD_eq_getElem?_getD, hfilled])]
      rcases hcases with ⟨hold, hkept⟩ | ⟨-, hfresh⟩
      · subst hkept
        exact .inr (.inl ⟨hold, ⟨part, hfilled⟩, rfl⟩)
      · -- A new compound has empty slots.
        subst hfresh
        simp [freshEntry] at hslot
  · rw [if_pos hcount]
    rcases hcases with ⟨-, hkept⟩ | ⟨-, hfresh⟩
    · subst hkept
      exact .inl rfl
    · subst hfresh
      exact absurd rfl hcount

/-- What adding a frame can do. Split frames first drop the expired compounds;
    `pruned` is what is left. -/
inductive AddOutcome (a : SplitAssembler) (frame : Frame) (now : Instant) :
    Except DecodeError (Option Frame) × SplitAssembler → Prop where
  /-- A whole frame passes through. -/
  | whole (hsplit : frame.header.isSplit = false) : AddOutcome a frame now (.ok (some frame), a)
  /-- A part is refused. -/
  | refused (hsplit : frame.header.isSplit = true) (e : DecodeError) :
    AddOutcome a frame now (.error e, (a.prune now).2)
  /-- The slot of a part is filled already. -/
  | repeated (hsplit : frame.header.isSplit = true) {split : SplitInfo} {entry : SplitEntry}
      {part : Bytes} (hinfo : frame.split = some split)
      (hentry : (a.prune now).2.entries.lookup split.partId = some entry)
      (hslot : entry.parts[split.partIndex.toNat]? = some (some part)) :
    AddOutcome a frame now (.ok none, (a.prune now).2)
  /-- A part is stored and others are missing. -/
  | stored (hsplit : frame.header.isSplit = true) {split : SplitInfo}
      {entries : AssocMap UInt16 SplitEntry} (hinfo : frame.split = some split)
      (hcount : ((a.prune now).2.entryFor frame split now).partCount = split.partCount)
      (hslot : ((a.prune now).2.entryFor frame split now).parts[split.partIndex.toNat]?
        = some none)
      (hentries : ∀ id, entries.lookup id = if id = split.partId then
        some (((a.prune now).2.entryFor frame split now).store split.partIndex.toNat
          frame.payload now) else (a.prune now).2.entries.lookup id) :
    AddOutcome a frame now (.ok none, { (a.prune now).2 with entries })
  /-- The last part completes the payload `ps.flatten`. -/
  | completed (hsplit : frame.header.isSplit = true) {split : SplitInfo}
      {entries : AssocMap UInt16 SplitEntry} {ps : List Bytes} (hinfo : frame.split = some split)
      (hcount : ((a.prune now).2.entryFor frame split now).partCount = split.partCount)
      (hslot : ((a.prune now).2.entryFor frame split now).parts[split.partIndex.toNat]?
        = some none)
      (hparts : (((a.prune now).2.entryFor frame split now).store split.partIndex.toNat
        frame.payload now).parts = ps.map some)
      (hentries : ∀ id, entries.lookup id
        = if id = split.partId then none else (a.prune now).2.entries.lookup id) :
    AddOutcome a frame now
      (.ok (some (assembledFrame (((a.prune now).2.entryFor frame split now).store
        split.partIndex.toNat frame.payload now) ps.flatten)), { (a.prune now).2 with entries })

theorem add_outcome {a : SplitAssembler} (hwf : a.WellFormed) (frame : Frame) (now : Instant) :
    AddOutcome a frame now (a.add frame now) := by
  unfold add
  cases hsplit : frame.header.isSplit with
  | false => exact .whole hsplit
  | true =>
    simp only [Bool.not_true, Bool.false_eq_true, if_false]
    cases hinfo : frame.split with
    | none => exact .refused hsplit _
    | some split =>
      dsimp only
      split
      · exact .refused hsplit _
      · split
        · exact .refused hsplit _
        · split
          · exact .refused hsplit _
          · next hindex =>
            split
            · exact .refused hsplit _
            · have hlt : split.partIndex < split.partCount := by
                rw [ge_iff_le, UInt32.not_le] at hindex
                exact hindex
              rcases addPart_cases (hwf.prune now) frame now hlt with
                h | ⟨hold, ⟨part, hslot⟩, h⟩ |
                ⟨hcount, hslot, entries, ⟨hentries, h⟩ | ⟨ps, hparts, hentries, h⟩⟩
              · rw [h]
                exact .refused hsplit _
              · rw [h]
                exact .repeated hsplit hinfo hold hslot
              · rw [h]
                exact .stored hsplit hinfo hcount hslot hentries
              · rw [h]
                exact .completed hsplit hinfo hcount hslot hparts hentries

/-- A refused frame is a part, and leaves the compounds as they are. -/
theorem add_error {a : SplitAssembler} (hwf : a.WellFormed) {frame : Frame} {now : Instant}
    {e : DecodeError} (h : (a.add frame now).1 = .error e) :
    frame.header.isSplit = true ∧ (a.add frame now).2 = (a.prune now).2 := by
  have houtcome := add_outcome hwf frame now
  generalize a.add frame now = r at h houtcome
  cases houtcome with
  | refused hsplit e' => exact ⟨hsplit, rfl⟩
  | _ => cases h

theorem WellFormed.add {a : SplitAssembler} (hwf : a.WellFormed) (frame : Frame) (now : Instant) :
    (a.add frame now).2.WellFormed := by
  have hpruned := hwf.prune now
  have houtcome := add_outcome hwf frame now
  generalize a.add frame now = r at houtcome
  cases houtcome with
  | whole _ => exact hwf
  | refused _ _ => exact hpruned
  | repeated _ _ _ _ => exact hpruned
  | stored _ _ _ hslot hentries =>
    refine ⟨?_, hpruned.ttl_pos⟩
    intro id e he
    rw [hentries] at he
    split at he
    · obtain rfl := Option.some.inj he
      exact (hpruned.entryFor _ _ _).store _ _ hslot
    · exact hpruned.entry id e he
  | completed _ _ _ _ _ hentries =>
    refine ⟨?_, hpruned.ttl_pos⟩
    intro id e he
    rw [hentries] at he
    split at he
    · cases he
    · exact hpruned.entry id e he

end SplitAssembler

end Raknet
