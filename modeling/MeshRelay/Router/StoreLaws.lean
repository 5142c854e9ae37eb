import MeshRelay.Router.Store
import Mathlib.Data.Nat.Defs
import Mathlib.Data.Nat.ModEq

/-! Laws of the router's stores over whole call sequences: the ring buffer keeps the most recent
packets in order, and the dedup filter remembers the current block of new hashes. -/

namespace MeshRelay

namespace PacketBuffer

/-! ### The ring buffer -/

/-- The slot `GetAll` starts from: `head - count`, plus `size` when that is negative. -/
def oldestSlot (pb : PacketBuffer) : Int :=
  if (pb.head : Int) - pb.count < 0 then (pb.head : Int) - pb.count + pb.size
  else (pb.head : Int) - pb.count

/-- `GetAll` visits the `count` slots from `oldestSlot` on, around the ring. -/
theorem getAll_eq (pb : PacketBuffer) :
    pb.getAll = (List.range pb.count).filterMap fun i : Nat =>
      pb.packets.getD ((pb.oldestSlot + i) % pb.size).toNat none :=
  rfl

/-- The slot `GetAll` starts from is a slot of the ring, so Go's `%` on it is Lean's. -/
theorem oldestSlot_mem (pb : PacketBuffer) : 0 ≤ pb.oldestSlot ∧ pb.oldestSlot < pb.size := by
  have := pb.head_lt
  have := pb.count_le
  unfold oldestSlot
  split <;> omega

/-- `GetAll` returns `stored` when the slot its loop visits `i`th holds `stored[i]`. -/
theorem getAll_eq_of_slots {pb : PacketBuffer} {stored : List Bytes}
    (length : stored.length = pb.count)
    (slot : ∀ i < pb.count, pb.packets.getD ((pb.oldestSlot + i) % pb.size).toNat none = stored[i]?) :
    pb.getAll = stored := by
  rw [getAll_eq, @List.filterMap_eq_map_iff_forall_eq_some _ _ _ (fun i => stored.getD i []) _ |>.mpr
    fun i member => by
      have below := List.mem_range.mp member
      rw [slot i below, List.getElem?_eq_getElem (by omega), List.getD_eq_getElem _ _ (by omega)]]
  exact List.ext_getElem (by simp [length]) fun i _ inStored => by
    simp [List.getElem?_eq_getElem inStored]

/-- The ring after the packets `added` were passed to `Add`, in order: `count` and `head` follow
the number of calls, and each of the last `count` packets sits in slot `j % size`. -/
def Keeps (pb : PacketBuffer) (added : List Bytes) : Prop :=
  pb.count = min added.length pb.size ∧ pb.head = added.length % pb.size ∧
    ∀ j, added.length - pb.count ≤ j → j < added.length →
      pb.packets.getD (j % pb.size) none = added[j]?

/-- A new ring keeps the invariant of no packet added. -/
theorem new_keeps (size : Nat) (positive : 0 < size) : (new size positive).Keeps [] :=
  ⟨(Nat.zero_min size).symm, (Nat.zero_mod size).symm, fun j _ below => absurd below (Nat.not_lt_zero j)⟩

/-- Two calls fewer than `size` apart write different slots. -/
theorem mod_ne_of_near {size j k : Nat} (before : j < k) (near : k - j < size) :
    j % size ≠ k % size := by
  intro same
  have divides : size ∣ k - j := (Nat.modEq_iff_dvd' before.le).mp same
  exact absurd (Nat.le_of_dvd (by omega) divides) (by omega)

/-- `Add` writes the new packet into the slot of its call and keeps the others of the window. -/
theorem Keeps.add {pb : PacketBuffer} {added : List Bytes} (keeps : pb.Keeps added) (data : Bytes) :
    (pb.add data).Keeps (added ++ [data]) := by
  obtain ⟨count, head, slots⟩ := keeps
  have positive : 0 < pb.size := Nat.lt_of_le_of_lt (Nat.zero_le _) pb.head_lt
  have newCount : (pb.add data).count = min (added.length + 1) pb.size := by
    show (if pb.count < pb.size then pb.count + 1 else pb.count) = _
    rw [count]
    split <;> omega
  simp only [Keeps, add_size, List.length_append, List.length_singleton]
  refine ⟨newCount, ?_, fun j low high => ?_⟩
  · show (pb.head + 1) % pb.size = _
    rw [head, Nat.mod_add_mod]
  · show (pb.packets.set pb.head (some data)).getD (j % pb.size) none = _
    rw [List.getD_eq_getElem?_getD, List.getElem?_set, head, pb.packets_length]
    rw [newCount] at low
    rcases Nat.lt_or_ge j added.length with old | last
    · -- An older packet of the window is in a slot this call did not write.
      rw [if_neg (mod_ne_of_near old (by omega)).symm, ← List.getD_eq_getElem?_getD,
        List.getElem?_append_left old]
      exact slots j (by omega) old
    · -- The packet of this call is in the head slot.
      rw [show j = added.length by omega, if_pos rfl, if_pos (Nat.mod_lt _ positive),
        List.getElem?_concat_length]
      rfl

/-- `GetAll` on a ring that kept `added` returns the last `count` of them, oldest first. -/
theorem Keeps.getAll {pb : PacketBuffer} {added : List Bytes} (keeps : pb.Keeps added) :
    pb.getAll = added.drop (added.length - pb.count) := by
  obtain ⟨count, head, slots⟩ := keeps
  have fewer : pb.count ≤ added.length := by rw [count]; exact Nat.min_le_left _ _
  have full := pb.count_le
  -- The start slot is a natural number lined up with the oldest kept call modulo `size`.
  obtain ⟨oldest, start, aligned⟩ : ∃ oldest : Nat, pb.oldestSlot = oldest ∧
      Nat.ModEq pb.size (oldest + pb.count) added.length := by
    unfold oldestSlot
    rw [head]
    by_cases wrapped : added.length % pb.size < pb.count
    · refine ⟨added.length % pb.size + pb.size - pb.count, by rw [if_pos (by omega)]; omega, ?_⟩
      rw [Nat.sub_add_cancel (by omega)]
      exact Nat.add_modEq_right.trans (Nat.mod_modEq _ _)
    · refine ⟨added.length % pb.size - pb.count, by rw [if_neg (by omega)]; omega, ?_⟩
      rw [Nat.sub_add_cancel (by omega)]
      exact Nat.mod_modEq _ _
  refine getAll_eq_of_slots (by simp; omega) fun i below => ?_
  -- The loop's `i`th slot is that of call `added.length - count + i`.
  have index : ((pb.oldestSlot + i) % pb.size).toNat = (added.length - pb.count + i) % pb.size := by
    rw [start, show (oldest : Int) + i = ((oldest + i : Nat) : Int) by push_cast; rfl,
      ← Int.natCast_mod, Int.toNat_natCast]
    refine Nat.ModEq.add_right_cancel' pb.count ?_
    calc oldest + i + pb.count = (oldest + pb.count) + i := by omega
      _ ≡ added.length + i [MOD pb.size] := aligned.add_right i
      _ = added.length - pb.count + i + pb.count := by omega
  rw [index, slots _ (by omega) (by omega), List.getElem?_drop]

/-- Adding packets in order keeps each of them in its turn. -/
theorem Keeps.foldl_add : ∀ (packets : List Bytes) {pb : PacketBuffer} {added : List Bytes},
    pb.Keeps added → (packets.foldl PacketBuffer.add pb).Keeps (added ++ packets)
  | [], _, added, keeps => by rw [List.append_nil]; exact keeps
  | data :: rest, _, added, keeps => by
    rw [List.foldl_cons, ← List.singleton_append, ← List.append_assoc]
    exact Keeps.foldl_add rest (keeps.add data)

/-- `Add` never resizes the ring. -/
@[simp] theorem foldl_add_size : ∀ (packets : List Bytes) (pb : PacketBuffer),
    (packets.foldl add pb).size = pb.size
  | [], _ => rfl
  | data :: rest, pb => foldl_add_size rest (pb.add data)

/-- The ring buffer keeps exactly the most recent packets in order: on a buffer of `size ≥ 1`
slots, after the packets of any sequence of `Add` calls, `count = min k size`, `head = k % size`,
the slot `GetAll` starts from is a slot of the ring, and `GetAll` returns the last `min k size`
packets added, oldest first, each the argument of its `Add`. `GetAll` changes nothing, so this
is what every `GetAll` between the calls returns. -/
theorem getAll_most_recent (size : Nat) (positive : 0 < size) (packets : List Bytes) :
    let pb := packets.foldl add (new size positive)
    pb.count = min packets.length size ∧ pb.head = packets.length % size ∧
      (0 ≤ pb.oldestSlot ∧ pb.oldestSlot < size) ∧
      pb.getAll = packets.drop (packets.length - min packets.length size) := by
  intro pb
  -- The invariant holds from the empty ring on, and it fixes what `GetAll` reads.
  have keeps : pb.Keeps packets := by
    simpa using Keeps.foldl_add packets (new_keeps size positive)
  have count := keeps.1
  have head := keeps.2.1
  have sized : pb.size = size := foldl_add_size packets _
  rw [sized] at count head
  refine ⟨count, head, sized ▸ pb.oldestSlot_mem, ?_⟩
  rw [keeps.getAll, count]

/-- `getAll_most_recent` on the spec's scenario: three slots and four packets. -/
theorem getAll_most_recent_three_slots :
    0 < 3 ∧
      let pb := ([[1], [2], [3], [4]] : List Bytes).foldl add (new 3 (by decide))
      pb.count = min 4 3 ∧ pb.head = 4 % 3 ∧ (0 ≤ pb.oldestSlot ∧ pb.oldestSlot < 3) ∧
        pb.getAll = ([[1], [2], [3], [4]] : List Bytes).drop (4 - min 4 3) :=
  ⟨by decide, getAll_most_recent 3 (by decide) [[1], [2], [3], [4]]⟩

/-- The spec's scenario computed: three slots and four packets keep the last three. -/
example :
    (([[1], [2], [3], [4]] : List Bytes).foldl add (new 3 (by decide))).getAll = [[2], [3], [4]] := by
  decide

end PacketBuffer

/-! ### The dedup filter -/

namespace DedupFilter

/-- One more step around `max`: `(count + 1) % max` wraps to zero right after `max - 1`. -/
theorem succ_mod_eq (count max : Nat) (positive : 0 < max) :
    (count + 1) % max = if count % max + 1 = max then 0 else count % max + 1 := by
  conv_lhs => rw [← Nat.div_add_mod count max, Nat.add_assoc, Nat.mul_add_mod]
  split
  · next full => rw [full, Nat.mod_self]
  · exact Nat.mod_eq_of_lt (by have := Nat.mod_lt count positive; omega)

/-- The last `((F - 1) mod max) + 1` of `F` recorded hashes: the block the map holds. -/
def recent (max : Nat) (fresh : List Bytes) : List Bytes :=
  fresh.drop (fresh.length - ((fresh.length - 1) % max + 1))

/-- The current block holds `((F - 1) mod max) + 1` hashes once one is recorded. -/
theorem recent_length (max : Nat) (fresh : List Bytes) :
    (recent max fresh).length = if fresh.length = 0 then 0 else (fresh.length - 1) % max + 1 := by
  have := Nat.mod_le (fresh.length - 1) max
  simp only [recent, List.length_drop]
  split <;> omega

/-- A new hash starts a new block when the current one is full, and joins it otherwise. -/
theorem recent_append (max : Nat) (positive : 0 < max) (fresh : List Bytes) (hash : Bytes) :
    recent max (fresh ++ [hash]) =
      if (recent max fresh).length = max then [hash] else recent max fresh ++ [hash] := by
  rw [recent_length]
  rcases Nat.eq_zero_or_pos fresh.length with empty | some
  · rw [List.length_eq_zero.mp empty]
    simp [recent, show 0 ≠ max by omega]
  have wrap := succ_mod_eq (fresh.length - 1) max positive
  rw [Nat.sub_add_cancel some] at wrap
  simp only [recent, List.length_append, List.length_singleton, Nat.add_sub_cancel,
    if_neg (Nat.pos_iff_ne_zero.mp some)]
  split
  · -- The block is full: the new hash alone makes the next one.
    next full =>
    rw [if_pos full] at wrap
    rw [wrap, show fresh.length + 1 - (0 + 1) = fresh.length by omega,
      List.drop_append_eq_append_drop, List.drop_of_length_le (Nat.le_refl _), Nat.sub_self,
      List.drop_zero, List.nil_append]
  · -- Room is left: the block grows by the new hash.
    next room =>
    rw [if_neg room] at wrap
    rw [wrap, show fresh.length + 1 - ((fresh.length - 1) % max + 1 + 1) =
        fresh.length - ((fresh.length - 1) % max + 1) by omega,
      List.drop_append_of_le_length (Nat.sub_le _ _)]

/-- The filter after the new hashes `fresh` were recorded: its `max`, and its map, most recent
first, the current block of them. -/
def Remembers (d : DedupFilter) (max : Nat) (fresh : List Bytes) : Prop :=
  d.max = max ∧ d.seen = (recent max fresh).reverse

/-- A hash of the current block is a duplicate, and the call changes nothing. -/
theorem Remembers.isDuplicate_of_mem {d : DedupFilter} {max : Nat} {fresh : List Bytes}
    (remembers : d.Remembers max fresh) {hash : Bytes} (member : hash ∈ recent max fresh) :
    d.isDuplicate hash = (true, d) := by
  rw [isDuplicate, if_pos (by rw [remembers.2, List.mem_reverse]; exact member)]

/-- Any other hash is recorded: the call returns false and the new hash joins, or starts, the
current block. -/
theorem Remembers.isDuplicate_of_not_mem {d : DedupFilter} {max : Nat} {fresh : List Bytes}
    (remembers : d.Remembers max fresh) (positive : 0 < max) {hash : Bytes}
    (absent : hash ∉ recent max fresh) :
    (d.isDuplicate hash).1 = false ∧ (d.isDuplicate hash).2.Remembers max (fresh ++ [hash]) := by
  obtain ⟨sameMax, seen⟩ := remembers
  have fresh' : hash ∉ d.seen := by rw [seen, List.mem_reverse]; exact absent
  have bounded : (recent max fresh).length ≤ max := by
    have := Nat.mod_lt (fresh.length - 1) positive
    rw [recent_length]
    split <;> omega
  have called : d.isDuplicate hash = (false,
      { d with seen := hash :: if (d.seen.length : Int) ≥ d.max then [] else d.seen }) := by
    rw [isDuplicate, if_neg fresh']
  rw [called]
  refine ⟨rfl, sameMax, ?_⟩
  -- The map is cleared exactly when it holds the whole block.
  show hash :: (if (d.seen.length : Int) ≥ d.max then [] else d.seen) = _
  rw [recent_append max positive, seen, sameMax, List.length_reverse]
  by_cases full : (recent max fresh).length = max
  · rw [if_pos (by omega), if_pos full]
    rfl
  · rw [if_neg (by omega), if_neg full, List.reverse_append]
    rfl

/-- A new hash clears the map first exactly when the block it would join is full, that is when
some block of `max` hashes has already been recorded and no hash since. -/
theorem Remembers.clears_iff {d : DedupFilter} {max : Nat} {fresh : List Bytes}
    (remembers : d.Remembers max fresh) (positive : 0 < max) (hash : Bytes) :
    d.clears hash = true ↔ hash ∉ recent max fresh ∧ 1 ≤ fresh.length ∧ fresh.length % max = 0 := by
  obtain ⟨sameMax, seen⟩ := remembers
  have wrap := succ_mod_eq (fresh.length - 1) max positive
  have := Nat.mod_lt (fresh.length - 1) positive
  have full : (d.seen.length : Int) ≥ d.max ↔ 1 ≤ fresh.length ∧ fresh.length % max = 0 := by
    rw [seen, sameMax, List.length_reverse, recent_length]
    split
    · omega
    · rw [Nat.sub_add_cancel (by omega)] at wrap
      split at wrap <;> omega
  rw [clears, decide_eq_true_iff, seen, List.mem_reverse, ← seen, full]

/-- One call of `IsDuplicate` in a run of them: the filter after it, and the hashes recorded so
far with this one added when the call returned false. -/
def recordOne (run : DedupFilter × List Bytes) (hash : Bytes) : DedupFilter × List Bytes :=
  let answer := run.1.isDuplicate hash
  (answer.2, if answer.1 then run.2 else run.2 ++ [hash])

/-- `IsDuplicate` called on `hashes` in turn from `d`: the filter after the calls, and the
hashes of the calls that returned false, oldest first. -/
def record (d : DedupFilter) (hashes : List Bytes) : DedupFilter × List Bytes :=
  hashes.foldl recordOne (d, [])

/-- From a new filter, every run of calls leaves the map holding the current block of the hashes
it recorded, all of them hashes it was called with. -/
theorem record_remembers {max : Nat} (positive : 0 < max) (earlier : List Bytes) :
    (record (new max) earlier).1.Remembers max (record (new max) earlier).2 ∧
      (record (new max) earlier).2.Sublist earlier := by
  induction earlier using List.reverseRecOn with
  | nil => exact ⟨⟨rfl, rfl⟩, List.Sublist.slnil⟩
  | append_singleton earlier hash ih =>
    obtain ⟨remembers, sublist⟩ := ih
    rw [record, List.foldl_append, List.foldl_cons, List.foldl_nil, ← record, recordOne]
    by_cases member : hash ∈ recent max (record (new max) earlier).2
    · -- A duplicate changes neither the filter nor the record.
      simp only [remembers.isDuplicate_of_mem member, if_true]
      exact ⟨remembers, sublist.trans (List.sublist_append_left _ _)⟩
    · -- A new hash is recorded at the end.
      obtain ⟨answer, next⟩ := remembers.isDuplicate_of_not_mem positive member
      simp only [answer, Bool.false_eq_true, if_false]
      exact ⟨next, sublist.append_right _⟩

/-- The hash a call records is in the block right after it. -/
theorem mem_recent_append (max : Nat) (positive : 0 < max) (fresh : List Bytes) (hash : Bytes) :
    hash ∈ recent max (fresh ++ [hash]) := by
  rw [recent_append max positive]
  split <;> simp

/-- The dedup filter remembers exactly the current block of new hashes. For every `max ≥ 1` and
every sequence of calls before the next one, with `F` the number of them that returned false:
the map holds at most `max` hashes; `IsDuplicate(hash)` returns true exactly when `F ≥ 1` and
`hash` was the argument of one of the last `((F - 1) mod max) + 1` calls that returned false; it
clears the map exactly when it records the `(max + 1)`-th, `(2·max + 1)`-th, … new hash. In
particular it reports no hash that no earlier call passed, and a call right after the one that
recorded a hash reports it. -/
theorem isDuplicate_current_block (maxEntries : Int) (atLeastOne : 1 ≤ maxEntries)
    (earlier : List Bytes) (hash : Bytes) :
    let run := (new maxEntries).record earlier
    let F := run.2.length
    (run.1.seen.length : Int) ≤ maxEntries ∧
      ((run.1.isDuplicate hash).1 = true ↔
        1 ≤ F ∧ hash ∈ run.2.drop (F - ((F - 1) % maxEntries.toNat + 1))) ∧
      (run.1.clears hash = true ↔
        (run.1.isDuplicate hash).1 = false ∧ 1 ≤ F ∧ F % maxEntries.toNat = 0) ∧
      ((run.1.isDuplicate hash).1 = true → hash ∈ earlier) ∧
      ((run.1.isDuplicate hash).1 = false → ((run.1.isDuplicate hash).2.isDuplicate hash).1 = true) := by
  obtain ⟨max, rfl⟩ := Int.eq_ofNat_of_zero_le (by omega : (0 : Int) ≤ maxEntries)
  have positive : 0 < max := by omega
  intro run F
  rw [Int.toNat_natCast]
  have remembers : run.1.Remembers max run.2 := (record_remembers positive earlier).1
  -- The call's answer is whether the hash is in the current block.
  have answer : (run.1.isDuplicate hash).1 = true ↔ hash ∈ recent max run.2 := by
    by_cases member : hash ∈ recent max run.2
    · simp [remembers.isDuplicate_of_mem member, member]
    · simp [(remembers.isDuplicate_of_not_mem positive member).1, member]
  have inBlock : hash ∈ recent max run.2 ↔ 1 ≤ F ∧ hash ∈ run.2.drop (F - ((F - 1) % max + 1)) :=
    ⟨fun member => ⟨List.length_pos_of_mem (List.mem_of_mem_drop member), member⟩, And.right⟩
  refine ⟨?_, answer.trans inBlock, ?_, ?_, ?_⟩
  · -- The block never outgrows `max`.
    have := Nat.mod_lt (run.2.length - 1) positive
    rw [remembers.2, List.length_reverse, recent_length]
    split <;> omega
  · rw [remembers.clears_iff positive, ← answer, Bool.not_eq_true]
  · exact fun duplicate => (record_remembers positive earlier).2.subset
      (List.mem_of_mem_drop (answer.mp duplicate))
  · -- The call recorded the hash, so the next call finds it in the block.
    intro recorded
    have absent : hash ∉ recent max run.2 := fun member => by simp_all
    exact ((remembers.isDuplicate_of_not_mem positive absent).2.isDuplicate_of_mem
      (mem_recent_append max positive run.2 hash)).symm ▸ rfl

/-- `isDuplicate_current_block` with room for two hashes, after three new ones, asked about the
first: the third started a new block, so the first is no longer remembered. -/
theorem isDuplicate_current_block_two_entries :
    (1 : Int) ≤ 2 ∧
      let run := (new 2).record [[1], [2], [3]]
      let F := run.2.length
      (run.1.seen.length : Int) ≤ 2 ∧
        ((run.1.isDuplicate [1]).1 = true ↔
          1 ≤ F ∧ [1] ∈ run.2.drop (F - ((F - 1) % (2 : Int).toNat + 1))) ∧
        (run.1.clears [1] = true ↔
          (run.1.isDuplicate [1]).1 = false ∧ 1 ≤ F ∧ F % (2 : Int).toNat = 0) ∧
        ((run.1.isDuplicate [1]).1 = true → ([1] : Bytes) ∈ ([[1], [2], [3]] : List Bytes)) ∧
        ((run.1.isDuplicate [1]).1 = false → ((run.1.isDuplicate [1]).2.isDuplicate [1]).1 = true) :=
  ⟨by decide, isDuplicate_current_block 2 (by decide) [[1], [2], [3]] [1]⟩

/-- Room for two hashes: after three new ones the first is forgotten and the third remembered. -/
example : (((new 2).record [[1], [2], [3]]).1.isDuplicate [1]).1 = false ∧
    (((new 2).record [[1], [2], [3]]).1.isDuplicate [3]).1 = true := by
  decide

end DedupFilter

end MeshRelay
