import MeshRelay.Pow.ProofOfWork
import Mathlib.Data.List.GetD

/-! The router's two stores: the store-and-forward ring buffer and the dedup filter. -/

namespace MeshRelay

/-! ### The ring buffer -/

/-- `PacketBuffer`: `size` slots, `head` the next slot `Add` writes and `count` the slots in use;
a slot no `Add` wrote is nil. The fields' bounds are those `NewPacketBuffer` sets up and `Add`
keeps, so every index the code computes is in range. -/
structure PacketBuffer where
  packets : List (Option Bytes)
  size : Nat
  head : Nat
  count : Nat
  packets_length : packets.length = size
  head_lt : head < size
  count_le : count ≤ size

namespace PacketBuffer

/-- `NewPacketBuffer(size)`: `size` nil slots. -/
def new (size : Nat) (positive : 0 < size) : PacketBuffer :=
  ⟨List.replicate size none, size, 0, 0, List.length_replicate size none, positive, Nat.zero_le _⟩

/-- `Add(data)`: store a copy in the head slot, advance `head` around the ring, and count the
slot until the ring is full. -/
def add (pb : PacketBuffer) (data : Bytes) : PacketBuffer where
  packets := pb.packets.set pb.head (some data)
  size := pb.size
  head := (pb.head + 1) % pb.size
  count := if pb.count < pb.size then pb.count + 1 else pb.count
  packets_length := by rw [List.length_set, pb.packets_length]
  head_lt := Nat.mod_lt _ (Nat.lt_of_le_of_lt (Nat.zero_le _) pb.head_lt)
  count_le := by
    have := pb.count_le
    split <;> omega

/-- `Add` keeps the number of slots. -/
@[simp] theorem add_size (pb : PacketBuffer) (data : Bytes) : (pb.add data).size = pb.size := rfl

/-- `GetAll()`: the `count` slots before `head`, oldest first, skipping nil slots. -/
def getAll (pb : PacketBuffer) : List Bytes :=
  let start : Int := pb.head - pb.count
  let start := if start < 0 then start + pb.size else start
  (List.range pb.count).filterMap fun i : Nat => pb.packets.getD ((start + i) % pb.size).toNat none

/-- The ring holds `stored`, oldest first, and has not wrapped: they fill the first slots, the
others are nil, and `head` and `count` follow them. -/
def Holds (pb : PacketBuffer) (stored : List Bytes) : Prop :=
  pb.packets = stored.map some ++ List.replicate (pb.size - stored.length) none ∧
    pb.count = stored.length ∧ pb.head = stored.length % pb.size

/-- A new ring holds nothing. -/
theorem new_holds (size : Nat) (positive : 0 < size) : (new size positive).Holds [] :=
  ⟨by simp [new], rfl, (Nat.zero_mod _).symm⟩

/-- `Add` into a slot not yet used stores the packet after the others. -/
theorem Holds.add {pb : PacketBuffer} {stored : List Bytes} (holds : pb.Holds stored)
    (room : stored.length < pb.size) (data : Bytes) : (pb.add data).Holds (stored ++ [data]) := by
  obtain ⟨packets, count, head⟩ := holds
  obtain ⟨rest, free⟩ : ∃ rest, pb.size - stored.length = rest + 1 := ⟨_, (Nat.succ_pred_eq_of_pos (by omega)).symm⟩
  refine ⟨?_, ?_, ?_⟩
  · -- The head slot is the first nil one.
    show pb.packets.set pb.head (some data) = _
    rw [packets, head, Nat.mod_eq_of_lt room, List.set_append_right _ _ (by simp), free]
    simp only [List.length_map, Nat.sub_self, List.replicate_succ, List.set_cons_zero, List.map_append,
      List.map_cons, List.map_nil, List.append_assoc, List.singleton_append, List.length_append,
      List.length_singleton, add_size]
    congr 3
    omega
  · show (if pb.count < pb.size then pb.count + 1 else pb.count) = _
    rw [count, if_pos room, List.length_append, List.length_singleton]
  · show (pb.head + 1) % pb.size = _
    rw [head, Nat.mod_eq_of_lt room, List.length_append, List.length_singleton]
    rfl

/-- Before it wraps, `GetAll` returns what the ring holds, oldest first. -/
theorem Holds.getAll {pb : PacketBuffer} {stored : List Bytes} (holds : pb.Holds stored) :
    pb.getAll = stored := by
  obtain ⟨packets, count, head⟩ := holds
  have fits : stored.length ≤ pb.size := by
    have length := pb.packets_length
    rw [packets, List.length_append, List.length_map, List.length_replicate] at length
    omega
  -- The oldest slot is the first: `head - count` is 0, or `-size` once every slot is used.
  have start : (if (pb.head : Int) - pb.count < 0 then (pb.head : Int) - pb.count + pb.size
      else (pb.head : Int) - pb.count) = 0 := by
    rw [head, count]
    rcases Nat.lt_or_ge stored.length pb.size with below | full
    · rw [Nat.mod_eq_of_lt below]
      simp
    · rw [Nat.le_antisymm fits full, Nat.mod_self]
      have := pb.head_lt
      split_ifs <;> omega
  simp only [PacketBuffer.getAll]
  rw [start, count]
  -- Slot `i` of the first `count` holds the `i`th packet stored.
  rw [@List.filterMap_eq_map_iff_forall_eq_some _ _ _ (fun i => stored.getD i []) _ |>.mpr ?slots]
  · refine List.ext_getElem (by simp) fun i inMap inStored => ?_
    simp [List.getElem?_eq_getElem inStored]
  · intro i member
    have below := List.mem_range.mp member
    have index : ((i : Int) % pb.size).toNat = i := by
      rw [Int.emod_eq_of_lt (by omega) (by omega)]
      rfl
    rw [Int.zero_add, index, packets, List.getD_append _ _ _ _ (by simpa using below)]
    simp [List.getElem?_eq_getElem below]

end PacketBuffer

/-! ### The dedup filter -/

/-- `PacketHash(data)`: the first 8 bytes of the packet's SHA-256. -/
def packetHash (sha : Sha256) (data : Bytes) : Bytes :=
  (sha.sum256 data).take 8

/-- `DedupFilter`: the hashes its map holds, and `max`. -/
structure DedupFilter where
  seen : List Bytes
  max : Int

namespace DedupFilter

/-- `NewDedupFilter(maxEntries)`: an empty map. -/
def new (maxEntries : Int) : DedupFilter :=
  ⟨[], maxEntries⟩

/-- Whether recording `hash` clears the map first: it is new and the map holds `max` hashes. -/
def clears (d : DedupFilter) (hash : Bytes) : Bool :=
  hash ∉ d.seen ∧ (d.seen.length : Int) ≥ d.max

/-- `IsDuplicate(hash)`: `true` for a hash in the map; otherwise `false`, with the hash recorded
in the map, which is cleared first when it holds `max` hashes. -/
def isDuplicate (d : DedupFilter) (hash : Bytes) : Bool × DedupFilter :=
  if hash ∈ d.seen then (true, d)
  else
    let seen := if (d.seen.length : Int) ≥ d.max then [] else d.seen
    (false, { d with seen := hash :: seen })

/-- A hash not in the map is new; the map then holds it and at most the hashes it held. -/
theorem isDuplicate_of_not_mem {d : DedupFilter} {hash : Bytes} (fresh : hash ∉ d.seen) :
    (d.isDuplicate hash).1 = false ∧ (d.isDuplicate hash).2.seen ⊆ hash :: d.seen := by
  unfold isDuplicate
  rw [if_neg fresh]
  refine ⟨rfl, List.cons_subset_cons _ ?_⟩
  split_ifs
  · exact List.nil_subset _
  · exact List.Subset.refl _

end DedupFilter

end MeshRelay
