import MeshRelay.Router.Daemon
import Mathlib.Data.List.Dedup
import Mathlib.Algebra.BigOperators.Group.Finset

/-! Each packet is forwarded at most once: in every run without a dedup reset, at most one
routing call per packet hash passes the dedup check, and that call buffers, fans out and
mesh-sends its packet once. -/

namespace MeshRelay

/-! ### One call -/

/-- Whether a call has not yet taken the read lock. -/
def RouteStage.beforeLock : RouteStage → Bool
  | .checking | .duplicate | .buffering | .locking => true
  | _ => false

/-- What a single routing call keeps true of what it has done: its fan-out visits each client
once and skips the sender, only `RouteFromClient` reaches `mesh.Send`, which is the last thing a
call does, and nothing is sent before the read lock. -/
structure Route.Consistent (r : Route) : Prop where
  visits_nodup : (r.sentTo ++ r.stage.pending).Nodup
  sender_skipped : ∀ sender, r.origin = some sender → sender ∉ r.sentTo
  mesh_origin : r.origin = none → r.stage ≠ .meshSending ∧ r.meshSent = false
  sent_when_done : r.meshSent = true → r.stage = .done
  unsent_before_lock : r.stage.beforeLock = true → r.sentTo = []

/-- A call that has sent nothing and is not in the fan-out loop or at `mesh.Send` is
consistent. -/
theorem Route.consistent_of_unsent {r : Route} (unsent : r.sentTo = []) (unmeshed : r.meshSent = false)
    (idle : r.stage.pending = []) (notMesh : r.stage ≠ .meshSending) : r.Consistent :=
  ⟨by simp [unsent, idle], by simp [unsent], fun _ => ⟨notMesh, unmeshed⟩,
    fun sent => absurd (unmeshed ▸ sent) Bool.false_ne_true, fun _ => unsent⟩

/-- A call just made is consistent. -/
theorem Route.start_consistent (origin : Option ConnId) (data : Bytes) :
    (Route.start origin data).Consistent :=
  Route.consistent_of_unsent rfl rfl rfl (by simp [Route.start])

namespace Route.Consistent

variable {r : Route}

/-- A call mesh-sends only as its last section. -/
theorem unmeshed (consistent : r.Consistent) (notDone : r.stage ≠ .done) : r.meshSent = false := by
  cases sent : r.meshSent
  · rfl
  · exact absurd (consistent.sent_when_done sent) notDone

/-- `buffer.Add` keeps a call consistent. -/
theorem add (consistent : r.Consistent) (buffering : r.stage = .buffering) :
    { r with stage := .locking }.Consistent :=
  consistent_of_unsent (consistent.unsent_before_lock (by rw [buffering]; rfl))
    (consistent.unmeshed (by rw [buffering]; simp)) rfl (by simp)

/-- Taking the read lock over clients without repeats keeps a call consistent. -/
theorem lock (consistent : r.Consistent) (locking : r.stage = .locking) {order : List ConnId}
    (distinct : order.Nodup) : { r with stage := .fanningOut order }.Consistent := by
  have unsent := consistent.unsent_before_lock (by rw [locking]; rfl)
  have unmeshed := consistent.unmeshed (by rw [locking]; simp)
  exact ⟨by simpa [unsent, RouteStage.pending] using distinct, by simp [unsent],
    fun _ => ⟨by simp, unmeshed⟩, fun sent => absurd (unmeshed ▸ sent) Bool.false_ne_true,
    fun before => by cases before⟩

/-- Skipping the sender in the fan-out loop keeps a call consistent. -/
theorem skip (consistent : r.Consistent) {conn : ConnId} {rest : List ConnId}
    (fanning : r.stage = .fanningOut (conn :: rest)) :
    { r with stage := .fanningOut rest }.Consistent := by
  have visits := consistent.visits_nodup
  rw [fanning] at visits
  have unmeshed := consistent.unmeshed (by rw [fanning]; simp)
  exact ⟨(List.nodup_middle.mp visits).of_cons, consistent.sender_skipped,
    fun _ => ⟨by simp, unmeshed⟩, fun sent => absurd (unmeshed ▸ sent) Bool.false_ne_true,
    fun before => by cases before⟩

/-- Sending to a client other than the sender keeps a call consistent. -/
theorem visit (consistent : r.Consistent) {conn : ConnId} {rest : List ConnId}
    (fanning : r.stage = .fanningOut (conn :: rest)) (other : r.origin ≠ some conn) :
    { r with stage := .fanningOut rest, sentTo := r.sentTo ++ [conn] }.Consistent := by
  have visits := consistent.visits_nodup
  rw [fanning] at visits
  have unmeshed := consistent.unmeshed (by rw [fanning]; simp)
  refine ⟨by simpa [RouteStage.pending] using visits, fun sender origin listed => ?_,
    fun _ => ⟨by simp, unmeshed⟩, fun sent => absurd (unmeshed ▸ sent) Bool.false_ne_true,
    fun before => by cases before⟩
  rcases List.mem_append.mp listed with old | new
  · exact consistent.sender_skipped sender origin old
  · rw [List.mem_singleton.mp new] at origin
    exact other origin

/-- `RUnlock` keeps a call consistent: `RouteFromClient` goes on to `mesh.Send`, `RouteFromMesh`
returns. -/
theorem unlock (consistent : r.Consistent) (fanned : r.stage = .fanningOut []) :
    { r with stage := if r.origin.isSome then .meshSending else .done }.Consistent := by
  have visits := consistent.visits_nodup
  rw [fanned] at visits
  have unmeshed := consistent.unmeshed (by rw [fanned]; simp)
  -- Which section follows depends only on whether the call has a sender.
  cases origin : r.origin with
  | none =>
    exact ⟨by simpa [RouteStage.pending] using visits, fun _ listed => (by cases listed),
      fun _ => ⟨by simp, unmeshed⟩, fun sent => absurd (unmeshed ▸ sent) Bool.false_ne_true,
      fun before => by cases before⟩
  | some sender =>
    exact ⟨by simpa [RouteStage.pending] using visits, fun _ listed =>
      consistent.sender_skipped _ (origin.trans listed), fun none => (by cases none),
      fun sent => absurd (unmeshed ▸ sent) Bool.false_ne_true, fun before => by cases before⟩

/-- `mesh.Send` keeps a call consistent: only `RouteFromClient` gets there. -/
theorem meshSend (consistent : r.Consistent) (sending : r.stage = .meshSending) (sent : Bool) :
    { r with stage := .done, meshSent := sent }.Consistent := by
  have visits := consistent.visits_nodup
  rw [sending] at visits
  refine ⟨by simpa [RouteStage.pending] using visits, consistent.sender_skipped,
    fun none => absurd sending (consistent.mesh_origin none).1, fun _ => rfl,
    fun before => by cases before⟩

/-- A call that has not passed the dedup check has buffered, fanned out and mesh-sent nothing. -/
theorem idle (consistent : r.Consistent) (waiting : r.stage.passed = false) :
    r.sentTo = [] ∧ r.meshSent = false ∧ r.stage.buffered = false := by
  -- Only `checking` and `duplicate` have not passed.
  have early : r.stage.beforeLock = true ∧ r.stage ≠ .done ∧ r.stage.buffered = false := by
    cases stage : r.stage <;> rw [stage] at waiting <;>
      first | exact ⟨rfl, by simp, rfl⟩ | cases waiting
  exact ⟨consistent.unsent_before_lock early.1, consistent.unmeshed early.2.1, early.2.2⟩

end Route.Consistent

/-! ### The routing part of the state -/

/-- The fields of the daemon that routing reads and writes. -/
structure Routing where
  clients : List ConnId
  calls : Nat
  routes : Nat → Route
  dedup : DedupFilter
  resets : Nat

/-- The routing part of a daemon state. -/
def Daemon.routing (s : Daemon) : Routing :=
  ⟨s.clients, s.calls, s.routes, s.dedup, s.resets⟩

namespace Routing

/-- Routing with call `call` replaced. -/
def setRoute (R : Routing) (call : Nat) (route : Route) : Routing :=
  { R with routes := Function.update R.routes call route }

/-- Routing after a new call. -/
def start (R : Routing) (route : Route) : Routing :=
  { R with routes := Function.update R.routes R.calls route, calls := R.calls + 1 }

/-- The packet hashes of every call made, in call order. -/
def hashes (sha : Sha256) (R : Routing) : List Bytes :=
  (List.range R.calls).map fun i => packetHash sha (R.routes i).data

/-- What routing keeps true in every reachable state: the client set has no repeats, each call
is consistent, the dedup map holds distinct hashes of calls made, a reset happened only once
more distinct hashes than `max` arrived, and as long as none happened, every call that passed
has its hash recorded and no two calls that passed share a hash. -/
structure Inv (setting : Setting) (R : Routing) : Prop where
  clients_nodup : R.clients.Nodup
  consistent : ∀ i < R.calls, (R.routes i).Consistent
  dedup_max : R.dedup.max = setting.cfg.dedupMaxEntries
  seen_nodup : R.dedup.seen.Nodup
  seen_hashed : ∀ hash ∈ R.dedup.seen, hash ∈ R.hashes setting.sha
  crowded_if_reset : 0 < R.resets → R.dedup.max < (R.hashes setting.sha).dedup.length
  passed_seen : R.resets = 0 → ∀ i < R.calls, (R.routes i).stage.passed = true →
    packetHash setting.sha (R.routes i).data ∈ R.dedup.seen
  passed_unique : R.resets = 0 → ∀ i < R.calls, ∀ j < R.calls,
    (R.routes i).stage.passed = true → (R.routes j).stage.passed = true →
      packetHash setting.sha (R.routes i).data = packetHash setting.sha (R.routes j).data → i = j

/-- How many times the calls made so far for packets with hash `hash` did what `times` counts
for one call. -/
def timesFor (setting : Setting) (R : Routing) (hash : Bytes) (times : Route → Nat) : Nat :=
  ∑ i in Finset.range R.calls,
    if packetHash setting.sha (R.routes i).data = hash then times (R.routes i) else 0

/-- Replacing a call by one with the same packet leaves the hashes as they were. -/
theorem hashes_setRoute (sha : Sha256) (R : Routing) {call : Nat} {route : Route}
    (same : route.data = (R.routes call).data) : (R.setRoute call route).hashes sha = R.hashes sha := by
  simp only [hashes, setRoute]
  refine List.map_congr_left fun j _ => ?_
  by_cases here : j = call
  · subst here
    simp [same]
  · simp [Function.update_noteq here]

/-- A new call appends its hash. -/
theorem hashes_start (sha : Sha256) (R : Routing) (route : Route) :
    (R.start route).hashes sha = R.hashes sha ++ [packetHash sha route.data] := by
  simp only [hashes, start, List.range_succ, List.map_append, List.map_singleton,
    Function.update_same]
  congr 1
  refine List.map_congr_left fun j member => ?_
  rw [Function.update_noteq (List.mem_range.mp member).ne]

/-- Appending hashes never lowers the number of distinct ones. -/
theorem dedup_length_le_append (hashes more : List Bytes) :
    hashes.dedup.length ≤ (hashes ++ more).dedup.length :=
  (List.subperm_of_subset (List.nodup_dedup _)
    fun _ member => List.mem_dedup.mpr (List.mem_append_left _ (List.mem_dedup.mp member))).length_le

/-- A new call adds one to the calls. -/
@[simp] theorem start_calls (R : Routing) (route : Route) : (R.start route).calls = R.calls + 1 := rfl

/-- The new call is the route it was started with. -/
theorem start_routes_self (R : Routing) (route : Route) : (R.start route).routes R.calls = route :=
  Function.update_same _ _ _

/-- A new call leaves the earlier ones. -/
theorem start_routes_of_lt (R : Routing) (route : Route) {call : Nat} (lt : call < R.calls) :
    (R.start route).routes call = R.routes call :=
  Function.update_noteq lt.ne _ _

/-- The replaced call reads back. -/
theorem setRoute_routes_self (R : Routing) (call : Nat) (route : Route) :
    (R.setRoute call route).routes call = route :=
  Function.update_same _ _ _

/-- Replacing one call leaves the others. -/
theorem setRoute_routes_of_ne (R : Routing) {call other : Nat} (route : Route) (ne : other ≠ call) :
    (R.setRoute call route).routes other = R.routes other :=
  Function.update_noteq ne _ _

/-! ### Each kind of change keeps the invariant -/

variable {setting : Setting} {R : Routing}

/-- `AddClient`'s insertion keeps the invariant. -/
theorem Inv.insert (inv : R.Inv setting) (conn : ConnId) :
    Inv setting { R with clients := R.clients.insert conn } :=
  { inv with clients_nodup := inv.clients_nodup.insert }

/-- `RemoveClient`'s deletion keeps the invariant. -/
theorem Inv.erase (inv : R.Inv setting) (conn : ConnId) :
    Inv setting { R with clients := R.clients.erase conn } :=
  { inv with clients_nodup := inv.clients_nodup.erase conn }

/-- A new call keeps the invariant: it has done nothing yet. -/
theorem Inv.start (inv : R.Inv setting) (origin : Option ConnId) (data : Bytes) :
    (R.start (Route.start origin data)).Inv setting := by
  -- The old calls keep their indices; the new one has not passed.
  have cases : ∀ i < (R.start (Route.start origin data)).calls,
      (i < R.calls ∧ (R.start (Route.start origin data)).routes i = R.routes i) ∨
        (R.start (Route.start origin data)).routes i = Route.start origin data := by
    intro i lt
    rcases Nat.lt_succ_iff_lt_or_eq.mp lt with old | rfl
    · exact .inl ⟨old, start_routes_of_lt _ _ old⟩
    · exact .inr (start_routes_self _ _)
  have passedOld : ∀ i < (R.start (Route.start origin data)).calls,
      ((R.start (Route.start origin data)).routes i).stage.passed = true →
        i < R.calls ∧ (R.start (Route.start origin data)).routes i = R.routes i := by
    intro i lt passed
    rcases cases i lt with old | fresh
    · exact old
    · rw [fresh] at passed
      cases passed
  have grown : R.hashes setting.sha ⊆ (R.start (Route.start origin data)).hashes setting.sha := by
    rw [hashes_start]
    exact List.subset_append_left _ _
  refine ⟨inv.clients_nodup, fun i lt => ?_, inv.dedup_max, inv.seen_nodup,
    fun hash member => grown (inv.seen_hashed hash member), fun positive => ?_,
    fun noReset i lt passed => ?_, fun noReset i ilt j jlt ipassed jpassed same => ?_⟩
  · rcases cases i lt with ⟨old, eq⟩ | eq <;> rw [eq]
    · exact inv.consistent i old
    · exact Route.start_consistent origin data
  · rw [hashes_start]
    exact lt_of_lt_of_le (inv.crowded_if_reset positive) (by exact_mod_cast dedup_length_le_append _ _)
  · obtain ⟨old, eq⟩ := passedOld i lt passed
    rw [eq] at passed ⊢
    exact inv.passed_seen noReset i old passed
  · obtain ⟨iold, ieq⟩ := passedOld i ilt ipassed
    obtain ⟨jold, jeq⟩ := passedOld j jlt jpassed
    rw [ieq, jeq] at same
    rw [ieq] at ipassed
    rw [jeq] at jpassed
    exact inv.passed_unique noReset i iold j jold ipassed jpassed same

/-- A section of a call that leaves it consistent, with its packet, and passed only if it had
passed before, keeps the invariant. -/
theorem Inv.setRoute (inv : R.Inv setting) {call : Nat} {route : Route}
    (same : route.data = (R.routes call).data)
    (keeps : route.stage.passed = true → (R.routes call).stage.passed = true)
    (consistent : route.Consistent) :
    (R.setRoute call route).Inv setting := by
  -- Every other call is untouched, and this one keeps its hash and its pass.
  have cases : ∀ i, ((R.setRoute call route).routes i = R.routes i) ∨
      (i = call ∧ (R.setRoute call route).routes i = route) := by
    intro i
    by_cases here : i = call
    · exact .inr ⟨here, here ▸ setRoute_routes_self _ _ _⟩
    · exact .inl (setRoute_routes_of_ne _ _ here)
  have hashes := hashes_setRoute setting.sha R same
  refine ⟨inv.clients_nodup, fun i lt => ?_, inv.dedup_max, inv.seen_nodup, ?_, ?_,
    fun noReset i lt passed => ?_, fun noReset i ilt j jlt ipassed jpassed sameHash => ?_⟩
  · rcases cases i with eq | ⟨_, eq⟩ <;> rw [eq]
    · exact inv.consistent i lt
    · exact consistent
  · rw [hashes]
    exact inv.seen_hashed
  · rw [hashes]
    exact inv.crowded_if_reset
  · rcases cases i with eq | ⟨rfl, eq⟩ <;> rw [eq] at passed ⊢
    · exact inv.passed_seen noReset i lt passed
    · rw [same]
      exact inv.passed_seen noReset i lt (keeps passed)
  · have lift : ∀ k, (R.setRoute call route).routes k = R.routes k ∨
        (k = call ∧ (R.setRoute call route).routes k = route) := cases
    have data : ∀ k, ((R.setRoute call route).routes k).data = (R.routes k).data := by
      intro k
      rcases lift k with eq | ⟨rfl, eq⟩ <;> rw [eq]
      exact same
    have passedOld : ∀ k, ((R.setRoute call route).routes k).stage.passed = true →
        (R.routes k).stage.passed = true := by
      intro k passed
      rcases lift k with eq | ⟨rfl, eq⟩
      · rwa [eq] at passed
      · rw [eq] at passed
        exact keeps passed
    rw [data, data] at sameHash
    exact inv.passed_unique noReset i ilt j jlt (passedOld i ipassed) (passedOld j jpassed) sameHash

/-- The dedup check of a waiting call keeps the invariant: a seen hash is refused; a new one is
recorded, after clearing the map only when it already holds `max` distinct hashes of calls. -/
theorem Inv.check (inv : R.Inv setting) {call : Nat} (lt : call < R.calls)
    (checking : (R.routes call).stage = .checking) {duplicate : Bool} {dedup : DedupFilter}
    (checked : R.dedup.isDuplicate (packetHash setting.sha (R.routes call).data) = (duplicate, dedup)) :
    Inv setting { R.setRoute call { R.routes call with
        stage := if duplicate then .duplicate else .buffering } with
      dedup := dedup,
      resets := if R.dedup.clears (packetHash setting.sha (R.routes call).data) then R.resets + 1
        else R.resets } := by
  -- The call has sent nothing, so either outcome leaves it consistent.
  have wasConsistent := inv.consistent call lt
  have unsent : (R.routes call).sentTo = [] :=
    wasConsistent.unsent_before_lock (by rw [checking]; rfl)
  have unmeshed : (R.routes call).meshSent = false := by
    cases sent : (R.routes call).meshSent
    · rfl
    · have done := wasConsistent.sent_when_done sent
      rw [checking] at done
      cases done
  have quiet : ∀ stage : RouteStage, stage.pending = [] → stage ≠ .meshSending →
      { R.routes call with stage := stage }.Consistent :=
    fun stage idle notMesh => Route.consistent_of_unsent unsent unmeshed idle notMesh
  unfold DedupFilter.isDuplicate at checked
  by_cases known : packetHash setting.sha (R.routes call).data ∈ R.dedup.seen
  · -- A seen hash: the call returns and nothing else changes.
    rw [if_pos known] at checked
    obtain ⟨rfl, rfl⟩ := Prod.mk.inj checked
    have kept : R.dedup.clears (packetHash setting.sha (R.routes call).data) = false := by
      simp [DedupFilter.clears, known]
    rw [kept]
    exact inv.setRoute rfl (fun passed => by cases passed)
      (quiet .duplicate rfl (by simp))
  · -- A new hash: recorded, the map cleared first when full.
    rw [if_neg known] at checked
    obtain ⟨rfl, rfl⟩ := Prod.mk.inj checked
    simp only [Bool.false_eq_true, if_false]
    have clears : R.dedup.clears (packetHash setting.sha (R.routes call).data) =
        decide ((R.dedup.seen.length : Int) ≥ R.dedup.max) := by
      simp [DedupFilter.clears, known]
    rw [clears]
    -- The call now counts as passed; every other call is as it was.
    have here := setRoute_routes_self R call { R.routes call with stage := .buffering }
    have there : ∀ i ≠ call, (R.setRoute call { R.routes call with stage := .buffering }).routes i =
        R.routes i := fun i ne => setRoute_routes_of_ne _ _ ne
    have consistent : ∀ i < R.calls,
        ((R.setRoute call { R.routes call with stage := .buffering }).routes i).Consistent := by
      intro i ilt
      by_cases at_call : i = call
      · rw [at_call, here]
        exact quiet .buffering rfl (by simp)
      · rw [there i at_call]
        exact inv.consistent i ilt
    have hashes : ∀ (dedup : DedupFilter) (resets : Nat), Routing.hashes setting.sha
        { R.setRoute call { R.routes call with stage := .buffering } with dedup, resets } =
          R.hashes setting.sha := fun _ _ =>
      hashes_setRoute setting.sha R
        (show ({ R.routes call with stage := .buffering } : Route).data = (R.routes call).data from rfl)
    have member : packetHash setting.sha (R.routes call).data ∈ R.hashes setting.sha :=
      List.mem_map.mpr ⟨call, List.mem_range.mpr lt, rfl⟩
    have recorded : ∀ i, ((R.setRoute call { R.routes call with stage := .buffering }).routes i).data =
        (R.routes i).data := by
      intro i
      by_cases at_call : i = call
      · rw [at_call, here]
      · rw [there i at_call]
    by_cases full : (R.dedup.seen.length : Int) ≥ R.dedup.max
    · -- A full map restarts from this hash, and the reset is counted.
      simp only [full, decide_True, if_true]
      refine ⟨inv.clients_nodup, consistent, inv.dedup_max, List.nodup_singleton _, ?_, ?_,
        fun reset => absurd reset (Nat.succ_ne_zero _), fun reset => absurd reset (Nat.succ_ne_zero _)⟩
      · intro hash listed
        rw [List.mem_singleton.mp listed, hashes]
        exact member
      · intro _
        -- The full map and the new hash are distinct hashes of calls made.
        have distinct : (packetHash setting.sha (R.routes call).data :: R.dedup.seen).length ≤
            (R.hashes setting.sha).dedup.length :=
          (List.subperm_of_subset (List.nodup_cons.mpr ⟨known, inv.seen_nodup⟩) fun hash listed =>
            List.mem_dedup.mpr (by
              rcases List.mem_cons.mp listed with rfl | old
              · exact member
              · exact inv.seen_hashed hash old)).length_le
        rw [hashes]
        simp only [List.length_cons] at distinct
        show R.dedup.max < _
        omega
    · -- Otherwise the hash joins the map.
      simp only [full, decide_False, Bool.false_eq_true, if_false]
      refine ⟨inv.clients_nodup, consistent, inv.dedup_max,
        List.nodup_cons.mpr ⟨known, inv.seen_nodup⟩, ?_, ?_, ?_, ?_⟩
      · intro hash listed
        rw [hashes]
        rcases List.mem_cons.mp listed with rfl | old
        · exact member
        · exact inv.seen_hashed hash old
      · rw [hashes]
        exact inv.crowded_if_reset
      · intro noReset i ilt passed
        rw [recorded]
        by_cases at_call : i = call
        · rw [at_call]
          exact List.mem_cons_self _ _
        · rw [there i at_call] at passed
          exact List.mem_cons_of_mem _ (inv.passed_seen noReset i ilt passed)
      · intro noReset i ilt j jlt ipassed jpassed same
        rw [recorded, recorded] at same
        -- A call passed before has its hash in the map, which the new hash is not.
        have fresh : ∀ k < R.calls, k ≠ call →
            ((R.setRoute call { R.routes call with stage := .buffering }).routes k).stage.passed = true →
              packetHash setting.sha (R.routes k).data ≠ packetHash setting.sha (R.routes call).data :=
          fun k klt ne passed same => known (same ▸ inv.passed_seen noReset k klt (there k ne ▸ passed))
        by_cases icall : i = call <;> by_cases jcall : j = call
        · rw [icall, jcall]
        · exact absurd (icall ▸ same).symm (fresh j jlt jcall jpassed)
        · exact absurd (jcall ▸ same) (fresh i ilt icall ipassed)
        · rw [there i icall] at ipassed
          rw [there j jcall] at jpassed
          exact inv.passed_unique noReset i ilt j jlt ipassed jpassed same

/-! ### What the calls for one hash did -/

/-- Without a reset, whatever the calls for a packet did, only the one that passed did it: the
others never got past the check. -/
theorem Inv.timesFor_eq (inv : R.Inv setting) (noReset : R.resets = 0) {times : Route → Nat}
    (idle : ∀ r : Route, r.Consistent → r.stage.passed = false → times r = 0)
    {i : Nat} (lt : i < R.calls) (passed : (R.routes i).stage.passed = true) :
    R.timesFor setting (packetHash setting.sha (R.routes i).data) times = times (R.routes i) := by
  rw [timesFor, Finset.sum_eq_single_of_mem i (Finset.mem_range.mpr lt), if_pos rfl]
  intro j member other
  split_ifs with same
  · cases passedToo : (R.routes j).stage.passed
    · exact idle _ (inv.consistent j (Finset.mem_range.mp member)) passedToo
    · exact absurd (inv.passed_unique noReset j (Finset.mem_range.mp member) i lt passedToo passed
        same) other
  · rfl

/-- Without a reset, the calls for a packet did at most what one consistent call can do. -/
theorem Inv.timesFor_le (inv : R.Inv setting) (noReset : R.resets = 0) {times : Route → Nat}
    (idle : ∀ r : Route, r.Consistent → r.stage.passed = false → times r = 0)
    {bound : Nat} (bounded : ∀ r : Route, r.Consistent → times r ≤ bound) (hash : Bytes) :
    R.timesFor setting hash times ≤ bound := by
  by_cases some : ∃ i < R.calls, (R.routes i).stage.passed = true ∧
      packetHash setting.sha (R.routes i).data = hash
  · -- The call that passed did it all.
    obtain ⟨i, lt, passed, rfl⟩ := some
    rw [inv.timesFor_eq noReset idle lt passed]
    exact bounded _ (inv.consistent i lt)
  · -- No call passed, so none did anything.
    refine (Finset.sum_eq_zero fun j member => ?_).trans_le (Nat.zero_le _)
    have lt := Finset.mem_range.mp member
    split_ifs with same
    · cases passed : (R.routes j).stage.passed
      · exact idle _ (inv.consistent j lt) passed
      · exact absurd ⟨j, lt, passed, same⟩ some
    · rfl

/-- As long as no more distinct hashes arrived than the map holds, it was never cleared. -/
theorem Inv.noReset (inv : R.Inv setting)
    (fewHashes : ((R.hashes setting.sha).dedup.length : Int) ≤ setting.cfg.dedupMaxEntries) :
    R.resets = 0 := by
  by_contra reset
  have crowded := inv.crowded_if_reset (Nat.pos_of_ne_zero reset)
  rw [inv.dedup_max] at crowded
  omega

end Routing

/-! ### Every step of the daemon keeps the invariant -/

namespace Daemon

variable {setting : Setting} {s next : Daemon}

/-- `Serve` changes no routing state. -/
theorem accept_routing (setting : Setting) (s : Daemon) : (s.accept setting).routing = s.routing := by
  unfold accept
  split <;> rfl

/-- A handshake changes the client set at most, by `AddClient`'s insertion. -/
theorem handshake_routing {conn : ConnId} {generated : Except String Bytes} {input : Bytes}
    (stepped : s.handshake setting conn generated input = some next) :
    next.routing = s.routing ∨ next.routing = { s.routing with clients := s.clients.insert conn } := by
  unfold handshake at stepped
  split at stepped
  · cases stepped
  · split at stepped
    · split at stepped
      · cases stepped
      · cases stepped
        exact .inr rfl
    · cases stepped
      exact .inl rfl

/-- The calls `RecvLoop` starts keep the invariant. -/
theorem startRoutes_inv (payloads : List Bytes) (s : Daemon) (inv : s.routing.Inv setting) :
    (payloads.foldl (fun state data => state.startRoute (Route.start none data)) s).routing.Inv
      setting := by
  induction payloads generalizing s with
  | nil => exact inv
  | cons data rest ih => exact ih _ (inv.start none data)

/-- A section of a routing call keeps the invariant. -/
theorem advance_routingInv (inv : s.routing.Inv setting) {call : Nat}
    (stepped : s.advance setting call = some next) : next.routing.Inv setting := by
  simp only [advance] at stepped
  split at stepped
  · cases stepped
  rename_i inRange
  have lt := Nat.lt_of_not_le inRange
  have consistent := inv.consistent call lt
  -- The call's stage before the step, as the invariant sees it.
  have was : ∀ stage, (s.routes call).stage = stage → stage.passed = true →
      (s.routing.routes call).stage.passed = true := fun _ eq passed => eq ▸ passed
  split at stepped
  · rename_i checking
    generalize checked : s.dedup.isDuplicate _ = outcome at stepped
    cases stepped
    exact inv.check lt checking checked
  · rename_i buffering
    cases stepped
    exact inv.setRoute rfl (fun _ => was _ buffering rfl) (consistent.add buffering)
  · rename_i conn rest fanning
    split at stepped
    · cases stepped
      exact inv.setRoute rfl (fun _ => was _ fanning rfl) (consistent.skip fanning)
    · rename_i sender
      cases stepped
      exact inv.setRoute rfl (fun _ => was _ fanning rfl) (consistent.visit fanning sender)
  · rename_i fanned
    cases stepped
    exact inv.setRoute rfl (fun _ => was _ fanned rfl) (consistent.unlock fanned)
  · rename_i sending
    cases stepped
    exact inv.setRoute rfl (fun _ => was _ sending rfl) (consistent.meshSend sending _)
  · cases stepped

/-- Every step of the daemon keeps the routing invariant. -/
theorem step_routingInv (inv : s.routing.Inv setting) {action : Action}
    (stepped : s.step setting action = some next) : next.routing.Inv setting := by
  cases action with
  | accept =>
    cases stepped
    rw [accept_routing]
    exact inv
  | handshake conn generated input =>
    rcases handshake_routing stepped with same | inserted
    · rw [same]
      exact inv
    · rw [inserted]
      exact inv.insert conn
  | getAll conn | startServing conn | ping conn | disconnect conn =>
    -- These change a connection, and no routing state.
    simp only [step, getAll, startServing, ping, disconnect] at stepped
    split_ifs at stepped
    cases stepped
    exact inv
  | replay conn =>
    simp only [step, replay] at stepped
    split at stepped
    · cases stepped
      exact inv
    · cases stepped
  | write conn | writeFail conn =>
    simp only [step, writeLoop] at stepped
    split at stepped
    · split_ifs at stepped <;> cases stepped <;> exact inv
    · cases stepped
  | clientData conn data =>
    simp only [step, clientData] at stepped
    split_ifs at stepped
    cases stepped
    exact inv.start (some conn) data
  | remove conn =>
    simp only [step, remove] at stepped
    split_ifs at stepped
    cases stepped
    exact inv.erase conn
  | meshDatagram datagram =>
    simp only [step, meshDatagram] at stepped
    split at stepped
    · cases stepped
    · cases stepped
      exact startRoutes_inv _ _ inv
  | readLock call order =>
    simp only [step, readLock] at stepped
    split_ifs at stepped with enabled
    obtain ⟨lt, locking, perm⟩ := enabled
    cases stepped
    exact inv.setRoute rfl (fun _ => show (s.routes call).stage.passed = true by rw [locking]; rfl)
      ((inv.consistent call lt).lock locking (perm.nodup_iff.mpr inv.clients_nodup))
  | advance call => exact advance_routingInv inv stepped

/-- Every run keeps the routing invariant. -/
theorem run_routingInv (inv : s.routing.Inv setting) :
    ∀ {actions : List Action}, run setting s actions = some next → next.routing.Inv setting := by
  intro actions
  induction actions generalizing s with
  | nil =>
    intro ran
    cases ran
    exact inv
  | cons action rest ih =>
    intro ran
    obtain ⟨middle, stepped, continued⟩ := Option.bind_eq_some.mp ran
    exact ih (step_routingInv inv stepped) continued

/-- The daemon starts with the invariant. -/
theorem init_routingInv (setting : Setting) (mesh : Option MeshLink) :
    (init setting mesh).routing.Inv setting :=
  ⟨List.nodup_nil, fun _ lt => absurd lt (Nat.not_lt_zero _), rfl, List.nodup_nil,
    fun _ member => (by cases member), fun positive => absurd positive (Nat.lt_irrefl 0),
    fun _ _ lt => absurd lt (Nat.not_lt_zero _), fun _ _ lt => absurd lt (Nat.not_lt_zero _)⟩

end Daemon

/-! ### Each packet is forwarded at most once -/

/-- The router forwards each packet at most once. In every reachable state in which no more
distinct packet hashes have been routed than `DedupMaxEntries`, so that the dedup map was never
cleared, the calls for one hash together pass the check, call `buffer.Add` and reach `mesh.Send`
at most once, and fan the packet out to each client at most once; the call that passed sends
nothing back to its sender, and nothing to the mesh when it came from the mesh. -/
theorem routes_forward_once (setting : Setting) (mesh : Option MeshLink) (s : Daemon)
    (reachable : s.Reachable setting mesh)
    (fewHashes : ((s.routing.hashes setting.sha).dedup.length : Int) ≤ setting.cfg.dedupMaxEntries)
    (hash : Bytes) :
    s.routing.timesFor setting hash (fun r => r.stage.passed.toNat) ≤ 1 ∧
    s.routing.timesFor setting hash (fun r => r.stage.buffered.toNat) ≤ 1 ∧
    s.routing.timesFor setting hash (fun r => r.meshSent.toNat) ≤ 1 ∧
    (∀ conn, s.routing.timesFor setting hash (fun r => r.sentTo.count conn) ≤ 1) ∧
    ∀ i < s.calls, packetHash setting.sha (s.routes i).data = hash →
      (s.routes i).stage.passed = true →
      (∀ sender, (s.routes i).origin = some sender →
        s.routing.timesFor setting hash (fun r => r.sentTo.count sender) = 0) ∧
      ((s.routes i).origin = none → s.routing.timesFor setting hash (fun r => r.meshSent.toNat) = 0) := by
  obtain ⟨actions, ran⟩ := reachable
  have inv := Daemon.run_routingInv (Daemon.init_routingInv setting mesh) ran
  have noReset := inv.noReset fewHashes
  -- What a call that has not passed did, for each of the four counts.
  have unsent : ∀ conn (r : Route), r.Consistent → r.stage.passed = false → r.sentTo.count conn = 0 :=
    fun conn _ consistent waiting => by rw [(consistent.idle waiting).1]; rfl
  have unmeshed : ∀ r : Route, r.Consistent → r.stage.passed = false → r.meshSent.toNat = 0 :=
    fun _ consistent waiting => by rw [(consistent.idle waiting).2.1]; rfl
  refine ⟨inv.timesFor_le noReset (fun _ _ waiting => by rw [waiting]; rfl)
      (fun _ _ => Bool.toNat_le _) hash,
    inv.timesFor_le noReset (fun _ consistent waiting => by rw [(consistent.idle waiting).2.2]; rfl)
      (fun _ _ => Bool.toNat_le _) hash,
    inv.timesFor_le noReset unmeshed (fun _ _ => Bool.toNat_le _) hash,
    fun conn => inv.timesFor_le noReset (unsent conn) (fun _ consistent => List.nodup_iff_count_le_one.mp
      (List.nodup_append.mp consistent.visits_nodup).1 conn) hash,
    fun i lt same passed => ⟨fun sender origin => ?_, fun origin => ?_⟩⟩
  · -- The sender is skipped by the one call that fanned out.
    rw [← same]
    exact (inv.timesFor_eq noReset (unsent sender) lt passed).trans
      (List.count_eq_zero_of_not_mem ((inv.consistent i lt).sender_skipped sender origin))
  · -- A call from the mesh never reaches `mesh.Send`.
    rw [← same]
    refine (inv.timesFor_eq noReset unmeshed lt passed).trans ?_
    rw [((inv.consistent i lt).mesh_origin origin).2]
    rfl

/-- Two clients on the stand-in relay both send the one-byte packet `[7]`: the first call passes,
buffers it and fans it out to the other client only, and the second stops at the dedup check. -/
theorem routes_forward_once_duplicate :
    let setting := Setting.standIn Sha256.truncate
    let input := writeFrame frameHello [0, 1, 0] ++ writeFrame frameSolution (List.replicate 8 0)
    let s := (Daemon.run setting (Daemon.init setting none) [.accept,
      .handshake 0 (.ok (List.replicate 32 0)) input, .getAll 0, .startServing 0, .accept,
      .handshake 1 (.ok (List.replicate 32 0)) input, .getAll 1, .startServing 1, .clientData 0 [7],
      .advance 0, .advance 0, .readLock 0 [0, 1], .advance 0, .advance 0, .advance 0, .advance 0,
      .clientData 1 [7], .advance 1]).getD (Daemon.init setting none)
    let hash := packetHash setting.sha [7]
    s.Reachable setting none ∧
    ((s.routing.hashes setting.sha).dedup.length : Int) ≤ setting.cfg.dedupMaxEntries ∧
    s.calls = 2 ∧ (s.routes 1).stage = .duplicate ∧
    s.routing.timesFor setting hash (fun r => r.stage.passed.toNat) ≤ 1 ∧
    s.routing.timesFor setting hash (fun r => r.stage.buffered.toNat) ≤ 1 ∧
    s.routing.timesFor setting hash (fun r => r.meshSent.toNat) ≤ 1 ∧
    (∀ conn, s.routing.timesFor setting hash (fun r => r.sentTo.count conn) ≤ 1) ∧
    ∀ i < s.calls, packetHash setting.sha (s.routes i).data = hash →
      (s.routes i).stage.passed = true →
      (∀ sender, (s.routes i).origin = some sender →
        s.routing.timesFor setting hash (fun r => r.sentTo.count sender) = 0) ∧
      ((s.routes i).origin = none → s.routing.timesFor setting hash (fun r => r.meshSent.toNat) = 0) := by
  intro setting input s hash
  -- the run is evaluated once for its end state and once for each fact about it
  have reachable : s.Reachable setting none :=
    ⟨_, (Option.getD_of_ne_none (Option.ne_none_iff_isSome.mpr (by decide)) _).symm⟩
  have few : ((s.routing.hashes setting.sha).dedup.length : Int) ≤ setting.cfg.dedupMaxEntries := by
    decide
  exact ⟨reachable, few, by decide, by decide, routes_forward_once setting none s reachable few hash⟩

end MeshRelay
