import Mathlib.Data.List.Sort
import Pop.Storage.Deal
import Pop.Supply.Types

/-!
# Miner selection (`Storage.LoadMiners`)

`LoadMiners` walks the addresses `ListMiners` gives and probes each miner: its chain info
(a missing one, or one without a peer ID, aborts the whole call), a direct connection and a
ping (a failure skips the miner; a cancelled context returns what was selected so far), and
its ask, kept when the price is within `MaxPrice` and the piece fits its size range. The
selection is then sorted by ping latency and cut to `RF + 2` miners.

The loop body is `visit` and the loop `probeLoop`. Each iteration asks the chain, the host
and the deal client again, so the loop reads a list of visits: each listed address with the
answers of its own iteration. `lats` is keyed by address and written at every answered ping,
so the sort key of a miner is the round trip of the last visit of its address (`lastRTT`),
not necessarily that of the visit that accepted it. Go's `sort.Slice` is not stable, so the
model takes the sort as a parameter `SortSlice` that carries only what Go promises: a
permutation sorted by the key. `probeLoop_append` and its siblings say where the loop stops;
`loadMiners_fastest` says the result is the `RF + 2` miners of lowest key among those that
pass the checks, whatever the sort; `loadMiners_panics_iff` and `loadMiners_error_iff` cover
the other exits.
-/

namespace Pop.Storage
open Pop.Supply (PeerID)
set_option autoImplicit false

/-! ## The data `LoadMiners` reads -/

/-- `address.Address`, compared by its string form (which `%v` prints). -/
structure Address where
  str : String
  deriving DecidableEq, Repr

/-- The fields of `storagemarket.StorageAsk` the storage module reads: the price
(`abi.TokenAmount`, a big integer) and the accepted padded piece sizes. -/
structure StorageAsk where
  price : Int
  minPieceSize : UInt64
  maxPieceSize : UInt64
  deriving DecidableEq, Repr

/-- The fields of `storagemarket.StorageProviderInfo` the storage module reads. -/
structure StorageProviderInfo where
  address : Address
  peerID : PeerID
  deriving DecidableEq, Repr

/-- The fields of the chain's miner info that `LoadMiners` reads (`PeerId` is a pointer). -/
structure MinerInfo where
  peerId : Option PeerID
  windowPoStProofType : Int
  deriving DecidableEq, Repr

/-- `Miner`. -/
structure Miner where
  ask : StorageAsk
  info : StorageProviderInfo
  windowPoStProofType : Int
  deriving DecidableEq, Repr

/-- `MinerSelectionParams`; `RF` is a Go `int`. -/
structure MinerSelectionParams where
  maxPrice : UInt64
  pieceSize : UInt64
  rf : BitVec 64
  deriving DecidableEq, Repr

/-- How the `select` on a miner's ping ends: its round trip, a ping error, or the context's
`Done` first, with `ctx.Err()`. -/
inductive PingOutcome where
  | rtt (d : Duration)
  | failed
  | cancelled (err : String)
  deriving DecidableEq, Repr

/-- The network's answers on one iteration of `LoadMiners`' loop: `StateMinerInfo`,
`host.Connect`, the ping and `client.GetAsk`. Each iteration asks again, so an address listed
twice can be answered differently each time. -/
structure Probe where
  minerInfo : Except String MinerInfo
  connects : Bool
  ping : PingOutcome
  ask : Except String StorageAsk

/-! ## The loop -/

/-- What one iteration of `LoadMiners`' loop does with an address. -/
inductive Visit where
  /-- `return nil, err`. -/
  | fail (err : String)
  /-- `return sel, ctx.Err()`. -/
  | cancel (err : String)
  /-- `continue` before a latency is recorded. -/
  | skip
  /-- `lats[a] = p.RTT`, then the miner is appended or skipped. -/
  | pinged (rtt : Duration) (miner : Option Miner)
  deriving DecidableEq, Repr

/-- The body of `LoadMiners`' loop for the address `a`, on the answers `p` of this iteration. -/
def visit (msp : MinerSelectionParams) (a : Address) (p : Probe) : Visit :=
  match p.minerInfo with
  | .error e => .fail e
  | .ok mi =>
    match mi.peerId with
    | none => .fail ("no peer id for miner " ++ a.str)
    | some pid =>
      if p.connects then
        match p.ping with
        | .failed => .skip
        | .cancelled err => .cancel err
        | .rtt d =>
          .pinged d <|
            match p.ask with
            | .error _ => none
            | .ok ask =>
              if (msp.maxPrice.toNat : Int) < ask.price then none
              else if msp.pieceSize > ask.maxPieceSize || msp.pieceSize < ask.minPieceSize then none
              else some ⟨ask, ⟨a, pid⟩, mi.windowPoStProofType⟩
      else .skip

/-- Where `LoadMiners`' loop stops. -/
inductive ProbeEnd where
  | failed (err : String)
  | cancelled (sel : List Miner) (err : String)
  | done (sel : List Miner) (lats : Address → Option Duration)

/-- `LoadMiners`' loop over the listed addresses, each with the answers of its own iteration,
with the selection `sel` and the latency map `lats`. -/
def probeLoop (msp : MinerSelectionParams) :
    List Miner → (Address → Option Duration) → List (Address × Probe) → ProbeEnd
  | sel, lats, [] => .done sel lats
  | sel, lats, (a, p) :: visits =>
    match visit msp a p with
    | .fail err => .failed err
    | .cancel err => .cancelled sel err
    | .skip => probeLoop msp sel lats visits
    | .pinged d m =>
      probeLoop msp (sel ++ m.toList) (fun b => if b = a then some d else lats b) visits

/-! ## Sorting and cutting -/

/-- `sort.Slice` with a `less` that compares a key: Go promises only a permutation of the
input in which no element's key is below an earlier one's. -/
structure SortSlice (α : Type) where
  sort : (α → Int) → List α → List α
  perm : ∀ key xs, (sort key xs).Perm xs
  sorted : ∀ key xs, (sort key xs).Pairwise fun a b => key a ≤ key b

/-- One `sort.Slice` that keeps Go's promise: insertion sort on the key. -/
def insertionSortSlice (α : Type) : SortSlice α where
  sort key := List.insertionSort fun a b => key a ≤ key b
  perm _ := List.perm_insertionSort _
  sorted key xs :=
    have : IsTotal α fun a b => key a ≤ key b := ⟨fun a b => Int.le_total (key a) (key b)⟩
    have : IsTrans α fun a b => key a ≤ key b := ⟨fun _ _ _ => Int.le_trans⟩
    List.sorted_insertionSort _ xs

/-- The sort key of `LoadMiners`: `lats[m.Info.Address]`, zero when absent. -/
def latency (lats : Address → Option Duration) (m : Miner) : Int :=
  ((lats m.info.address).getD 0).toInt

/-- `l := msp.RF + 2` in `int`, then `sel[:l]` when the selection is longer; slicing at a
negative `l` panics (`none`). -/
def keepLowest (rf : BitVec 64) (sel : List Miner) : Option (List Miner) :=
  if ((sel.length : Int) > (rf + 2).toInt) then
    if (rf + 2).toInt < 0 then none else some (sel.take (rf + 2).toInt.toNat)
  else some sel

/-- `LoadMiners` on the answer of `ListMiners`, each listed address paired with the answers
of its own iteration: the returned slice and error, or `none` for a panic. -/
def loadMiners (srt : SortSlice Miner) (msp : MinerSelectionParams)
    (listed : List (Address × Probe) × Option String) : Option (List Miner × Option String) :=
  match listed with
  | (_, some err) => some ([], some err)
  | (visits, none) =>
    match probeLoop msp [] (fun _ => none) visits with
    | .failed err => some ([], some err)
    | .cancelled sel err => some (sel, some err)
    | .done sel lats => (keepLowest msp.rf (srt.sort (latency lats) sel)).map (·, none)

/-! ## Where the loop stops -/

/-- A visit the loop goes past: neither an abort nor a cancellation. -/
def Visit.passes : Visit → Bool
  | .fail _ | .cancel _ => false
  | _ => true

/-- The miner a visit appends. -/
def Visit.selected : Visit → Option Miner
  | .pinged _ m => m
  | _ => none

/-- The latency a visit records. -/
def Visit.rtt : Visit → Option Duration
  | .pinged d _ => some d
  | _ => none

/-- The round trips the loop records for `a` over `visits`, in order. -/
def rtts (msp : MinerSelectionParams) (visits : List (Address × Probe)) (a : Address) :
    List Duration :=
  visits.filterMap fun v => if v.1 = a then (visit msp v.1 v.2).rtt else none

/-- `lats[a]` once the loop has run over all of `visits`: the round trip of the last visit of
`a` whose ping answered, zero when none did. -/
def lastRTT (msp : MinerSelectionParams) (visits : List (Address × Probe)) (a : Address) : Int :=
  (((rtts msp visits a).getLast?).getD 0).toInt

/-- The miners the visits accept, in listing order. -/
def accepted (msp : MinerSelectionParams) (visits : List (Address × Probe)) : List Miner :=
  visits.filterMap fun v => (visit msp v.1 v.2).selected

section Loop

variable {msp : MinerSelectionParams}

theorem accepted_cons (a : Address) (p : Probe) (visits : List (Address × Probe)) :
    accepted msp ((a, p) :: visits) = (visit msp a p).selected.toList ++ accepted msp visits := by
  simp only [accepted, List.filterMap_cons]
  cases (visit msp a p).selected <;> rfl

theorem rtts_cons (a : Address) (p : Probe) (visits : List (Address × Probe)) (b : Address) :
    rtts msp ((a, p) :: visits) b =
      (if a = b then (visit msp a p).rtt else none).toList ++ rtts msp visits b := by
  simp only [rtts, List.filterMap_cons]
  split <;> rename_i h <;> rw [h] <;> rfl

theorem getLast?_cons_or {α : Type} (x : α) (l : List α) (o : Option α) :
    (x :: l).getLast?.or o = l.getLast?.or (some x) := by
  cases h : l.getLast? <;> simp [List.getLast?_cons, h]

/-- Past a prefix of visits that all pass, the loop has appended their accepted miners and
recorded, for each address, the round trip of its last answered ping. -/
theorem probeLoop_append (sel : List Miner) (lats : Address → Option Duration)
    (pre rest : List (Address × Probe)) (passes : ∀ v ∈ pre, (visit msp v.1 v.2).passes) :
    probeLoop msp sel lats (pre ++ rest) =
      probeLoop msp (sel ++ accepted msp pre) (fun b => (rtts msp pre b).getLast?.or (lats b))
        rest := by
  induction pre generalizing sel lats with
  | nil =>
    simp only [List.nil_append, accepted, List.filterMap_nil, List.append_nil]
    rfl
  | cons v pre ih =>
    obtain ⟨a, p⟩ := v
    have rest_pass := fun w hw => passes w (List.mem_cons_of_mem _ hw)
    have here := passes (a, p) (List.mem_cons_self _ _)
    rw [List.cons_append, probeLoop, accepted_cons]
    cases hv : visit msp a p with
    | fail err => simp [hv, Visit.passes] at here
    | cancel err => simp [hv, Visit.passes] at here
    | skip =>
      simp only [ih _ _ rest_pass, Visit.selected, Option.toList_none, List.nil_append]
      congr 2
      funext b
      rw [rtts_cons, hv]
      split <;> rfl
    | pinged d m =>
      simp only [ih _ _ rest_pass, Visit.selected, List.append_assoc]
      congr 2
      funext b
      rw [rtts_cons, hv]
      by_cases hb : b = a
      · subst hb
        simp only [if_true, Visit.rtt, Option.toList_some, List.singleton_append, getLast?_cons_or]
      · simp only [hb, Ne.symm hb, if_false, Option.toList_none, List.nil_append]

/-- What it takes for a visit to give a selected miner: every check of the loop body. -/
theorem selected_iff (a : Address) (p : Probe) (m : Miner) :
    (visit msp a p).selected = some m ↔
      ∃ mi pid d, p.minerInfo = .ok mi ∧ mi.peerId = some pid ∧
        p.connects = true ∧ p.ping = .rtt d ∧ p.ask = .ok m.ask ∧
        m.ask.price ≤ msp.maxPrice.toNat ∧ m.ask.minPieceSize ≤ msp.pieceSize ∧
        msp.pieceSize ≤ m.ask.maxPieceSize ∧ m.info = ⟨a, pid⟩ ∧
        m.windowPoStProofType = mi.windowPoStProofType := by
  unfold visit
  rcases p with ⟨_ | ⟨_ | pid, wpt⟩, connects, ping, ask⟩
  · simp only [Visit.selected, reduceCtorEq, false_and, exists_false, exists_const]
  · simp only [Visit.selected, reduceCtorEq, false_iff]
    rintro ⟨mi, pid, d, ⟨⟩, peer, -⟩
    exact Option.noConfusion peer
  cases connects
  · simp only [Visit.selected, reduceCtorEq, Bool.false_eq_true, ↓reduceIte, false_and, and_false,
      exists_false, exists_const]
  cases ping with
  | failed => simp only [Visit.selected, reduceCtorEq, ↓reduceIte, false_and, and_false,
      exists_false, exists_const]
  | cancelled err => simp only [Visit.selected, reduceCtorEq, ↓reduceIte, false_and, and_false,
      exists_false, exists_const]
  | rtt d =>
  cases ask with
  | error e => simp only [Visit.selected, reduceCtorEq, ↓reduceIte, false_and, and_false,
      exists_false, exists_const]
  | ok ask =>
  -- the price and size checks
  simp only [Visit.selected, ↓reduceIte, Except.ok.injEq, PingOutcome.rtt.injEq, true_and,
    exists_and_left, exists_and_right, exists_eq', exists_eq_left', Option.some.injEq]
  cases m
  simp only [Option.some.injEq, exists_eq_left', Miner.mk.injEq]
  split_ifs with price size
  · refine iff_of_false (by simp) ?_
    rintro ⟨rfl, price', -⟩
    exact absurd price' (Int.not_le.mpr price)
  · simp only [Bool.or_eq_true, decide_eq_true_eq] at size
    refine iff_of_false (by simp) ?_
    rintro ⟨rfl, -, lo, hi, -⟩
    rcases size with size | size
    · exact absurd hi (UInt64.not_le.mpr size)
    · exact absurd lo (UInt64.not_le.mpr size)
  · simp only [Bool.or_eq_true, decide_eq_true_eq, not_or] at size
    constructor
    · rintro ⟨⟩
      exact ⟨rfl, Int.not_lt.mp price, UInt64.not_lt.mp size.2, UInt64.not_lt.mp size.1, rfl, rfl⟩
    · rintro ⟨rfl, -, -, -, rfl, rfl⟩
      rfl

/-- The loop over visits that all pass ends with their accepted miners, and keys every miner
by the last round trip recorded for its address. -/
theorem probeLoop_of_passes {visits : List (Address × Probe)}
    (passes : ∀ v ∈ visits, (visit msp v.1 v.2).passes) :
    ∃ lats, probeLoop msp [] (fun _ => none) visits = .done (accepted msp visits) lats ∧
      ∀ m, latency lats m = lastRTT msp visits m.info.address := by
  have run := probeLoop_append [] (fun _ => none) visits [] passes
  rw [List.append_nil] at run
  refine ⟨_, run, fun m => ?_⟩
  simp only [latency, lastRTT, Option.or_none]

/-- At the first visit that does not pass, the loop aborts, or returns what it selected
before a cancelled ping. -/
theorem probeLoop_of_stop {pre post : List (Address × Probe)} {v : Address × Probe}
    (passes : ∀ w ∈ pre, (visit msp w.1 w.2).passes) (stop : (visit msp v.1 v.2).passes = false) :
    (∃ err, visit msp v.1 v.2 = .fail err ∧
      probeLoop msp [] (fun _ => none) (pre ++ v :: post) = .failed err) ∨
    (∃ err, visit msp v.1 v.2 = .cancel err ∧
      probeLoop msp [] (fun _ => none) (pre ++ v :: post) =
        .cancelled (accepted msp pre) err) := by
  rw [probeLoop_append [] _ pre (v :: post) passes, List.nil_append]
  obtain ⟨a, p⟩ := v
  cases hv : visit msp a p with
  | fail err => exact .inl ⟨err, rfl, by simp only [probeLoop, hv]⟩
  | cancel err => exact .inr ⟨err, rfl, by simp only [probeLoop, hv]⟩
  | skip => simp [hv, Visit.passes] at stop
  | pinged d m => simp [hv, Visit.passes] at stop

/-- Every list of visits either passes whole or stops at a first visit. -/
theorem passes_or_stop (visits : List (Address × Probe)) :
    (∀ v ∈ visits, (visit msp v.1 v.2).passes) ∨
      ∃ pre v post, visits = pre ++ v :: post ∧ (∀ w ∈ pre, (visit msp w.1 w.2).passes) ∧
        (visit msp v.1 v.2).passes = false := by
  induction visits with
  | nil => exact .inl fun _ h => absurd h (List.not_mem_nil _)
  | cons v visits ih =>
    cases pv : (visit msp v.1 v.2).passes
    · exact .inr ⟨[], v, visits, rfl, fun _ h => absurd h (List.not_mem_nil _), pv⟩
    · rcases ih with all | ⟨pre, w, post, rfl, before, stop⟩
      · exact .inl fun w hw => (List.mem_cons.mp hw).elim (· ▸ pv) (all w)
      · refine .inr ⟨v :: pre, w, post, rfl, fun u hu => ?_, stop⟩
        exact (List.mem_cons.mp hu).elim (· ▸ pv) (before u)

end Loop

/-! ## `LoadMiners` -/

theorem keepLowest_eq_none_iff (rf : BitVec 64) (sel : List Miner) :
    keepLowest rf sel = none ↔ (rf + 2).toInt < 0 := by
  unfold keepLowest
  split_ifs with longer negative
  · exact iff_of_true rfl negative
  · exact iff_of_false (by simp) negative
  · exact iff_of_false (by simp) (by omega)

theorem keepLowest_of_nonneg {rf : BitVec 64} (sel : List Miner) (nonneg : 0 ≤ (rf + 2).toInt) :
    keepLowest rf sel = some (sel.take (rf + 2).toInt.toNat) := by
  unfold keepLowest
  split_ifs with longer
  · omega
  · rfl
  · rw [List.take_of_length_le (by omega)]

section Load

variable (srt : SortSlice Miner) (msp : MinerSelectionParams)

/-- `LoadMiners` panics exactly when its loop runs to the end and `RF + 2` is negative as an
`int`: for an `RF` below `-2`, or one so large that adding two wraps around, whatever the
miners answer. -/
theorem loadMiners_panics_iff (visits : List (Address × Probe)) :
    loadMiners srt msp (visits, none) = none ↔
      (∀ v ∈ visits, (visit msp v.1 v.2).passes) ∧ (msp.rf + 2).toInt < 0 := by
  rcases @passes_or_stop msp visits with all | ⟨pre, v, post, rfl, before, stop⟩
  · obtain ⟨lats, run, -⟩ := probeLoop_of_passes all
    simp only [loadMiners, run, Option.map_eq_none', keepLowest_eq_none_iff]
    exact ⟨fun negative => ⟨all, negative⟩, And.right⟩
  · have later : ¬∀ w ∈ pre ++ v :: post, (visit msp w.1 w.2).passes := fun h =>
      absurd (h v (List.mem_append_right pre (List.mem_cons_self v post))) (by simp [stop])
    rcases @probeLoop_of_stop msp pre post v before stop with ⟨err, -, run⟩ | ⟨err, -, run⟩ <;>
      simp only [loadMiners, run, reduceCtorEq, later, false_and]

/-- A successful `LoadMiners` ran its loop to the end and cut the sorted selection at a
non-negative `RF + 2`. -/
theorem loadMiners_ok_eq {visits : List (Address × Probe)} {out : List Miner}
    (ok : loadMiners srt msp (visits, none) = some (out, none)) :
    0 ≤ (msp.rf + 2).toInt ∧ ∃ lats : Address → Option Duration,
      (∀ m, latency lats m = lastRTT msp visits m.info.address) ∧
      out = (srt.sort (latency lats) (accepted msp visits)).take (msp.rf + 2).toInt.toNat := by
  rcases @passes_or_stop msp visits with all | ⟨pre, v, post, rfl, before, stop⟩
  · obtain ⟨lats, run, keys⟩ := probeLoop_of_passes all
    simp only [loadMiners, run, Option.map_eq_some', Prod.mk.injEq, and_true] at ok
    obtain ⟨kept, cut, rfl⟩ := ok
    have nonneg : 0 ≤ (msp.rf + 2).toInt := by
      by_contra negative
      rw [(keepLowest_eq_none_iff _ _).mpr (by omega)] at cut
      exact Option.noConfusion cut
    rw [keepLowest_of_nonneg _ nonneg, Option.some.injEq] at cut
    exact ⟨nonneg, lats, keys, cut.symm⟩
  · rcases @probeLoop_of_stop msp pre post v before stop with ⟨err, -, run⟩ | ⟨err, -, run⟩ <;>
      simp only [loadMiners, run, Option.some.injEq, Prod.mk.injEq, reduceCtorEq, and_false] at ok

/-- An error from `LoadMiners` comes from the first visit that does not pass. -/
theorem loadMiners_error_split {visits : List (Address × Probe)} {sel : List Miner} {err : String}
    (result : loadMiners srt msp (visits, none) = some (sel, some err)) :
    ∃ pre v post, visits = pre ++ v :: post ∧ (∀ w ∈ pre, (visit msp w.1 w.2).passes) ∧
      (visit msp v.1 v.2 = .fail err ∧ sel = [] ∨
        visit msp v.1 v.2 = .cancel err ∧ sel = accepted msp pre) := by
  rcases @passes_or_stop msp visits with all | ⟨pre, v, post, rfl, before, stop⟩
  · obtain ⟨lats, run, -⟩ := probeLoop_of_passes all
    simp only [loadMiners, run, Option.map_eq_some', Prod.mk.injEq, reduceCtorEq, and_false,
      exists_false] at result
  · refine ⟨pre, v, post, rfl, before, ?_⟩
    rcases @probeLoop_of_stop msp pre post v before stop with ⟨err', visited, run⟩ | ⟨err', visited, run⟩ <;>
      simp only [loadMiners, run, Option.some.injEq, Prod.mk.injEq] at result <;>
      obtain ⟨rfl, rfl⟩ := result
    · exact .inl ⟨visited, rfl⟩
    · exact .inr ⟨visited, rfl⟩

/-- `LoadMiners` returns an error exactly at the first visit that does not pass: a missing
chain info or peer ID aborts with an empty slice, a cancelled ping returns the miners accepted
before it. -/
theorem loadMiners_error_iff (visits : List (Address × Probe)) (sel : List Miner) (err : String) :
    loadMiners srt msp (visits, none) = some (sel, some err) ↔
      ∃ pre v post, visits = pre ++ v :: post ∧ (∀ w ∈ pre, (visit msp w.1 w.2).passes) ∧
        (visit msp v.1 v.2 = .fail err ∧ sel = [] ∨
          visit msp v.1 v.2 = .cancel err ∧ sel = accepted msp pre) := by
  refine ⟨loadMiners_error_split srt msp, ?_⟩
  rintro ⟨pre, v, post, rfl, before, ⟨visited, rfl⟩ | ⟨visited, rfl⟩⟩ <;>
    rcases @probeLoop_of_stop msp pre post v before (by simp [visited, Visit.passes]) with
      ⟨err', visited', run⟩ | ⟨err', visited', run⟩ <;>
    simp only [visited, Visit.fail.injEq, Visit.cancel.injEq, reduceCtorEq] at visited' <;>
    simp only [loadMiners, run, visited']

/-- When `LoadMiners` succeeds it returns the `RF + 2` miners of lowest latency among those
that pass every check, whatever order `sort.Slice` picks among equal latencies: the latency
of a miner is the round trip of the last answered ping to its address, and no miner left out
has a lower one than a miner returned. -/
theorem loadMiners_fastest (visits : List (Address × Probe)) (out : List Miner)
    (ok : loadMiners srt msp (visits, none) = some (out, none)) :
    ∃ rest, (out ++ rest).Perm (accepted msp visits) ∧
      out.Pairwise (fun m m' => lastRTT msp visits m.info.address ≤ lastRTT msp visits m'.info.address) ∧
      (∀ m ∈ out, ∀ m' ∈ rest, lastRTT msp visits m.info.address ≤ lastRTT msp visits m'.info.address) ∧
      out.length = min (accepted msp visits).length (msp.rf + 2).toInt.toNat := by
  obtain ⟨-, lats, keys, rfl⟩ := loadMiners_ok_eq srt msp ok
  have perm := srt.perm (latency lats) (accepted msp visits)
  have by_key := (srt.sorted (latency lats) (accepted msp visits)).imp
    fun {m m'} (le : latency lats m ≤ latency lats m') => by rwa [keys m, keys m'] at le
  generalize srt.sort (latency lats) (accepted msp visits) = sorted at perm by_key
  rw [← List.take_append_drop (msp.rf + 2).toInt.toNat sorted, List.pairwise_append] at by_key
  refine ⟨sorted.drop (msp.rf + 2).toInt.toNat, by rwa [List.take_append_drop], by_key.1,
    by_key.2.2, ?_⟩
  rw [List.length_take, perm.length_eq, Nat.min_comm]

/-- Every miner `LoadMiners` returns, beside a cancellation too, was accepted on a visit. -/
theorem subset_accepted (listed : List (Address × Probe) × Option String) (out : List Miner)
    (e : Option String) (result : loadMiners srt msp listed = some (out, e)) :
    ∀ m ∈ out, m ∈ accepted msp listed.1 := by
  obtain ⟨visits, _ | err⟩ := listed
  · cases e with
    | none =>
      obtain ⟨-, lats, -, rfl⟩ := loadMiners_ok_eq srt msp result
      exact fun m hm => (srt.perm _ _).subset (List.mem_of_mem_take hm)
    | some err =>
      obtain ⟨pre, v, post, rfl, -, ⟨-, rfl⟩ | ⟨-, rfl⟩⟩ := loadMiners_error_split srt msp result
      · exact fun m hm => absurd hm (List.not_mem_nil m)
      · intro m hm
        rw [accepted, List.filterMap_append]
        exact List.mem_append_left _ hm
  · simp only [loadMiners, Option.some.injEq, Prod.mk.injEq] at result
    obtain ⟨rfl, -⟩ := result
    exact fun m hm => absurd hm (List.not_mem_nil m)

/-- Every miner `LoadMiners` returns, beside a cancellation too, was accepted on a visit of
its own address, whose answers passed every check: the chain info has its peer ID, the host
connected and the ping answered, and the ask is the miner's, within `MaxPrice`, with a size
range that holds the piece. -/
theorem loadMiners_fits (listed : List (Address × Probe) × Option String) (out : List Miner)
    (e : Option String) (result : loadMiners srt msp listed = some (out, e)) :
    ∀ m ∈ out, ∃ p, (m.info.address, p) ∈ listed.1 ∧ ∃ mi d, p.minerInfo = .ok mi ∧
      mi.peerId = some m.info.peerID ∧ p.connects = true ∧ p.ping = .rtt d ∧ p.ask = .ok m.ask ∧
      m.ask.price ≤ msp.maxPrice.toNat ∧ m.ask.minPieceSize ≤ msp.pieceSize ∧
      msp.pieceSize ≤ m.ask.maxPieceSize ∧ m.windowPoStProofType = mi.windowPoStProofType := by
  intro m hm
  obtain ⟨⟨a, p⟩, listed_a, selected⟩ :=
    List.mem_filterMap.mp (subset_accepted srt msp _ _ _ result m hm)
  obtain ⟨mi, pid, d, info, peer, connects, ping, ask, price, lo, hi, own, wpt⟩ :=
    (selected_iff a p m).mp selected
  simp only [own]
  exact ⟨p, listed_a, mi, d, info, peer, connects, ping, ask, price, lo, hi, wpt⟩

end Load

/-- The answers of one visit to `f01000`: its ping answers in 5 ns and its ask is 5. -/
def fastVisit : Probe := ⟨.ok ⟨some ⟨"P1"⟩, 8⟩, true, .rtt 5, .ok ⟨5, 256, 2048⟩⟩

/-- A later visit to `f01000`: a slower ping, and no ask. -/
def slowVisit : Probe := ⟨.ok ⟨some ⟨"P1"⟩, 8⟩, true, .rtt 50, .error "ask timed out"⟩

/-- A visit to `f02000`: its ping answers in 10 ns and its ask is 3. -/
def midVisit : Probe := ⟨.ok ⟨some ⟨"P2"⟩, 8⟩, true, .rtt 10, .ok ⟨3, 256, 2048⟩⟩

/-- `f01000` listed twice: accepted on its fast first visit, then pinged slower. -/
def revisited : List (Address × Probe) :=
  [(⟨"f01000"⟩, fastVisit), (⟨"f02000"⟩, midVisit), (⟨"f01000"⟩, slowVisit)]

/-- Of the two accepted miners only one is kept (`RF = -1`), and it is `f02000`: `f01000`,
accepted on the fastest ping of the run, is keyed by its later, slower one and cut. -/
theorem loadMiners_fastest_revisited :
    accepted ⟨10, 512, -1⟩ revisited =
      [⟨⟨5, 256, 2048⟩, ⟨⟨"f01000"⟩, ⟨"P1"⟩⟩, 8⟩, ⟨⟨3, 256, 2048⟩, ⟨⟨"f02000"⟩, ⟨"P2"⟩⟩, 8⟩] ∧
    loadMiners (insertionSortSlice Miner) ⟨10, 512, -1⟩ (revisited, none) =
      some ([⟨⟨3, 256, 2048⟩, ⟨⟨"f02000"⟩, ⟨"P2"⟩⟩, 8⟩], none) ∧
    ∃ rest, ([⟨⟨3, 256, 2048⟩, ⟨⟨"f02000"⟩, ⟨"P2"⟩⟩, 8⟩] ++ rest).Perm
        (accepted ⟨10, 512, -1⟩ revisited) ∧
      [(⟨⟨3, 256, 2048⟩, ⟨⟨"f02000"⟩, ⟨"P2"⟩⟩, 8⟩ : Miner)].Pairwise (fun m m' =>
        lastRTT ⟨10, 512, -1⟩ revisited m.info.address ≤
          lastRTT ⟨10, 512, -1⟩ revisited m'.info.address) ∧
      (∀ m ∈ [(⟨⟨3, 256, 2048⟩, ⟨⟨"f02000"⟩, ⟨"P2"⟩⟩, 8⟩ : Miner)], ∀ m' ∈ rest,
        lastRTT ⟨10, 512, -1⟩ revisited m.info.address ≤
          lastRTT ⟨10, 512, -1⟩ revisited m'.info.address) ∧
      [(⟨⟨3, 256, 2048⟩, ⟨⟨"f02000"⟩, ⟨"P2"⟩⟩, 8⟩ : Miner)].length =
        min (accepted ⟨10, 512, -1⟩ revisited).length ((-1 : BitVec 64) + 2).toInt.toNat :=
  have ok : loadMiners (insertionSortSlice Miner) ⟨10, 512, -1⟩ (revisited, none) =
      some ([⟨⟨3, 256, 2048⟩, ⟨⟨"f02000"⟩, ⟨"P2"⟩⟩, 8⟩], none) := by decide
  ⟨by decide, ok, loadMiners_fastest _ _ _ _ ok⟩

/-- A visit whose ping the context cancels. -/
def cancelledVisit : Probe :=
  ⟨.ok ⟨some ⟨"P3"⟩, 8⟩, true, .cancelled "context canceled", .ok ⟨1, 256, 2048⟩⟩

theorem loadMiners_fits_cancelled :
    loadMiners (insertionSortSlice Miner) ⟨10, 512, 0⟩
        ([(⟨"f01000"⟩, fastVisit), (⟨"f03000"⟩, cancelledVisit), (⟨"f02000"⟩, midVisit)], none) =
      some ([⟨⟨5, 256, 2048⟩, ⟨⟨"f01000"⟩, ⟨"P1"⟩⟩, 8⟩], some "context canceled") ∧
    ∀ m ∈ [(⟨⟨5, 256, 2048⟩, ⟨⟨"f01000"⟩, ⟨"P1"⟩⟩, 8⟩ : Miner)], ∃ p,
      (m.info.address, p) ∈
        [(⟨"f01000"⟩, fastVisit), (⟨"f03000"⟩, cancelledVisit), (⟨"f02000"⟩, midVisit)] ∧
      ∃ mi d, p.minerInfo = .ok mi ∧ mi.peerId = some m.info.peerID ∧ p.connects = true ∧
        p.ping = .rtt d ∧ p.ask = .ok m.ask ∧ m.ask.price ≤ (10 : UInt64).toNat ∧
        m.ask.minPieceSize ≤ 512 ∧ 512 ≤ m.ask.maxPieceSize ∧
        m.windowPoStProofType = mi.windowPoStProofType :=
  have result : loadMiners (insertionSortSlice Miner) ⟨10, 512, 0⟩
      ([(⟨"f01000"⟩, fastVisit), (⟨"f03000"⟩, cancelledVisit), (⟨"f02000"⟩, midVisit)], none) =
      some ([⟨⟨5, 256, 2048⟩, ⟨⟨"f01000"⟩, ⟨"P1"⟩⟩, 8⟩], some "context canceled") := by decide
  ⟨result, loadMiners_fits _ _ _ _ _ result⟩

end Pop.Storage
