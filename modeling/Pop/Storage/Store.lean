import Pop.Storage.Miners
import Pop.Supply.ContentIndex

/-!
# Storage deals (`Storage.StartDeal`, `Storage.Store`)

`Store` proposes one deal per chosen miner through `StartDeal`, in order, and stops at the
first error. `StartDeal` asks the supply for the payload's store ID (the supply's
`GetStoreID` over its content index), the chain for the miner's proving deadline and, when no
start epoch is given, the chain head; it picks the seal proof type of the miner's window PoSt
type and proposes the deal with the end epoch of `calcDealExpiration`.

The answers of the supply's index, the chain and the deal client are parameters
(`DealAnswers`), given per `StartDeal` call: each call looks the payload up again in the index
as it stands then. `startDeal_store_ok_iff` says what one accepted proposal holds
(`StoreDeal`); `store_ok`, `store_error` and `store_panics_iff` say what a whole run of `Store`
proposed for each of its three outcomes; `store_proposals_storeID` that every proposal carries
the store ID the index held for the payload at its own call, and `store_unindexed` what
`Store` does for a payload the index does not give at the first call.
-/

namespace Pop.Storage
open Pop.Supply (Cid StoreID ContentIndex LookupError getStoreID)
set_option autoImplicit false

/-! ## `PreferredSealProofTypeFromWindowPoStType` -/

/-- `abi.RegisteredPoStProof_StackedDrgWindow2KiBV1` .. `64GiBV1` (`go-state-types`). -/
def stackedDrgWindow2KiBV1 : Int := 5
def stackedDrgWindow8MiBV1 : Int := 6
def stackedDrgWindow512MiBV1 : Int := 7
def stackedDrgWindow32GiBV1 : Int := 8
def stackedDrgWindow64GiBV1 : Int := 9

/-- `abi.RegisteredSealProof_StackedDrg2KiBV1_1` .. `64GiBV1_1` (`go-state-types`). -/
def stackedDrg2KiBV1_1 : Int := 5
def stackedDrg8MiBV1_1 : Int := 6
def stackedDrg512MiBV1_1 : Int := 7
def stackedDrg32GiBV1_1 : Int := 8
def stackedDrg64GiBV1_1 : Int := 9

/-- `PreferredSealProofTypeFromWindowPoStType`. -/
def preferredSealProofTypeFromWindowPoStType (proof : Int) : Except String Int :=
  if proof = stackedDrgWindow2KiBV1 then .ok stackedDrg2KiBV1_1
  else if proof = stackedDrgWindow8MiBV1 then .ok stackedDrg8MiBV1_1
  else if proof = stackedDrgWindow512MiBV1 then .ok stackedDrg512MiBV1_1
  else if proof = stackedDrgWindow32GiBV1 then .ok stackedDrg32GiBV1_1
  else if proof = stackedDrgWindow64GiBV1 then .ok stackedDrg64GiBV1_1
  else .error ("unrecognized window post type: " ++ toString proof)

/-! ## `StartDeal` -/

/-- The fields of `StartDealParams` that `StartDeal` reads or forwards (`Data` by its root). -/
structure StartDealParams where
  root : Cid
  wallet : Address
  miner : Miner
  epochPrice : Int
  minBlocksDuration : UInt64
  providerCollateral : Int
  dealStartEpoch : ChainEpoch
  fastRetrieval : Bool
  verifiedDeal : Bool

/-- `storagemarket.ProposeStorageDealParams` as `StartDeal` fills it. -/
structure Proposal where
  addr : Address
  info : StorageProviderInfo
  root : Cid
  startEpoch : ChainEpoch
  endEpoch : ChainEpoch
  price : Int
  collateral : Int
  rt : Int
  fastRetrieval : Bool
  verifiedDeal : Bool
  storeID : StoreID
  deriving DecidableEq, Repr

/-- What one `StartDeal` call reads: the supply's content index as `GetStoreID` finds it, and
the answers of `StateMinerProvingDeadline`, `ChainHead` (its height) and `ProposeStorageDeal`
(the proposal CID). -/
structure DealAnswers where
  index : ContentIndex
  provingDeadline : Except String DlineInfo
  chainHead : Except String ChainEpoch
  propose : Except String Cid

/-- The errors `StartDeal` returns. -/
inductive DealError where
  /-- `GetStoreID`'s error, returned as is. -/
  | storeID (e : LookupError)
  /-- `"failed getting miner's deadline info: %w"`. -/
  | deadline (e : String)
  /-- `"failed getting chain height: %w"`. -/
  | chainHeight (e : String)
  /-- `"failed to get seal proof type: %w"`. -/
  | sealProofType (e : String)
  /-- `"failed to start deal: %w"`. -/
  | startDeal (e : String)
  deriving DecidableEq, Repr

/-- `StartDeal` on the answers `ans` of its calls: the proposal it hands `ProposeStorageDeal`,
if it gets that far, and its result; `none` is the panic of a zero proving period in
`calcDealExpiration`. -/
def startDeal (blockDelaySecs : UInt64) (ans : DealAnswers) (params : StartDealParams) :
    Option (Option Proposal × Except DealError Cid) :=
  match getStoreID ans.index params.root with
  | .error e => some (none, .error (.storeID e))
  | .ok storeID =>
    match ans.provingDeadline with
    | .error e => some (none, .error (.deadline e))
    | .ok md =>
      let start : Except String ChainEpoch :=
        if params.dealStartEpoch.sle 0 then
          ans.chainHead.map (dealStart blockDelaySecs params.dealStartEpoch)
        else .ok params.dealStartEpoch
      match start with
      | .error e => some (none, .error (.chainHeight e))
      | .ok start =>
        match preferredSealProofTypeFromWindowPoStType params.miner.windowPoStProofType with
        | .error e => some (none, .error (.sealProofType e))
        | .ok st =>
          (calcDealExpiration params.minBlocksDuration md start).map fun endEpoch =>
            (some ⟨params.wallet, params.miner.info, params.root, start, endEpoch,
                params.epochPrice, params.providerCollateral, st, params.fastRetrieval,
                params.verifiedDeal, storeID⟩,
              match ans.propose with
              | .error e => .error (.startDeal e)
              | .ok c => .ok c)

/-! ## `Store` -/

/-- `Params` (`Payload` by its root: `NewParams` sets its transfer type to graphsync). -/
structure Params where
  root : Cid
  duration : Duration
  address : Address
  miners : List Miner

/-- `NewParams`. -/
def newParams (root : Cid) (dur : Duration) (w : Address) (mnrs : List Miner) : Params :=
  ⟨root, dur, w, mnrs⟩

/-- `Receipt`. -/
structure Receipt where
  miners : List Address
  dealRefs : List Cid
  deriving DecidableEq, Repr

/-- The `StartDealParams` `Store` gives for miner `m`: the ask's price, `uint64(epochs)` as the
minimum duration, the start left unset (`-1`), and the flags off. -/
def storeDealParams (p : Params) (epochs : ChainEpoch) (m : Miner) : StartDealParams :=
  ⟨p.root, p.address, m, m.ask.price, ⟨epochs⟩, 0, -1, false, false⟩

/-- `Store`'s deal loop from its `n`-th `StartDeal` call on: the proposals made and the deal
references, or the first error. -/
def storeDeals (blockDelaySecs : UInt64) (answers : Nat → DealAnswers) (p : Params)
    (epochs : ChainEpoch) : Nat → List Miner → Option (List Proposal × Except DealError (List Cid))
  | _, [] => some ([], .ok [])
  | n, m :: ms =>
    match startDeal blockDelaySecs (answers n) (storeDealParams p epochs m) with
    | none => none
    | some (sent, .error e) => some (sent.toList, .error e)
    | some (sent, .ok c) =>
      (storeDeals blockDelaySecs answers p epochs (n + 1) ms).map fun (sent', r) =>
        (sent.toList ++ sent', r.map (c :: ·))

/-- `Store`, its `n`-th `StartDeal` call reading `answers n`: the proposals made, and the
receipt or the first error. -/
def store (blockDelaySecs epochDurationSeconds : UInt64) (answers : Nat → DealAnswers)
    (p : Params) : Option (List Proposal × Except DealError Receipt) :=
  (storeDeals blockDelaySecs answers p (calcEpochs epochDurationSeconds p.duration) 0
    p.miners).map fun (sent, r) => (sent, r.map (⟨p.miners.map (·.info.address), ·⟩))

/-! ## Accepted proposals -/

/-- The deal `StartDeal` proposes for miner `m` in `Store` when it is accepted as `c`: the
store ID the supply's index holds for the payload at this call, the start and end epochs of
`startDealEpochs` for an unset start (`-1`) over the chain head and the miner's deadline, the
ask's price, the seal proof type of the miner's window PoSt type, and no collateral, fast
retrieval or verified deal. -/
structure StoreDeal (blockDelaySecs : UInt64) (ans : DealAnswers) (p : Params)
    (epochs : ChainEpoch) (m : Miner) (prop : Proposal) (c : Cid) : Prop where
  storeID : getStoreID ans.index p.root = .ok prop.storeID
  request : prop.addr = p.address ∧ prop.info = m.info ∧ prop.root = p.root ∧
    prop.price = m.ask.price
  span : ∃ height md, ans.chainHead = .ok height ∧ ans.provingDeadline = .ok md ∧
    startDealEpochs blockDelaySecs ⟨epochs⟩ (-1) height md = some (prop.startEpoch, prop.endEpoch)
  sealType : preferredSealProofTypeFromWindowPoStType m.windowPoStProofType = .ok prop.rt
  terms : prop.collateral = 0 ∧ prop.fastRetrieval = false ∧ prop.verifiedDeal = false
  accepted : ans.propose = .ok c

theorem unset_sle_zero : (-1 : ChainEpoch).sle 0 = true := by decide

/-- Every proposal `StartDeal` makes is for the store the index gives for its payload. -/
theorem storeID_of_startDeal {blockDelaySecs : UInt64} {ans : DealAnswers}
    {params : StartDealParams} {prop : Proposal} {r : Except DealError Cid}
    (h : startDeal blockDelaySecs ans params = some (some prop, r)) :
    getStoreID ans.index params.root = .ok prop.storeID ∧ prop.root = params.root := by
  simp only [startDeal] at h
  split at h; · cases h
  rename_i sid hsid
  split at h; · cases h
  split at h; · cases h
  split at h; · cases h
  obtain ⟨endEpoch, -, h⟩ := Option.map_eq_some'.mp h
  simp only [Prod.mk.injEq, Option.some.injEq] at h
  rw [← h.1]
  exact ⟨hsid, rfl⟩

section Deals
variable {blockDelaySecs : UInt64} {p : Params} {epochs : ChainEpoch}

/-- The loop body: `StartDeal` returns a CID for `Store`'s parameters exactly when it proposed
a `StoreDeal`. -/
theorem startDeal_store_ok_iff {ans : DealAnswers} {m : Miner} {sent : Option Proposal}
    {c : Cid} :
    startDeal blockDelaySecs ans (storeDealParams p epochs m) = some (sent, .ok c) ↔
      ∃ prop, sent = some prop ∧ StoreDeal blockDelaySecs ans p epochs m prop c := by
  constructor
  · intro h
    simp only [startDeal, storeDealParams, unset_sle_zero, if_true] at h
    split at h; · cases h
    rename_i sid hsid
    split at h; · cases h
    rename_i md hmd
    split at h; · cases h
    rename_i start hstart
    split at h; · cases h
    rename_i st hst
    cases hh : ans.chainHead with
    | error e => simp only [hh, Except.map, reduceCtorEq] at hstart
    | ok height =>
    simp only [hh, Except.map, Except.ok.injEq] at hstart
    obtain ⟨endEpoch, hend, h⟩ := Option.map_eq_some'.mp h
    cases hc : ans.propose <;> simp only [hc, Prod.mk.injEq, Except.ok.injEq] at h
    · cases h.2
    · obtain ⟨rfl, rfl⟩ := h
      exact ⟨_, rfl, hsid, ⟨rfl, rfl, rfl, rfl⟩, ⟨height, md, hh, hmd, by
        simp only [startDealEpochs, hstart, hend, Option.map_some']⟩, hst, ⟨rfl, rfl, rfl⟩, hc⟩
  · rintro ⟨⟨addr, info, root, start, endEpoch, price, col, rt, fr, vd, sid⟩, rfl,
      ⟨hsid, ⟨rfl, rfl, rfl, rfl⟩, ⟨height, md, hh, hmd, hspan⟩, hst, ⟨rfl, rfl, rfl⟩, hc⟩⟩
    obtain ⟨e, hend, he⟩ := Option.map_eq_some'.mp hspan
    simp only [Prod.mk.injEq] at he
    obtain ⟨rfl, rfl⟩ := he
    simp only [startDeal, storeDealParams, unset_sle_zero, if_true]
    rw [hsid, hmd, hh]
    dsimp only [Except.map]
    rw [hst, hend, hc]
    rfl

/-- The loop body panics exactly when every lookup before the proposal succeeds and the
miner's proving period is zero. -/
theorem startDeal_store_none_iff {ans : DealAnswers} {m : Miner} :
    startDeal blockDelaySecs ans (storeDealParams p epochs m) = none ↔
      (∃ sid, getStoreID ans.index p.root = .ok sid) ∧
      (∃ md, ans.provingDeadline = .ok md ∧ md.wPoStProvingPeriod = 0) ∧
      (∃ height, ans.chainHead = .ok height) ∧
      ∃ st, preferredSealProofTypeFromWindowPoStType m.windowPoStProofType = .ok st := by
  constructor
  · intro h
    simp only [startDeal, storeDealParams, unset_sle_zero, if_true] at h
    split at h; · cases h
    rename_i sid hsid
    split at h; · cases h
    rename_i md hmd
    split at h; · cases h
    rename_i start hstart
    split at h; · cases h
    rename_i st hst
    cases hh : ans.chainHead with
    | error e => simp only [hh, Except.map, reduceCtorEq] at hstart
    | ok height =>
      have zero : md.wPoStProvingPeriod = 0 := by
        by_contra nonzero
        rw [calcDealExpiration_of_ne_zero _ _ _ nonzero] at h
        cases h
      exact ⟨⟨sid, hsid⟩, ⟨md, hmd, zero⟩, ⟨height, rfl⟩, st, hst⟩
  · rintro ⟨⟨sid, hsid⟩, ⟨md, hmd, zero⟩, ⟨height, hh⟩, st, hst⟩
    simp only [startDeal, storeDealParams, unset_sle_zero, if_true]
    rw [hsid, hmd, hh]
    dsimp only [Except.map]
    rw [hst, calcDealExpiration_zero_period _ _ _ zero]
    rfl

variable {answers : Nat → DealAnswers}

/-- The loop: it returns the CIDs exactly when every miner took a `StoreDeal` at its own call,
in order. -/
theorem storeDeals_ok_iff {n : Nat} {ms : List Miner} {sent : List Proposal} {cs : List Cid} :
    storeDeals blockDelaySecs answers p epochs n ms = some (sent, .ok cs) ↔
      ∃ deals : List (Proposal × Cid),
        List.Forall₂ (fun (im : Nat × Miner) d =>
          StoreDeal blockDelaySecs (answers im.1) p epochs im.2 d.1 d.2) (ms.enumFrom n) deals ∧
        sent = deals.map Prod.fst ∧ cs = deals.map Prod.snd := by
  induction ms generalizing n sent cs with
  | nil =>
    constructor
    · rintro ⟨⟩
      exact ⟨[], .nil, rfl, rfl⟩
    · rintro ⟨_, hall, rfl, rfl⟩
      cases hall
      rfl
  | cons m ms ih =>
    constructor
    · intro h
      simp only [storeDeals] at h
      split at h
      · cases h
      · simp at h
      · rename_i s c hs
        obtain ⟨prop, rfl, deal⟩ := startDeal_store_ok_iff.mp hs
        obtain ⟨⟨sent', r⟩, hrest, he⟩ := Option.map_eq_some'.mp h
        cases r with
        | error e => cases he
        | ok cs' =>
          obtain ⟨deals, hall, rfl, rfl⟩ := ih.mp hrest
          simp only [Except.map, Option.toList_some, List.singleton_append, Prod.mk.injEq,
            Except.ok.injEq] at he
          obtain ⟨rfl, rfl⟩ := he
          exact ⟨(prop, c) :: deals, .cons deal hall, rfl, rfl⟩
    · rintro ⟨_ | ⟨⟨prop, c⟩, deals⟩, hall, rfl, rfl⟩
      · cases hall
      · obtain ⟨deal, hall⟩ := List.forall₂_cons.mp hall
        simp only [storeDeals, startDeal_store_ok_iff.mpr ⟨prop, rfl, deal⟩,
          ih.mpr ⟨deals, hall, rfl, rfl⟩]
        rfl

/-- The loop's error is the first miner's whose `StartDeal` fails; every miner before it took a
`StoreDeal` at its own call, and all those proposals stay made. -/
theorem storeDeals_error {n : Nat} {ms : List Miner} {sent : List Proposal} {e : DealError}
    (h : storeDeals blockDelaySecs answers p epochs n ms = some (sent, .error e)) :
    ∃ pre m post deals failed, ms = pre ++ m :: post ∧
      List.Forall₂ (fun (im : Nat × Miner) d =>
        StoreDeal blockDelaySecs (answers im.1) p epochs im.2 d.1 d.2) (pre.enumFrom n) deals ∧
      startDeal blockDelaySecs (answers (n + pre.length)) (storeDealParams p epochs m) =
        some (failed, .error e) ∧
      sent = deals.map Prod.fst ++ failed.toList := by
  induction ms generalizing n sent with
  | nil => cases h
  | cons m ms ih =>
    simp only [storeDeals] at h
    split at h
    · cases h
    · rename_i failed e' hs
      simp only [Option.some.injEq, Prod.mk.injEq, Except.error.injEq] at h
      obtain ⟨rfl, rfl⟩ := h
      exact ⟨[], m, ms, [], failed, rfl, .nil, hs, rfl⟩
    · rename_i s c hs
      obtain ⟨prop, rfl, deal⟩ := startDeal_store_ok_iff.mp hs
      obtain ⟨⟨sent', r⟩, hrest, he⟩ := Option.map_eq_some'.mp h
      cases r with
      | ok cs => cases he
      | error e' =>
        simp only [Except.map, Option.toList_some, List.singleton_append, Prod.mk.injEq,
          Except.error.injEq] at he
        obtain ⟨rfl, rfl⟩ := he
        obtain ⟨pre, m', post, deals, failed, rfl, hall, hfail, rfl⟩ := ih hrest
        exact ⟨m :: pre, m', post, (prop, c) :: deals, failed, rfl, .cons deal hall,
          Nat.add_right_comm n 1 pre.length ▸ hfail, rfl⟩

/-- The loop panics exactly when the first miner whose `StartDeal` returns no CID panics;
every miner before it took a `StoreDeal` at its own call. -/
theorem storeDeals_none_iff {n : Nat} {ms : List Miner} :
    storeDeals blockDelaySecs answers p epochs n ms = none ↔
      ∃ pre m post, ∃ deals : List (Proposal × Cid), ms = pre ++ m :: post ∧
        List.Forall₂ (fun (im : Nat × Miner) d =>
          StoreDeal blockDelaySecs (answers im.1) p epochs im.2 d.1 d.2) (pre.enumFrom n) deals ∧
        startDeal blockDelaySecs (answers (n + pre.length)) (storeDealParams p epochs m) = none := by
  induction ms generalizing n with
  | nil =>
    exact iff_of_false (fun h => by cases h) fun ⟨_, _, _, _, same, _⟩ =>
      List.cons_ne_nil _ _ (List.append_eq_nil.mp same.symm).2
  | cons m ms ih =>
    constructor
    · intro h
      simp only [storeDeals] at h
      cases hs : startDeal blockDelaySecs (answers n) (storeDealParams p epochs m) with
      | none => exact ⟨[], m, ms, [], rfl, .nil, hs⟩
      | some out =>
        obtain ⟨s, _ | c⟩ := out
        · rw [hs] at h
          cases h
        · rw [hs] at h
          obtain ⟨prop, rfl, deal⟩ := startDeal_store_ok_iff.mp hs
          obtain ⟨pre, m', post, deals, rfl, hall, panics⟩ := ih.mp (Option.map_eq_none'.mp h)
          exact ⟨m :: pre, m', post, (prop, c) :: deals, rfl, .cons deal hall,
            Nat.add_right_comm n 1 pre.length ▸ panics⟩
    · rintro ⟨_ | ⟨m₀, pre⟩, m', post, deals, same, hall, panics⟩
      · obtain ⟨rfl, rfl⟩ := List.cons.inj same
        rw [List.length_nil, Nat.add_zero] at panics
        simp only [storeDeals, panics]
      · obtain ⟨rfl, rfl⟩ := List.cons.inj same
        rcases hall with _ | ⟨deal, hall⟩
        simp only [storeDeals, startDeal_store_ok_iff.mpr ⟨_, rfl, deal⟩,
          ih.mpr ⟨pre, m', post, _, rfl, hall, (Nat.add_right_comm n 1 pre.length).symm ▸ panics⟩,
          Option.map_none']

/-- Every proposal of the loop, whatever its outcome, names the payload's root and the store
ID the index gave at the call that made it, one of the loop's calls. -/
theorem storeID_of_storeDeals {n : Nat} {ms : List Miner} {sent : List Proposal}
    {r : Except DealError (List Cid)}
    (h : storeDeals blockDelaySecs answers p epochs n ms = some (sent, r)) :
    ∀ prop ∈ sent, prop.root = p.root ∧ ∃ i, n ≤ i ∧ i < n + ms.length ∧
      getStoreID (answers i).index p.root = .ok prop.storeID := by
  induction ms generalizing n sent r with
  | nil =>
    cases h
    simp
  | cons m ms ih =>
    simp only [storeDeals] at h
    have first : ∀ prop ∈ (startDeal blockDelaySecs (answers n)
        (storeDealParams p epochs m)).bind (·.1), prop.root = p.root ∧ ∃ i, n ≤ i ∧
          i < n + (m :: ms).length ∧ getStoreID (answers i).index p.root = .ok prop.storeID := by
      intro prop hprop
      obtain ⟨⟨_, r'⟩, hs, rfl⟩ := Option.mem_bind_iff.mp hprop
      obtain ⟨sid, root⟩ := storeID_of_startDeal (Option.mem_def.mp hs)
      exact ⟨root, n, le_rfl, by simp, sid⟩
    split at h
    · cases h
    · rename_i failed e hs
      simp only [Option.some.injEq, Prod.mk.injEq] at h
      rw [← h.1]
      intro prop hprop
      exact first prop (by simp [hs, Option.mem_toList.mp hprop])
    · rename_i made c hs
      obtain ⟨⟨sent', r'⟩, hrest, he⟩ := Option.map_eq_some'.mp h
      simp only [Prod.mk.injEq] at he
      rw [← he.1]
      intro prop hprop
      rcases List.mem_append.mp hprop with hprop | hprop
      · exact first prop (by simp [hs, Option.mem_toList.mp hprop])
      · obtain ⟨root, i, lo, hi, sid⟩ := ih hrest prop hprop
        exact ⟨root, i, by omega, by rw [List.length_cons]; omega, sid⟩

variable {epochDurationSeconds : UInt64}

/-- `Store` returns a receipt exactly when every miner, in order, took a `StoreDeal` for the
duration in epochs at its own `StartDeal` call; the receipt lists the miners' addresses and
the deals' CIDs. -/
theorem store_ok {sent : List Proposal} {r : Receipt} :
    store blockDelaySecs epochDurationSeconds answers p = some (sent, .ok r) ↔
      ∃ deals : List (Proposal × Cid),
        List.Forall₂ (fun (im : Nat × Miner) d => StoreDeal blockDelaySecs (answers im.1) p
          (calcEpochs epochDurationSeconds p.duration) im.2 d.1 d.2) p.miners.enum deals ∧
        sent = deals.map Prod.fst ∧ r = ⟨p.miners.map (·.info.address), deals.map Prod.snd⟩ := by
  constructor
  · intro h
    obtain ⟨⟨sent', r'⟩, run, he⟩ := Option.map_eq_some'.mp h
    cases r' with
    | error e => cases he
    | ok cs =>
      obtain ⟨deals, hall, rfl, rfl⟩ := storeDeals_ok_iff.mp run
      simp only [Except.map, Prod.mk.injEq, Except.ok.injEq] at he
      obtain ⟨rfl, rfl⟩ := he
      exact ⟨deals, hall, rfl, rfl⟩
  · rintro ⟨deals, hall, rfl, rfl⟩
    simp only [store, storeDeals_ok_iff.mpr ⟨deals, hall, rfl, rfl⟩]
    rfl

/-- `Store` is not atomic: on an error no receipt comes back, but the deals proposed to the
miners before the failing one stay proposed. -/
theorem store_error {sent : List Proposal} {e : DealError}
    (h : store blockDelaySecs epochDurationSeconds answers p = some (sent, .error e)) :
    ∃ pre m post deals failed, p.miners = pre ++ m :: post ∧
      List.Forall₂ (fun (im : Nat × Miner) d => StoreDeal blockDelaySecs (answers im.1) p
        (calcEpochs epochDurationSeconds p.duration) im.2 d.1 d.2) pre.enum deals ∧
      startDeal blockDelaySecs (answers pre.length)
        (storeDealParams p (calcEpochs epochDurationSeconds p.duration) m) =
          some (failed, .error e) ∧
      sent = deals.map Prod.fst ++ failed.toList := by
  obtain ⟨⟨sent', r⟩, run, he⟩ := Option.map_eq_some'.mp h
  cases r with
  | ok cs => cases he
  | error e' =>
    simp only [Except.map, Prod.mk.injEq, Except.error.injEq] at he
    obtain ⟨rfl, rfl⟩ := he
    obtain ⟨pre, m, post, deals, failed, split, hall, hfail, rfl⟩ := storeDeals_error run
    rw [Nat.zero_add] at hfail
    exact ⟨pre, m, post, deals, failed, split, hall, hfail, rfl⟩

/-- A payload the index does not give at the first call is stored nowhere: `Store` proposes
no deal and returns `GetStoreID`'s error. -/
theorem store_unindexed {err : LookupError} (h : getStoreID (answers 0).index p.root = .error err)
    (nonempty : p.miners ≠ []) :
    store blockDelaySecs epochDurationSeconds answers p = some ([], .error (.storeID err)) := by
  obtain ⟨m, ms, hm⟩ := List.exists_cons_of_ne_nil nonempty
  simp only [store, hm, storeDeals, startDeal, storeDealParams, h]
  rfl

/-- `Store` panics exactly when, at the first miner whose `StartDeal` returns no CID, every
lookup succeeds but the miner's proving period is zero (the `%` of `calcDealExpiration`); every
miner before it has taken a `StoreDeal`, which stays proposed. -/
theorem store_panics_iff :
    store blockDelaySecs epochDurationSeconds answers p = none ↔
      ∃ pre m post, ∃ deals : List (Proposal × Cid), p.miners = pre ++ m :: post ∧
        List.Forall₂ (fun (im : Nat × Miner) d => StoreDeal blockDelaySecs (answers im.1) p
          (calcEpochs epochDurationSeconds p.duration) im.2 d.1 d.2) pre.enum deals ∧
        (∃ sid, getStoreID (answers pre.length).index p.root = .ok sid) ∧
        (∃ md, (answers pre.length).provingDeadline = .ok md ∧ md.wPoStProvingPeriod = 0) ∧
        (∃ height, (answers pre.length).chainHead = .ok height) ∧
        ∃ st, preferredSealProofTypeFromWindowPoStType m.windowPoStProofType = .ok st := by
  simp only [store, Option.map_eq_none', storeDeals_none_iff, startDeal_store_none_iff,
    Nat.zero_add]
  rfl

/-- Whatever `Store`'s outcome, every deal it proposed names the payload's root and the store
ID the supply's index held for it at the `StartDeal` call that made the proposal. -/
theorem store_proposals_storeID {sent : List Proposal} {result : Except DealError Receipt}
    (ran : store blockDelaySecs epochDurationSeconds answers p = some (sent, result)) :
    ∀ prop ∈ sent, prop.root = p.root ∧ ∃ i < p.miners.length,
      getStoreID (answers i).index p.root = .ok prop.storeID := by
  obtain ⟨⟨sent', r⟩, run, he⟩ := Option.map_eq_some'.mp ran
  simp only [Prod.mk.injEq] at he
  rw [← he.1]
  intro prop hprop
  obtain ⟨root, i, -, hi, sid⟩ := storeID_of_storeDeals run prop hprop
  exact ⟨root, i, by omega, sid⟩

end Deals

/-- The supply's index after registering the payload in store 7. -/
def payloadIndex : ContentIndex :=
  Pop.Supply.putRecord (fun _ => none) ⟨"bafyPayload"⟩ (Pop.Supply.registerRecord 7)

/-- Answers under which the second `StartDeal` call is rejected and every other is accepted,
each finding the payload in store 7. -/
def rejectingAnswers (n : Nat) : DealAnswers :=
  ⟨payloadIndex, .ok ⟨100, 2880⟩, .ok 1000,
    if n = 1 then .error "deal rejected" else .ok ⟨"bafyDeal"⟩⟩

/-- A day's storage, with two miners, of a payload the supply holds in store 7. -/
def twoMinerStore : Params :=
  newParams ⟨"bafyPayload"⟩ 86400000000000 ⟨"f1wallet"⟩
    [⟨⟨5, 256, 2048⟩, ⟨⟨"f01000"⟩, ⟨"P1"⟩⟩, 8⟩, ⟨⟨3, 256, 2048⟩, ⟨⟨"f02000"⟩, ⟨"P2"⟩⟩, 8⟩]

/-- The first miner's deal stays proposed when the second rejects its own. -/
theorem store_error_rejected :
    ∃ sent, store 30 30 rejectingAnswers twoMinerStore =
        some (sent, .error (.startDeal "deal rejected")) ∧
      ∃ pre m post deals failed, twoMinerStore.miners = pre ++ m :: post ∧
        List.Forall₂ (fun (im : Nat × Miner) d => StoreDeal 30 (rejectingAnswers im.1)
          twoMinerStore (calcEpochs 30 twoMinerStore.duration) im.2 d.1 d.2) pre.enum deals ∧
        startDeal 30 (rejectingAnswers pre.length)
          (storeDealParams twoMinerStore (calcEpochs 30 twoMinerStore.duration) m) =
            some (failed, .error (.startDeal "deal rejected")) ∧
        sent = deals.map Prod.fst ++ failed.toList :=
  have run : store 30 30 rejectingAnswers twoMinerStore =
      some ([⟨⟨"f1wallet"⟩, ⟨⟨"f01000"⟩, ⟨"P1"⟩⟩, ⟨"bafyPayload"⟩, 6880, 11619, 5, 0, 8, false,
          false, 7⟩,
        ⟨⟨"f1wallet"⟩, ⟨⟨"f02000"⟩, ⟨"P2"⟩⟩, ⟨"bafyPayload"⟩, 6880, 11619, 3, 0, 8, false,
          false, 7⟩], .error (.startDeal "deal rejected")) := rfl
  ⟨_, run, store_error run⟩

end Pop.Storage
