import Pop.Supply.ContentIndex
import Pop.Supply.Dispatch

/-!
# The supply node as a state machine

The state a `Supply` shares between its goroutines: the authorization table, the
content index, the multistore, the inbound requests being handled and the pull channels
they opened. An `Event` is one atomic action of one goroutine or of the outside world.
`HandleRequest` is cut at its three calls into shared state (`ms.Next`, `PutRecord`,
`OpenPullDataChannel`), so events of other goroutines interleave between them; the
transport runs `TransportConfigurer` for a channel as an event of its own, as it does
for the `Completed` and `Error` events of the shared data-transfer manager.

The answers of external calls that can fail (datastore writes, `ms.Get`, `ms.Delete`,
`UseStore`, `OpenPullDataChannel`) are fields of the events. `allocs` is ghost state:
every store ID `Next` gave an inbound request, with the payload it was allocated for.
-/

namespace Pop.Supply
set_option autoImplicit false

/-- A block store of the multistore: never opened, open with the roots of the DAGs it
holds in full, or deleted. -/
inductive Slot where
  | unopened
  | opened (roots : List Cid)
  | deleted
  deriving DecidableEq, Repr

/-- The external `multistore.MultiStore`: the counter behind `Next` and each ID's slot. -/
structure MultiStore where
  next : StoreID
  slots : StoreID → Slot

/-- The roots an ID's store holds in full (none unless it is open). -/
def MultiStore.roots (ms : MultiStore) (sid : StoreID) : List Cid :=
  match ms.slots sid with
  | .opened roots => roots
  | _ => []

/-- `ms.Next()`: `atomic.AddUint64(&next, 1)`, wrapping at `2^64`. -/
def MultiStore.nextID (ms : MultiStore) : MultiStore × StoreID :=
  ({ ms with next := ms.next + 1 }, ms.next + 1)

/-- `ms.Get(i)`: the open store, or a new empty store opened under `i`. -/
def MultiStore.get (ms : MultiStore) (i : StoreID) : MultiStore :=
  match ms.slots i with
  | .opened _ => ms
  | _ => { ms with slots := Function.update ms.slots i (.opened []) }

/-- `ms.Delete(i)`: an open store is closed and its blocks dropped; other IDs are left. -/
def MultiStore.delete (ms : MultiStore) (i : StoreID) : MultiStore :=
  match ms.slots i with
  | .opened _ => { ms with slots := Function.update ms.slots i .deleted }
  | _ => ms

/-- The blocks of the DAG rooted at `root` written into the store `ms.Get(i)` opens. -/
def MultiStore.addRoot (ms : MultiStore) (i : StoreID) (root : Cid) : MultiStore :=
  { ms with slots := Function.update ms.slots i (.opened (root :: ms.roots i)) }

/-- Where a pull channel's blocks go. -/
inductive Route where
  | pending
  | shared
  | store (sid : StoreID)
  deriving DecidableEq, Repr

/-- How far `HandleRequest` has got with a decoded request. -/
inductive Stage where
  | read
  | allocated (sid : StoreID)
  | written (sid : StoreID)
  deriving DecidableEq, Repr

/-- An inbound request being handled. -/
structure Inbound where
  sender : PeerID
  req : Request
  stage : Stage
  deriving DecidableEq, Repr

/-- A pull channel `HandleRequest` opened: from whom, for what, and where it writes. -/
structure Channel where
  sender : PeerID
  req : Request
  route : Route
  deriving DecidableEq, Repr

structure Node where
  validator : Validator
  index : ContentIndex
  ms : MultiStore
  inbound : List Inbound
  channels : List Channel
  allocs : List (StoreID × Cid)

/-- The node `New` builds over a datastore's index and a multistore: an empty table,
nothing in flight. -/
def Node.start (index : ContentIndex) (ms : MultiStore) : Node :=
  ⟨.empty, index, ms, [], [], []⟩

/-- Why `GetStore` or `RemoveContent` fails: the index lookup, or the multistore or
datastore call that returned an error. -/
inductive SupplyError where
  | lookup (e : LookupError)
  | openStore
  | deleteStore
  | removeRecord
  deriving DecidableEq, Repr

/-- `GetStore(id)`: the ID from the index, then `ms.Get` (`getOk`: it opens the store). -/
def getStore (idx : ContentIndex) (ms : MultiStore) (id : Cid) (getOk : Bool) :
    Except SupplyError (MultiStore × StoreID) :=
  match getStoreID idx id with
  | .error e => .error (.lookup e)
  | .ok sid => if getOk then .ok (ms.get sid, sid) else .error .openStore

/-- `TransportConfigurer` on a channel whose voucher is `request`: the multistore after
it and the channel's route. `configurable`: the transport is a
`StoreConfigurableTransport`; `useOk`: `UseStore` succeeds. Every failure leaves the
channel on the transport's shared store. -/
def transportConfigurer (idx : ContentIndex) (ms : MultiStore) (request : Request)
    (configurable getOk useOk : Bool) : MultiStore × Route :=
  if configurable then
    match getStore idx ms request.payloadCID getOk with
    | .error _ => (ms, .shared)
    | .ok (ms, sid) => (ms, if useOk then .store sid else .shared)
  else (ms, .shared)

/-- `RemoveContent(root)`: the index and multistore after it and its error; `deleteOk`
and `removeOk` are the answers of `ms.Delete` and `RemoveRecord`. -/
def removeContent (idx : ContentIndex) (ms : MultiStore) (root : Cid) (deleteOk removeOk : Bool) :
    ContentIndex × MultiStore × Option SupplyError :=
  match getStoreID idx root with
  | .error e => (idx, ms, some (.lookup e))
  | .ok sid =>
    if deleteOk then
      if removeOk then (removeRecord idx root, ms.delete sid, none)
      else (idx, ms.delete sid, some .removeRecord)
    else (idx, ms, some .deleteStore)

/-- One atomic action of the node's goroutines or of its environment. -/
inductive Event where
  | dispatch (r : Request) (conns : List PeerID) (ps : PeerStore) (opens : PeerID → Bool)
  | receive (sender : PeerID) (read : Option Request)
  | allocate (i : Nat)
  | putRecord (i : Nat) (ok : Bool)
  | openPull (i : Nat) (ok : Bool)
  | configure (j : Nat) (configurable getOk useOk : Bool)
  | completed (j : Nat)
  | transferError (recipient : PeerID) (baseCid : Cid) (removeOk : Bool)
  | register (key : Cid) (sid : StoreID) (ok : Bool)
  | removeContent (root : Cid) (deleteOk removeOk : Bool)
  | importDag (sid : StoreID) (root : Cid)

/-- `ms.Next` gives the successor of the counter, which does not wrap below `2^64`. -/
theorem MultiStore.next_toNat_succ {n : StoreID} (h : n.toNat + 1 < 2 ^ 64) : (n + 1).toNat = n.toNat + 1 := by
  show (n.toBitVec + (1 : UInt64).toBitVec).toNat = n.toNat + 1
  rw [BitVec.toNat_add]
  exact Nat.mod_eq_of_lt h

@[simp] theorem MultiStore.get_next (ms : MultiStore) (i : StoreID) : (ms.get i).next = ms.next := by
  unfold MultiStore.get; split <;> rfl

@[simp] theorem MultiStore.delete_next (ms : MultiStore) (i : StoreID) : (ms.delete i).next = ms.next := by
  unfold MultiStore.delete; split <;> rfl

@[simp] theorem MultiStore.addRoot_next (ms : MultiStore) (i : StoreID) (root : Cid) :
    (ms.addRoot i root).next = ms.next := rfl

/-- `roots` reads only the slots. -/
theorem MultiStore.roots_of_slots {ms ms' : MultiStore} (h : ms'.slots = ms.slots) (sid : StoreID) :
    ms'.roots sid = ms.roots sid := by
  simp only [MultiStore.roots, h]

theorem MultiStore.roots_update_ne (ms : MultiStore) {i sid : StoreID} (s : Slot) (h : sid ≠ i) :
    ({ ms with slots := Function.update ms.slots i s } : MultiStore).roots sid = ms.roots sid := by
  simp only [MultiStore.roots, Function.update_noteq h]

theorem MultiStore.roots_of_not_opened {ms : MultiStore} {i : StoreID}
    (h : ∀ rs, ms.slots i ≠ .opened rs) : ms.roots i = [] := by
  unfold MultiStore.roots
  split
  · exact absurd ‹_› (h _)
  · rfl

/-- `TransportConfigurer` either leaves the multistore and shares the default store, or
opens the store the index names for the payload. -/
theorem transportConfigurer_cases (idx : ContentIndex) (ms : MultiStore) (req : Request)
    (configurable getOk useOk : Bool) :
    transportConfigurer idx ms req configurable getOk useOk = (ms, .shared) ∨
      ∃ sid, getStoreID idx req.payloadCID = .ok sid ∧
        transportConfigurer idx ms req configurable getOk useOk =
          (ms.get sid, if useOk then .store sid else .shared) := by
  unfold transportConfigurer getStore
  cases configurable
  · exact .inl rfl
  · cases hs : getStoreID idx req.payloadCID with
    | error e => exact .inl rfl
    | ok sid => cases getOk <;> simp

@[simp] theorem transportConfigurer_next (idx : ContentIndex) (ms : MultiStore) (req : Request)
    (configurable getOk useOk : Bool) :
    (transportConfigurer idx ms req configurable getOk useOk).1.next = ms.next := by
  rcases transportConfigurer_cases idx ms req configurable getOk useOk with h | ⟨sid, -, h⟩ <;> simp [h]

/-- A route to a store comes from the index entry of the channel's payload. -/
theorem transportConfigurer_store {idx : ContentIndex} {ms : MultiStore} {req : Request}
    {configurable getOk useOk : Bool} {sid : StoreID}
    (h : (transportConfigurer idx ms req configurable getOk useOk).2 = .store sid) :
    getStoreID idx req.payloadCID = .ok sid := by
  rcases transportConfigurer_cases idx ms req configurable getOk useOk with he | ⟨s, hs, he⟩ <;>
    rw [he] at h
  · cases h
  · split at h <;> cases h; exact hs

/-- `RemoveContent` removes the root's entry or nothing, and deletes a store or nothing. -/
theorem removeContent_cases (idx : ContentIndex) (ms : MultiStore) (root : Cid) (deleteOk removeOk : Bool) :
    ((removeContent idx ms root deleteOk removeOk).1 = idx ∨
      (removeContent idx ms root deleteOk removeOk).1 = removeRecord idx root) ∧
    ((removeContent idx ms root deleteOk removeOk).2.1 = ms ∨
      ∃ sid, (removeContent idx ms root deleteOk removeOk).2.1 = ms.delete sid) := by
  unfold removeContent
  split
  · exact ⟨.inl rfl, .inl rfl⟩
  · cases deleteOk
    · exact ⟨.inl rfl, .inl rfl⟩
    · cases removeOk
      · exact ⟨.inl rfl, .inr ⟨_, rfl⟩⟩
      · exact ⟨.inr rfl, .inr ⟨_, rfl⟩⟩

@[simp] theorem removeContent_next (idx : ContentIndex) (ms : MultiStore) (root : Cid)
    (deleteOk removeOk : Bool) : (removeContent idx ms root deleteOk removeOk).2.1.next = ms.next := by
  rcases (removeContent_cases idx ms root deleteOk removeOk).2 with h | ⟨sid, h⟩ <;> simp [h]

/-- `RemoveContent` only removes index entries. -/
theorem removeContent_index {idx : ContentIndex} {ms : MultiStore} {root : Cid}
    {deleteOk removeOk : Bool} {c : Cid} {rec : ContentRecord}
    (h : (removeContent idx ms root deleteOk removeOk).1 c = some rec) : idx c = some rec := by
  rcases (removeContent_cases idx ms root deleteOk removeOk).1 with he | he <;> rw [he] at h
  · exact h
  · by_cases hc : c = root
    · subst hc; simp at h
    · rwa [removeRecord_ne hc] at h

namespace Node

/-- `HandleRequest`, first call: `storeID := h.ms.Next()`. -/
def allocate (σ : Node) (i : Nat) : Node :=
  match σ.inbound[i]? with
  | some ⟨sender, req, .read⟩ =>
    { σ with ms := σ.ms.nextID.1
             inbound := σ.inbound.set i ⟨sender, req, .allocated σ.ms.nextID.2⟩
             allocs := σ.allocs ++ [(σ.ms.nextID.2, req.payloadCID)] }
  | _ => σ

/-- `HandleRequest`, second call: `PutRecord` of the request's record; on failure the
handler returns. -/
def putRecordStep (σ : Node) (i : Nat) (ok : Bool) : Node :=
  match σ.inbound[i]? with
  | some ⟨sender, req, .allocated sid⟩ =>
    if ok then
      { σ with index := putRecord σ.index req.payloadCID (requestRecord sid req.size)
               inbound := σ.inbound.set i ⟨sender, req, .written sid⟩ }
    else { σ with inbound := σ.inbound.eraseIdx i }
  | _ => σ

/-- `HandleRequest`, last call: `OpenPullDataChannel` from the sender; the handler
returns either way and the index entry stays. -/
def openPull (σ : Node) (i : Nat) (ok : Bool) : Node :=
  match σ.inbound[i]? with
  | some ⟨sender, req, .written _⟩ =>
    { σ with inbound := σ.inbound.eraseIdx i
             channels := if ok then σ.channels ++ [⟨sender, req, .pending⟩] else σ.channels }
  | _ => σ

/-- The transport runs `TransportConfigurer` once for a new channel. -/
def configure (σ : Node) (j : Nat) (configurable getOk useOk : Bool) : Node :=
  match σ.channels[j]? with
  | some ⟨sender, req, .pending⟩ =>
    { σ with ms := (transportConfigurer σ.index σ.ms req configurable getOk useOk).1
             channels := σ.channels.set j
               ⟨sender, req, (transportConfigurer σ.index σ.ms req configurable getOk useOk).2⟩ }
  | _ => σ

/-- A channel's `Completed` event: its DAG is now whole in the store it writes to. -/
def completed (σ : Node) (j : Nat) : Node :=
  match σ.channels[j]? with
  | some ⟨_, req, .store sid⟩ => { σ with ms := σ.ms.addRoot sid req.payloadCID }
  | _ => σ

/-- One event. The `transferError` case is the subscription `New` installs: an `Error`
event whose recipient is this host removes the record of the channel's base CID. -/
def step (cfg : Config) (σ : Node) : Event → Node
  | .dispatch r conns ps opens => { σ with validator := (dispatch cfg σ.validator r conns ps opens).auth }
  | .receive _ none => σ
  | .receive sender (some req) => { σ with inbound := σ.inbound ++ [⟨sender, req, .read⟩] }
  | .allocate i => σ.allocate i
  | .putRecord i ok => σ.putRecordStep i ok
  | .openPull i ok => σ.openPull i ok
  | .configure j configurable getOk useOk => σ.configure j configurable getOk useOk
  | .completed j => σ.completed j
  | .transferError recipient baseCid removeOk =>
    if recipient = cfg.self ∧ removeOk then { σ with index := removeRecord σ.index baseCid } else σ
  | .register key sid ok => if ok then { σ with index := putRecord σ.index key (registerRecord sid) } else σ
  | .removeContent root deleteOk removeOk =>
    { σ with index := (removeContent σ.index σ.ms root deleteOk removeOk).1
             ms := (removeContent σ.index σ.ms root deleteOk removeOk).2.1 }
  | .importDag sid root => { σ with ms := σ.ms.addRoot sid root }

/-- The node after a run of events. -/
def run (cfg : Config) (σ : Node) : List Event → Node
  | [] => σ
  | e :: evs => (σ.step cfg e).run cfg evs

theorem run_append (cfg : Config) (σ : Node) (evs evs' : List Event) :
    σ.run cfg (evs ++ evs') = (σ.run cfg evs).run cfg evs' := by
  induction evs generalizing σ with
  | nil => rfl
  | cons e evs ih => exact ih _

/-- Every event of a run satisfies `P` in the state it runs in. -/
def Along (cfg : Config) (P : Node → Event → Prop) : Node → List Event → Prop
  | _, [] => True
  | σ, e :: evs => P σ e ∧ Along cfg P (σ.step cfg e) evs

instance instDecidableAlong (cfg : Config) (P : Node → Event → Prop) [∀ σ e, Decidable (P σ e)] :
    (σ : Node) → (evs : List Event) → Decidable (Along cfg P σ evs)
  | _, [] => isTrue trivial
  | σ, e :: evs =>
    @decidable_of_iff _ _ Iff.rfl (@instDecidableAnd _ _ _ (instDecidableAlong cfg P (σ.step cfg e) evs))

/-- What every step allowed by `P` keeps, every run along `P` keeps. -/
theorem Along.run {cfg : Config} {P : Node → Event → Prop} {I : Node → Prop}
    (step : ∀ σ e, I σ → P σ e → I (σ.step cfg e)) :
    ∀ σ evs, I σ → Along cfg P σ evs → I (σ.run cfg evs)
  | _, [], h, _ => h
  | σ, e :: evs, h, ⟨he, hevs⟩ => Along.run step _ evs (step σ e h he) hevs

/-- What every step keeps, every run keeps. -/
theorem run_inv {cfg : Config} {I : Node → Prop} (step : ∀ σ e, I σ → I (σ.step cfg e)) :
    ∀ σ evs, I σ → I (σ.run cfg evs)
  | _, [], h => h
  | σ, e :: evs, h => run_inv step _ evs (step σ e h)

@[simp] theorem allocate_validator (σ : Node) (i : Nat) : (σ.allocate i).validator = σ.validator := by
  unfold allocate; split <;> rfl

@[simp] theorem putRecordStep_validator (σ : Node) (i : Nat) (ok : Bool) :
    (σ.putRecordStep i ok).validator = σ.validator := by
  unfold putRecordStep; split <;> (try split) <;> rfl

@[simp] theorem openPull_validator (σ : Node) (i : Nat) (ok : Bool) :
    (σ.openPull i ok).validator = σ.validator := by
  unfold openPull; split <;> rfl

@[simp] theorem configure_validator (σ : Node) (j : Nat) (configurable getOk useOk : Bool) :
    (σ.configure j configurable getOk useOk).validator = σ.validator := by
  unfold configure; split <;> rfl

@[simp] theorem completed_validator (σ : Node) (j : Nat) : (σ.completed j).validator = σ.validator := by
  unfold completed; split <;> rfl

@[simp] theorem allocate_index (σ : Node) (i : Nat) : (σ.allocate i).index = σ.index := by
  unfold allocate; split <;> rfl

@[simp] theorem openPull_index (σ : Node) (i : Nat) (ok : Bool) : (σ.openPull i ok).index = σ.index := by
  unfold openPull; split <;> rfl

@[simp] theorem configure_index (σ : Node) (j : Nat) (configurable getOk useOk : Bool) :
    (σ.configure j configurable getOk useOk).index = σ.index := by
  unfold configure; split <;> rfl

@[simp] theorem completed_index (σ : Node) (j : Nat) : (σ.completed j).index = σ.index := by
  unfold completed; split <;> rfl

@[simp] theorem putRecordStep_ms (σ : Node) (i : Nat) (ok : Bool) : (σ.putRecordStep i ok).ms = σ.ms := by
  unfold putRecordStep; split <;> (try split) <;> rfl

@[simp] theorem openPull_ms (σ : Node) (i : Nat) (ok : Bool) : (σ.openPull i ok).ms = σ.ms := by
  unfold openPull; split <;> rfl

@[simp] theorem configure_next (σ : Node) (j : Nat) (configurable getOk useOk : Bool) :
    (σ.configure j configurable getOk useOk).ms.next = σ.ms.next := by
  unfold configure; split
  · exact transportConfigurer_next ..
  · rfl

@[simp] theorem completed_next (σ : Node) (j : Nat) : (σ.completed j).ms.next = σ.ms.next := by
  unfold completed; split <;> rfl

@[simp] theorem putRecordStep_allocs (σ : Node) (i : Nat) (ok : Bool) :
    (σ.putRecordStep i ok).allocs = σ.allocs := by
  unfold putRecordStep; split <;> (try split) <;> rfl

@[simp] theorem openPull_allocs (σ : Node) (i : Nat) (ok : Bool) : (σ.openPull i ok).allocs = σ.allocs := by
  unfold openPull; split <;> rfl

@[simp] theorem configure_allocs (σ : Node) (j : Nat) (configurable getOk useOk : Bool) :
    (σ.configure j configurable getOk useOk).allocs = σ.allocs := by
  unfold configure; split <;> rfl

@[simp] theorem completed_allocs (σ : Node) (j : Nat) : (σ.completed j).allocs = σ.allocs := by
  unfold completed; split <;> rfl

/-! ### What each step can do -/

theorem allocate_cases (σ : Node) (i : Nat) :
    σ.allocate i = σ ∨ ∃ sender req, σ.inbound[i]? = some ⟨sender, req, .read⟩ ∧
      σ.allocate i = { σ with ms := σ.ms.nextID.1
                              inbound := σ.inbound.set i ⟨sender, req, .allocated (σ.ms.next + 1)⟩
                              allocs := σ.allocs ++ [(σ.ms.next + 1, req.payloadCID)] } := by
  unfold allocate
  split
  · exact .inr ⟨_, _, ‹_›, rfl⟩
  · exact .inl rfl

theorem putRecordStep_cases (σ : Node) (i : Nat) (ok : Bool) :
    σ.putRecordStep i ok = σ ∨ ∃ sender req sid, σ.inbound[i]? = some ⟨sender, req, .allocated sid⟩ ∧
      (σ.putRecordStep i ok = { σ with inbound := σ.inbound.eraseIdx i } ∨
       ok = true ∧ σ.putRecordStep i ok =
        { σ with index := putRecord σ.index req.payloadCID (requestRecord sid req.size)
                 inbound := σ.inbound.set i ⟨sender, req, .written sid⟩ }) := by
  unfold putRecordStep
  split
  · refine .inr ⟨_, _, _, ‹_›, ?_⟩
    cases ok
    · exact .inl rfl
    · exact .inr ⟨rfl, rfl⟩
  · exact .inl rfl

theorem openPull_cases (σ : Node) (i : Nat) (ok : Bool) :
    σ.openPull i ok = σ ∨ ∃ sender req sid, σ.inbound[i]? = some ⟨sender, req, .written sid⟩ ∧
      σ.openPull i ok = { σ with inbound := σ.inbound.eraseIdx i
                                 channels := if ok then σ.channels ++ [⟨sender, req, .pending⟩]
                                   else σ.channels } := by
  unfold openPull
  split
  · exact .inr ⟨_, _, _, ‹_›, rfl⟩
  · exact .inl rfl

theorem configure_cases (σ : Node) (j : Nat) (configurable getOk useOk : Bool) :
    σ.configure j configurable getOk useOk = σ ∨ ∃ sender req, σ.channels[j]? = some ⟨sender, req, .pending⟩ ∧
      σ.configure j configurable getOk useOk =
        { σ with ms := (transportConfigurer σ.index σ.ms req configurable getOk useOk).1
                 channels := σ.channels.set j
                   ⟨sender, req, (transportConfigurer σ.index σ.ms req configurable getOk useOk).2⟩ } := by
  unfold configure
  split
  · exact .inr ⟨_, _, ‹_›, rfl⟩
  · exact .inl rfl

theorem completed_cases (σ : Node) (j : Nat) :
    σ.completed j = σ ∨ ∃ sid root, σ.completed j = { σ with ms := σ.ms.addRoot sid root } := by
  unfold completed
  split
  · exact .inr ⟨_, _, rfl⟩
  · exact .inl rfl

/-- What one event does to the index: nothing, a `PutRecord` of the record `HandleRequest`
or `Register` writes, or a `RemoveRecord`. -/
theorem index_step_cases (cfg : Config) (σ : Node) (e : Event) :
    (σ.step cfg e).index = σ.index ∨
      (∃ c s size, (σ.step cfg e).index = putRecord σ.index c (requestRecord s size)) ∨
      (∃ c s, (σ.step cfg e).index = putRecord σ.index c (registerRecord s)) ∨
      ∃ c, (σ.step cfg e).index = removeRecord σ.index c := by
  cases e with
  | putRecord i ok =>
    rcases putRecordStep_cases σ i ok with h | ⟨_, req, sid, _, h | ⟨_, h⟩⟩
    · exact .inl (congrArg Node.index h)
    · exact .inl ((congrArg Node.index h).trans rfl)
    · exact .inr (.inl ⟨_, _, _, (congrArg Node.index h).trans rfl⟩)
  | transferError recipient baseCid removeOk =>
    by_cases h : recipient = cfg.self ∧ removeOk = true
    · exact .inr (.inr (.inr ⟨baseCid, congrArg Node.index (if_pos h)⟩))
    · exact .inl (congrArg Node.index (if_neg h))
  | register key sid ok =>
    by_cases h : ok = true
    · exact .inr (.inr (.inl ⟨key, sid, congrArg Node.index (if_pos h)⟩))
    · exact .inl (congrArg Node.index (if_neg h))
  | removeContent root deleteOk removeOk =>
    rcases (removeContent_cases σ.index σ.ms root deleteOk removeOk).1 with h | h
    · exact .inl h
    · exact .inr (.inr (.inr ⟨root, h⟩))
  | receive _ read => cases read <;> exact .inl rfl
  | allocate => exact .inl (allocate_index ..)
  | openPull => exact .inl (openPull_index ..)
  | configure => exact .inl (configure_index ..)
  | completed => exact .inl (completed_index ..)
  | dispatch | importDag => exact .inl rfl

/-- Only `Dispatch` writes the authorization table. -/
theorem step_validator (cfg : Config) (σ : Node) (e : Event) :
    (σ.step cfg e).validator =
      match e with
      | .dispatch r conns ps opens => (Supply.dispatch cfg σ.validator r conns ps opens).auth
      | _ => σ.validator := by
  cases e with
  | receive _ read => cases read <;> rfl
  | transferError recipient baseCid removeOk =>
    show (if recipient = cfg.self ∧ removeOk then _ else σ).validator = σ.validator
    split <;> rfl
  | register key sid ok =>
    show (if ok then _ else σ).validator = σ.validator
    split <;> rfl
  | allocate => exact allocate_validator ..
  | putRecord => exact putRecordStep_validator ..
  | openPull => exact openPull_validator ..
  | configure => exact configure_validator ..
  | completed => exact completed_validator ..
  | _ => rfl

end Node

end Pop.Supply
