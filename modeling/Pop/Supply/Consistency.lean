import Pop.Supply.Node

/-!
# The index and the multistore

`GetStoreID` answers a CID with the store ID its last record write named, for both writes
this code makes (`Register`, and `HandleRequest`'s `PutRecord` of the ID `Next` gave) and
over the whole 64-bit range, until an event writes or removes that record again
(`getStore_after_write`); every record keeps a label `GetStoreID` reads
(`readable_run`). The index and the multistore are not kept consistent
(`consistency_breaks`): `RemoveContent` deletes a store that another record still names,
or deletes it and then fails to remove the record; and the `Error` subscription of `New`
removes the record of a failed pull without deleting the store its channel opened.
-/

namespace Pop.Supply
set_option autoImplicit false

/-! ### The record of one CID along a run -/

/-- Events that leave the record of `c` alone, judged in the state they run in: all but a
successful `PutRecord` of an inbound request for `c`, an `Error` event for `c` addressed
to this host whose `RemoveRecord` succeeds, a successful `Register` of `c`, and a
`RemoveContent` of `c` whose `Delete` and `RemoveRecord` succeed. -/
def Spares (cfg : Config) (c : Cid) (σ : Node) : Event → Prop
  | .putRecord i ok => ok = true → ∀ h ∈ σ.inbound[i]?, h.req.payloadCID ≠ c
  | .transferError recipient baseCid removeOk => recipient = cfg.self → removeOk = true → baseCid ≠ c
  | .register key _ ok => ok = true → key ≠ c
  | .removeContent root deleteOk removeOk => deleteOk = true → removeOk = true → root ≠ c
  | _ => True

instance (cfg : Config) (c : Cid) (σ : Node) : (e : Event) → Decidable (Spares cfg c σ e)
  | .putRecord i ok => inferInstanceAs (Decidable (ok = true → ∀ h ∈ σ.inbound[i]?, h.req.payloadCID ≠ c))
  | .transferError recipient baseCid removeOk =>
    inferInstanceAs (Decidable (recipient = cfg.self → removeOk = true → baseCid ≠ c))
  | .register key _ ok => inferInstanceAs (Decidable (ok = true → key ≠ c))
  | .removeContent root deleteOk removeOk =>
    inferInstanceAs (Decidable (deleteOk = true → removeOk = true → root ≠ c))
  | .dispatch .. | .receive .. | .allocate _ | .openPull .. | .configure .. | .completed _
  | .importDag .. => isTrue trivial

theorem removeContent_index_ne {idx : ContentIndex} {ms : MultiStore} {root c : Cid}
    {deleteOk removeOk : Bool} (spares : deleteOk = true → removeOk = true → root ≠ c) :
    (removeContent idx ms root deleteOk removeOk).1 c = idx c := by
  unfold removeContent
  split
  · rfl
  · cases deleteOk
    · rfl
    · cases removeOk
      · rfl
      · exact removeRecord_ne (spares rfl rfl).symm

/-- An event that spares `c` leaves its record as it is. -/
theorem index_step {cfg : Config} {c : Cid} {σ : Node} {e : Event} (spares : Spares cfg c σ e) :
    (σ.step cfg e).index c = σ.index c := by
  cases e with
  | putRecord i ok =>
    show (σ.putRecordStep i ok).index c = σ.index c
    rcases Node.putRecordStep_cases σ i ok with h | ⟨_, req, _, hi, h | ⟨hok, h⟩⟩ <;> rw [h]
    exact putRecord_ne _ (spares hok _ hi).symm
  | transferError recipient baseCid removeOk =>
    show (if recipient = cfg.self ∧ removeOk then _ else σ).index c = σ.index c
    split
    · exact removeRecord_ne (spares ‹_ ∧ _›.1 ‹_ ∧ _›.2).symm
    · rfl
  | register key sid ok =>
    show (if ok then _ else σ).index c = σ.index c
    split
    · exact putRecord_ne _ (spares ‹_›).symm
    · rfl
  | removeContent => exact removeContent_index_ne spares
  | receive _ read => cases read <;> rfl
  | allocate => exact congrFun (Node.allocate_index ..) c
  | openPull => exact congrFun (Node.openPull_index ..) c
  | configure => exact congrFun (Node.configure_index ..) c
  | completed => exact congrFun (Node.completed_index ..) c
  | dispatch | importDag => rfl

/-- Along a run that spares `c`, the record of `c` stays as it is. -/
theorem index_run {cfg : Config} {c : Cid} {σ : Node} {evs : List Event}
    (spared : Node.Along cfg (Spares cfg c) σ evs) : (σ.run cfg evs).index c = σ.index c :=
  @Node.Along.run cfg (Spares cfg c) (fun σ' => σ'.index c = σ.index c)
    (fun _ _ h spares => (index_step spares).trans h) σ evs rfl spared

/-- The two writes of a record naming `s` for `c`: `Register(c, s)` succeeding, and the
`PutRecord` of an inbound request for `c` whose `Next` gave `s`. -/
def WritesStore (c : Cid) (s : StoreID) (σ : Node) : Event → Prop
  | .register key sid ok => key = c ∧ sid = s ∧ ok = true
  | .putRecord i ok => ok = true ∧ ∃ h ∈ σ.inbound[i]?, h.req.payloadCID = c ∧ h.stage = .allocated s
  | _ => False

instance (c : Cid) (s : StoreID) (σ : Node) : (e : Event) → Decidable (WritesStore c s σ e)
  | .register key sid ok => inferInstanceAs (Decidable (key = c ∧ sid = s ∧ ok = true))
  | .putRecord i ok => inferInstanceAs
      (Decidable (ok = true ∧ ∃ h ∈ σ.inbound[i]?, h.req.payloadCID = c ∧ h.stage = .allocated s))
  | .dispatch .. | .receive .. | .allocate _ | .openPull .. | .configure .. | .completed _
  | .transferError .. | .removeContent .. | .importDag .. => isFalse id

/-- Either write makes `GetStoreID(c)` read `s` back. -/
theorem getStoreID_step_writes {cfg : Config} {c : Cid} {s : StoreID} {σ : Node} {e : Event}
    (writes : WritesStore c s σ e) : getStoreID (σ.step cfg e).index c = .ok s := by
  cases e with
  | register key sid ok =>
    obtain ⟨rfl, rfl, rfl⟩ := writes
    exact (getStoreID_of_some (putRecord_self _ _ _)).trans (registerRecord_getStoreID _)
  | putRecord i ok =>
    obtain ⟨rfl, ⟨sender, req, stage⟩, hi, rfl, rfl⟩ := writes
    show getStoreID (σ.putRecordStep i true).index req.payloadCID = .ok s
    rw [Node.putRecordStep, hi]
    exact (getStoreID_of_some (putRecord_self _ _ _)).trans (requestRecord_getStoreID _ _)
  | _ => exact writes.elim

/-- After either write of a record naming `s` for `c`, and as long as no later event
writes or removes that record, `GetStoreID(c)` is `s` and `GetStore(c)` opens `ms.Get(s)`. -/
theorem getStore_after_write (cfg : Config) (c : Cid) (s : StoreID) (σ : Node) (e : Event)
    (evs : List Event) (writes : WritesStore c s σ e)
    (spared : Node.Along cfg (Spares cfg c) (σ.step cfg e) evs) :
    getStoreID ((σ.step cfg e).run cfg evs).index c = .ok s ∧
      ∀ ms getOk, getStore ((σ.step cfg e).run cfg evs).index ms c getOk =
        if getOk then .ok (ms.get s, s) else .error .openStore := by
  have hs : getStoreID ((σ.step cfg e).run cfg evs).index c = .ok s :=
    (getStoreID_of_eq (index_run spared)).trans (getStoreID_step_writes writes)
  exact ⟨hs, fun ms getOk => by rw [getStore, hs]⟩

theorem getStore_after_request_max :
    WritesStore ⟨"Q"⟩ 18446744073709551615
      ((Node.start (fun _ => none) ⟨18446744073709551614, fun _ => .unopened⟩).run ⟨⟨"A"⟩, []⟩
        [.receive ⟨"B"⟩ (some ⟨⟨"Q"⟩, 100⟩), .allocate 0]) (.putRecord 0 true) ∧
    Node.Along ⟨⟨"A"⟩, []⟩ (Spares ⟨⟨"A"⟩, []⟩ ⟨"Q"⟩)
      (((Node.start (fun _ => none) ⟨18446744073709551614, fun _ => .unopened⟩).run ⟨⟨"A"⟩, []⟩
        [.receive ⟨"B"⟩ (some ⟨⟨"Q"⟩, 100⟩), .allocate 0]).step ⟨⟨"A"⟩, []⟩ (.putRecord 0 true))
      [.register ⟨"R"⟩ 3 true, .openPull 0 true, .configure 0 true true true,
       .transferError ⟨"A"⟩ ⟨"R"⟩ true] ∧
    getStoreID ((((Node.start (fun _ => none) ⟨18446744073709551614, fun _ => .unopened⟩).run
        ⟨⟨"A"⟩, []⟩ [.receive ⟨"B"⟩ (some ⟨⟨"Q"⟩, 100⟩), .allocate 0]).step ⟨⟨"A"⟩, []⟩
        (.putRecord 0 true)).run ⟨⟨"A"⟩, []⟩
      [.register ⟨"R"⟩ 3 true, .openPull 0 true, .configure 0 true true true,
       .transferError ⟨"A"⟩ ⟨"R"⟩ true]).index ⟨"Q"⟩ = .ok 18446744073709551615 :=
  ⟨by decide, by decide, (getStore_after_write _ _ _ _ _ _ (by decide) (by decide)).1⟩

/-! ### Every record names a store -/

/-- Every record of the index carries a `storeId` label that `GetStoreID` reads. -/
def Readable (idx : ContentIndex) : Prop :=
  ∀ c rec, idx c = some rec → ∃ sid, rec.getStoreID = .ok sid

theorem Readable.putRecord {idx : ContentIndex} (readable : Readable idx) (c : Cid)
    {rec : ContentRecord} {sid : StoreID} (named : rec.getStoreID = .ok sid) :
    Readable (putRecord idx c rec) := fun c' rec' h => by
  by_cases hc : c' = c
  · subst hc
    rw [putRecord_self, Option.some.injEq] at h
    exact ⟨sid, h ▸ named⟩
  · exact readable c' rec' (by rwa [putRecord_ne _ hc] at h)

theorem Readable.removeRecord {idx : ContentIndex} (readable : Readable idx) (c : Cid) :
    Readable (removeRecord idx c) := fun c' rec h => by
  by_cases hc : c' = c
  · subst hc
    rw [removeRecord_self] at h
    cases h
  · exact readable c' rec (by rwa [removeRecord_ne hc] at h)

/-- From an index whose records all name a store, every run keeps them so: the code
writes only the two records of `Register` and `HandleRequest`, and removes records. -/
theorem readable_run (cfg : Config) (σ : Node) (evs : List Event) (readable : Readable σ.index) :
    Readable (σ.run cfg evs).index := by
  refine @Node.run_inv cfg (fun σ => Readable σ.index) (fun σ e h => ?_) σ evs readable
  rcases Node.index_step_cases cfg σ e with he | ⟨c, s, size, he⟩ | ⟨c, s, he⟩ | ⟨c, he⟩ <;> rw [he]
  · exact h
  · exact h.putRecord c (requestRecord_getStoreID s size)
  · exact h.putRecord c (registerRecord_getStoreID s)
  · exact h.removeRecord c

theorem readable_run_request :
    Readable (Node.start (fun _ => none) ⟨0, fun _ => .unopened⟩).index ∧
      Readable ((Node.start (fun _ => none) ⟨0, fun _ => .unopened⟩).run ⟨⟨"A"⟩, []⟩
        [.register ⟨"R"⟩ 7 true, .receive ⟨"B"⟩ (some ⟨⟨"Q"⟩, 100⟩), .allocate 0, .putRecord 0 true,
         .removeContent ⟨"R"⟩ true true]).index :=
  have empty : Readable (Node.start (fun _ => none) ⟨0, fun _ => .unopened⟩).index :=
    fun _ _ h => Option.noConfusion h
  ⟨empty, readable_run _ _ _ empty⟩

/-! ### Consistency of the index with the multistore -/

/-- The index and the multistore agree: every record names, in a label `GetStoreID`
accepts, a store that has not been deleted; and every store an inbound request allocated
and a channel then opened is named by a record or has been deleted. -/
structure Consistent (σ : Node) : Prop where
  live : ∀ c rec, σ.index c = some rec → ∃ sid, rec.getStoreID = .ok sid ∧ σ.ms.slots sid ≠ .deleted
  claimed : ∀ a ∈ σ.allocs, σ.ms.slots a.1 ≠ .unopened →
    (∃ c, getStoreID σ.index c = .ok a.1) ∨ σ.ms.slots a.1 = .deleted

theorem Consistent.start (ms : MultiStore) : Consistent (Node.start (fun _ => none) ms) :=
  ⟨fun _ _ h => Option.noConfusion h, fun _ h => (List.not_mem_nil _ h).elim⟩

/-- A record naming a deleted store breaks consistency. -/
theorem not_consistent_of_dangling {σ : Node} (c : Cid) (rec : ContentRecord) (sid : StoreID)
    (hrec : σ.index c = some rec) (hsid : rec.getStoreID = .ok sid)
    (deleted : σ.ms.slots sid = .deleted) : ¬Consistent σ := fun h => by
  obtain ⟨sid', hs, hl⟩ := h.live c rec hrec
  rw [hsid, Except.ok.injEq] at hs
  exact hl (hs ▸ deleted)

/-- So does an allocated store that is open and that no record names. -/
theorem not_consistent_of_orphan {σ : Node} (sid : StoreID) (c : Cid) (roots : List Cid)
    (alloc : (sid, c) ∈ σ.allocs) (opened : σ.ms.slots sid = .opened roots)
    (unindexed : ∀ c', σ.index c' = none) : ¬Consistent σ := fun h => by
  rcases h.claimed _ alloc (by rw [opened]; exact Slot.noConfusion) with ⟨c', hc'⟩ | hd
  · rw [getStoreID_of_none (unindexed c')] at hc'
    cases hc'
  · rw [opened] at hd
    cases hd

/-- Consistency holds at the start and breaks in three runs: a `RemoveContent` of one of
two CIDs registered to a store, every call succeeding; a `RemoveContent` whose
`RemoveRecord` fails after `Delete` succeeded; and an `Error` event for a pull whose
channel opened the store it was allocated. -/
theorem consistency_breaks :
    Consistent (Node.start (fun _ => none) ⟨0, fun _ => .unopened⟩) ∧
    ¬Consistent ((Node.start (fun _ => none) ⟨0, fun _ => .unopened⟩).run ⟨⟨"A"⟩, []⟩
      [.importDag 5 ⟨"Q"⟩, .importDag 5 ⟨"R"⟩, .register ⟨"Q"⟩ 5 true, .register ⟨"R"⟩ 5 true,
       .removeContent ⟨"Q"⟩ true true]) ∧
    ¬Consistent ((Node.start (fun _ => none) ⟨0, fun _ => .unopened⟩).run ⟨⟨"A"⟩, []⟩
      [.importDag 5 ⟨"Q"⟩, .register ⟨"Q"⟩ 5 true, .removeContent ⟨"Q"⟩ true false]) ∧
    ¬Consistent ((Node.start (fun _ => none) ⟨0, fun _ => .unopened⟩).run ⟨⟨"A"⟩, []⟩
      [.receive ⟨"B"⟩ (some ⟨⟨"Q"⟩, 100⟩), .allocate 0, .putRecord 0 true, .openPull 0 true,
       .configure 0 true true true, .transferError ⟨"A"⟩ ⟨"Q"⟩ true]) := by
  refine ⟨Consistent.start _,
    not_consistent_of_dangling ⟨"R"⟩ (registerRecord 5) 5 (by decide) (registerRecord_getStoreID 5)
      (by decide),
    not_consistent_of_dangling ⟨"Q"⟩ (registerRecord 5) 5 (by decide) (registerRecord_getStoreID 5)
      (by decide),
    not_consistent_of_orphan 1 ⟨"Q"⟩ [] (by decide) (by decide) fun c => ?_⟩
  show removeRecord (putRecord (fun _ => none) ⟨"Q"⟩ (requestRecord 1 100)) ⟨"Q"⟩ c = none
  by_cases hc : c = ⟨"Q"⟩
  · rw [hc, removeRecord_self]
  · rw [removeRecord_ne hc, putRecord_ne _ hc]

end Pop.Supply
