import Pop.Supply.Node

/-!
# Store isolation of inbound pull channels

`HandleRequest` allocates a fresh store per request and indexes the payload to it before
opening the pull; `TransportConfigurer` routes the channel to the store the index names
for its payload when it runs. `Owned` ties every store ID in play to the payload it was
allocated for; it holds from `New` on along any run without `Register` in which the store
IDs `ms.Next` hands out do not wrap, so two channels routed to one store carry one payload,
and a channel configured while its payload's entry is present goes to a store allocated for
that payload.

A channel whose configurer finds no entry (the entry was removed first by an `Error`
event or `RemoveContent`) returns before `UseStore` and stays on the transport's shared
default store: `shared_channels` is such a run, with two payloads on that store.
-/

namespace Pop.Supply
set_option autoImplicit false

/-- The payload `c` has a request past its index write, or a channel not configured yet. -/
def Awaits (σ : Node) (c : Cid) : Prop :=
  (∃ h ∈ σ.inbound, (∃ sid, h.stage = .written sid) ∧ h.req.payloadCID = c) ∨
    ∃ ch ∈ σ.channels, ch.route = .pending ∧ ch.req.payloadCID = c

/-- Every store ID in play was allocated for the payload it serves, and allocations are
distinct IDs no later than the counter. -/
structure Owned (σ : Node) : Prop where
  distinct : (σ.allocs.map Prod.fst).Nodup
  below : ∀ a ∈ σ.allocs, a.1.toNat ≤ σ.ms.next.toNat
  inbound : ∀ h ∈ σ.inbound, ∀ sid, h.stage = .allocated sid ∨ h.stage = .written sid →
    (sid, h.req.payloadCID) ∈ σ.allocs
  indexed : ∀ c sid, Awaits σ c → getStoreID σ.index c = .ok sid → (sid, c) ∈ σ.allocs
  routed : ∀ ch ∈ σ.channels, ∀ sid, ch.route = .store sid → (sid, ch.req.payloadCID) ∈ σ.allocs

/-- `σ'` brings nothing new for `Owned` to account for. -/
structure Shrinks (σ σ' : Node) : Prop where
  allocs : σ'.allocs = σ.allocs
  next : σ'.ms.next = σ.ms.next
  inbound : ∀ h ∈ σ'.inbound, h ∈ σ.inbound ∨ h.stage = .read
  channels : σ'.channels = σ.channels
  index : ∀ c rec, σ'.index c = some rec → σ.index c = some rec

theorem getStoreID_of_sub {idx idx' : ContentIndex} {c : Cid} {sid : StoreID}
    (sub : ∀ rec, idx' c = some rec → idx c = some rec) (h : getStoreID idx' c = .ok sid) :
    getStoreID idx c = .ok sid := by
  cases hc : idx' c with
  | none => rw [getStoreID_of_none hc] at h; cases h
  | some rec => rwa [getStoreID_of_some (sub rec hc), ← getStoreID_of_some hc]

theorem Owned.shrink {σ σ' : Node} (owned : Owned σ) (hs : Shrinks σ σ') : Owned σ' := by
  have awaits : ∀ c, Awaits σ' c → Awaits σ c := by
    rintro c (⟨h, hh, ⟨sid, hw⟩, rfl⟩ | ⟨ch, hch, hp⟩)
    · rcases hs.inbound h hh with hh | hr
      · exact .inl ⟨h, hh, ⟨sid, hw⟩, rfl⟩
      · rw [hw] at hr; cases hr
    · exact .inr ⟨ch, hs.channels ▸ hch, hp⟩
  refine ⟨hs.allocs ▸ owned.distinct, ?_, fun h hh sid hst => ?_, fun c sid ha hg => ?_, ?_⟩
  · rw [hs.allocs, hs.next]; exact owned.below
  · rw [hs.allocs]
    rcases hs.inbound h hh with hh | hr
    · exact owned.inbound h hh sid hst
    · rcases hst with hst | hst <;> rw [hst] at hr <;> cases hr
  · rw [hs.allocs]; exact owned.indexed c sid (awaits c ha) (getStoreID_of_sub (hs.index c) hg)
  · rw [hs.channels, hs.allocs]; exact owned.routed

theorem awaits_self_inbound {σ : Node} {h : Inbound} {sid : StoreID} (hh : h ∈ σ.inbound)
    (hw : h.stage = .written sid) : Awaits σ h.req.payloadCID :=
  .inl ⟨h, hh, ⟨sid, hw⟩, rfl⟩

theorem awaits_self_channel {σ : Node} {ch : Channel} (hc : ch ∈ σ.channels)
    (hp : ch.route = .pending) : Awaits σ ch.req.payloadCID :=
  .inr ⟨ch, hc, hp, rfl⟩

theorem Owned.allocate {σ : Node} (owned : Owned σ) (i : Nat)
    (noWrap : σ.ms.next.toNat + ((σ.allocate i).allocs.length - σ.allocs.length) < 2 ^ 64) :
    Owned (σ.allocate i) := by
  rcases Node.allocate_cases σ i with h | ⟨sender, req, -, h⟩
  · rwa [h]
  rw [h, List.length_append, List.length_singleton, Nat.add_sub_cancel_left] at noWrap
  rw [h]
  have hn := MultiStore.next_toNat_succ noWrap
  have grow : ∀ a ∈ σ.allocs, a ∈ σ.allocs ++ [(σ.ms.next + 1, req.payloadCID)] :=
    fun a ha => List.mem_append_left _ ha
  refine ⟨?_, fun a ha => ?_, fun h hh sid hst => ?_, fun c sid ha hg => grow _ ?_,
    fun ch hch sid hr => grow _ (owned.routed ch hch sid hr)⟩
  · rw [List.map_append, List.nodup_append]
    refine ⟨owned.distinct, List.nodup_singleton _, fun x hx hy => ?_⟩
    obtain ⟨a, ha, rfl⟩ := List.mem_map.1 hx
    have hb := owned.below a ha
    simp only [List.map_cons, List.map_nil, List.mem_singleton] at hy
    rw [hy, hn] at hb
    omega
  · show a.1.toNat ≤ (σ.ms.next + 1).toNat
    rcases List.mem_append.1 ha with ha | ha
    · have := owned.below a ha; omega
    · rw [List.mem_singleton.1 ha]
  · rcases List.mem_or_eq_of_mem_set hh with hh | rfl
    · exact grow _ (owned.inbound h hh sid hst)
    · simp only [Stage.allocated.injEq, or_false, reduceCtorEq] at hst
      rw [← hst]
      exact List.mem_append_right _ (List.mem_singleton_self _)
  · rcases ha with ⟨h, hh, ⟨s, hw⟩, rfl⟩ | ⟨ch, hch, hp, rfl⟩
    · rcases List.mem_or_eq_of_mem_set hh with hh | rfl
      · exact owned.indexed _ sid (awaits_self_inbound hh hw) hg
      · cases hw
    · exact owned.indexed _ sid (awaits_self_channel hch hp) hg

theorem Owned.putRecord {σ : Node} (owned : Owned σ) (i : Nat) (ok : Bool) :
    Owned (σ.putRecordStep i ok) := by
  rcases Node.putRecordStep_cases σ i ok with h | ⟨sender, req, sid, hi, h | ⟨-, h⟩⟩
  · rwa [h]
  · rw [h]
    exact owned.shrink ⟨rfl, rfl, fun h hh => .inl (List.mem_of_mem_eraseIdx hh), rfl, fun _ _ h => h⟩
  rw [h]
  have hold := owned.inbound _ (List.getElem?_mem hi) sid (.inl rfl)
  refine ⟨owned.distinct, owned.below, fun h hh s hst => ?_, fun c s ha hg => ?_, owned.routed⟩
  · rcases List.mem_or_eq_of_mem_set hh with hh | rfl
    · exact owned.inbound h hh s hst
    · simp only [Stage.written.injEq, reduceCtorEq, false_or] at hst
      rwa [← hst]
  · by_cases hc : c = req.payloadCID
    · subst hc
      rw [getStoreID_of_some (putRecord_self _ _ _), requestRecord_getStoreID] at hg
      cases hg
      exact hold
    · rw [getStoreID_of_eq (putRecord_ne _ hc)] at hg
      rcases ha with ⟨h, hh, ⟨s', hw⟩, rfl⟩ | ⟨ch, hch, hp, rfl⟩
      · rcases List.mem_or_eq_of_mem_set hh with hh | rfl
        · exact owned.indexed _ s (awaits_self_inbound hh hw) hg
        · exact absurd rfl hc
      · exact owned.indexed _ s (awaits_self_channel hch hp) hg

theorem Owned.openPull {σ : Node} (owned : Owned σ) (i : Nat) (ok : Bool) : Owned (σ.openPull i ok) := by
  rcases Node.openPull_cases σ i ok with h | ⟨sender, req, sid, hi, h⟩
  · rwa [h]
  rw [h]
  have waiting : Awaits σ req.payloadCID := awaits_self_inbound (List.getElem?_mem hi) rfl
  have channels : ∀ ch ∈ (if ok then σ.channels ++ [⟨sender, req, .pending⟩] else σ.channels),
      ch ∈ σ.channels ∨ ch = ⟨sender, req, .pending⟩ := by
    intro ch hch
    split at hch
    · simpa using hch
    · exact .inl hch
  refine ⟨owned.distinct, owned.below, fun h hh => owned.inbound h (List.mem_of_mem_eraseIdx hh),
    fun c s ha hg => ?_, fun ch hch s hr => ?_⟩
  · rcases ha with ⟨h, hh, hw, rfl⟩ | ⟨ch, hch, hp, rfl⟩
    · exact owned.indexed _ s (.inl ⟨h, List.mem_of_mem_eraseIdx hh, hw, rfl⟩) hg
    · rcases channels ch hch with hch | rfl
      · exact owned.indexed _ s (awaits_self_channel hch hp) hg
      · exact owned.indexed _ s waiting hg
  · rcases channels ch hch with hch | rfl
    · exact owned.routed ch hch s hr
    · cases hr

theorem transportConfigurer_ne_pending (idx : ContentIndex) (ms : MultiStore) (req : Request)
    (configurable getOk useOk : Bool) :
    (transportConfigurer idx ms req configurable getOk useOk).2 ≠ .pending := by
  rcases transportConfigurer_cases idx ms req configurable getOk useOk with h | ⟨sid, -, h⟩ <;>
    rw [h] <;> (try split) <;> simp

theorem Owned.configure {σ : Node} (owned : Owned σ) (j : Nat) (configurable getOk useOk : Bool) :
    Owned (σ.configure j configurable getOk useOk) := by
  rcases Node.configure_cases σ j configurable getOk useOk with h | ⟨sender, req, hj, h⟩
  · rwa [h]
  rw [h]
  have waiting : Awaits σ req.payloadCID := awaits_self_channel (List.getElem?_mem hj) rfl
  refine ⟨owned.distinct, by simp only [transportConfigurer_next]; exact owned.below, owned.inbound,
    fun c s ha hg => ?_,
    fun ch hch s hr => ?_⟩
  · rcases ha with ⟨h, hh, hw, rfl⟩ | ⟨ch, hch, hp, rfl⟩
    · exact owned.indexed _ s (.inl ⟨h, hh, hw, rfl⟩) hg
    · rcases List.mem_or_eq_of_mem_set hch with hch | rfl
      · exact owned.indexed _ s (awaits_self_channel hch hp) hg
      · exact absurd hp (transportConfigurer_ne_pending _ _ _ _ _ _)
  · rcases List.mem_or_eq_of_mem_set hch with hch | rfl
    · exact owned.routed ch hch s hr
    · exact owned.indexed _ s waiting (transportConfigurer_store hr)

/-- The `Register` events. -/
def Event.isRegister : Event → Bool
  | .register .. => true
  | _ => false

/-- Every event but `Register` keeps `Owned`, as long as the store ID it allocates, if any,
does not wrap. -/
theorem Owned.step {cfg : Config} {σ : Node} {e : Event} (owned : Owned σ)
    (noRegister : e.isRegister = false)
    (noWrap : σ.ms.next.toNat + ((σ.step cfg e).allocs.length - σ.allocs.length) < 2 ^ 64) :
    Owned (σ.step cfg e) := by
  have same : ∀ σ', σ'.allocs = σ.allocs → σ'.ms.next = σ.ms.next → σ'.inbound = σ.inbound →
      σ'.channels = σ.channels → (∀ c rec, σ'.index c = some rec → σ.index c = some rec) → Owned σ' :=
    fun σ' ha hn hi hc hx => owned.shrink ⟨ha, hn, fun h hh => .inl (hi ▸ hh), hc, hx⟩
  cases e with
  | dispatch => exact same _ rfl rfl rfl rfl fun _ _ h => h
  | receive sender read =>
    cases read with
    | none => exact owned
    | some req =>
      refine owned.shrink ⟨rfl, rfl, fun h hh => ?_, rfl, fun _ _ h => h⟩
      rcases List.mem_append.1 hh with hh | hh
      · exact .inl hh
      · rw [List.mem_singleton.1 hh]; exact .inr rfl
  | allocate i => exact owned.allocate i noWrap
  | putRecord i ok => exact owned.putRecord i ok
  | openPull i ok => exact owned.openPull i ok
  | configure j configurable getOk useOk => exact owned.configure j configurable getOk useOk
  | completed j =>
    show Owned (σ.completed j)
    rcases Node.completed_cases σ j with h | ⟨sid, root, h⟩ <;> rw [h]
    · exact owned
    · exact same _ rfl rfl rfl rfl fun _ _ h => h
  | transferError recipient baseCid removeOk =>
    simp only [Node.step]
    split
    · refine same _ rfl rfl rfl rfl fun c rec h => ?_
      change removeRecord σ.index baseCid c = some rec at h
      by_cases hc : c = baseCid
      · subst hc; simp at h
      · rwa [removeRecord_ne hc] at h
    · exact owned
  | register => cases noRegister
  | removeContent root deleteOk removeOk =>
    exact same _ rfl (removeContent_next ..) rfl rfl fun _ _ h => removeContent_index h
  | importDag sid root => exact same _ rfl rfl rfl rfl fun _ _ h => h

/-- Only `ms.Next` moves the counter, by one, and it records the one store ID it gives. -/
theorem next_allocs_step (cfg : Config) (σ : Node) (e : Event) :
    (σ.step cfg e).ms.next = σ.ms.next ∧ (σ.step cfg e).allocs = σ.allocs ∨
      (σ.step cfg e).ms.next = σ.ms.next + 1 ∧ ∃ a, (σ.step cfg e).allocs = σ.allocs ++ [a] := by
  cases e with
  | allocate i =>
    simp only [Node.step]
    rcases Node.allocate_cases σ i with h | ⟨_, _, _, h⟩ <;> rw [h]
    · exact .inl ⟨rfl, rfl⟩
    · exact .inr ⟨rfl, _, rfl⟩
  | putRecord => exact .inl ⟨congrArg MultiStore.next (Node.putRecordStep_ms ..), Node.putRecordStep_allocs ..⟩
  | openPull => exact .inl ⟨congrArg MultiStore.next (Node.openPull_ms ..), Node.openPull_allocs ..⟩
  | configure => exact .inl ⟨Node.configure_next .., Node.configure_allocs ..⟩
  | completed => exact .inl ⟨Node.completed_next .., Node.completed_allocs ..⟩
  | receive _ read => cases read <;> exact .inl ⟨rfl, rfl⟩
  | transferError | register => exact .inl (by simp only [Node.step]; split <;> exact ⟨rfl, rfl⟩)
  | removeContent => exact .inl ⟨removeContent_next .., rfl⟩
  | dispatch | importDag => exact .inl ⟨rfl, rfl⟩

theorem allocs_length_run (cfg : Config) :
    ∀ (σ : Node) (evs : List Event), σ.allocs.length ≤ (σ.run cfg evs).allocs.length
  | _, [] => le_rfl
  | σ, e :: evs => by
    refine le_trans ?_ (allocs_length_run cfg (σ.step cfg e) evs)
    rcases next_allocs_step cfg σ e with ⟨-, h⟩ | ⟨-, a, h⟩ <;> simp [h]

/-- `Owned` holds along every run without `Register` whose allocations, counted from the
counter at its start, do not wrap. -/
theorem Owned.run (cfg : Config) :
    ∀ (σ : Node) (evs : List Event), Owned σ → (∀ e ∈ evs, e.isRegister = false) →
      σ.ms.next.toNat + ((σ.run cfg evs).allocs.length - σ.allocs.length) < 2 ^ 64 →
      Owned (σ.run cfg evs)
  | σ, [], owned, _, _ => owned
  | σ, e :: evs, owned, noRegister, noWrap => by
    have later := allocs_length_run cfg (σ.step cfg e) evs
    change σ.ms.next.toNat + (((σ.step cfg e).run cfg evs).allocs.length - σ.allocs.length) <
      2 ^ 64 at noWrap
    have bound : (σ.step cfg e).ms.next.toNat +
        (((σ.step cfg e).run cfg evs).allocs.length - (σ.step cfg e).allocs.length) < 2 ^ 64 := by
      rcases next_allocs_step cfg σ e with ⟨hn, ha⟩ | ⟨hn, a, ha⟩
      · rwa [hn, ha]
      · rw [ha, List.length_append, List.length_singleton] at later ⊢
        rw [hn, MultiStore.next_toNat_succ (by omega)]
        omega
    exact Owned.run cfg _ evs (owned.step (noRegister e (List.mem_cons_self _ _)) (by omega))
      (fun e he => noRegister e (List.mem_cons_of_mem _ he)) bound

theorem Owned.start (index : ContentIndex) (ms : MultiStore) : Owned (Node.start index ms) :=
  ⟨List.nodup_nil, fun _ h => (List.not_mem_nil _ h).elim, fun _ h => (List.not_mem_nil _ h).elim,
    fun _ _ ha => by rcases ha with ⟨_, h, _⟩ | ⟨_, h, _⟩ <;> exact (List.not_mem_nil _ h).elim,
    fun _ h => (List.not_mem_nil _ h).elim⟩

/-- Two payloads on the transport's shared default store: both inbound entries are removed
by `Error` events addressed to this host before the configurers run, so neither finds an
index entry and neither channel reaches `UseStore`; without the two events the same run
routes them to the stores 1 and 2. -/
theorem shared_channels :
    ((Node.start (fun _ => none) ⟨0, fun _ => .unopened⟩).run ⟨⟨"A"⟩, []⟩
        [.receive ⟨"B"⟩ (some ⟨⟨"Q1"⟩, 1⟩), .allocate 0, .putRecord 0 true, .openPull 0 true,
         .receive ⟨"B"⟩ (some ⟨⟨"Q2"⟩, 2⟩), .allocate 0, .putRecord 0 true, .openPull 0 true,
         .transferError ⟨"A"⟩ ⟨"Q1"⟩ true, .transferError ⟨"A"⟩ ⟨"Q2"⟩ true,
         .configure 0 true true true, .configure 1 true true true]).channels =
      [⟨⟨"B"⟩, ⟨⟨"Q1"⟩, 1⟩, .shared⟩, ⟨⟨"B"⟩, ⟨⟨"Q2"⟩, 2⟩, .shared⟩] ∧
    ((Node.start (fun _ => none) ⟨0, fun _ => .unopened⟩).run ⟨⟨"A"⟩, []⟩
        [.receive ⟨"B"⟩ (some ⟨⟨"Q1"⟩, 1⟩), .allocate 0, .putRecord 0 true, .openPull 0 true,
         .receive ⟨"B"⟩ (some ⟨⟨"Q2"⟩, 2⟩), .allocate 0, .putRecord 0 true, .openPull 0 true,
         .configure 0 true true true, .configure 1 true true true]).channels =
      [⟨⟨"B"⟩, ⟨⟨"Q1"⟩, 1⟩, .store 1⟩, ⟨⟨"B"⟩, ⟨⟨"Q2"⟩, 2⟩, .store 2⟩] := by
  decide

end Pop.Supply
