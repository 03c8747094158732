import Pop.Supply.Node

/-!
# What the index keeps for content the node holds

`Holds σ c`: the index maps `c`, through `GetStoreID`, to a store holding the whole DAG
of `c`. `holds_run`: along the operations that leave the entry of `c` alone (`Register` of
a store holding its payload, inbound requests for other payloads, configurers, completions,
errors of other payloads, dispatches), the entry and the store's content stay.

Two operations undo it (`held_content_unindexed`). The subscription `New` installs removes
the record of any `Error` event's base CID addressed to this host, so the failure of a pull
of `c` still in flight drops the entry `Register` wrote since, while the registered store
still holds the DAG; and an inbound request for `c` re-indexes `c` to the fresh, empty
store it allocated.
-/

namespace Pop.Supply
set_option autoImplicit false

/-- The index maps `c` to a store holding the DAG of `c` in full. -/
def Holds (σ : Node) (c : Cid) : Prop :=
  ∃ sid, getStoreID σ.index c = .ok sid ∧ c ∈ σ.ms.roots sid

/-- `Holds`, computed: look the store ID up, then the store's roots. -/
def holdsB (σ : Node) (c : Cid) : Bool :=
  match getStoreID σ.index c with
  | .ok sid => decide (c ∈ σ.ms.roots sid)
  | .error _ => false

theorem holdsB_iff (σ : Node) (c : Cid) : holdsB σ c = true ↔ Holds σ c := by
  unfold holdsB Holds
  split <;> simp [*]

instance (σ : Node) (c : Cid) : Decidable (Holds σ c) := decidable_of_iff _ (holdsB_iff σ c)

/-- Which events keep `Holds σ c`: no `RemoveContent`, a `Register` only of a store
holding its payload, no index write of an inbound request for `c`, no `Error` event for
`c` addressed to this host. -/
def Keeps (cfg : Config) (c : Cid) (σ : Node) : Event → Prop
  | .putRecord i _ => ∀ h ∈ σ.inbound[i]?, h.req.payloadCID ≠ c
  | .transferError recipient baseCid _ => recipient = cfg.self → baseCid ≠ c
  | .register key sid _ => key ∈ σ.ms.roots sid
  | .removeContent .. => False
  | _ => True

instance (cfg : Config) (c : Cid) (σ : Node) : (e : Event) → Decidable (Keeps cfg c σ e)
  | .putRecord i _ => inferInstanceAs (Decidable (∀ h ∈ σ.inbound[i]?, h.req.payloadCID ≠ c))
  | .transferError recipient baseCid _ => inferInstanceAs (Decidable (recipient = cfg.self → baseCid ≠ c))
  | .register key sid _ => inferInstanceAs (Decidable (key ∈ σ.ms.roots sid))
  | .removeContent .. => isFalse id
  | .dispatch .. | .receive .. | .allocate _ | .openPull .. | .configure .. | .completed _
  | .importDag .. => isTrue trivial

theorem roots_get (ms : MultiStore) (i sid : StoreID) : ms.roots sid ⊆ (ms.get i).roots sid := by
  unfold MultiStore.get
  split
  · exact List.Subset.refl _
  · by_cases h : sid = i
    · subst h
      rw [MultiStore.roots_of_not_opened ‹_›]
      exact List.nil_subset _
    · rw [MultiStore.roots_update_ne _ _ h]
      exact List.Subset.refl _

theorem roots_addRoot (ms : MultiStore) (i sid : StoreID) (root : Cid) :
    ms.roots sid ⊆ (ms.addRoot i root).roots sid := by
  by_cases h : sid = i
  · subst h
    show ms.roots sid ⊆
      ({ ms with slots := Function.update ms.slots sid (.opened (root :: ms.roots sid)) } : MultiStore).roots sid
    simp only [MultiStore.roots, Function.update_same]
    exact List.subset_cons_self _ _
  · exact (MultiStore.roots_update_ne _ _ h).symm ▸ List.Subset.refl _

theorem roots_transportConfigurer (idx : ContentIndex) (ms : MultiStore) (req : Request)
    (configurable getOk useOk : Bool) (sid : StoreID) :
    ms.roots sid ⊆ (transportConfigurer idx ms req configurable getOk useOk).1.roots sid := by
  rcases transportConfigurer_cases idx ms req configurable getOk useOk with h | ⟨s, -, h⟩ <;> rw [h]
  · exact List.Subset.refl _
  · exact roots_get _ _ _

/-- `Holds` reads only the entry of `c` and what the stores hold, which only grows. -/
theorem Holds.frame {σ σ' : Node} {c : Cid} (held : Holds σ c) (index : σ'.index c = σ.index c)
    (roots : ∀ sid, σ.ms.roots sid ⊆ σ'.ms.roots sid) : Holds σ' c := by
  obtain ⟨sid, hs, hm⟩ := held
  exact ⟨sid, by rw [getStoreID_of_eq index, hs], roots sid hm⟩

/-- One event that `Keeps` `c` held keeps it held. -/
theorem Holds.step {cfg : Config} {σ : Node} {c : Cid} {e : Event} (held : Holds σ c)
    (keeps : Keeps cfg c σ e) : Holds (σ.step cfg e) c := by
  have same : ∀ σ' : Node, σ'.index = σ.index → σ'.ms.slots = σ.ms.slots → Holds σ' c :=
    fun σ' hi hs => held.frame (by rw [hi]) fun sid => MultiStore.roots_of_slots hs sid ▸ List.Subset.refl _
  cases e with
  | dispatch => exact same _ rfl rfl
  | receive _ read => cases read <;> exact same _ rfl rfl
  | allocate i =>
    show Holds (σ.allocate i) c
    rcases Node.allocate_cases σ i with h | ⟨_, _, _, h⟩ <;> rw [h]
    exacts [held, same _ rfl rfl]
  | putRecord i ok =>
    show Holds (σ.putRecordStep i ok) c
    rcases Node.putRecordStep_cases σ i ok with h | ⟨_, req, _, hi, h | ⟨-, h⟩⟩ <;> rw [h]
    · exact held
    · exact same _ rfl rfl
    · have hc : c ≠ req.payloadCID := fun hc => keeps _ hi hc.symm
      exact held.frame (putRecord_ne _ hc) fun _ => List.Subset.refl _
  | openPull i ok =>
    show Holds (σ.openPull i ok) c
    rcases Node.openPull_cases σ i ok with h | ⟨_, _, _, _, h⟩ <;> rw [h]
    exacts [held, same _ rfl rfl]
  | configure j configurable getOk useOk =>
    show Holds (σ.configure j configurable getOk useOk) c
    rcases Node.configure_cases σ j configurable getOk useOk with h | ⟨_, req, _, h⟩ <;> rw [h]
    exacts [held, held.frame rfl (roots_transportConfigurer _ _ req _ _ _)]
  | completed j =>
    show Holds (σ.completed j) c
    rcases Node.completed_cases σ j with h | ⟨sid, root, h⟩ <;> rw [h]
    exacts [held, held.frame rfl (roots_addRoot _ sid · root)]
  | transferError recipient baseCid removeOk =>
    show Holds (if recipient = cfg.self ∧ removeOk then _ else σ) c
    split
    · rename_i hr
      exact held.frame (removeRecord_ne (Ne.symm (keeps hr.1))) fun _ => List.Subset.refl _
    · exact held
  | register key sid ok =>
    show Holds (if ok then _ else σ) c
    split
    · by_cases hk : key = c
      · subst hk
        exact ⟨sid, by rw [getStoreID_of_some (putRecord_self _ _ _), registerRecord_getStoreID], keeps⟩
      · exact held.frame (putRecord_ne _ (Ne.symm hk)) fun _ => List.Subset.refl _
    · exact held
  | removeContent => exact keeps.elim
  | importDag sid root => exact held.frame rfl (roots_addRoot _ sid · root)

/-- Once `c` is held, it stays held along every run of events that keep it. -/
theorem holds_run (cfg : Config) (c : Cid) (σ : Node) (evs : List Event) (held : Holds σ c)
    (keeps : Node.Along cfg (Keeps cfg c) σ evs) : Holds (σ.run cfg evs) c :=
  @Node.Along.run cfg (Keeps cfg c) (Holds · c) (fun _ _ held keeps => held.step keeps) σ evs held keeps

theorem holds_run_other_payload :
    Holds ((Node.start (fun _ => none) ⟨0, fun _ => .unopened⟩).run ⟨⟨"A"⟩, []⟩
        [.importDag 5 ⟨"Q"⟩, .register ⟨"Q"⟩ 5 true]) ⟨"Q"⟩ ∧
    Node.Along ⟨⟨"A"⟩, []⟩ (Keeps ⟨⟨"A"⟩, []⟩ ⟨"Q"⟩) ((Node.start (fun _ => none) ⟨0, fun _ => .unopened⟩).run ⟨⟨"A"⟩, []⟩
        [.importDag 5 ⟨"Q"⟩, .register ⟨"Q"⟩ 5 true])
      [.receive ⟨"B"⟩ (some ⟨⟨"R"⟩, 1⟩), .allocate 0, .putRecord 0 true, .openPull 0 true,
       .configure 0 true true true, .completed 0, .transferError ⟨"A"⟩ ⟨"R"⟩ true] ∧
    Holds (((Node.start (fun _ => none) ⟨0, fun _ => .unopened⟩).run ⟨⟨"A"⟩, []⟩
        [.importDag 5 ⟨"Q"⟩, .register ⟨"Q"⟩ 5 true]).run ⟨⟨"A"⟩, []⟩
      [.receive ⟨"B"⟩ (some ⟨⟨"R"⟩, 1⟩), .allocate 0, .putRecord 0 true, .openPull 0 true,
       .configure 0 true true true, .completed 0, .transferError ⟨"A"⟩ ⟨"R"⟩ true]) ⟨"Q"⟩ :=
  ⟨by decide, by decide, holds_run _ _ _ _ (by decide) (by decide)⟩

/-- Content the node holds loses its entry. An inbound pull of `Q` from `B` is in flight
when `Q` is imported into store 5 and registered there; the pull then fails, and the
`Error` event addressed to this host removes the entry of `Q` although store 5 still holds
its DAG. And an inbound request for `Q`, once registered, re-indexes it to the empty store
the request allocated. -/
theorem held_content_unindexed :
    Holds ((Node.start (fun _ => none) ⟨0, fun _ => .unopened⟩).run ⟨⟨"A"⟩, []⟩
        [.receive ⟨"B"⟩ (some ⟨⟨"Q"⟩, 1⟩), .allocate 0, .putRecord 0 true, .openPull 0 true,
         .importDag 5 ⟨"Q"⟩, .register ⟨"Q"⟩ 5 true]) ⟨"Q"⟩ ∧
    ¬Holds ((Node.start (fun _ => none) ⟨0, fun _ => .unopened⟩).run ⟨⟨"A"⟩, []⟩
        [.receive ⟨"B"⟩ (some ⟨⟨"Q"⟩, 1⟩), .allocate 0, .putRecord 0 true, .openPull 0 true,
         .importDag 5 ⟨"Q"⟩, .register ⟨"Q"⟩ 5 true, .transferError ⟨"A"⟩ ⟨"Q"⟩ true]) ⟨"Q"⟩ ∧
    ((Node.start (fun _ => none) ⟨0, fun _ => .unopened⟩).run ⟨⟨"A"⟩, []⟩
        [.receive ⟨"B"⟩ (some ⟨⟨"Q"⟩, 1⟩), .allocate 0, .putRecord 0 true, .openPull 0 true,
         .importDag 5 ⟨"Q"⟩, .register ⟨"Q"⟩ 5 true, .transferError ⟨"A"⟩ ⟨"Q"⟩ true]).ms.roots 5 =
      [⟨"Q"⟩] ∧
    ¬Holds ((Node.start (fun _ => none) ⟨0, fun _ => .unopened⟩).run ⟨⟨"A"⟩, []⟩
        [.importDag 5 ⟨"Q"⟩, .register ⟨"Q"⟩ 5 true,
         .receive ⟨"B"⟩ (some ⟨⟨"Q"⟩, 1⟩), .allocate 0, .putRecord 0 true]) ⟨"Q"⟩ := by
  decide

end Pop.Supply
