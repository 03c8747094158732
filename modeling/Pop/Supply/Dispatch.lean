import Pop.Supply.Regions
import Pop.Supply.Validator

/-!
# Dispatch (`selectProviders`, `sendAllRequests`, `Dispatch`)

`selectProviders` walks the host's connections in order and keeps the remote peer of
each one that is not the host itself and that the peerstore reports as speaking one of
the node's region protocols; no such peer is `ErrNoPeers`, more than `MaxReceiverCount`
are cut to the first seven. `Dispatch` authorizes every provider for the payload, then
opens a request stream to each in turn, writing the request and closing the stream
whenever the stream opens. The outside world is a peerstore answer and, per peer,
whether `NewRequestStream` succeeds; a failed write changes nothing the code does next.
What `Dispatch` does outside the node is its list of `Effect`s.

The event subscription `Dispatch` installs only feeds the caller's record channel and is
not modelled.
-/

namespace Pop.Supply

/-- `Peerstore().SupportsProtocols(p, protos...)`: the queried protocols the store knows
`p` to speak, or an error. -/
abbrev PeerStore := PeerID → List String → Except String (List String)

/-- A `Supply`'s fixed configuration: the host's own ID and the regions it was built with. -/
structure Config where
  self : PeerID
  regions : List Region

/-- `MaxReceiverCount`. -/
def maxReceiverCount : Nat := 7

/-- `ErrNoPeers` ("no peers available for supply"). -/
inductive DispatchError where
  | noPeers
  deriving DecidableEq, Repr

/-- The protocol check of `selectProviders`: no error and a non-empty answer. -/
def supportsRegions (regions : List Region) (ps : PeerStore) (pid : PeerID) : Bool :=
  match ps pid (protoRegions requestProtocol regions) with
  | .ok supported => !supported.isEmpty
  | .error _ => false

/-- The loop body of `selectProviders`: keep `pid` unless it is the host or fails the
protocol check. -/
def eligible (cfg : Config) (ps : PeerStore) (pid : PeerID) : Bool :=
  decide (pid ≠ cfg.self) && supportsRegions cfg.regions ps pid

/-- `selectProviders`, over the remote peers of the host's connections in order. -/
def selectProviders (cfg : Config) (conns : List PeerID) (ps : PeerStore) :
    Except DispatchError (List PeerID) :=
  let peers := conns.filter (eligible cfg ps)
  if peers.length = 0 then .error .noPeers
  else if peers.length > maxReceiverCount then .ok (peers.take maxReceiverCount)
  else .ok peers

/-- What `Dispatch` does outside the node, in order. -/
inductive Effect where
  | authorize (k : Cid) (p : PeerID)
  | newRequestStream (p : PeerID)
  | writeRequest (p : PeerID) (r : Request)
  | close (p : PeerID)
  deriving DecidableEq, Repr

/-- `sendAllRequests`; `opens p` says whether `NewRequestStream(p)` returns a stream. -/
def sendAllRequests (opens : PeerID → Bool) (r : Request) : List PeerID → List Effect
  | [] => []
  | p :: peers =>
    (if opens p then [.newRequestStream p, .writeRequest p r, .close p] else [.newRequestStream p]) ++
      sendAllRequests opens r peers

/-- The outcome of `Dispatch`: the table after it, `Count`, the error and the effects. -/
structure Dispatched where
  auth : Validator
  count : Nat
  err : Option DispatchError
  effects : List Effect

/-- `Dispatch(r)`. -/
def dispatch (cfg : Config) (v : Validator) (r : Request) (conns : List PeerID) (ps : PeerStore)
    (opens : PeerID → Bool) : Dispatched :=
  match selectProviders cfg conns ps with
  | .error e => ⟨v, 0, some e, []⟩
  | .ok providers =>
    ⟨providers.foldl (fun v p => v.authorize r.payloadCID p) v, providers.length, none,
      providers.map (Effect.authorize r.payloadCID) ++ sendAllRequests opens r providers⟩

/-- The peer a `NewRequestStream` effect is for. -/
def Effect.opened : Effect → Option PeerID
  | .newRequestStream p => some p
  | _ => none

/-- The CID and peer an authorization effect is for. -/
def Effect.authorized : Effect → Option (Cid × PeerID)
  | .authorize k p => some (k, p)
  | _ => none

/-- The peer and request a write effect is for. -/
def Effect.written : Effect → Option (PeerID × Request)
  | .writeRequest p r => some (p, r)
  | _ => none

/-- A peer `selectProviders` keeps: not the host, and reported to speak a region protocol. -/
def Eligible (cfg : Config) (ps : PeerStore) (pid : PeerID) : Prop :=
  pid ≠ cfg.self ∧ ∃ supported, ps pid (protoRegions requestProtocol cfg.regions) = .ok supported ∧
    supported ≠ []

theorem eligible_iff (cfg : Config) (ps : PeerStore) (pid : PeerID) :
    eligible cfg ps pid = true ↔ Eligible cfg ps pid := by
  unfold eligible supportsRegions Eligible
  cases ps pid (protoRegions requestProtocol cfg.regions) <;> simp [List.isEmpty_iff]

instance (cfg : Config) (ps : PeerStore) (pid : PeerID) : Decidable (Eligible cfg ps pid) :=
  decidable_of_iff _ (eligible_iff cfg ps pid)

theorem filter_eligible (cfg : Config) (ps : PeerStore) (conns : List PeerID) :
    conns.filter (eligible cfg ps) = conns.filter fun pid => decide (Eligible cfg ps pid) :=
  List.filter_congr fun pid _ => by rw [Bool.eq_iff_iff, decide_eq_true_iff, eligible_iff]

/-- `selectProviders` is the first `MaxReceiverCount` eligible peers, or `ErrNoPeers`. -/
theorem selectProviders_eq (cfg : Config) (conns : List PeerID) (ps : PeerStore) :
    selectProviders cfg conns ps =
      if conns.filter (eligible cfg ps) = [] then .error .noPeers
      else .ok ((conns.filter (eligible cfg ps)).take maxReceiverCount) := by
  unfold selectProviders
  by_cases h0 : conns.filter (eligible cfg ps) = []
  · simp [h0]
  · have hl : (conns.filter (eligible cfg ps)).length ≠ 0 := by simpa using h0
    by_cases h7 : (conns.filter (eligible cfg ps)).length > maxReceiverCount
    · simp only [hl, h7, h0, if_false, if_true]
    · simp only [hl, h7, h0, if_false, List.take_of_length_le (Nat.le_of_not_lt h7)]

theorem length_selectProviders {cfg : Config} {conns : List PeerID} {ps : PeerStore}
    {providers : List PeerID} (h : selectProviders cfg conns ps = .ok providers) :
    providers.length ≤ maxReceiverCount := by
  rw [selectProviders_eq] at h
  split at h
  · cases h
  · cases h; exact List.length_take_le _ _

theorem allowed_foldl_authorize (k : Cid) (c : Cid) (q : PeerID) :
    ∀ (providers : List PeerID) (v : Validator),
      (providers.foldl (fun v p => v.authorize k p) v).Allowed c q ↔
        c = k ∧ q ∈ providers ∨ v.Allowed c q
  | [], v => by simp
  | p :: ps, v => by
    rw [List.foldl_cons, allowed_foldl_authorize k c q ps, Validator.allowed_authorize]
    simp only [List.mem_cons, and_or_left, or_assoc]
    exact or_left_comm

theorem auth_foldl_authorize_ne {k c : Cid} (h : c ≠ k) :
    ∀ (providers : List PeerID) (v : Validator),
      (providers.foldl (fun v p => v.authorize k p) v).auth c = v.auth c
  | [], _ => rfl
  | p :: ps, v => by
    rw [List.foldl_cons, auth_foldl_authorize_ne h ps, Validator.authorize_auth, if_neg h]

theorem opened_sendAllRequests (opens : PeerID → Bool) (r : Request) (peers : List PeerID) :
    (sendAllRequests opens r peers).filterMap Effect.opened = peers := by
  induction peers with
  | nil => rfl
  | cons p peers ih => cases h : opens p <;> simp [sendAllRequests, Effect.opened, ih, h]

theorem authorized_sendAllRequests (opens : PeerID → Bool) (r : Request) (peers : List PeerID) :
    (sendAllRequests opens r peers).filterMap Effect.authorized = [] := by
  induction peers with
  | nil => rfl
  | cons p peers ih => cases h : opens p <;> simp [sendAllRequests, Effect.authorized, ih, h]

/-- `sendAllRequests` writes `r` to exactly the peers whose stream opens, in order. -/
theorem written_sendAllRequests (opens : PeerID → Bool) (r : Request) (peers : List PeerID) :
    (sendAllRequests opens r peers).filterMap Effect.written = (peers.filter opens).map (·, r) := by
  induction peers with
  | nil => rfl
  | cons p peers ih => cases h : opens p <;> simp [sendAllRequests, Effect.written, ih, h]

/-- Every request `sendAllRequests` writes is `r`, to one of the peers. -/
theorem mem_sendAllRequests {opens : PeerID → Bool} {r r' : Request} {p : PeerID} :
    ∀ {peers : List PeerID}, Effect.writeRequest p r' ∈ sendAllRequests opens r peers →
      r' = r ∧ p ∈ peers
  | [], h => nomatch h
  | q :: peers, h => by
    simp only [sendAllRequests, List.mem_append] at h
    rcases h with h | h
    · split at h <;> simp_all
    · exact ⟨(mem_sendAllRequests h).1, List.mem_cons_of_mem _ (mem_sendAllRequests h).2⟩

theorem known_foldl_authorize (k c : Cid) :
    ∀ (providers : List PeerID) (v : Validator),
      ((providers.foldl (fun v p => v.authorize k p) v).auth c).isSome ↔
        c = k ∧ providers ≠ [] ∨ (v.auth c).isSome
  | [], v => by simp
  | p :: ps, v => by
    rw [List.foldl_cons, known_foldl_authorize k c ps, Validator.authorize_known]
    by_cases hc : c = k <;> simp [hc]

theorem dispatch_error {cfg : Config} {conns : List PeerID} {ps : PeerStore} {e : DispatchError}
    (v : Validator) (r : Request) (opens : PeerID → Bool) (h : selectProviders cfg conns ps = .error e) :
    dispatch cfg v r conns ps opens = ⟨v, 0, some e, []⟩ := by
  simp only [dispatch, h]

theorem dispatch_ok {cfg : Config} {conns : List PeerID} {ps : PeerStore} {providers : List PeerID}
    (v : Validator) (r : Request) (opens : PeerID → Bool)
    (h : selectProviders cfg conns ps = .ok providers) :
    dispatch cfg v r conns ps opens =
      ⟨providers.foldl (fun v p => v.authorize r.payloadCID p) v, providers.length, none,
        providers.map (Effect.authorize r.payloadCID) ++ sendAllRequests opens r providers⟩ := by
  simp only [dispatch, h]

/-- Each request in the effects of `Dispatch` is `r`, written to a provider, and stands
after that provider's authorization for `r`'s payload. -/
theorem write_after_authorize {k : Cid} {opens : PeerID → Bool} {r r' : Request}
    {providers : List PeerID} {j : Nat} {q : PeerID}
    (hw : (providers.map (Effect.authorize k) ++ sendAllRequests opens r providers)[j]? =
      some (.writeRequest q r')) :
    r' = r ∧ q ∈ providers ∧ ∃ i < j,
      (providers.map (Effect.authorize k) ++ sendAllRequests opens r providers)[i]? =
        some (.authorize k q) := by
  have len : (providers.map (Effect.authorize k)).length = providers.length := List.length_map _ _
  rcases Nat.lt_or_ge j providers.length with before | after
  · rw [List.getElem?_append_left (len ▸ before), List.getElem?_map] at hw
    obtain ⟨_, -, ⟨⟩⟩ := Option.map_eq_some'.mp hw
  rw [List.getElem?_append_right (len ▸ after)] at hw
  obtain ⟨rfl, hq⟩ := mem_sendAllRequests (List.getElem?_mem hw)
  obtain ⟨i, hi⟩ := List.mem_iff_getElem?.mp hq
  have bound : i < providers.length := (List.getElem?_eq_some_iff.mp hi).1
  refine ⟨rfl, hq, i, by omega, ?_⟩
  rw [List.getElem?_append_left (len ▸ bound), List.getElem?_map, hi]
  rfl

/-- Every request `Dispatch` writes is `r`, stands after its receiver's authorization for
`r`'s payload in the order of the effects, and goes to a peer the table after `Dispatch`
allows. -/
theorem dispatch_authorizes_before_write (cfg : Config) (v : Validator) (r : Request)
    (conns : List PeerID) (ps : PeerStore) (opens : PeerID → Bool) {j : Nat} {q : PeerID}
    {r' : Request} (hw : (dispatch cfg v r conns ps opens).effects[j]? = some (.writeRequest q r')) :
    r' = r ∧ (∃ i < j, (dispatch cfg v r conns ps opens).effects[i]? =
      some (.authorize r.payloadCID q)) ∧ (dispatch cfg v r conns ps opens).auth.Allowed r.payloadCID q := by
  cases h : selectProviders cfg conns ps with
  | error e => rw [dispatch_error v r opens h] at hw; cases hw
  | ok providers =>
    rw [dispatch_ok v r opens h] at hw ⊢
    obtain ⟨hr, hq, before⟩ := write_after_authorize hw
    exact ⟨hr, before, (allowed_foldl_authorize _ _ _ _ _).2 (.inl ⟨rfl, hq⟩)⟩

/-- `selectProviders` returns exactly the eligible peers in connection order, cut to
`MaxReceiverCount`, or `ErrNoPeers` when there is none; `Dispatch` then authorizes the
payload for exactly those peers, counts them, and calls `NewRequestStream` once for each
in order whichever streams open, writing `r` to exactly those whose stream opened, so it
makes at most seven authorizations and streams. -/
theorem selectProviders_dispatch (cfg : Config) (conns : List PeerID) (ps : PeerStore)
    (v : Validator) (r : Request) (opens : PeerID → Bool) :
    (selectProviders cfg conns ps = .error .noPeers ↔ ¬∃ pid ∈ conns, Eligible cfg ps pid) ∧
    ((∃ pid ∈ conns, Eligible cfg ps pid) →
      selectProviders cfg conns ps =
        .ok ((conns.filter fun pid => decide (Eligible cfg ps pid)).take maxReceiverCount)) ∧
    (∀ providers, selectProviders cfg conns ps = .ok providers →
      (dispatch cfg v r conns ps opens).count = providers.length ∧
      (dispatch cfg v r conns ps opens).err = none ∧
      (∀ c q, (dispatch cfg v r conns ps opens).auth.Allowed c q ↔
        c = r.payloadCID ∧ q ∈ providers ∨ v.Allowed c q) ∧
      (∀ c, c ≠ r.payloadCID → (dispatch cfg v r conns ps opens).auth.auth c = v.auth c) ∧
      (dispatch cfg v r conns ps opens).effects.filterMap Effect.authorized =
        providers.map (fun p => (r.payloadCID, p)) ∧
      (dispatch cfg v r conns ps opens).effects.filterMap Effect.opened = providers ∧
      (dispatch cfg v r conns ps opens).effects.filterMap Effect.written =
        (providers.filter opens).map (·, r)) ∧
    (selectProviders cfg conns ps = .error .noPeers →
      dispatch cfg v r conns ps opens = ⟨v, 0, some .noPeers, []⟩) ∧
    ((dispatch cfg v r conns ps opens).effects.filterMap Effect.opened).length ≤ maxReceiverCount ∧
    ((dispatch cfg v r conns ps opens).effects.filterMap Effect.authorized).length ≤
      maxReceiverCount := by
  have hsel := selectProviders_eq cfg conns ps
  rw [filter_eligible] at hsel
  have hnil : conns.filter (fun pid => decide (Eligible cfg ps pid)) = [] ↔
      ¬∃ pid ∈ conns, Eligible cfg ps pid := by simp [List.filter_eq_nil_iff]
  have hok : ∀ providers, selectProviders cfg conns ps = .ok providers →
      (dispatch cfg v r conns ps opens).effects.filterMap Effect.authorized =
        providers.map (fun p => (r.payloadCID, p)) ∧
      (dispatch cfg v r conns ps opens).effects.filterMap Effect.opened = providers ∧
      (dispatch cfg v r conns ps opens).effects.filterMap Effect.written =
        (providers.filter opens).map (·, r) := by
    intro providers h
    rw [dispatch_ok v r opens h]
    simp only [List.filterMap_append, List.filterMap_map, opened_sendAllRequests,
      authorized_sendAllRequests, written_sendAllRequests, List.append_nil]
    exact ⟨congrFun (List.filterMap_eq_map _) _, by simp [Function.comp_def, Effect.opened],
      by simp [Function.comp_def, Effect.written]⟩
  refine ⟨?_, fun he => by rw [hsel, if_neg (hnil.not.2 (not_not.2 he))], fun providers h => ?_,
    fun h => dispatch_error v r opens h, ?_⟩
  · rw [hsel, ← hnil]
    split
    · exact iff_of_true rfl ‹_›
    · exact iff_of_false (fun h => Except.noConfusion h) ‹_›
  · rw [dispatch_ok v r opens h]
    exact ⟨rfl, rfl, fun c q => allowed_foldl_authorize _ c q _ _, fun c hc => auth_foldl_authorize_ne hc _ _,
      by simpa [dispatch_ok v r opens h] using hok providers h⟩
  · cases h : selectProviders cfg conns ps with
    | error e => simp [dispatch_error v r opens h]
    | ok providers =>
      rw [(hok providers h).1, (hok providers h).2.1, List.length_map]
      exact ⟨length_selectProviders h, length_selectProviders h⟩

/-- The in-memory protocol book of the peer host: `SupportsProtocols` keeps the queried
protocols listed in the peer's entry. -/
def entryPeerStore (entry : PeerID → List String) : PeerStore :=
  fun pid protos => .ok (protos.filter fun proto => decide (proto ∈ entry pid))

/-- Two connections to one peer make it a provider twice: it is counted twice and gets two
request streams. -/
theorem selectProviders_repeats_peer :
    selectProviders ⟨⟨"A"⟩, parseRegions ["Global"]⟩ [⟨"B"⟩, ⟨"B"⟩]
        (entryPeerStore fun _ => protoRegions requestProtocol (parseRegions ["Global"])) =
      .ok [⟨"B"⟩, ⟨"B"⟩] ∧
    (dispatch ⟨⟨"A"⟩, parseRegions ["Global"]⟩ .empty ⟨⟨"Q"⟩, 100⟩ [⟨"B"⟩, ⟨"B"⟩]
        (entryPeerStore fun _ => protoRegions requestProtocol (parseRegions ["Global"]))
        fun _ => true).count = 2 ∧
    (dispatch ⟨⟨"A"⟩, parseRegions ["Global"]⟩ .empty ⟨⟨"Q"⟩, 100⟩ [⟨"B"⟩, ⟨"B"⟩]
        (entryPeerStore fun _ => protoRegions requestProtocol (parseRegions ["Global"]))
        fun _ => true).effects.filterMap Effect.opened = [⟨"B"⟩, ⟨"B"⟩] :=
  ⟨rfl, rfl, rfl⟩

theorem supportsRegions_entryPeerStore (regions : List Region) (entry : PeerID → List String)
    (pid : PeerID) :
    supportsRegions regions (entryPeerStore entry) pid = true ↔
      ∃ x, x ∈ protoRegions requestProtocol regions ∧ x ∈ entry pid := by
  simp [supportsRegions, entryPeerStore, List.isEmpty_iff, List.filter_eq_nil_iff]

/-- The identifiers of a name list are one per name, in order, each `RequestProtocol/name`,
with presets taken exactly for the seven preset names; two name lists derive a common
identifier iff they share a name, so a peer whose peerstore entry is what a node of
regions `B` advertises passes the protocol check of a node of regions `A` iff `A` and `B`
share a name. -/
theorem protoRegions_parseRegions_match (A B : List String) (entry : PeerID → List String)
    (pid : PeerID) (advertised : entry pid = protoRegions requestProtocol (parseRegions B)) :
    protoRegions requestProtocol (parseRegions A) = A.map (fun name => requestProtocol ++ "/" ++ name) ∧
    parseRegions A = A.map (fun name => (regions.lookup name).getD ⟨name, customRegion, []⟩) ∧
    ((∃ x, x ∈ protoRegions requestProtocol (parseRegions A) ∧
        x ∈ protoRegions requestProtocol (parseRegions B)) ↔ ∃ name, name ∈ A ∧ name ∈ B) ∧
    (supportsRegions (parseRegions A) (entryPeerStore entry) pid = true ↔
      ∃ name, name ∈ A ∧ name ∈ B) := by
  refine ⟨protoRegions_parseRegions _ _, List.map_congr_left fun n _ => parseRegion_eq n,
    protoRegions_share_iff _ _ _, ?_⟩
  rw [supportsRegions_entryPeerStore, advertised, protoRegions_share_iff]

theorem protoRegions_europe_asia :
    (fun _ => protoRegions requestProtocol (parseRegions ["Asia"]) : PeerID → List String) ⟨"B"⟩ =
        protoRegions requestProtocol (parseRegions ["Asia"]) ∧
      (supportsRegions (parseRegions ["Europe"])
          (entryPeerStore fun _ => protoRegions requestProtocol (parseRegions ["Asia"])) ⟨"B"⟩ = true ↔
        ∃ name, name ∈ ["Europe"] ∧ name ∈ ["Asia"]) :=
  ⟨rfl, (protoRegions_parseRegions_match ["Europe"] ["Asia"] _ ⟨"B"⟩ rfl).2.2.2⟩

end Pop.Supply
