import Pop.Supply.Node

/-!
# Pull authorization over whole runs

Along any run from the node `New` builds, `ValidatePull(p, _, c)` answers from the
`Dispatch` events of the run alone: it allows `p` iff some `Dispatch` of `c` selected `p`,
reports an unknown CID iff no `Dispatch` of `c` selected anyone, and "not authorized"
otherwise. Grants are never withdrawn, no other event writes the table, and every request
a `Dispatch` writes comes, in the order of its effects, after the grant to its receiver.
-/

namespace Pop.Supply
set_option autoImplicit false

/-- `e` is a `Dispatch` of `c` whose `selectProviders` returned `p` among its providers. -/
def Event.Selects (cfg : Config) (c : Cid) (p : PeerID) : Event → Prop
  | .dispatch r conns ps _ =>
    r.payloadCID = c ∧ ∃ providers, selectProviders cfg conns ps = .ok providers ∧ p ∈ providers
  | _ => False

theorem selectProviders_ne_nil {cfg : Config} {conns : List PeerID} {ps : PeerStore}
    {providers : List PeerID} (h : selectProviders cfg conns ps = .ok providers) : providers ≠ [] := by
  rw [selectProviders_eq] at h
  split at h
  · cases h
  · cases h
    rename_i hne
    exact fun h0 => hne ((List.take_eq_nil_iff.1 h0).resolve_left (by decide))

variable {cfg : Config} {c : Cid} {p : PeerID}

/-- One event grants `p` for `c` exactly when it is a `Dispatch` that selected it. -/
theorem allowed_step (σ : Node) (e : Event) :
    (σ.step cfg e).validator.Allowed c p ↔ σ.validator.Allowed c p ∨ e.Selects cfg c p := by
  rw [Node.step_validator]
  cases e with
  | dispatch r conns ps opens =>
    simp only [Event.Selects]
    cases h : selectProviders cfg conns ps with
    | error e =>
      simp only [dispatch_error _ r opens h, reduceCtorEq, false_and, exists_const, and_false, or_false]
    | ok providers =>
      rw [dispatch_ok _ r opens h]
      simp only [allowed_foldl_authorize, Except.ok.injEq, exists_eq_left']
      rw [or_comm, @eq_comm _ c]
  | _ => simp only [Event.Selects, or_false]

/-- One event creates the entry of `c` exactly when it is a `Dispatch` that selected someone. -/
theorem known_step (σ : Node) (e : Event) :
    ((σ.step cfg e).validator.auth c).isSome ↔
      (σ.validator.auth c).isSome ∨ ∃ q, e.Selects cfg c q := by
  rw [Node.step_validator]
  cases e with
  | dispatch r conns ps opens =>
    simp only [Event.Selects]
    cases h : selectProviders cfg conns ps with
    | error e =>
      simp only [dispatch_error _ r opens h, reduceCtorEq, false_and, exists_const, and_false,
        exists_false, or_false]
    | ok providers =>
      rw [dispatch_ok _ r opens h]
      have hne := selectProviders_ne_nil h
      have selected : (∃ q, r.payloadCID = c ∧ q ∈ providers) ↔ c = r.payloadCID := by
        obtain ⟨q, hq⟩ := List.exists_mem_of_ne_nil _ hne
        exact ⟨fun ⟨_, hr, _⟩ => hr.symm, fun hc => ⟨q, hc.symm, hq⟩⟩
      simp only [known_foldl_authorize, Except.ok.injEq, exists_eq_left', selected, hne, ne_eq,
        not_false_eq_true, and_true]
      exact or_comm
  | _ => simp only [Event.Selects, exists_false, or_false]

theorem allowed_run (σ : Node) (evs : List Event) :
    (σ.run cfg evs).validator.Allowed c p ↔ σ.validator.Allowed c p ∨ ∃ e ∈ evs, e.Selects cfg c p := by
  induction evs generalizing σ with
  | nil => simp only [Node.run, List.not_mem_nil, false_and, exists_false, or_false]
  | cons e evs ih =>
    rw [Node.run, ih, allowed_step]
    simp only [List.mem_cons, exists_eq_or_imp, or_assoc]

theorem known_run (σ : Node) (evs : List Event) :
    ((σ.run cfg evs).validator.auth c).isSome ↔
      (σ.validator.auth c).isSome ∨ ∃ e ∈ evs, ∃ q, e.Selects cfg c q := by
  induction evs generalizing σ with
  | nil => simp only [Node.run, List.not_mem_nil, false_and, exists_false, or_false]
  | cons e evs ih =>
    rw [Node.run, ih, known_step]
    simp only [List.mem_cons, exists_eq_or_imp, or_assoc]

/-- `ValidatePull` along any run from `New`: allowed iff a `Dispatch` of the CID selected
the receiver, "unknown CID" iff none selected anyone, "not authorized" otherwise; grants
persist, only `Dispatch` writes the table, `ValidatePush` refuses everything, and each
request `Dispatch` writes is its own request and stands after its receiver's grant among
the effects of that `Dispatch`. -/
theorem validatePull_run (index : ContentIndex) (ms : MultiStore) (evs : List Event) :
    (((Node.start index ms).run cfg evs).validator.validatePull p c = .ok () ↔
      ∃ e ∈ evs, e.Selects cfg c p) ∧
    (((Node.start index ms).run cfg evs).validator.validatePull p c = .error .unknownCID ↔
      ¬∃ e ∈ evs, ∃ q, e.Selects cfg c q) ∧
    (((Node.start index ms).run cfg evs).validator.validatePull p c = .error .notAuthorized ↔
      (∃ e ∈ evs, ∃ q, e.Selects cfg c q) ∧ ¬∃ e ∈ evs, e.Selects cfg c p) ∧
    (∀ evs', ((Node.start index ms).run cfg evs).validator.validatePull p c = .ok () →
      ((Node.start index ms).run cfg (evs ++ evs')).validator.validatePull p c = .ok ()) ∧
    (∀ (σ : Node) (e : Event), (∀ r conns ps opens, e ≠ .dispatch r conns ps opens) →
      (σ.step cfg e).validator = σ.validator) ∧
    (∀ sender, ((Node.start index ms).run cfg evs).validator.validatePush sender c =
      .error .pushRejected) ∧
    (∀ (v : Validator) (r : Request) conns ps opens (j : Nat) (q : PeerID) (r' : Request),
      (dispatch cfg v r conns ps opens).effects[j]? = some (Effect.writeRequest q r') →
      r' = r ∧ (∃ i < j, (dispatch cfg v r conns ps opens).effects[i]? =
        some (Effect.authorize r.payloadCID q)) ∧
        (dispatch cfg v r conns ps opens).auth.Allowed r.payloadCID q) := by
  have empty : ∀ q, ¬(Node.start index ms).validator.Allowed c q := by
    simp only [Validator.Allowed, Node.start, Validator.empty, reduceCtorEq, false_and, exists_const,
      not_false_eq_true, implies_true]
  have unknown : ((Node.start index ms).validator.auth c).isSome = false := rfl
  refine ⟨?_, ?_, ?_, fun evs' h => ?_, fun σ e he => ?_, fun _ => rfl,
    fun v r conns ps opens _ _ _ hw => dispatch_authorizes_before_write cfg v r conns ps opens hw⟩
  · rw [Validator.validatePull_ok, allowed_run]
    simp only [empty, false_or]
  · rw [Validator.validatePull_unknown, ← Option.not_isSome_iff_eq_none, known_run]
    simp only [unknown, Bool.false_eq_true, false_or, not_exists, not_and]
  · rw [Validator.validatePull_notAuthorized, known_run, allowed_run]
    simp only [unknown, Bool.false_eq_true, false_or, empty, not_exists, not_and]
  · rw [Validator.validatePull_ok, allowed_run] at h ⊢
    rcases h with h | ⟨e, he, hs⟩
    · exact .inl h
    · exact .inr ⟨e, List.mem_append_left _ he, hs⟩
  · rw [Node.step_validator]
    cases e <;> first | rfl | exact absurd rfl (he _ _ _ _)

end Pop.Supply
