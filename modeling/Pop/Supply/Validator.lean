import Pop.Supply.Types

/-!
# The authorization table (`Validator`)

`Authorize` adds a peer to the set kept for a payload CID, creating the set on first use;
`ValidatePull` answers from that set and `ValidatePush` refuses every push. Voucher and
selector arguments are not read by either validation and are left out. `peer.Set` is a
list with insertion; only membership is ever asked of it.
-/

namespace Pop.Supply

/-- `Validator`: its `auth` map from payload CID to the authorized peers. -/
structure Validator where
  auth : Cid → Option (List PeerID)

/-- The table `New` starts with. -/
def Validator.empty : Validator := ⟨fun _ => none⟩

/-- `Authorize(k, p)`. -/
def Validator.authorize (v : Validator) (k : Cid) (p : PeerID) : Validator :=
  match v.auth k with
  | some set => ⟨Function.update v.auth k (some (set.insert p))⟩
  | none => ⟨Function.update v.auth k (some [p])⟩

/-- The validation errors, with the texts of their `fmt.Errorf`. -/
inductive ValidationError where
  | pushRejected
  | unknownCID
  | notAuthorized
  deriving DecidableEq, Repr

def ValidationError.text : ValidationError → String
  | .pushRejected => "no pushed accepted"
  | .unknownCID => "unknown CID"
  | .notAuthorized => "not authorized"

/-- `ValidatePush`. -/
def Validator.validatePush (_v : Validator) (_sender : PeerID) (_baseCid : Cid) :
    Except ValidationError Unit :=
  .error .pushRejected

/-- `ValidatePull`. -/
def Validator.validatePull (v : Validator) (receiver : PeerID) (baseCid : Cid) :
    Except ValidationError Unit :=
  match v.auth baseCid with
  | none => .error .unknownCID
  | some set => if receiver ∈ set then .ok () else .error .notAuthorized

/-- The peers `Authorize` has admitted for `c`. -/
def Validator.Allowed (v : Validator) (c : Cid) (q : PeerID) : Prop :=
  ∃ set, v.auth c = some set ∧ q ∈ set

theorem Validator.authorize_auth (v : Validator) (k : Cid) (p : PeerID) (c : Cid) :
    (v.authorize k p).auth c = if c = k then some (((v.auth k).getD []).insert p) else v.auth c := by
  unfold Validator.authorize
  by_cases hc : c = k
  · subst hc; cases h : v.auth c <;> simp [h]
  · cases h : v.auth k <;> simp [h, hc, Function.update_apply]

theorem Validator.authorize_known (v : Validator) (k : Cid) (p : PeerID) (c : Cid) :
    ((v.authorize k p).auth c).isSome = (c = k ∨ (v.auth c).isSome) := by
  rw [authorize_auth]
  split <;> simp_all

theorem Validator.allowed_authorize (v : Validator) (k : Cid) (p : PeerID) (c : Cid) (q : PeerID) :
    (v.authorize k p).Allowed c q ↔ c = k ∧ q = p ∨ v.Allowed c q := by
  unfold Allowed
  rw [authorize_auth]
  split
  · subst c
    cases v.auth k <;> simp [List.mem_insert_iff, or_comm]
  · simp_all

theorem Validator.validatePull_ok (v : Validator) (q : PeerID) (c : Cid) :
    v.validatePull q c = .ok () ↔ v.Allowed c q := by
  unfold validatePull Allowed
  cases v.auth c with
  | none => simp
  | some set => by_cases hq : q ∈ set <;> simp [hq]

theorem Validator.validatePull_unknown (v : Validator) (q : PeerID) (c : Cid) :
    v.validatePull q c = .error .unknownCID ↔ v.auth c = none := by
  unfold validatePull
  cases v.auth c with
  | none => simp
  | some set => by_cases hq : q ∈ set <;> simp [hq]

theorem Validator.validatePull_notAuthorized (v : Validator) (q : PeerID) (c : Cid) :
    v.validatePull q c = .error .notAuthorized ↔ (v.auth c).isSome ∧ ¬v.Allowed c q := by
  unfold validatePull Allowed
  cases v.auth c with
  | none => simp
  | some set => by_cases hq : q ∈ set <;> simp [hq]

end Pop.Supply
