import Pop.Supply.Types
import Pop.Supply.Decimal

/-!
# The content index (`Store`, `GetStoreID`)

The index maps a payload CID to a record of string labels under the `/supply/`
namespace of the node's datastore. The `Store` type and its label keys are not in the
sources: they are modelled from the spec (§4.2) as an overwriting map. `GetStoreID`
reads the `storeId` label back with `strconv.ParseUint(_, 10, 64)`, failing distinctly
for a missing record, a missing label and a label that does not parse.
-/

namespace Pop.Supply

/-- Modelled from the spec: `KStoreID`, the label of the owning block-store ID. -/
def kStoreID : String := "storeId"

/-- Modelled from the spec: `KSize`, the label of the payload size. -/
def kSize : String := "size"

/-- `ContentRecord`: its `Labels` map as an association list. -/
structure ContentRecord where
  labels : List (String × String)
  deriving DecidableEq, Repr

/-- Modelled from the spec: the `Store` key space, one record per payload CID. -/
abbrev ContentIndex := Cid → Option ContentRecord

/-- Modelled from the spec: `PutRecord`, an idempotent overwrite. -/
def putRecord (idx : ContentIndex) (k : Cid) (rec : ContentRecord) : ContentIndex :=
  Function.update idx k (some rec)

/-- Modelled from the spec: `RemoveRecord`, which succeeds whether or not the record exists. -/
def removeRecord (idx : ContentIndex) (k : Cid) : ContentIndex := Function.update idx k none

/-- How `GetStoreID` fails: `GetRecord`'s not-found, `"storeID not found"`, or the parse error. -/
inductive LookupError where
  | notFound
  | noStoreID
  | parse (e : NumError)
  deriving DecidableEq, Repr

/-- Modelled from the spec: `GetRecord`. -/
def getRecord (idx : ContentIndex) (k : Cid) : Except LookupError ContentRecord :=
  match idx k with
  | some rec => .ok rec
  | none => .error .notFound

/-- The label half of `GetStoreID`, once the record is read. -/
def ContentRecord.getStoreID (rec : ContentRecord) : Except LookupError StoreID :=
  match rec.labels.lookup kStoreID with
  | none => .error .noStoreID
  | some sid =>
    match parseUint sid with
    | .error e => .error (.parse e)
    | .ok storeID => .ok (UInt64.ofNat storeID)

/-- `GetStoreID`. -/
def getStoreID (idx : ContentIndex) (id : Cid) : Except LookupError StoreID :=
  match getRecord idx id with
  | .error e => .error e
  | .ok rec => rec.getStoreID

/-- The record `Register` writes. -/
def registerRecord (sid : StoreID) : ContentRecord := ⟨[(kStoreID, sprintfD sid.toNat)]⟩

/-- The record `HandleRequest` writes for a request of `size` bytes. -/
def requestRecord (storeID : StoreID) (size : UInt64) : ContentRecord :=
  ⟨[(kStoreID, sprintfD storeID.toNat), (kSize, sprintfD size.toNat)]⟩

@[simp] theorem putRecord_self (idx : ContentIndex) (k : Cid) (rec : ContentRecord) :
    putRecord idx k rec k = some rec := Function.update_same _ _ _

@[simp] theorem putRecord_ne {idx : ContentIndex} {k k' : Cid} (rec : ContentRecord) (h : k' ≠ k) :
    putRecord idx k rec k' = idx k' := Function.update_noteq h _ _

@[simp] theorem removeRecord_self (idx : ContentIndex) (k : Cid) : removeRecord idx k k = none :=
  Function.update_same _ _ _

@[simp] theorem removeRecord_ne {idx : ContentIndex} {k k' : Cid} (h : k' ≠ k) :
    removeRecord idx k k' = idx k' := Function.update_noteq h _ _

/-- `GetStoreID` reads the CID's own record only. -/
theorem getStoreID_of_eq {idx idx' : ContentIndex} {c : Cid} (h : idx c = idx' c) :
    getStoreID idx c = getStoreID idx' c := by
  simp only [getStoreID, getRecord, h]

theorem getStoreID_of_some {idx : ContentIndex} {c : Cid} {rec : ContentRecord}
    (h : idx c = some rec) : getStoreID idx c = rec.getStoreID := by
  simp only [getStoreID, getRecord, h]

theorem getStoreID_of_none {idx : ContentIndex} {c : Cid} (h : idx c = none) :
    getStoreID idx c = .error .notFound := by
  simp only [getStoreID, getRecord, h]

theorem sprintfD_storeID (s : StoreID) : parseUint (sprintfD s.toNat) = .ok s.toNat :=
  parseUint_sprintfD _ s.toNat_lt_size

@[simp] theorem ofNat_toNat (s : StoreID) : UInt64.ofNat s.toNat = s :=
  UInt64.toNat.inj (UInt64.toNat_ofNat_of_lt s.toNat_lt_size)

/-- Both records this code writes name their store in a label `GetStoreID` accepts. -/
@[simp] theorem registerRecord_getStoreID (s : StoreID) : (registerRecord s).getStoreID = .ok s := by
  simp [ContentRecord.getStoreID, registerRecord, kStoreID, sprintfD_storeID]

@[simp] theorem requestRecord_getStoreID (s : StoreID) (size : UInt64) :
    (requestRecord s size).getStoreID = .ok s := by
  simp [ContentRecord.getStoreID, requestRecord, kStoreID, sprintfD_storeID]

end Pop.Supply
