import Mathlib.Data.List.Basic

/-!
# Regions (`supply/regions.go`, `protoRegions`, `ListMiners`)

A region is a named subnetwork. `parseRegions` turns configured names into regions,
taking the preset of a known name and a custom region (code `customRegion`, no miners)
for any other; `protoRegions` derives one protocol identifier per region by appending
`"/" ++ name` to the dispatch protocol; `listMiners` gathers storage miners, where a
region named `"Global"` replaces what was gathered and stops the loop.

`PPB` (the minimum price per byte) is read by none of these functions and is left out.
-/

namespace Pop.Supply

/-- A CDN subnetwork: `Region` without its price field. -/
structure Region where
  name : String
  code : UInt64
  storageMiners : List String
  deriving DecidableEq, Repr, Inhabited

/-- `GlobalRegion` .. `OceaniaRegion` are `iota` codes; `CustomRegion` is `math.MaxUint64`. -/
def globalRegion : UInt64 := 0
def asiaRegion : UInt64 := 1
def africaRegion : UInt64 := 2
def southAmericaRegion : UInt64 := 3
def northAmericaRegion : UInt64 := 4
def europeRegion : UInt64 := 5
def oceaniaRegion : UInt64 := 6
def customRegion : UInt64 := 18446744073709551615

def asia : Region :=
  ⟨"Asia", asiaRegion, ["f0159961", "f0242152", "f0225676", "f0165539", "f0216138", "f01272"]⟩

def africa : Region := ⟨"Africa", africaRegion, []⟩

def southAmerica : Region := ⟨"SouthAmerica", southAmericaRegion, []⟩

def northAmerica : Region :=
  ⟨"NorthAmerica", northAmericaRegion,
    ["f02301", "f03223", "f019104", "f02401", "f02387", "f09848", "f08399", "f010088",
     "f064218", "f02540", "f015927", "f0135078", "f019104", "f047419", "f01278", "f010617",
     "f01247", "f022142", "f019279"]⟩

def europe : Region :=
  ⟨"Europe", europeRegion,
    ["f01240", "f01234", "f022352", "f099608", "f02576", "f023467", "f03624", "f062353",
     "f081323", "f08403", "f010446", "f01277", "f022163"]⟩

def oceania : Region := ⟨"Oceania", oceaniaRegion, ["f014365"]⟩

/-- `global` takes the miners of North America, Europe and Oceania (Asia's are not in it). -/
def global : Region :=
  ⟨"Global", globalRegion,
    northAmerica.storageMiners ++ (europe.storageMiners ++ oceania.storageMiners)⟩

/-- The `Regions` map literal, as an association list. -/
def regions : List (String × Region) :=
  [("Global", global), ("Asia", asia), ("Africa", africa), ("SouthAmerica", southAmerica),
   ("NorthAmerica", northAmerica), ("Europe", europe), ("Oceania", oceania)]

/-- `Regions[name]`: Go's map read, the zero `Region` (empty name) when the key is absent. -/
def regionOf (name : String) : Region := (regions.lookup name).getD default

/-- One iteration of `ParseRegions`: the preset when the map has a non-empty name for the
key, a custom region otherwise. -/
def parseRegion (name : String) : Region :=
  if (regionOf name).name ≠ "" then regionOf name else ⟨name, customRegion, []⟩

/-- `ParseRegions`. -/
def parseRegions (list : List String) : List Region := list.map parseRegion

/-- `RequestProtocol`. -/
def requestProtocol : String := "/myel/supply/dispatch/1.0"

/-- `fmt.Sprintf("%s/%s", proto, r.Name)` for each region. -/
def protoRegions (proto : String) (rs : List Region) : List String :=
  rs.map fun r => proto ++ "/" ++ r.name

/-- The region loop of `ListMiners`: append each region's miners, except that a region
named `"Global"` replaces what was gathered and breaks the loop. -/
def minerStrings (strList : List String) : List Region → List String
  | [] => strList
  | r :: rs => if r.name = "Global" then r.storageMiners else minerStrings (strList ++ r.storageMiners) rs

/-- The address loop of `ListMiners`: parse in order, returning what was parsed so far
with the first error. -/
def addrLoop {Address : Type} (newFromString : String → Except String Address)
    (addrList : List Address) : List String → List Address × Option String
  | [] => (addrList, none)
  | s :: ss =>
    match newFromString s with
    | .error e => (addrList, some e)
    | .ok addr => addrLoop newFromString (addrList ++ [addr]) ss

/-- `ListMiners`, with `address.NewFromString` as a parameter. -/
def listMiners {Address : Type} (newFromString : String → Except String Address)
    (rs : List Region) : List Address × Option String :=
  addrLoop newFromString [] (minerStrings [] rs)

/-- Every preset is keyed by its own non-empty name. -/
theorem regions_keys : ∀ p ∈ regions, p.2.name = p.1 ∧ p.1 ≠ "" := by decide

theorem mem_of_lookup {k : String} {r : Region} {l : List (String × Region)}
    (h : l.lookup k = some r) : (k, r) ∈ l := by
  obtain ⟨l₁, l₂, rfl, -⟩ := List.lookup_eq_some_iff.1 h
  simp

/-- `ParseRegions` keeps every name: a preset for one of the seven keys, a custom region
with that name otherwise. -/
theorem parseRegion_eq (name : String) :
    parseRegion name = (regions.lookup name).getD ⟨name, customRegion, []⟩ := by
  unfold parseRegion regionOf
  cases h : regions.lookup name with
  | none => rfl
  | some r =>
    obtain ⟨hr, hne⟩ : r.name = name ∧ name ≠ "" := regions_keys _ (mem_of_lookup h)
    simp only [Option.getD_some, hr]
    exact if_pos hne

@[simp] theorem parseRegion_name (name : String) : (parseRegion name).name = name := by
  rw [parseRegion_eq]
  cases h : regions.lookup name with
  | none => rfl
  | some r => exact (regions_keys _ (mem_of_lookup h)).1

theorem parseRegion_global : parseRegion "Global" = global := rfl

/-- One identifier per name, in order: the derivation only reads the names. -/
theorem protoRegions_parseRegions (proto : String) (list : List String) :
    protoRegions proto (parseRegions list) = list.map fun name => proto ++ "/" ++ name := by
  simp [protoRegions, parseRegions]

theorem protoId_inj {proto a b : String} : proto ++ "/" ++ a = proto ++ "/" ++ b ↔ a = b := by
  simp [String.ext_iff]

/-- Two name lists derive a common identifier iff they share a name. -/
theorem protoRegions_share_iff (proto : String) (A B : List String) :
    (∃ x, x ∈ protoRegions proto (parseRegions A) ∧ x ∈ protoRegions proto (parseRegions B)) ↔
      ∃ name, name ∈ A ∧ name ∈ B := by
  simp only [protoRegions_parseRegions, List.mem_map]
  constructor
  · rintro ⟨_, ⟨a, ha, rfl⟩, b, hb, he⟩
    exact ⟨a, ha, protoId_inj.1 he ▸ hb⟩
  · rintro ⟨n, ha, hb⟩
    exact ⟨_, ⟨n, ha, rfl⟩, n, hb, rfl⟩

/-! ### `ListMiners` -/

/-- A name's preset miners; a custom name has none. -/
def presetMiners (name : String) : List String :=
  ((regions.lookup name).map Region.storageMiners).getD []

/-- The miners a list of names stands for: the `"Global"` preset's list when the name
occurs, otherwise the preset lists in order. -/
def minersOfNames (names : List String) : List String :=
  if "Global" ∈ names then global.storageMiners else names.flatMap presetMiners

theorem parseRegion_storageMiners (name : String) :
    (parseRegion name).storageMiners = presetMiners name := by
  rw [parseRegion_eq, presetMiners]
  cases regions.lookup name <;> rfl

theorem minerStrings_parseRegions (strList names : List String) :
    minerStrings strList (parseRegions names) =
      if "Global" ∈ names then global.storageMiners else strList ++ names.flatMap presetMiners := by
  induction names generalizing strList with
  | nil => simp [minerStrings, parseRegions]
  | cons n ns ih =>
    by_cases hn : n = "Global"
    · subst hn
      simp [minerStrings, parseRegions, parseRegion_global, show global.name = "Global" from rfl]
    · have hg : "Global" ∈ n :: ns ↔ "Global" ∈ ns := by simp [Ne.symm hn]
      simp only [parseRegions, List.map_cons, minerStrings, parseRegion_name, hn, if_false] at ih ⊢
      rw [ih, parseRegion_storageMiners]
      simp [hg, List.append_assoc]

theorem addrLoop_of_parses {Address : Type} {newFromString : String → Except String Address}
    {addr : String → Address} :
    ∀ (addrList : List Address) (strList : List String),
      (∀ s ∈ strList, newFromString s = .ok (addr s)) →
        addrLoop newFromString addrList strList = (addrList ++ strList.map addr, none)
  | addrList, [], _ => by simp [addrLoop]
  | addrList, s :: ss, h => by
    simp only [addrLoop, h s (List.mem_cons_self _ _)]
    rw [addrLoop_of_parses _ ss fun t ht => h t (List.mem_cons_of_mem _ ht)]
    simp

/-- Every address `ListMiners` returns, with or without an error, was parsed from one of the
strings it gathered. -/
theorem mem_addrLoop {Address : Type} {newFromString : String → Except String Address}
    {a : Address} :
    ∀ {addrList : List Address} {strList : List String},
      a ∈ (addrLoop newFromString addrList strList).1 →
        a ∈ addrList ∨ ∃ s ∈ strList, newFromString s = .ok a
  | _, [], h => .inl h
  | addrList, s :: ss, h => by
    simp only [addrLoop] at h
    split at h
    · exact .inl h
    · rename_i addr parsed
      rcases mem_addrLoop h with h | ⟨t, ht, parsed'⟩
      · rcases List.mem_append.mp h with h | h
        · exact .inl h
        · exact .inr ⟨s, List.mem_cons_self _ _, (List.mem_singleton.mp h) ▸ parsed⟩
      · exact .inr ⟨t, List.mem_cons_of_mem _ ht, parsed'⟩

theorem listMiners_parseRegions {Address : Type} (newFromString : String → Except String Address)
    (addr : String → Address) (names : List String)
    (parses : ∀ s ∈ minersOfNames names, newFromString s = .ok (addr s)) :
    listMiners newFromString (parseRegions names) = ((minersOfNames names).map addr, none) := by
  rw [listMiners, minerStrings_parseRegions, addrLoop_of_parses _ _ (by simpa using parses)]
  simp [minersOfNames]

theorem listMiners_asia_global :
    (∀ s ∈ minersOfNames ["Asia", "Global"], (Except.ok s : Except String String) = .ok (id s)) ∧
      listMiners (fun s => .ok s) (parseRegions ["Asia", "Global"]) =
        ((minersOfNames ["Asia", "Global"]).map id, none) :=
  ⟨fun _ _ => rfl, listMiners_parseRegions _ _ _ fun _ _ => rfl⟩

end Pop.Supply
