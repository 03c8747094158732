import Mathlib.Data.List.Nodup
import Pop.Supply.Types

/-!
# Repository helpers (`internal/utils/repo.go`)

`ListValue` is the `flag.Value` of a comma-separated list flag: `Set` replaces the list by the
pieces of its argument and `String` joins the list back. `Bootstrap` parses each bootstrap
address with `ma.NewMultiaddr` and `peer.AddrInfoFromP2pAddr` (both parameters), skips the
ones that fail, gathers the addresses of each peer in the `peerInfos` map and connects once to
every peer of the map. `Libp2pKey` reads the host key from the keystore, and generates and
stores one when there is none. `FormatToken` builds an `Authorization` header value.

`listValue_set_string` and `listValue_string_set_iff` are the two round trips of the flag;
`bootstrap_dials` says which connections `Bootstrap` makes; `libp2pKey_stable` that the host
key, once read or made, is the one every later start reads; `formatToken_basic` that a `Basic`
token is sent without the base64 encoding the function computes.
-/

namespace Pop.Utils
open Pop.Supply (PeerID)
set_option autoImplicit false

/-! ## `ListValue` -/

/-- `strings.Split(s, sep)` for a one-character separator: the pieces between the separators,
`[""]` for the empty string. Go splits bytes; a comma byte never occurs inside the UTF-8
encoding of another character, so the pieces are those of the characters. -/
def split (s : String) (sep : Char) : List String := (s.data.splitOn sep).map String.mk

/-- `strings.Join(elems, sep)`. -/
def join (elems : List String) (sep : String) : String :=
  ⟨sep.data.intercalate (elems.map String.data)⟩

/-- `listValue`: the flag's target list; `none` is the nil pointer of the zero value, on which
`flag` calls `String` to print defaults. -/
structure ListValue where
  val : Option (List String)
  deriving DecidableEq, Repr

/-- `ListValue(lst, defaultList)`: the target now holds the default. -/
def listValue (defaultList : List String) : ListValue := ⟨some defaultList⟩

/-- `listValue.String`. -/
def ListValue.string (l : ListValue) : String :=
  match l.val with
  | some val => join val ","
  | none => ""

/-- `listValue.Set`: the flag with its new list, or the error; `none` is the panic of writing
through the zero value's nil pointer. -/
def ListValue.set (l : ListValue) (v : String) : Option (Except String ListValue) :=
  if v = "" then some (.error "set an empty string")
  else l.val.map fun _ => .ok ⟨some (split v ',')⟩

theorem join_comma (elems : List String) :
    join elems "," = ⟨[','].intercalate (elems.map String.data)⟩ := rfl

/-- No piece of a split holds the separator. -/
theorem not_mem_of_mem_splitOn {c : Char} {l piece : List Char} (h : piece ∈ l.splitOn c) :
    c ∉ piece := by
  induction l generalizing piece with
  | nil => simp_all
  | cons x xs ih =>
    rw [List.splitOn, List.splitOnP_cons, ← List.splitOn] at h
    split at h
    · rcases List.mem_cons.mp h with rfl | h
      · exact List.not_mem_nil c
      · exact ih h
    · rename_i other
      cases pieces : xs.splitOn c with
      | nil => exact absurd pieces (List.splitOnP_ne_nil _ xs)
      | cons first rest =>
        rw [pieces, List.modifyHead_cons] at h
        rcases List.mem_cons.mp h with rfl | h
        · exact List.not_mem_cons_of_ne_of_not_mem (fun same => other (by simp [same]))
            (ih (by simp [pieces]))
        · exact ih (by simp [pieces, h])

/-- `String` after a successful `Set` gives back the argument. -/
theorem listValue_set_string (xs : List String) (v : String) (nonempty : v ≠ "") :
    ∃ l, ListValue.set ⟨some xs⟩ v = some (.ok l) ∧ l.string = v := by
  refine ⟨⟨some (split v ',')⟩, by simp [ListValue.set, nonempty], ?_⟩
  simp only [ListValue.string, join_comma, split, List.map_map, Function.comp_def,
    List.map_id', List.intercalate_splitOn]

theorem listValue_set_string_pair :
    "a,b" ≠ "" ∧ ∃ l, ListValue.set ⟨some ["x"]⟩ "a,b" = some (.ok l) ∧ l.string = "a,b" :=
  ⟨by decide, listValue_set_string ["x"] "a,b" (by decide)⟩

theorem join_eq_empty_iff {xs : List String} :
    join xs "," = "" ↔ xs = [] ∨ xs = [""] := by
  rcases xs with _ | ⟨x, _ | ⟨y, ys⟩⟩ <;> simp [join, List.intercalate, String.ext_iff]

/-- `Set` after `String` restores a list exactly when none of its elements holds a comma and it
is neither empty nor the single empty string (those two print as `""`, which `Set`
refuses). -/
theorem listValue_string_set_iff (xs ys : List String) :
    ListValue.set ⟨some ys⟩ (ListValue.string ⟨some xs⟩) = some (.ok ⟨some xs⟩) ↔
      (∀ s ∈ xs, ',' ∉ s.data) ∧ xs ≠ [] ∧ xs ≠ [""] := by
  simp only [ListValue.string, ListValue.set, join_eq_empty_iff]
  constructor
  · intro h
    split_ifs at h with empty
    · cases h
    · simp only [Option.map_some', Option.some.injEq, Except.ok.injEq, ListValue.mk.injEq]
        at h
      push_neg at empty
      refine ⟨fun s hs commas => ?_, empty⟩
      rw [← h, split, List.mem_map] at hs
      obtain ⟨piece, hp, rfl⟩ := hs
      exact not_mem_of_mem_splitOn hp commas
  · rintro ⟨commas, empty⟩
    rw [if_neg (by tauto)]
    have pieces : ([','].intercalate (xs.map String.data)).splitOn ',' = xs.map String.data :=
      List.splitOn_intercalate _ ',' (by simpa using commas) (by simpa using empty.1)
    simp only [Option.map_some', split, join_comma, pieces, List.map_map, Function.comp_def,
      List.map_id']

/-! ## `Bootstrap` -/

section Bootstrap
variable {Multiaddr : Type}

/-- `peer.AddrInfo`, and `peerstore.PeerInfo`, which has the same fields. -/
structure AddrInfo (Multiaddr : Type) where
  id : PeerID
  addrs : List Multiaddr
  deriving DecidableEq, Repr

/-- The body of the first loop: the address info of one bootstrap address, `none` where
`ma.NewMultiaddr` or `peer.AddrInfoFromP2pAddr` fails and the loop continues. -/
def parsePeer (newMultiaddr : String → Except String Multiaddr)
    (addrInfoFromP2pAddr : Multiaddr → Except String (AddrInfo Multiaddr)) (addrStr : String) :
    Option (AddrInfo Multiaddr) :=
  match newMultiaddr addrStr with
  | .error _ => none
  | .ok addr =>
    match addrInfoFromP2pAddr addr with
    | .error _ => none
    | .ok addrInfo => some addrInfo

/-- The `peerInfos` map, as its entries: a peer ID is a key at most once. -/
structure PeerInfos (Multiaddr : Type) where
  entries : List (AddrInfo Multiaddr)
  nodup : (entries.map (·.id)).Nodup

/-- `peerInfos[pi.ID] = pi` for a new `pi = &PeerInfo{ID: id}`. -/
def PeerInfos.insertNew (m : PeerInfos Multiaddr) (id : PeerID)
    (absent : id ∉ m.entries.map (·.id)) : PeerInfos Multiaddr :=
  ⟨m.entries ++ [⟨id, []⟩], by simpa [List.nodup_append] using And.intro m.nodup absent⟩

/-- `pi.Addrs = append(pi.Addrs, addrs...)` on the entry of `id`. -/
def PeerInfos.appendAddrs (m : PeerInfos Multiaddr) (id : PeerID) (addrs : List Multiaddr) :
    PeerInfos Multiaddr :=
  ⟨m.entries.map fun pi => if pi.id = id then ⟨pi.id, pi.addrs ++ addrs⟩ else pi, by
    rw [List.map_map]
    convert m.nodup using 2
    funext pi
    by_cases h : pi.id = id <;> simp [h]⟩

/-- The body of the second loop: find or create the peer's entry, then append the addresses. -/
def PeerInfos.add (m : PeerInfos Multiaddr) (pii : AddrInfo Multiaddr) : PeerInfos Multiaddr :=
  let m := if h : pii.id ∈ m.entries.map (·.id) then m else m.insertNew pii.id h
  m.appendAddrs pii.id pii.addrs

/-- `Bootstrap`'s connections: one `h.Connect` per entry of `peerInfos`, each in its own
goroutine, so in no fixed order. `Bootstrap` itself returns nil whatever they answer. -/
def bootstrap (newMultiaddr : String → Except String Multiaddr)
    (addrInfoFromP2pAddr : Multiaddr → Except String (AddrInfo Multiaddr)) (bpeers : List String) :
    List (AddrInfo Multiaddr) :=
  ((bpeers.filterMap (parsePeer newMultiaddr addrInfoFromP2pAddr)).foldl PeerInfos.add
    ⟨[], List.nodup_nil⟩).entries

/-- Go's map read `peerInfos[id]`: the addresses of the peer's entry. -/
def PeerInfos.find (m : PeerInfos Multiaddr) (id : PeerID) : Option (List Multiaddr) :=
  (m.entries.find? (·.id = id)).map (·.addrs)

theorem find_eq_none {m : PeerInfos Multiaddr} {id : PeerID}
    (absent : id ∉ m.entries.map (·.id)) : m.find id = none := by
  simpa [PeerInfos.find] using fun pi hpi same => absent (List.mem_map.mpr ⟨pi, hpi, same⟩)

theorem find_of_mem {m : PeerInfos Multiaddr} {pi : AddrInfo Multiaddr} (hpi : pi ∈ m.entries) :
    ∃ pi', m.entries.find? (·.id = pi.id) = some pi' ∧ pi'.id = pi.id ∧ pi' ∈ m.entries := by
  have exists_some : (m.entries.find? (·.id = pi.id)).isSome :=
    List.find?_isSome.mpr ⟨pi, hpi, by simp⟩
  obtain ⟨pi', found⟩ := Option.isSome_iff_exists.mp exists_some
  exact ⟨pi', found, by simpa using List.find?_some found, List.mem_of_find?_eq_some found⟩

theorem find_insertNew (m : PeerInfos Multiaddr) {id : PeerID}
    (absent : id ∉ m.entries.map (·.id)) (k : PeerID) :
    (m.insertNew id absent).find k = if k = id then some [] else m.find k := by
  by_cases same : k = id
  · subst same
    have before : m.entries.find? (·.id = k) = none := List.find?_eq_none.mpr
      fun pi hpi own => absent (List.mem_map.mpr ⟨pi, hpi, of_decide_eq_true own⟩)
    simp [PeerInfos.find, PeerInfos.insertNew, List.find?_append, before]
  · simp only [PeerInfos.find, PeerInfos.insertNew, List.find?_append, if_neg same]
    cases m.entries.find? (·.id = k) <;> simp [Ne.symm same]

theorem find_appendAddrs (m : PeerInfos Multiaddr) (id : PeerID) (addrs : List Multiaddr)
    (k : PeerID) :
    (m.appendAddrs id addrs).find k =
      if k = id then (m.find k).map (· ++ addrs) else m.find k := by
  simp only [PeerInfos.find, PeerInfos.appendAddrs, List.find?_map]
  have keys : ((fun pi => decide (pi.id = k)) ∘ fun pi : AddrInfo Multiaddr =>
      if pi.id = id then (⟨pi.id, pi.addrs ++ addrs⟩ : AddrInfo Multiaddr) else pi) =
      fun pi => decide (pi.id = k) := by
    funext pi
    by_cases h : pi.id = id <;> simp [h]
  rw [keys]
  cases found : m.entries.find? (·.id = k) with
  | none => split <;> rfl
  | some pi =>
    have own : pi.id = k := by simpa using List.find?_some found
    by_cases same : k = id <;> simp [same, own]

/-- One iteration appends the addresses to the peer's entry, which it creates empty first if
there is none; every other entry is unchanged. -/
theorem find_add (m : PeerInfos Multiaddr) (pii : AddrInfo Multiaddr) (k : PeerID) :
    (m.add pii).find k =
      if k = pii.id then some ((m.find k).getD [] ++ pii.addrs) else m.find k := by
  simp only [PeerInfos.add]
  split
  · rename_i present
    rw [find_appendAddrs]
    split
    · rename_i same
      subst same
      obtain ⟨pi, hpi, own⟩ := List.mem_map.mp present
      obtain ⟨pi', found, -⟩ := find_of_mem hpi
      simp only [PeerInfos.find, ← own, found, Option.map_some', Option.getD_some]
    · rfl
  · rename_i absent
    rw [find_appendAddrs, find_insertNew]
    split
    · rename_i same
      subst same
      simp [find_eq_none absent]
    · rfl

/-- The whole loop: a peer's entry holds the addresses of all its address infos, in order,
after what the map held before. -/
theorem find_foldl_add (peers : List (AddrInfo Multiaddr)) :
    ∀ (m : PeerInfos Multiaddr) (k : PeerID), (peers.foldl PeerInfos.add m).find k =
      if k ∈ peers.map (·.id) then
        some ((m.find k).getD [] ++ (peers.filter (·.id = k)).flatMap (·.addrs))
      else m.find k := by
  induction peers with
  | nil => simp
  | cons pii peers ih =>
    intro m k
    rw [List.foldl_cons, ih, find_add]
    by_cases later : k ∈ peers.map (·.id)
    · by_cases same : k = pii.id
      · subst same
        simp [later, List.filter_cons]
      · simp [later, same, Ne.symm same, List.filter_cons]
    · have none_later : peers.filter (·.id = k) = [] :=
        List.filter_eq_nil_iff.mpr fun pi hpi own =>
          later (List.mem_map.mpr ⟨pi, hpi, of_decide_eq_true own⟩)
      by_cases same : k = pii.id
      · subst same
        simp [later, List.filter_cons, none_later]
      · simp [later, same, Ne.symm same]

/-- An entry of the map is its own map read: the keys are unique. -/
theorem mem_entries_iff (m : PeerInfos Multiaddr) (pi : AddrInfo Multiaddr) :
    pi ∈ m.entries ↔ m.find pi.id = some pi.addrs := by
  simp only [PeerInfos.find, Option.map_eq_some']
  constructor
  · intro hpi
    obtain ⟨pi', found, own, hpi'⟩ := find_of_mem hpi
    rw [(List.inj_on_of_nodup_map m.nodup) hpi' hpi own] at found
    exact ⟨pi, found, rfl⟩
  · rintro ⟨pi', found, addrs⟩
    have own : pi'.id = pi.id := by simpa using List.find?_some found
    have same : pi' = pi := by cases pi; cases pi'; simp_all
    exact same ▸ List.mem_of_find?_eq_some found

/-- `Bootstrap` connects once to each peer one of whose bootstrap addresses parses, with all
the addresses of that peer that parse, in the order given; to no other peer. -/
theorem bootstrap_dials (newMultiaddr : String → Except String Multiaddr)
    (addrInfoFromP2pAddr : Multiaddr → Except String (AddrInfo Multiaddr)) (bpeers : List String) :
    ((bootstrap newMultiaddr addrInfoFromP2pAddr bpeers).map (·.id)).Nodup ∧
      ∀ pi, pi ∈ bootstrap newMultiaddr addrInfoFromP2pAddr bpeers ↔
        pi.id ∈ (bpeers.filterMap (parsePeer newMultiaddr addrInfoFromP2pAddr)).map (·.id) ∧
        pi.addrs = ((bpeers.filterMap (parsePeer newMultiaddr addrInfoFromP2pAddr)).filter
          (·.id = pi.id)).flatMap (·.addrs) := by
  refine ⟨PeerInfos.nodup _, fun pi => ?_⟩
  rw [bootstrap, mem_entries_iff, find_foldl_add]
  split
  · simp [PeerInfos.find, eq_comm, *]
  · simp [PeerInfos.find, *]

/-- Two addresses of one peer make one connection with both. -/
example : bootstrap (fun s => .ok s)
      (fun s => if s = "a1" ∨ s = "a2" then .ok ⟨⟨"A"⟩, [s]⟩
        else if s = "b1" then .ok ⟨⟨"B"⟩, [s]⟩ else .error "no p2p part")
      ["a1", "bad", "b1", "a2"] = [⟨⟨"A"⟩, ["a1", "a2"]⟩, ⟨⟨"B"⟩, ["b1"]⟩] := by
  decide

end Bootstrap

/-! ## `Libp2pKey` -/

section Keystore
variable {Key : Type}

/-- `KLibp2pHost`, the keystore name of the host's private key. -/
def kLibp2pHost : String := "libp2p-host"

/-- The keystore's errors: `ErrNoSuchKey`, `ErrKeyExists`, and any other (the disk's, or the
key generator's). -/
inductive KeystoreError where
  | noSuchKey
  | keyExists
  | other (e : String)
  deriving DecidableEq, Repr

/-- A keystore: the stored keys, and the I/O error every call reports if the disk fails. -/
structure Keystore (Key : Type) where
  keys : String → Option Key
  fault : Option String

/-- `Keystore.Get`. -/
def Keystore.get (ks : Keystore Key) (name : String) : Except KeystoreError Key :=
  match ks.fault with
  | some e => .error (.other e)
  | none =>
    match ks.keys name with
    | some k => .ok k
    | none => .error .noSuchKey

/-- `Keystore.Put`, which refuses to overwrite a key. -/
def Keystore.put (ks : Keystore Key) (name : String) (k : Key) :
    Except KeystoreError (Keystore Key) :=
  match ks.fault with
  | some e => .error (.other e)
  | none =>
    match ks.keys name with
    | some _ => .error .keyExists
    | none => .ok ⟨Function.update ks.keys name (some k), none⟩

/-- `Libp2pKey`: the keystore after the call and the host key or the error; `generate` is what
`ci.GenerateEd25519Key(rand.Reader)` answers. -/
def libp2pKey (generate : Except String Key) (ks : Keystore Key) :
    Keystore Key × Except KeystoreError Key :=
  match ks.get kLibp2pHost with
  | .ok k => (ks, .ok k)
  | .error .noSuchKey =>
    match generate with
    | .error e => (ks, .error (.other e))
    | .ok pk =>
      match ks.put kLibp2pHost pk with
      | .error e => (ks, .error e)
      | .ok ks' => (ks', .ok pk)
  | .error e => (ks, .error e)

/-- A key `Put` stored is the one `Get` reads back. -/
theorem Keystore.get_of_put {ks ks' : Keystore Key} {name : String} {k : Key}
    (put : ks.put name k = .ok ks') : ks'.get name = .ok k := by
  unfold Keystore.put at put
  split at put
  · cases put
  · split at put
    · cases put
    · cases put
      simp [Keystore.get]

/-- The host key is stable: once `Libp2pKey` has returned a key, the keystore holds it, and
every later call returns it again and changes nothing, whatever the generator would give. -/
theorem libp2pKey_stable (generate generate' : Except String Key) (ks ks' : Keystore Key)
    (k : Key) (ok : libp2pKey generate ks = (ks', .ok k)) :
    ks'.get kLibp2pHost = .ok k ∧ libp2pKey generate' ks' = (ks', .ok k) := by
  have held : ks'.get kLibp2pHost = .ok k := by
    unfold libp2pKey at ok
    split at ok
    · rename_i got
      simp only [Prod.mk.injEq, Except.ok.injEq] at ok
      exact ok.1 ▸ ok.2 ▸ got
    · split at ok
      · simp at ok
      · split at ok
        · simp at ok
        · rename_i put
          simp only [Prod.mk.injEq, Except.ok.injEq] at ok
          exact ok.1 ▸ ok.2 ▸ Keystore.get_of_put put
    · simp at ok
  exact ⟨held, by simp only [libp2pKey, held]⟩

end Keystore

/-! ## `FormatToken` -/

/-- The standard base64 alphabet. -/
def base64Alphabet : List Char :=
  "ABCDEFGHIJKLMNOPQRSTUVWXYZabcdefghijklmnopqrstuvwxyz0123456789+/".data

/-- The character of a 6-bit value. -/
def base64Char (n : Nat) : Char := base64Alphabet.getD n '='

/-- `base64.StdEncoding.EncodeToString`: each group of three bytes becomes four characters,
and a last group of one or two bytes is padded with `=`. -/
def base64Encode : List UInt8 → List Char
  | a :: b :: c :: rest =>
    let n := a.toNat * 65536 + b.toNat * 256 + c.toNat
    [base64Char (n / 262144), base64Char (n / 4096 % 64), base64Char (n / 64 % 64),
      base64Char (n % 64)] ++ base64Encode rest
  | [a, b] =>
    let n := a.toNat * 65536 + b.toNat * 256
    [base64Char (n / 262144), base64Char (n / 4096 % 64), base64Char (n / 64 % 64), '=']
  | [a] =>
    let n := a.toNat * 65536
    [base64Char (n / 262144), base64Char (n / 4096 % 64), '=', '=']
  | [] => []

/-- `FormatToken(tok, tp)`. The `Basic` branch's encoding is assigned to `token` and then
overwritten by the `Sprintf` of the raw `tok`. -/
def formatToken (tok tp : String) : String :=
  if tok = "" then ""
  else
    let _token := if tp = "Basic" then String.mk (base64Encode tok.toUTF8.data.toList) else tok
    tp ++ " " ++ tok

theorem length_base64Encode : ∀ bs : List UInt8, (base64Encode bs).length = 4 * ((bs.length + 2) / 3)
  | _ :: _ :: _ :: rest => by
    simp only [base64Encode, List.length_append, length_base64Encode rest, List.length_cons,
      List.length_nil]
    omega
  | [_, _] => by simp [base64Encode]
  | [_] => by simp [base64Encode]
  | [] => rfl

theorem length_le_utf8ByteSize (s : String) : s.length ≤ s.utf8ByteSize := by
  obtain ⟨cs⟩ := s
  simp only [String.length, String.utf8ByteSize]
  induction cs with
  | nil => rfl
  | cons c cs ih =>
    simp only [List.length_cons, String.utf8ByteSize.go]
    have := c.utf8Size_pos
    omega

/-- `FormatToken` sends a `Basic` token as it is given: the header is never the base64
encoding its comment calls for, since that encoding is longer than the token. -/
theorem formatToken_basic (tok : String) (nonempty : tok ≠ "") :
    formatToken tok "Basic" = "Basic " ++ tok ∧
      formatToken tok "Basic" ≠ "Basic " ++ String.mk (base64Encode tok.toUTF8.data.toList) := by
  have header : formatToken tok "Basic" = "Basic " ++ tok := if_neg nonempty
  refine ⟨header, fun same => ?_⟩
  rw [header] at same
  have chars : tok.data = base64Encode tok.toUTF8.data.toList :=
    List.append_cancel_left (congrArg String.data same)
  have bytes : tok.toUTF8.data.toList.length = tok.utf8ByteSize := by
    rw [Array.length_toList, ← String.size_toUTF8]
    rfl
  have lengths := congrArg List.length chars
  rw [length_base64Encode, bytes] at lengths
  have pos : 0 < tok.length := by
    rcases tok with ⟨_ | ⟨c, cs⟩⟩
    · exact absurd rfl nonempty
    · exact Nat.succ_pos _
  have := length_le_utf8ByteSize tok
  simp only [String.length] at pos this
  omega

end Pop.Utils
