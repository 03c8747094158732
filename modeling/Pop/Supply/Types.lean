import Mathlib.Data.List.Basic

/-!
# Identifiers and the request message

`cid.Cid` and `peer.ID` are compared by their underlying strings, so each is a structure
over a `String`. `multistore.StoreID` is `uint64`. `Request` is both the wire message of
the dispatch protocol and the voucher of the pull channels it starts.
-/

namespace Pop.Supply

/-- `cid.Cid`, compared by its binary string. -/
structure Cid where
  str : String
  deriving DecidableEq, Repr

/-- `peer.ID` (`type ID string`). -/
structure PeerID where
  str : String
  deriving DecidableEq, Repr

/-- `multistore.StoreID`. -/
abbrev StoreID := UInt64

/-- `Request`: the content to pull. -/
structure Request where
  payloadCID : Cid
  size : UInt64
  deriving DecidableEq, Repr

end Pop.Supply
