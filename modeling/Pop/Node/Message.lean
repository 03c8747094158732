import Mathlib.Data.List.Basic

/-!
# Daemon/client framing (`node/message.go`, `ReadMsg` and `WriteMsg`)

A message travels as a 4-byte little-endian length prefix followed by its bytes.
`WriteMsg` refuses a message longer than `MaxMessageSize` before writing anything;
`ReadMsg` refuses a prefix above the same bound. The reader is the byte stream still to
be read; the writer is any state with a `Write` that reports the bytes it took.
`framing_round_trip` says the two sides accept the same lengths and that a sequence of
frames reads back message by message; `readMsgs_framed` is the converse, that whatever the
reader accepts was a sequence of such frames.
-/

namespace Pop.Node

/-- `MaxMessageSize`: `10 << 20` bytes. -/
def maxMessageSize : Nat := 10 <<< 20

/-- `binary.LittleEndian.PutUint32(cb, v)`: `byte(v >> 8k)` for `k = 0, 1, 2, 3`. -/
def putUint32 (v : Nat) : List UInt8 :=
  [UInt8.ofNat v, UInt8.ofNat (v >>> 8), UInt8.ofNat (v >>> 16), UInt8.ofNat (v >>> 24)]

/-- `binary.LittleEndian.Uint32(cb)`. The four shifted bytes occupy disjoint bits, so the
source's `|` is a sum. -/
def getUint32 (cb : List UInt8) : Nat :=
  (cb.getD 0 0).toNat + 256 * (cb.getD 1 0).toNat + 65536 * (cb.getD 2 0).toNat +
    16777216 * (cb.getD 3 0).toNat

/-- The errors of `ReadMsg`, `WriteMsg` and the I/O calls they make. -/
inductive MsgError where
  | eof
  | unexpectedEOF
  | tooLarge (fn : String) (n : Nat)
  | expected (n nn : Nat)
  | shortWrite (n wanted : Nat)
  | writer (err : String)
  deriving DecidableEq, Repr

/-- The error texts, as `fmt.Errorf` and `io` spell them. -/
def MsgError.text : MsgError → String
  | .eof => "EOF"
  | .unexpectedEOF => "unexpected EOF"
  | .tooLarge fn n => fn ++ ": message too large: " ++ toString n ++ " bytes"
  | .expected n nn => "ReadMsg: expected " ++ toString n ++ " bytes, got " ++ toString nn
  | .shortWrite n wanted =>
    "WriteMsg: short write: " ++ toString n ++ " bytes (wanted " ++ toString wanted ++ ")"
  | .writer err => err

/-- `io.ReadFull(r, make([]byte, n))`: the first `n` bytes and what follows them. -/
def readFull (n : Nat) (r : List UInt8) : Except MsgError (List UInt8 × List UInt8) :=
  if n ≤ r.length then .ok (r.take n, r.drop n) else .error (if r = [] then .eof else .unexpectedEOF)

/-- `ReadMsg`: one message and the rest of the stream. -/
def readMsg (r : List UInt8) : Except MsgError (List UInt8 × List UInt8) :=
  match readFull 4 r with
  | .error e => .error e
  | .ok (cb, r) =>
    if getUint32 cb > maxMessageSize then .error (.tooLarge "ReadMsg" (getUint32 cb))
    else
      match readFull (getUint32 cb) r with
      | .error e => .error e
      | .ok (b, r) => if b.length ≠ getUint32 cb then .error (.expected (getUint32 cb) b.length) else .ok (b, r)

/-- `WriteMsg(w, b)` against a writer whose `Write` returns the count it wrote or an error. -/
def writeMsg {σ : Type} (write : σ → List UInt8 → σ × Except String Nat) (w : σ)
    (b : List UInt8) : σ × Option MsgError :=
  if b.length > maxMessageSize then (w, some (.tooLarge "WriteMsg" b.length))
  else
    match write w (putUint32 (UInt32.ofNat b.length).toNat) with
    | (w, .error e) => (w, some (.writer e))
    | (w, .ok n) =>
      if n ≠ 4 then (w, some (.shortWrite n 4))
      else
        match write w b with
        | (w, .error e) => (w, some (.writer e))
        | (w, .ok n) => if n ≠ b.length then (w, some (.shortWrite n b.length)) else (w, none)

/-- An in-order writer: it appends everything it is given. -/
def appendWriter (out b : List UInt8) : List UInt8 × Except String Nat := (out ++ b, .ok b.length)

/-- `WriteMsg` called on each message in turn, stopping at the first error. -/
def writeMsgs {σ : Type} (write : σ → List UInt8 → σ × Except String Nat) (w : σ) :
    List (List UInt8) → σ × Option MsgError
  | [] => (w, none)
  | b :: bs =>
    match writeMsg write w b with
    | (w, none) => writeMsgs write w bs
    | (w, some e) => (w, some e)

/-- `k` calls of `ReadMsg` on one stream. -/
def readMsgs : Nat → List UInt8 → Except MsgError (List (List UInt8) × List UInt8)
  | 0, r => .ok ([], r)
  | k + 1, r =>
    match readMsg r with
    | .error e => .error e
    | .ok (b, r) =>
      match readMsgs k r with
      | .error e => .error e
      | .ok (bs, r) => .ok (b :: bs, r)

/-- The frame of a message: its length prefix and its bytes. -/
def frame (b : List UInt8) : List UInt8 := putUint32 b.length ++ b

@[simp] theorem length_putUint32 (v : Nat) : (putUint32 v).length = 4 := rfl

theorem toNat_ofNat_uint8 (n : Nat) : (UInt8.ofNat n).toNat = n % 256 := BitVec.toNat_ofNat n 8

/-- The prefix reads back the value modulo `2^32`: each byte is the next base-256 digit. -/
theorem getUint32_putUint32 (v : Nat) : getUint32 (putUint32 v) = v % 4294967296 := by
  have digit₁ := @Nat.mod_mul 256 256 v
  have digit₂ := @Nat.mod_mul 65536 256 v
  have digit₃ := @Nat.mod_mul 16777216 256 v
  simp only [Nat.reduceMul] at digit₁ digit₂ digit₃
  simp only [getUint32, putUint32, List.getD_cons_zero, List.getD_cons_succ, toNat_ofNat_uint8,
    Nat.shiftRight_eq_div_pow, Nat.reducePow]
  rw [digit₃, digit₂, digit₁]

theorem maxMessageSize_lt : maxMessageSize < 4294967296 := by decide

/-- `uint32(len(b))` is exact for every length `WriteMsg` accepts. -/
theorem uint32_length {b : List UInt8} (h : b.length ≤ maxMessageSize) :
    (UInt32.ofNat b.length).toNat = b.length :=
  UInt32.toNat_ofNat_of_lt (lt_of_le_of_lt h maxMessageSize_lt)

theorem readFull_append (b rest : List UInt8) : readFull b.length (b ++ rest) = .ok (b, rest) := by
  simp [readFull]

theorem readFull_error {n : Nat} {r : List UInt8} {e : MsgError} (h : readFull n r = .error e) :
    e = .eof ∨ e = .unexpectedEOF := by
  unfold readFull at h
  split at h
  · cases h
  · cases h; split <;> simp

/-- One `ReadMsg` consumes exactly one frame. -/
theorem readMsg_frame (b rest : List UInt8) (h : b.length ≤ maxMessageSize) :
    readMsg (frame b ++ rest) = .ok (b, rest) := by
  have hcb := readFull_append (putUint32 b.length) (b ++ rest)
  have hn : getUint32 (putUint32 b.length) = b.length := by
    rw [getUint32_putUint32, Nat.mod_eq_of_lt (lt_of_le_of_lt h maxMessageSize_lt)]
  simp only [length_putUint32] at hcb
  simp [readMsg, frame, hcb, hn, readFull_append, Nat.not_lt.2 h]

/-- A prefix above the bound is refused, and only such a prefix. -/
theorem readMsg_tooLarge_iff (cb rest : List UInt8) (hcb : cb.length = 4) :
    readMsg (cb ++ rest) = .error (.tooLarge "ReadMsg" (getUint32 cb)) ↔
      maxMessageSize < getUint32 cb := by
  have h4 : readFull 4 (cb ++ rest) = .ok (cb, rest) := hcb ▸ readFull_append cb rest
  by_cases hn : maxMessageSize < getUint32 cb
  · simp [readMsg, h4, hn]
  · simp only [readMsg, h4, hn, if_false, iff_false]
    cases hr : readFull (getUint32 cb) rest with
    | error e => rcases readFull_error hr with rfl | rfl <;> simp
    | ok p => dsimp only; split <;> simp

theorem writeMsg_tooLarge {σ : Type} (write : σ → List UInt8 → σ × Except String Nat) (w : σ)
    (b : List UInt8) (h : maxMessageSize < b.length) :
    writeMsg write w b = (w, some (.tooLarge "WriteMsg" b.length)) := by
  simp [writeMsg, h]

/-- Only an oversized message gets `WriteMsg`'s "too large" error. -/
theorem writeMsg_tooLarge_iff {σ : Type} (write : σ → List UInt8 → σ × Except String Nat) (w : σ)
    (b : List UInt8) :
    (writeMsg write w b).2 = some (.tooLarge "WriteMsg" b.length) ↔ maxMessageSize < b.length := by
  refine ⟨fun h => Nat.lt_of_not_le fun hb => ?_, fun h => by rw [writeMsg_tooLarge _ _ _ h]⟩
  simp only [writeMsg, Nat.not_lt.2 hb, if_false] at h
  split at h
  · simp at h
  · split at h
    · simp at h
    · split at h
      · simp at h
      · split at h <;> simp at h

theorem writeMsg_appendWriter (out b : List UInt8) (h : b.length ≤ maxMessageSize) :
    writeMsg appendWriter out b = (out ++ frame b, none) := by
  simp [writeMsg, appendWriter, frame, Nat.not_lt.2 h, uint32_length h]

theorem writeMsgs_appendWriter (out : List UInt8) (ms : List (List UInt8))
    (h : ∀ m ∈ ms, m.length ≤ maxMessageSize) :
    writeMsgs appendWriter out ms = (out ++ ms.flatMap frame, none) := by
  induction ms generalizing out with
  | nil => simp [writeMsgs]
  | cons m ms ih =>
    simp only [writeMsgs, writeMsg_appendWriter out m (h m (List.mem_cons_self _ _))]
    rw [ih _ fun x hx => h x (List.mem_cons_of_mem _ hx)]
    simp

theorem readMsgs_flatMap (ms : List (List UInt8)) (rest : List UInt8)
    (h : ∀ m ∈ ms, m.length ≤ maxMessageSize) :
    readMsgs ms.length (ms.flatMap frame ++ rest) = .ok (ms, rest) := by
  induction ms with
  | nil => rfl
  | cons m ms ih =>
    have hm := readMsg_frame m (ms.flatMap frame ++ rest) (h m (List.mem_cons_self _ _))
    rw [List.flatMap_cons, List.append_assoc]
    simp [readMsgs, hm, ih fun x hx => h x (List.mem_cons_of_mem _ hx)]

/-- Framing law: messages within the bound, written in order to an in-order writer, read
back one frame (`4 + length` bytes) per `ReadMsg`; both sides refuse exactly the lengths
above `MaxMessageSize`, a refused write writes nothing, and the 32-bit prefix is exact for
every accepted length. -/
theorem framing_round_trip :
    (∀ (ms : List (List UInt8)) (rest : List UInt8), (∀ m ∈ ms, m.length ≤ maxMessageSize) →
      writeMsgs appendWriter [] ms = (ms.flatMap frame, none) ∧
        readMsgs ms.length (ms.flatMap frame ++ rest) = .ok (ms, rest)) ∧
    (∀ b rest : List UInt8, b.length ≤ maxMessageSize →
      (frame b).length = 4 + b.length ∧ readMsg (frame b ++ rest) = .ok (b, rest)) ∧
    (∀ {σ : Type} (write : σ → List UInt8 → σ × Except String Nat) (w : σ) (b : List UInt8),
      ((writeMsg write w b).2 = some (.tooLarge "WriteMsg" b.length) ↔
        maxMessageSize < b.length) ∧
      (maxMessageSize < b.length → writeMsg write w b = (w, some (.tooLarge "WriteMsg" b.length)))) ∧
    (∀ cb rest : List UInt8, cb.length = 4 →
      (readMsg (cb ++ rest) = .error (.tooLarge "ReadMsg" (getUint32 cb)) ↔
        maxMessageSize < getUint32 cb)) ∧
    (∀ b : List UInt8, b.length ≤ maxMessageSize →
      getUint32 (putUint32 (UInt32.ofNat b.length).toNat) = b.length) := by
  refine ⟨fun ms rest h => ⟨?_, readMsgs_flatMap ms rest h⟩,
    fun b rest h => ⟨by simp [frame, Nat.add_comm], readMsg_frame b rest h⟩,
    fun write w b => ⟨writeMsg_tooLarge_iff write w b, writeMsg_tooLarge write w b⟩,
    readMsg_tooLarge_iff, fun b h => ?_⟩
  · simpa using writeMsgs_appendWriter [] ms h
  · rw [uint32_length h, getUint32_putUint32, Nat.mod_eq_of_lt (lt_of_le_of_lt h maxMessageSize_lt)]

/-! ### What `ReadMsg` accepts -/

theorem readFull_ok {n : Nat} {r b rest : List UInt8} (h : readFull n r = .ok (b, rest)) :
    b.length = n ∧ r = b ++ rest := by
  unfold readFull at h
  split at h
  · cases h
    exact ⟨List.length_take_of_le ‹_›, (List.take_append_drop n r).symm⟩
  · cases h

theorem ofNat_eq_of_mod {n : Nat} {a : UInt8} (h : n % 256 = a.toNat) : UInt8.ofNat n = a :=
  UInt8.toNat.inj ((toNat_ofNat_uint8 n).trans h)

/-- The base-256 digit split: `a + 256 * y` ends in the digit `a`, before which stands `y`. -/
theorem digit_split {a : Nat} (y : Nat) (h : a < 256) :
    (a + 256 * y) % 256 = a ∧ (a + 256 * y) >>> 8 = y := by
  rw [Nat.shiftRight_eq_div_pow]
  omega

/-- Four bytes read as a prefix write back to themselves. -/
theorem putUint32_getUint32 {cb : List UInt8} (h : cb.length = 4) : putUint32 (getUint32 cb) = cb := by
  match cb, h with
  | [a, b, c, d], _ =>
    have horner : getUint32 [a, b, c, d] =
        a.toNat + 256 * (b.toNat + 256 * (c.toNat + 256 * d.toNat)) := by
      simp only [getUint32, List.getD_cons_zero, List.getD_cons_succ]; omega
    obtain ⟨a₀, a₁⟩ := digit_split (b.toNat + 256 * (c.toNat + 256 * d.toNat)) a.toNat_lt_size
    obtain ⟨b₀, b₁⟩ := digit_split (c.toNat + 256 * d.toNat) b.toNat_lt_size
    obtain ⟨c₀, c₁⟩ := digit_split d.toNat c.toNat_lt_size
    have s16 : ∀ x : Nat, x >>> 16 = x >>> 8 >>> 8 := fun x => Nat.shiftRight_add x 8 8
    have s24 : ∀ x : Nat, x >>> 24 = x >>> 8 >>> 8 >>> 8 := fun x =>
      (Nat.shiftRight_add x 16 8).trans (congrArg (· >>> 8) (s16 x))
    simp only [putUint32, horner, List.cons.injEq, and_true, s16, s24, a₁, b₁, c₁]
    exact ⟨ofNat_eq_of_mod a₀, ofNat_eq_of_mod b₀, ofNat_eq_of_mod c₀,
      ofNat_eq_of_mod (Nat.mod_eq_of_lt d.toNat_lt_size : d.toNat % 256 = d.toNat)⟩

/-- A message `ReadMsg` accepts was framed: within the bound, behind its own prefix. -/
theorem readMsg_ok {r b rest : List UInt8} (h : readMsg r = .ok (b, rest)) :
    b.length ≤ maxMessageSize ∧ r = frame b ++ rest := by
  unfold readMsg at h
  split at h
  · cases h
  · rename_i cb r' hcb
    obtain ⟨hcb4, hr⟩ := readFull_ok hcb
    split at h
    · cases h
    · rename_i hle
      split at h
      · cases h
      · rename_i b' rest' hb
        obtain ⟨hbl, hr'⟩ := readFull_ok hb
        split at h
        · cases h
        · cases h
          refine ⟨hbl ▸ Nat.le_of_not_lt hle, ?_⟩
          rw [hr, hr', frame, hbl, putUint32_getUint32 hcb4, List.append_assoc]

/-- The converse of the framing law: whatever `k` calls of `ReadMsg` accept is `k` messages
within the bound, framed one after another, followed by the unread rest of the stream. -/
theorem readMsgs_framed : ∀ {k : Nat} {r : List UInt8} {ms : List (List UInt8)} {rest : List UInt8},
    readMsgs k r = .ok (ms, rest) →
      ms.length = k ∧ (∀ m ∈ ms, m.length ≤ maxMessageSize) ∧ r = ms.flatMap frame ++ rest
  | 0, r, ms, rest, h => by
    cases h
    exact ⟨rfl, fun _ h => (List.not_mem_nil _ h).elim, rfl⟩
  | k + 1, r, ms, rest, h => by
    unfold readMsgs at h
    split at h
    · cases h
    · rename_i b r' hb
      split at h
      · cases h
      · rename_i bs r'' hbs
        cases h
        obtain ⟨hlen, hmax, hr'⟩ := readMsgs_framed hbs
        obtain ⟨hb1, hr⟩ := readMsg_ok hb
        refine ⟨by simp [hlen], fun m hm => ?_, by rw [hr, hr', List.flatMap_cons, List.append_assoc]⟩
        rcases List.mem_cons.1 hm with rfl | hm
        exacts [hb1, hmax m hm]

theorem readMsgs_framed_two :
    readMsgs 2 [2, 0, 0, 0, 1, 2, 0, 0, 0, 0, 7] = .ok ([[1, 2], []], [7]) ∧
      [[1, 2], []].length = 2 ∧ (∀ m ∈ [[1, 2], ([] : List UInt8)], m.length ≤ maxMessageSize) ∧
      [2, 0, 0, 0, 1, 2, 0, 0, 0, 0, 7] = [[1, 2], ([] : List UInt8)].flatMap frame ++ [7] :=
  have read : readMsgs 2 [2, 0, 0, 0, 1, 2, 0, 0, 0, 0, 7] = .ok ([[1, 2], []], [7]) := rfl
  ⟨read, readMsgs_framed read⟩

end Pop.Node
