import BitboxWallet.Bitbox.Batches

/-! # What `Sign` returns from a device that answers as it should

`Sign` writes each hash with `hex.EncodeToString` and reads R and S with
`big.Int.SetString(_, 16)`. Every byte string the first writes, the second reads as its
big-endian value, so a `sig` of two 32-byte halves written in hex parses to exactly those two
numbers. A device that answers each batch's echo, and then each hash of the batch in order with
such a `sig`, gets every batch sent once and its signatures back, one per hash, in order.
-/

namespace BitboxWallet.Bitbox

open DeviceM

/-! ## Hex -/

/-- The big-endian value of a byte string. -/
def beValue (bytes : List UInt8) : Nat := bytes.foldl (fun n b => n * 256 + b.toNat) 0

def hexDigitByte (n : Nat) : UInt8 := (hexChar n).toNat.toUInt8

theorem utf8EncodeChar_hexChar : ∀ n, n < 16 → String.utf8EncodeChar (hexChar n) = [hexDigitByte n]
  | 0, _ | 1, _ | 2, _ | 3, _ | 4, _ | 5, _ | 6, _ | 7, _ | 8, _ | 9, _ | 10, _ | 11, _ | 12, _
  | 13, _ | 14, _ | 15, _ => rfl
  | _ + 16, h => absurd h (by omega)

theorem hexDigitValue_hexDigitByte : ∀ n, n < 16 → hexDigitValue (hexDigitByte n) = some n
  | 0, _ | 1, _ | 2, _ | 3, _ | 4, _ | 5, _ | 6, _ | 7, _ | 8, _ | 9, _ | 10, _ | 11, _ | 12, _
  | 13, _ | 14, _ | 15, _ => by decide
  | _ + 16, h => absurd h (by omega)

theorem hexDigitByte_ne_sign : ∀ n, n < 16 → hexDigitByte n ≠ 45 ∧ hexDigitByte n ≠ 43
  | 0, _ | 1, _ | 2, _ | 3, _ | 4, _ | 5, _ | 6, _ | 7, _ | 8, _ | 9, _ | 10, _ | 11, _ | 12, _
  | 13, _ | 14, _ | 15, _ => by decide
  | _ + 16, h => absurd h (by omega)

def hexPair (b : UInt8) : List UInt8 := [hexDigitByte (b.toNat / 16), hexDigitByte (b.toNat % 16)]

theorem goBytes_hexEncode (bytes : List UInt8) : goBytes (hexEncode bytes) = bytes.flatMap hexPair := by
  induction bytes with
  | nil => rfl
  | cons b bytes ih =>
    have hb : b.toNat < 256 := b.toNat_lt_size
    show (hexChar (b.toNat / 16) :: hexChar (b.toNat % 16) :: (hexEncode bytes).toList).flatMap
      String.utf8EncodeChar = hexPair b ++ bytes.flatMap hexPair
    rw [List.flatMap_cons, List.flatMap_cons, utf8EncodeChar_hexChar _ (by omega),
      utf8EncodeChar_hexChar _ (by omega)]
    exact congrArg (hexPair b ++ ·) ih

theorem length_flatMap_hexPair (bytes : List UInt8) :
    (bytes.flatMap hexPair).length = 2 * bytes.length := by
  induction bytes with
  | nil => rfl
  | cons b bytes ih =>
    rw [List.flatMap_cons, List.length_append, ih, List.length_cons]
    simp only [hexPair, List.length_cons, List.length_nil]
    omega

theorem foldl_hexStep_hexPair (b : UInt8) (n : Nat) :
    (hexPair b).foldl hexStep (some n) = some (n * 256 + b.toNat) := by
  have hb : b.toNat < 256 := b.toNat_lt_size
  simp only [hexPair, List.foldl_cons, List.foldl_nil, hexStep, Option.some_bind,
    hexDigitValue_hexDigitByte _ (show b.toNat / 16 < 16 by omega),
    hexDigitValue_hexDigitByte _ (show b.toNat % 16 < 16 by omega), Option.map_some',
    Option.some.injEq]
  omega

theorem foldl_hexStep_hexPairs (bytes : List UInt8) (n : Nat) :
    (bytes.flatMap hexPair).foldl hexStep (some n) =
      some (bytes.foldl (fun n b => n * 256 + b.toNat) n) := by
  induction bytes generalizing n with
  | nil => rfl
  | cons b bytes ih => rw [List.flatMap_cons, List.foldl_append, foldl_hexStep_hexPair, ih]; rfl

theorem setString16_hexEncode {bytes : List UInt8} (h : bytes ≠ []) :
    setString16 (goBytes (hexEncode bytes)) = some (beValue bytes : Int) := by
  obtain ⟨b, rest, rfl⟩ := List.exists_cons_of_ne_nil h
  have hb : b.toNat < 256 := b.toNat_lt_size
  obtain ⟨h45, h43⟩ := hexDigitByte_ne_sign (b.toNat / 16) (by omega)
  rw [goBytes_hexEncode, List.flatMap_cons]
  simp only [hexPair, List.cons_append, setString16, if_neg h45, if_neg h43, scanHex,
    reduceCtorEq, if_false]
  rw [← List.cons_append, ← List.cons_append, show [hexDigitByte (b.toNat / 16),
    hexDigitByte (b.toNat % 16)] ++ rest.flatMap hexPair = (b :: rest).flatMap hexPair from rfl,
    foldl_hexStep_hexPairs]
  rfl

/-- A `sig` written as the hex of two 32-byte halves, R then S, parses to their big-endian
values. -/
theorem parseSig_hexEncode (rBytes sBytes : List UInt8) (hr : rBytes.length = 32)
    (hs : sBytes.length = 32) :
    parseSig (.obj [("sig", .str (hexEncode (rBytes ++ sBytes)))]) =
      .ok { r := beValue rBytes, s := beValue sBytes } := by
  have hsplit : hexEncode (rBytes ++ sBytes) =
      String.mk ((hexEncode rBytes).toList ++ (hexEncode sBytes).toList) := by
    simp only [hexEncode, List.flatMap_append]
    rfl
  rw [hsplit]
  exact parseSig_halves
    (show (goBytes (hexEncode rBytes)).length = 64 by rw [goBytes_hexEncode, length_flatMap_hexPair, hr])
    (show (goBytes (hexEncode sBytes)).length = 64 by rw [goBytes_hexEncode, length_flatMap_hexPair, hs])
    (setString16_hexEncode (List.ne_nil_of_length_eq_add_one hr))
    (setString16_hexEncode (List.ne_nil_of_length_eq_add_one hs))

def rBytes32 : List UInt8 := List.replicate 31 0 ++ [1]

def sBytes32 : List UInt8 := List.replicate 31 0 ++ [2]

theorem parseSig_hexEncode_low :
    rBytes32.length = 32 ∧ sBytes32.length = 32 ∧
      parseSig (.obj [("sig", .str (hexEncode (rBytes32 ++ sBytes32)))]) =
        .ok { r := beValue rBytes32, s := beValue sBytes32 } :=
  ⟨rfl, rfl, parseSig_hexEncode rBytes32 sBytes32 rfl rfl⟩

/-! ## A device that signs every hash -/

def sigEntry (rBytes sBytes : List UInt8) : Json := .obj [("sig", .str (hexEncode (rBytes ++ sBytes)))]

section Answered

variable (hs : List (List UInt8)) (kps : List String) (sigOf : Nat → List UInt8 × List UInt8)

/-- The device answers both commands of batch `k`, the second with one `sig` per hash of the
batch, in order: for hash `j`, the hex of the R and S bytes `sigOf j`. -/
def AnswersBatch (d : Device) (k : Nat) : Prop :=
  (∃ echo, d.communication.reply (d.communication.sent ++
    (signSchedule hs kps d.password).take (2 * k + 1)) = .ok echo) ∧
  ∃ reply, d.communication.reply (d.communication.sent ++
      (signSchedule hs kps d.password).take (2 * k + 2)) = .ok reply ∧
    reply.array? "sign" =
      some ((batchIndices hs.length k).map fun j => sigEntry (sigOf j).1 (sigOf j).2)

theorem answersBatch_accepted
    (hsig : ∀ j < hs.length, (sigOf j).1.length = 32 ∧ (sigOf j).2.length = 32) {d : Device}
    {k : Nat} (hans : AnswersBatch hs kps sigOf d k) :
    (∃ echo, d.communication.reply (d.communication.sent ++
      (signSchedule hs kps d.password).take (2 * k + 1)) = .ok echo) ∧
    ∃ reply arr, d.communication.reply (d.communication.sent ++
      (signSchedule hs kps d.password).take (2 * k + 2)) = .ok reply ∧
      reply.array? "sign" = some arr ∧ parseSigs arr =
        .ok ((batchIndices hs.length k).map fun j =>
          { r := beValue (sigOf j).1, s := beValue (sigOf j).2 }) := by
  obtain ⟨hecho, reply, hreply, harr⟩ := hans
  refine ⟨hecho, reply, _, hreply, harr, parseSigs_map _ _ _ fun j hj => ?_⟩
  have hj' : j < hs.length := by
    simp only [batchIndices, List.mem_range'_1] at hj
    omega
  exact parseSig_hexEncode _ _ (hsig j hj').1 (hsig j hj').2

end Answered

/-- `Sign` on `n ≥ 1` hashes, against a device that answers both commands of every batch and
signs each hash of the batch, in order, with a 32-byte R and S written in hex: it sends exactly
the schedule, every batch twice, and returns one signature per hash, in hash order, with the R and
S the device wrote for it. -/
theorem sign_answered (hs : List (List UInt8)) (kps : List String)
    (hlen : hs.length = kps.length) (hn : 0 < hs.length) (sigOf : Nat → List UInt8 × List UInt8)
    (hsig : ∀ j < hs.length, (sigOf j).1.length = 32 ∧ (sigOf j).2.length = 32) (d : Device)
    (hans : ∀ k < batchCount hs.length, AnswersBatch hs kps sigOf d k) :
    sign hs kps d =
      (.ok ((List.range hs.length).map fun j => { r := beValue (sigOf j).1, s := beValue (sigOf j).2 }),
        d.record (signSchedule hs kps d.password)) := by
  rw [sign_accepted hs kps hlen hn d _ fun k hk => answersBatch_accepted hs kps sigOf hsig (hans k hk),
    range_flatMap_map_batchIndices]

def lowSigning (n : Nat) : Device :=
  answeringBatches fun k =>
    [("sign", .arr ((batchIndices n k).map fun _ => sigEntry rBytes32 sBytes32))]

theorem sign_answered_sixteen :
    sixteenHashes.length = sixteenPaths.length ∧ 0 < sixteenHashes.length ∧
    (∀ j < sixteenHashes.length, rBytes32.length = 32 ∧ sBytes32.length = 32) ∧
    (∀ k < batchCount sixteenHashes.length,
      AnswersBatch sixteenHashes sixteenPaths (fun _ => (rBytes32, sBytes32)) (lowSigning 16) k) ∧
    sign sixteenHashes sixteenPaths (lowSigning 16) =
      (.ok ((List.range sixteenHashes.length).map fun _ =>
          { r := beValue rBytes32, s := beValue sBytes32 }),
        (lowSigning 16).record (signSchedule sixteenHashes sixteenPaths (lowSigning 16).password)) :=
  have hsig : ∀ j < sixteenHashes.length, rBytes32.length = 32 ∧ sBytes32.length = 32 :=
    fun _ _ => ⟨rfl, rfl⟩
  have hans : ∀ k < batchCount sixteenHashes.length,
      AnswersBatch sixteenHashes sixteenPaths (fun _ => (rBytes32, sBytes32)) (lowSigning 16) k :=
    fun _ hk => ⟨⟨_, answeringBatches_echo _ _ _ hk⟩, _, answeringBatches_second _ _ _ hk, rfl⟩
  ⟨rfl, by decide, hsig, hans, sign_answered _ _ rfl (by decide) _ hsig _ hans⟩

end BitboxWallet.Bitbox
