import BitboxWallet.Bitbox.Signatures
import BitboxWallet.Bitbox.Atomicity

/-! # The batches of `Sign`

The schedule below is what `Sign` is meant to send, written from the index arithmetic: batch `k`
holds the hashes `15k .. min(15k+15, n) - 1`, and its command goes out twice. Every run of the
batch loop sends a prefix of it: all of it when `Sign` returns, and up to a batch's second command
when that batch's reply is rejected. `Sign` returns the entries of the `sign` arrays of the second
replies, parsed in order, and checks no count against the batch.
-/

namespace BitboxWallet.Bitbox

open DeviceM

/-! ## The schedule -/

/-- `⌈n / 15⌉`, the number of batches. -/
def batchCount (n : Nat) : Nat := (n + signatureBatchSize - 1) / signatureBatchSize

/-- The indices of batch `k`: `15k .. min(15k+15, n) - 1`. -/
def batchIndices (n k : Nat) : List Nat :=
  List.range' (signatureBatchSize * k)
    (min (signatureBatchSize * k + signatureBatchSize) n - signatureBatchSize * k)

/-- The sign command of batch `k`: each hash of the batch in hex, with its key path. -/
def batchCommand (signatureHashes : List (List UInt8)) (keyPaths : List String) (k : Nat) :
    Json :=
  .obj [("sign", .obj [("data", .arr ((batchIndices signatureHashes.length k).map fun j =>
    .obj [("hash", .str (hexEncode (signatureHashes.getD j []))),
      ("keypath", .str (keyPaths.getD j ""))]))])]

def batchesFrom (signatureHashes : List (List UInt8)) (keyPaths : List String)
    (password : String) (k : Nat) : List Request :=
  (List.range' k (batchCount signatureHashes.length - k)).flatMap fun k =>
    List.replicate 2 (.encrypt (batchCommand signatureHashes keyPaths k) password)

/-- All the commands of one `Sign` call, in order. -/
def signSchedule (signatureHashes : List (List UInt8)) (keyPaths : List String)
    (password : String) : List Request :=
  batchesFrom signatureHashes keyPaths password 0

theorem batchCount_eq_zero {n : Nat} (h : batchCount n = 0) : n = 0 := by
  simp only [batchCount, signatureBatchSize] at h
  omega

theorem batchCount_le_iff {n k : Nat} : batchCount n ≤ k ↔ n ≤ signatureBatchSize * k := by
  simp only [batchCount, signatureBatchSize]
  omega

theorem batchCount_sub {n c : Nat} (h : batchCount n = c + 1) :
    batchCount (n - signatureBatchSize) = c := by
  simp only [batchCount, signatureBatchSize] at h ⊢
  omega

theorem batchIndices_length (n k : Nat) :
    (batchIndices n k).length = min signatureBatchSize (n - signatureBatchSize * k) := by
  simp only [batchIndices, List.length_range', signatureBatchSize]
  omega

theorem batchIndices_append (n k : Nat) :
    batchIndices n k ++
        List.range' (signatureBatchSize * (k + 1)) (n - signatureBatchSize * (k + 1)) =
      List.range' (signatureBatchSize * k) (n - signatureBatchSize * k) := by
  simp only [batchIndices, signatureBatchSize]
  by_cases hn : n ≤ 15 * k + 15
  · rw [show n - 15 * (k + 1) = 0 by omega, List.range'_zero, List.append_nil, Nat.min_eq_right hn]
  · rw [show 15 * (k + 1) = 15 * k + (min (15 * k + 15) n - 15 * k) by omega,
      List.range'_append_1]
    congr 1
    omega

theorem flatMap_batchIndices (n k c : Nat) (hc : n ≤ signatureBatchSize * (k + c)) :
    (List.range' k c).flatMap (batchIndices n) =
      List.range' (signatureBatchSize * k) (n - signatureBatchSize * k) := by
  induction c generalizing k with
  | zero => simp [Nat.sub_eq_zero_of_le (by simpa using hc)]
  | succ c ih =>
    rw [List.range'_succ, List.flatMap_cons, ih (k + 1) (by rwa [Nat.add_right_comm]),
      batchIndices_append]

@[simp] theorem batchesFrom_of_le {hs : List (List UInt8)} {kps : List String} {password : String}
    {k : Nat} (hk : batchCount hs.length ≤ k) : batchesFrom hs kps password k = [] := by
  simp [batchesFrom, Nat.sub_eq_zero_of_le hk]

theorem batchesFrom_of_lt {hs : List (List UInt8)} {kps : List String} {password : String}
    {k : Nat} (hk : k < batchCount hs.length) :
    batchesFrom hs kps password k = .encrypt (batchCommand hs kps k) password ::
      .encrypt (batchCommand hs kps k) password :: batchesFrom hs kps password (k + 1) := by
  rw [batchesFrom, show batchCount hs.length - k = batchCount hs.length - (k + 1) + 1 by omega,
    List.range'_succ, List.flatMap_cons]
  rfl

theorem batchesFrom_length (hs : List (List UInt8)) (kps : List String) (password : String)
    (k : Nat) : (batchesFrom hs kps password k).length = 2 * (batchCount hs.length - k) := by
  obtain ⟨r, h⟩ : ∃ r, batchCount hs.length - k = r := ⟨_, rfl⟩
  induction r generalizing k with
  | zero => simp [batchesFrom_of_le (show batchCount hs.length ≤ k by omega), h]
  | succ r ih =>
    rw [batchesFrom_of_lt (show k < batchCount hs.length by omega), List.length_cons,
      List.length_cons, ih (k + 1) (by omega)]
    omega

theorem batchesFrom_getElem? (hs : List (List UInt8)) (kps : List String) (password : String)
    (k k' : Nat) (hk : k + k' < batchCount hs.length) :
    (batchesFrom hs kps password k)[2 * k']? =
      some (.encrypt (batchCommand hs kps (k + k')) password) ∧
    (batchesFrom hs kps password k)[2 * k' + 1]? =
      some (.encrypt (batchCommand hs kps (k + k')) password) := by
  induction k' generalizing k with
  | zero => simp [batchesFrom_of_lt (show k < batchCount hs.length by omega)]
  | succ k' ih =>
    rw [batchesFrom_of_lt (show k < batchCount hs.length by omega),
      show 2 * (k' + 1) = 2 * k' + 1 + 1 by omega, show k + (k' + 1) = k + 1 + k' by omega]
    simpa using ih (k + 1) (by omega)

theorem signSchedule_take (hs : List (List UInt8)) (kps : List String) (password : String)
    {k : Nat} (hk : k < batchCount hs.length) :
    (signSchedule hs kps password).take (2 * k) ++ [.encrypt (batchCommand hs kps k) password] =
      (signSchedule hs kps password).take (2 * k + 1) ∧
    (signSchedule hs kps password).take (2 * k) ++
        [.encrypt (batchCommand hs kps k) password, .encrypt (batchCommand hs kps k) password] =
      (signSchedule hs kps password).take (2 * k + 2) := by
  obtain ⟨h0, h1⟩ := batchesFrom_getElem? hs kps password 0 k (by omega)
  rw [Nat.zero_add] at h0 h1
  simp only [signSchedule, List.take_succ, h0, h1, Option.toList_some, List.append_assoc,
    List.singleton_append, and_self]

theorem signSchedule_take_of_le (hs : List (List UInt8)) (kps : List String) (password : String)
    {k : Nat} (hk : batchCount hs.length ≤ k) :
    (signSchedule hs kps password).take (2 * k) = signSchedule hs kps password :=
  List.take_of_length_le (by simp only [signSchedule, batchesFrom_length]; omega)

theorem range_flatMap_batchIndices (n : Nat) :
    (List.range (batchCount n)).flatMap (batchIndices n) = List.range n := by
  rw [List.range_eq_range', List.range_eq_range', flatMap_batchIndices _ 0 _
    (by rw [Nat.zero_add]; exact batchCount_le_iff.1 le_rfl)]
  simp

theorem range_flatMap_map_batchIndices {α : Type} (n : Nat) (f : Nat → α) :
    (List.range (batchCount n)).flatMap (fun k => (batchIndices n k).map f) = (List.range n).map f := by
  rw [← List.map_flatMap, range_flatMap_batchIndices]

/-! ## The code's slices are the schedule's batches -/

theorem zipWith_slice {α β γ : Type} (f : α → β → γ) (l₁ : List α) (l₂ : List β) (a : α) (b : β)
    (i m : Nat) (h₁ : i + m ≤ l₁.length) (h₂ : i + m ≤ l₂.length) :
    List.zipWith f ((l₁.drop i).take m) ((l₂.drop i).take m) =
      (List.range' i m).map fun j => f (l₁.getD j a) (l₂.getD j b) := by
  induction m generalizing i with
  | zero => simp
  | succ m ih =>
    rw [List.drop_eq_getElem_cons (show i < l₁.length by omega),
      List.drop_eq_getElem_cons (show i < l₂.length by omega),
      List.take_succ_cons, List.take_succ_cons, List.zipWith_cons_cons, ih (i + 1) (by omega)
      (by omega), List.range'_succ, List.map_cons]
    simp [List.getElem?_eq_getElem (show i < l₁.length by omega),
      List.getElem?_eq_getElem (show i < l₂.length by omega)]

section Slices

variable {hs : List (List UInt8)} {kps : List String}

theorem upper_sub (k : Nat) :
    (if signatureBatchSize * k + signatureBatchSize > hs.length then hs.length
      else signatureBatchSize * k + signatureBatchSize) - signatureBatchSize * k =
      (batchIndices hs.length k).length := by
  rw [batchIndices_length]
  split <;> omega

theorem slice_length {α : Type} (l : List α) (hlen : hs.length = l.length) (k : Nat) :
    ((l.drop (signatureBatchSize * k)).take (batchIndices hs.length k).length).length =
      (batchIndices hs.length k).length := by
  rw [batchIndices_length, List.length_take, List.length_drop, ← hlen]
  omega

theorem signCommand_slice (hlen : hs.length = kps.length) (k : Nat)
    (hk : signatureBatchSize * k < hs.length) :
    signCommand ((hs.drop (signatureBatchSize * k)).take (batchIndices hs.length k).length)
      ((kps.drop (signatureBatchSize * k)).take (batchIndices hs.length k).length) =
      batchCommand hs kps k := by
  have hm := batchIndices_length hs.length k
  rw [signCommand, batchCommand, zipWith_slice _ _ _ [] "" _ _ (by omega) (by omega)]
  simp only [batchIndices, List.length_range']

end Slices

/-! ## One batch -/

theorem signBatch_apply (hs : List (List UInt8)) (kps : List String)
    (hlen : hs.length = kps.length) (hle : hs.length ≤ signatureBatchSize) (d : Device) :
    signBatch hs kps d =
      match d.communication.reply (d.communication.sent ++
          [.encrypt (signCommand hs kps) d.password]) with
      | .error e => (.error (.error (.withMessage e "Failed to sign batch (1)")),
          d.record [.encrypt (signCommand hs kps) d.password])
      | .ok _ =>
        match d.communication.reply (d.communication.sent ++
            [.encrypt (signCommand hs kps) d.password, .encrypt (signCommand hs kps) d.password]) with
        | .error e => (.error (.error (.withMessage e "Failed to sign batch (2)")),
            d.record [.encrypt (signCommand hs kps) d.password,
              .encrypt (signCommand hs kps) d.password])
        | .ok reply => (.ok reply, d.record [.encrypt (signCommand hs kps) d.password,
            .encrypt (signCommand hs kps) d.password]) := by
  rw [signBatch, if_neg (by omega), if_neg (by omega)]
  simp only [bind_apply, DeviceM.get, withMessage, send, call_apply]
  rcases h1 : d.communication.reply (d.communication.sent ++
    [.encrypt (signCommand hs kps) d.password]) with e | _
  · simp [h1]
  · rcases h2 : d.communication.reply (d.communication.sent ++
      [.encrypt (signCommand hs kps) d.password, .encrypt (signCommand hs kps) d.password]) with e | _ <;>
    simp [h1, h2]

/-! ## The batch loop -/

theorem signLoop_of_le (hs : List (List UInt8)) (kps : List String) {i : Nat}
    (hi : hs.length ≤ i) (acc : List Signature) : signLoop hs kps i acc = pure acc := by
  rw [signLoop, dif_neg (by omega)]

section Loop

variable (hs : List (List UInt8)) (kps : List String)

theorem signLoop_turn (hlen : hs.length = kps.length) {k : Nat} (hk : k < batchCount hs.length)
    (acc : List Signature) (d : Device) :
    (∃ e f, d.communication.reply (d.communication.sent ++
        (signSchedule hs kps d.password).take (2 * k + 1)) = .error e ∧
      signLoop hs kps (signatureBatchSize * k) acc
          (d.record ((signSchedule hs kps d.password).take (2 * k))) =
        (.error f, d.record ((signSchedule hs kps d.password).take (2 * k + 1)))) ∨
    (∃ e f, (∃ echo, d.communication.reply (d.communication.sent ++
        (signSchedule hs kps d.password).take (2 * k + 1)) = .ok echo) ∧
      d.communication.reply (d.communication.sent ++
        (signSchedule hs kps d.password).take (2 * k + 2)) = .error e ∧
      signLoop hs kps (signatureBatchSize * k) acc
          (d.record ((signSchedule hs kps d.password).take (2 * k))) =
        (.error f, d.record ((signSchedule hs kps d.password).take (2 * k + 2)))) ∨
    (∃ reply f, (∃ echo, d.communication.reply (d.communication.sent ++
        (signSchedule hs kps d.password).take (2 * k + 1)) = .ok echo) ∧
      d.communication.reply (d.communication.sent ++
        (signSchedule hs kps d.password).take (2 * k + 2)) = .ok reply ∧
      (∀ arr, reply.array? "sign" = some arr → ∃ e, parseSigs arr = .error e) ∧
      signLoop hs kps (signatureBatchSize * k) acc
          (d.record ((signSchedule hs kps d.password).take (2 * k))) =
        (.error f, d.record ((signSchedule hs kps d.password).take (2 * k + 2)))) ∨
    ∃ reply arr parsed, (∃ echo, d.communication.reply (d.communication.sent ++
        (signSchedule hs kps d.password).take (2 * k + 1)) = .ok echo) ∧
      d.communication.reply (d.communication.sent ++
        (signSchedule hs kps d.password).take (2 * k + 2)) = .ok reply ∧
      reply.array? "sign" = some arr ∧ parseSigs arr = .ok parsed ∧
      signLoop hs kps (signatureBatchSize * k) acc
          (d.record ((signSchedule hs kps d.password).take (2 * k))) =
        signLoop hs kps (signatureBatchSize * (k + 1)) (acc ++ parsed)
          (d.record ((signSchedule hs kps d.password).take (2 * (k + 1)))) := by
  have hi : signatureBatchSize * k < hs.length :=
    Nat.lt_of_not_le fun h => Nat.not_le_of_lt hk (batchCount_le_iff.2 h)
  obtain ⟨htake1, htake2⟩ := signSchedule_take hs kps d.password hk
  rw [signLoop_of_lt hs kps hi, upper_sub, bind_apply, signBatch_apply _ _
    (by rw [slice_length _ rfl, slice_length _ hlen])
    (by rw [slice_length _ rfl, batchIndices_length]; exact Nat.min_le_left _ _),
    signCommand_slice hlen k hi]
  simp only [Device.record_sent, Device.record_reply, Device.record_password,
    Device.record_record, List.append_assoc, htake1, htake2]
  rcases h1 : d.communication.reply (d.communication.sent ++
    (signSchedule hs kps d.password).take (2 * k + 1)) with e | echo
  · exact .inl ⟨e, _, rfl, rfl⟩
  rcases h2 : d.communication.reply (d.communication.sent ++
    (signSchedule hs kps d.password).take (2 * k + 2)) with e | reply
  · exact .inr (.inl ⟨e, _, ⟨echo, rfl⟩, rfl, rfl⟩)
  rcases h3 : reply.array? "sign" with _ | arr
  · exact .inr (.inr (.inl ⟨reply, _, ⟨echo, rfl⟩, rfl, (fun _ h => nomatch h3.symm.trans h),
      by simp only [h3]; rfl⟩))
  rcases h4 : parseSigs arr with e | parsed
  · refine .inr (.inr (.inl ⟨reply, _, ⟨echo, rfl⟩, rfl, fun arr' h => ⟨e, ?_⟩,
      by simp only [h3, h4]; rfl⟩))
    rwa [← Option.some.inj (h3.symm.trans h)]
  exact .inr (.inr (.inr ⟨reply, arr, parsed, ⟨echo, rfl⟩, rfl, h3, h4,
    by simp only [h3, h4, Nat.mul_succ]⟩))

structure LoopRun (k : Nat) (acc : List Signature) (d : Device)
    (r : Except Failure (List Signature) × Device) : Prop where
  sent : ∃ m, r.2 = d.record ((signSchedule hs kps d.password).take m)
  ok : ∀ sigs, r.1 = .ok sigs → r.2 = d.record (signSchedule hs kps d.password) ∧
    ∃ arrays : List (List Json), arrays.length = batchCount hs.length - k ∧
      (∀ k' (hk : k' < arrays.length), ∃ reply,
        d.communication.reply (d.communication.sent ++
          (signSchedule hs kps d.password).take (2 * (k + k') + 2)) = .ok reply ∧
        reply.array? "sign" = some arrays[k']) ∧
      ∃ parsed, parseSigs arrays.flatten = .ok parsed ∧ sigs = acc ++ parsed

theorem signLoop_run (hlen : hs.length = kps.length) (d : Device) (r : Nat) :
    ∀ k acc, batchCount hs.length - k = r →
      LoopRun hs kps k acc d (signLoop hs kps (signatureBatchSize * k) acc
        (d.record ((signSchedule hs kps d.password).take (2 * k)))) := by
  induction r with
  | zero =>
    intro k acc h
    have hk : batchCount hs.length ≤ k := by omega
    rw [signLoop_of_le hs kps (batchCount_le_iff.1 hk), pure_apply]
    refine ⟨⟨_, rfl⟩, fun sigs hsigs => ?_⟩
    cases hsigs
    exact ⟨by rw [signSchedule_take_of_le hs kps _ hk], [], by simp [h], by simp, [], rfl, by simp⟩
  | succ r ih =>
    intro k acc h
    have hk : k < batchCount hs.length := by omega
    rcases signLoop_turn hs kps hlen hk acc d with
      ⟨_, _, _, hr⟩ | ⟨_, _, _, _, hr⟩ | ⟨_, _, _, _, _, hr⟩ | ⟨reply, arr, parsed, _, h2, h3, h4, hr⟩
    iterate 3 exact hr ▸ ⟨⟨_, rfl⟩, fun _ h => nomatch h⟩
    rw [hr]
    obtain ⟨hsent, hok⟩ := ih (k + 1) (acc ++ parsed) (by omega)
    refine ⟨hsent, fun sigs hsigs => ?_⟩
    obtain ⟨hd, arrays, hlen', hrep, parsed', hp, hsig⟩ := hok sigs hsigs
    refine ⟨hd, arr :: arrays, by simp [hlen']; omega, fun k' hk' => ?_, parsed ++ parsed',
      by simpa using parseSigs_append h4 hp, by simp [hsig]⟩
    cases k' with
    | zero => exact ⟨reply, h2, h3⟩
    | succ k' =>
      obtain ⟨reply', h5, h6⟩ := hrep k' (by simpa using hk')
      exact ⟨reply', by rwa [show k + (k' + 1) = k + 1 + k' by omega], h6⟩

theorem signLoop_turn_answered (hlen : hs.length = kps.length) {k : Nat}
    (hk : k < batchCount hs.length) (acc : List Signature) (d : Device) {reply : JsonMap}
    (h1 : ∃ echo, d.communication.reply (d.communication.sent ++
      (signSchedule hs kps d.password).take (2 * k + 1)) = .ok echo)
    (h2 : d.communication.reply (d.communication.sent ++
      (signSchedule hs kps d.password).take (2 * k + 2)) = .ok reply) :
    ((∀ arr, reply.array? "sign" = some arr → ∃ e, parseSigs arr = .error e) ∧
      ∃ f, signLoop hs kps (signatureBatchSize * k) acc
          (d.record ((signSchedule hs kps d.password).take (2 * k))) =
        (.error f, d.record ((signSchedule hs kps d.password).take (2 * k + 2)))) ∨
    ∃ arr parsed, reply.array? "sign" = some arr ∧ parseSigs arr = .ok parsed ∧
      signLoop hs kps (signatureBatchSize * k) acc
          (d.record ((signSchedule hs kps d.password).take (2 * k))) =
        signLoop hs kps (signatureBatchSize * (k + 1)) (acc ++ parsed)
          (d.record ((signSchedule hs kps d.password).take (2 * (k + 1)))) := by
  obtain ⟨echo, h1⟩ := h1
  rcases signLoop_turn hs kps hlen hk acc d with
    ⟨e, -, he, -⟩ | ⟨e, -, -, he, -⟩ | ⟨reply', f, -, h2', hrej, hr⟩ |
      ⟨reply', arr, parsed, -, h2', h3, h4, hr⟩
  · exact nomatch h1.symm.trans he
  · exact nomatch h2.symm.trans he
  · obtain rfl := Except.ok.inj (h2.symm.trans h2')
    exact .inl ⟨hrej, f, hr⟩
  · obtain rfl := Except.ok.inj (h2.symm.trans h2')
    exact .inr ⟨arr, parsed, h3, h4, hr⟩

theorem signLoop_accepted (hlen : hs.length = kps.length) (d : Device)
    (parsedOf : Nat → List Signature)
    (hacc : ∀ k < batchCount hs.length, (∃ echo, d.communication.reply (d.communication.sent ++
        (signSchedule hs kps d.password).take (2 * k + 1)) = .ok echo) ∧
      ∃ reply arr, d.communication.reply (d.communication.sent ++
        (signSchedule hs kps d.password).take (2 * k + 2)) = .ok reply ∧
        reply.array? "sign" = some arr ∧ parseSigs arr = .ok (parsedOf k)) (r : Nat) :
    ∀ k acc, batchCount hs.length - k = r →
      signLoop hs kps (signatureBatchSize * k) acc
          (d.record ((signSchedule hs kps d.password).take (2 * k))) =
        (.ok (acc ++ (List.range' k r).flatMap parsedOf), d.record (signSchedule hs kps d.password)) := by
  induction r with
  | zero =>
    intro k acc h
    have hk : batchCount hs.length ≤ k := by omega
    rw [signLoop_of_le hs kps (batchCount_le_iff.1 hk), pure_apply,
      signSchedule_take_of_le hs kps _ hk]
    simp
  | succ r ih =>
    intro k acc h
    have hk : k < batchCount hs.length := by omega
    obtain ⟨h1, reply, arr, h2, h3, h4⟩ := hacc k hk
    rcases signLoop_turn_answered hs kps hlen hk acc d h1 h2 with
      ⟨hrej, -⟩ | ⟨arr', parsed, h3', h4', hr⟩
    · obtain ⟨e, he⟩ := hrej arr h3
      exact nomatch h4.symm.trans he
    obtain rfl := Option.some.inj (h3.symm.trans h3')
    obtain rfl := Except.ok.inj (h4.symm.trans h4')
    rw [hr, ih (k + 1) _ (by omega), List.range'_succ, List.flatMap_cons, List.append_assoc]

theorem signLoop_rejected (hlen : hs.length = kps.length) (d : Device) {k : Nat}
    (hk : k < batchCount hs.length)
    (hrt : ∀ m, 0 < m → m ≤ 2 * k + 2 → ∃ reply, d.communication.reply (d.communication.sent ++
      (signSchedule hs kps d.password).take m) = .ok reply)
    (hprev : ∀ k' < k, ∃ reply arr parsed, d.communication.reply (d.communication.sent ++
      (signSchedule hs kps d.password).take (2 * k' + 2)) = .ok reply ∧
      reply.array? "sign" = some arr ∧ parseSigs arr = .ok parsed)
    (hrej : ∀ reply, d.communication.reply (d.communication.sent ++
      (signSchedule hs kps d.password).take (2 * k + 2)) = .ok reply →
      ∀ arr, reply.array? "sign" = some arr → ∃ e, parseSigs arr = .error e) (r : Nat) :
    ∀ k₀ acc, k₀ + r = k → ∃ f, signLoop hs kps (signatureBatchSize * k₀) acc
        (d.record ((signSchedule hs kps d.password).take (2 * k₀))) =
      (.error f, d.record ((signSchedule hs kps d.password).take (2 * k + 2))) := by
  induction r with
  | zero =>
    rintro k₀ acc rfl
    obtain ⟨reply, h2⟩ := hrt (2 * k₀ + 2) (by omega) le_rfl
    rcases signLoop_turn_answered hs kps hlen hk acc d (hrt _ (by omega) (by omega)) h2 with
      ⟨-, hf⟩ | ⟨arr, parsed, h3, h4, -⟩
    · exact hf
    · obtain ⟨e, he⟩ := hrej reply h2 arr h3
      exact nomatch h4.symm.trans he
  | succ r ih =>
    intro k₀ acc h
    have hk₀ : k₀ < batchCount hs.length := by omega
    obtain ⟨reply, arr, parsed, h2, h3, h4⟩ := hprev k₀ (by omega)
    rcases signLoop_turn_answered hs kps hlen hk₀ acc d (hrt _ (by omega) (by omega)) h2 with
      ⟨hrej', -⟩ | ⟨_, _, _, _, hr⟩
    · obtain ⟨e, he⟩ := hrej' arr h3
      exact nomatch h4.symm.trans he
    rw [hr]
    exact ih (k₀ + 1) _ (by omega)

end Loop

/-! ## `Sign` -/

section Sign

variable (hs : List (List UInt8)) (kps : List String)

theorem sign_eq_signLoop (hlen : hs.length = kps.length) (hn : 0 < hs.length) (d : Device) :
    sign hs kps d = signLoop hs kps (signatureBatchSize * 0) []
      (d.record ((signSchedule hs kps d.password).take (2 * 0))) := by
  rw [sign, if_neg (by omega), if_neg (by omega), Nat.mul_zero, Nat.mul_zero, List.take_zero,
    Device.record_nil]

theorem sign_record (d : Device) : ∃ sent, (sign hs kps d).2 = d.record sent := by
  by_cases hlen : hs.length = kps.length
  · by_cases hn : 0 < hs.length
    · obtain ⟨m, hm⟩ := (signLoop_run hs kps hlen d _ 0 [] rfl).sent
      exact ⟨_, sign_eq_signLoop hs kps hlen hn d ▸ hm⟩
    · exact ⟨[], by rw [sign, if_neg (by omega), if_pos (by omega), Device.record_nil]; rfl⟩
  · exact ⟨[], by rw [sign, if_pos hlen, Device.record_nil]; rfl⟩

/-- `Sign` changes nothing of the session but the history of requests: it never logs out, forgets
the seed or changes the password. -/
theorem keepsSession_sign : KeepsSession (sign hs kps) := fun d => by
  obtain ⟨sent, hr⟩ := sign_record hs kps d
  rw [hr]
  rfl

theorem sign_accepted (hlen : hs.length = kps.length) (hn : 0 < hs.length) (d : Device)
    (parsedOf : Nat → List Signature)
    (hacc : ∀ k < batchCount hs.length, (∃ echo, d.communication.reply (d.communication.sent ++
        (signSchedule hs kps d.password).take (2 * k + 1)) = .ok echo) ∧
      ∃ reply arr, d.communication.reply (d.communication.sent ++
        (signSchedule hs kps d.password).take (2 * k + 2)) = .ok reply ∧
        reply.array? "sign" = some arr ∧ parseSigs arr = .ok (parsedOf k)) :
    sign hs kps d = (.ok ((List.range (batchCount hs.length)).flatMap parsedOf),
      d.record (signSchedule hs kps d.password)) := by
  rw [sign_eq_signLoop hs kps hlen hn, signLoop_accepted hs kps hlen d parsedOf hacc _ 0 [] rfl,
    List.nil_append, Nat.sub_zero, List.range_eq_range']

/-- Every run of `Sign` on `n ≥ 1` hashes and as many key paths sends a prefix of the schedule,
and all of it when it returns. When every round trip up to batch `k`'s second command succeeds,
the earlier batches' replies are accepted and batch `k`'s is rejected, `Sign` fails right after
batch `k`'s second command. The schedule has `2⌈n/15⌉` commands; commands `2k` and `2k + 1` are
both the command of batch `k`, and the batches cut `0 .. n - 1` into runs of at most 15, in
order. -/
theorem sign_sends_schedule (hlen : hs.length = kps.length) (hn : 0 < hs.length) (d : Device) :
    (∃ sent, sent <+: signSchedule hs kps d.password ∧ (sign hs kps d).2 = d.record sent) ∧
    (∀ sigs, (sign hs kps d).1 = .ok sigs →
      (sign hs kps d).2 = d.record (signSchedule hs kps d.password)) ∧
    (∀ k < batchCount hs.length,
      (∀ m, 0 < m → m ≤ 2 * k + 2 → ∃ reply, d.communication.reply (d.communication.sent ++
        (signSchedule hs kps d.password).take m) = .ok reply) →
      (∀ k' < k, ∃ reply arr parsed, d.communication.reply (d.communication.sent ++
        (signSchedule hs kps d.password).take (2 * k' + 2)) = .ok reply ∧
        reply.array? "sign" = some arr ∧ parseSigs arr = .ok parsed) →
      (∀ reply, d.communication.reply (d.communication.sent ++
        (signSchedule hs kps d.password).take (2 * k + 2)) = .ok reply →
        ∀ arr, reply.array? "sign" = some arr → ∃ e, parseSigs arr = .error e) →
      (∃ f, (sign hs kps d).1 = .error f) ∧
        (sign hs kps d).2 = d.record ((signSchedule hs kps d.password).take (2 * k + 2))) ∧
    (signSchedule hs kps d.password).length = 2 * batchCount hs.length ∧
    (∀ k < batchCount hs.length,
      (signSchedule hs kps d.password)[2 * k]? =
        some (.encrypt (batchCommand hs kps k) d.password) ∧
      (signSchedule hs kps d.password)[2 * k + 1]? =
        some (.encrypt (batchCommand hs kps k) d.password)) ∧
    (∀ k, (batchIndices hs.length k).length ≤ signatureBatchSize) ∧
    (List.range (batchCount hs.length)).flatMap (batchIndices hs.length) =
      List.range hs.length := by
  have hrun := signLoop_run hs kps hlen d _ 0 [] rfl
  rw [← sign_eq_signLoop hs kps hlen hn] at hrun
  obtain ⟨m, hm⟩ := hrun.sent
  refine ⟨⟨_, List.take_prefix m _, hm⟩, fun sigs h => (hrun.ok sigs h).1,
    fun k hk hrt hprev hrej => ?_, by simp [signSchedule, batchesFrom_length],
    fun k hk => by simpa using batchesFrom_getElem? hs kps d.password 0 k (by omega),
    fun k => by rw [batchIndices_length]; exact Nat.min_le_left _ _, range_flatMap_batchIndices _⟩
  obtain ⟨f, hf⟩ := signLoop_rejected hs kps hlen d hk hrt hprev hrej k 0 [] (Nat.zero_add k)
  rw [← sign_eq_signLoop hs kps hlen hn] at hf
  exact ⟨⟨f, by rw [hf]⟩, by rw [hf]⟩

end Sign

/-! ## Devices -/

/-- A logged-in session whose device answers every command with `reply`. -/
def answering (reply : JsonMap) : Device where
  communication := { sent := [], reply := fun _ => .ok reply }
  bootloader := false
  initialized := true
  password := "0000"
  seeded := true

def answeringBatches (replies : Nat → JsonMap) : Device where
  communication :=
    { sent := []
      reply := fun history => .ok <|
        if history.length % 2 = 0 then replies (history.length / 2 - 1) else [] }
  bootloader := false
  initialized := true
  password := "0000"
  seeded := true

theorem answeringBatches_echo (replies : Nat → JsonMap) (hs : List (List UInt8))
    (kps : List String) {k : Nat} (hk : k < batchCount hs.length) :
    (answeringBatches replies).communication.reply ((answeringBatches replies).communication.sent ++
      (signSchedule hs kps (answeringBatches replies).password).take (2 * k + 1)) = .ok [] := by
  have h : 2 * k + 1 ≤ (signSchedule hs kps "0000").length := by
    rw [signSchedule, batchesFrom_length]
    omega
  simp only [answeringBatches, List.nil_append, List.length_take, Nat.min_eq_left h]
  rw [if_neg (by omega)]

theorem answeringBatches_second (replies : Nat → JsonMap) (hs : List (List UInt8))
    (kps : List String) {k : Nat} (hk : k < batchCount hs.length) :
    (answeringBatches replies).communication.reply ((answeringBatches replies).communication.sent ++
      (signSchedule hs kps (answeringBatches replies).password).take (2 * k + 2)) =
      .ok (replies k) := by
  have h : 2 * k + 2 ≤ (signSchedule hs kps "0000").length := by
    rw [signSchedule, batchesFrom_length]
    omega
  simp only [answeringBatches, List.nil_append, List.length_take, Nat.min_eq_left h]
  rw [if_pos (by omega), show (2 * k + 2) / 2 - 1 = k by omega]

theorem sign_answering (hs : List (List UInt8)) (kps : List String)
    (hlen : hs.length = kps.length) (hn : 0 < hs.length) (reply : JsonMap) {arr : List Json}
    {parsed : List Signature} (ha : reply.array? "sign" = some arr)
    (hp : parseSigs arr = .ok parsed) :
    (sign hs kps (answering reply)).1 =
      .ok ((List.range (batchCount hs.length)).flatMap fun _ => parsed) := by
  rw [sign_accepted hs kps hlen hn _ (fun _ => parsed) fun _ _ => ⟨⟨_, rfl⟩, _, _, rfl, ha, hp⟩]

def sixteenHashes : List (List UInt8) := List.replicate 16 [0]

def sixteenPaths : List String := List.replicate 16 "m/0/0"

theorem batchCount_sixteen : batchCount sixteenHashes.length = 2 := by
  simp [batchCount, sixteenHashes, signatureBatchSize]

def zeroSigning : Device :=
  answeringBatches fun k => [("sign", .arr ((batchIndices 16 k).map fun _ => zeroEntry))]

theorem sign_zeroSigning :
    sign sixteenHashes sixteenPaths zeroSigning =
      (.ok ((List.range 16).map fun _ => { r := 0, s := 0 }),
        zeroSigning.record (signSchedule sixteenHashes sixteenPaths zeroSigning.password)) := by
  rw [sign_accepted _ _ rfl (by decide) zeroSigning
    (fun k => (batchIndices 16 k).map fun _ => { r := 0, s := 0 })
    fun k hk => ⟨⟨_, answeringBatches_echo _ _ _ hk⟩, _, _, answeringBatches_second _ _ _ hk, rfl,
      parseSigs_map _ _ _ fun _ _ => parseSig_zeroEntry⟩]
  rw [show sixteenHashes.length = 16 from rfl, range_flatMap_map_batchIndices]

def rejectsSecondBatch : Device :=
  answeringBatches fun k => if k = 0 then [("sign", .arr [zeroEntry])] else []

theorem sign_sends_schedule_sixteen :
    (sign sixteenHashes sixteenPaths zeroSigning).1 =
      .ok ((List.range 16).map fun _ => { r := 0, s := 0 }) ∧
    (sign sixteenHashes sixteenPaths zeroSigning).2.communication.sent.length = 4 ∧
    (∃ f, (sign sixteenHashes sixteenPaths rejectsSecondBatch).1 = .error f) ∧
    (sign sixteenHashes sixteenPaths rejectsSecondBatch).2.communication.sent.length = 4 := by
  obtain ⟨-, hok, -, hlen, -⟩ :=
    sign_sends_schedule sixteenHashes sixteenPaths rfl (by decide) zeroSigning
  obtain ⟨-, -, hrej, -⟩ :=
    sign_sends_schedule sixteenHashes sixteenPaths rfl (by decide) rejectsSecondBatch
  have h := congrArg Prod.fst sign_zeroSigning
  obtain ⟨hf, hr⟩ := hrej 1 (by simp [batchCount_sixteen]) (fun _ _ _ => ⟨_, rfl⟩)
    (fun k' hk' => by
      obtain rfl : k' = 0 := by omega
      exact ⟨_, _, _, answeringBatches_second _ _ _ (by simp [batchCount_sixteen]), rfl,
        parseSigs_map [()] (fun _ => zeroEntry) (fun _ => { r := 0, s := 0 }) fun _ _ => parseSig_zeroEntry⟩)
    (fun reply h arr ha => by
      rw [rejectsSecondBatch, answeringBatches_second _ _ _ (by simp [batchCount_sixteen])] at h
      cases h
      nomatch ha)
  refine ⟨h, ?_, hf, ?_⟩
  · rw [hok _ h, Device.record_sent, List.length_append, hlen, batchCount_sixteen]
    rfl
  · rw [hr, Device.record_sent, List.length_append, List.length_take, signSchedule,
      batchesFrom_length, batchCount_sixteen]
    rfl

/-- Every round trip succeeds, yet `Sign` on 16 hashes stops after the first batch: the reply has
no `sign` array. It sends 2 commands, not `2⌈16/15⌉ = 4`. -/
theorem sign_stops_at_reply_without_sign :
    (∀ history, (answering []).communication.reply history = .ok []) ∧
    (sign sixteenHashes sixteenPaths (answering [])).2.communication.sent.length = 2 ∧
    2 * batchCount sixteenHashes.length = 4 := by
  obtain ⟨f, hf⟩ := signLoop_rejected sixteenHashes sixteenPaths rfl (answering [])
    (show 0 < batchCount sixteenHashes.length by simp [batchCount_sixteen]) (fun _ _ _ => ⟨_, rfl⟩)
    (fun _ h => absurd h (Nat.not_lt_zero _)) (fun _ h _ ha => by cases h; nomatch ha) 0 0 [] rfl
  rw [← sign_eq_signLoop _ _ rfl (by decide)] at hf
  refine ⟨fun _ => rfl, ?_, rfl⟩
  rw [hf, Device.record_sent, List.length_append, List.length_take, signSchedule,
    batchesFrom_length, batchCount_sixteen]
  rfl

/-! ## What `Sign` returns -/

theorem flatten_batches {α : Type} (arrays : List (List α)) (n : Nat)
    (hc : arrays.length = batchCount n)
    (hsize : ∀ k (hk : k < arrays.length), arrays[k].length = (batchIndices n k).length) :
    arrays.flatten.length = n ∧ ∀ j, arrays.flatten[j]? =
      (arrays[j / signatureBatchSize]?).bind fun a => a[j % signatureBatchSize]? := by
  induction arrays generalizing n with
  | nil => exact ⟨by simp [batchCount_eq_zero hc.symm], fun _ => by simp⟩
  | cons a rest ih =>
    have ha : a.length = min signatureBatchSize n := by
      simpa [batchIndices_length] using hsize 0 (by simp)
    obtain ⟨hlen, hidx⟩ := ih (n - signatureBatchSize) (batchCount_sub hc.symm).symm
      (fun k hk => by
        rw [← List.getElem_cons_succ a rest k (by simpa using hk), hsize (k + 1) (by simpa using hk),
          batchIndices_length, batchIndices_length, Nat.sub_sub, Nat.mul_succ, Nat.add_comm])
    refine ⟨by simp only [List.flatten_cons, List.length_append, ha, hlen, signatureBatchSize]; omega,
      fun j => ?_⟩
    rw [List.flatten_cons]
    rcases le_or_lt signatureBatchSize n with hn | hn
    · -- a full first batch
      have h15 : a.length = signatureBatchSize := by rw [ha]; exact Nat.min_eq_left hn
      by_cases hj : j < signatureBatchSize
      · rw [List.getElem?_append_left (by omega), Nat.div_eq_of_lt hj, Nat.mod_eq_of_lt hj]
        simp
      · rw [List.getElem?_append_right (by omega), hidx, h15,
          Nat.div_eq_sub_div (by decide) (Nat.le_of_not_lt hj),
          Nat.mod_eq_sub_mod (Nat.le_of_not_lt hj), List.getElem?_cons_succ]
    · -- the only batch
      have hrest : rest.length = 0 := by
        rw [← batchCount_sub hc.symm, Nat.sub_eq_zero_of_le hn.le]; rfl
      rw [List.eq_nil_of_length_eq_zero hrest, List.flatten_nil, List.append_nil]
      by_cases hj : j < signatureBatchSize
      · rw [Nat.div_eq_of_lt hj, Nat.mod_eq_of_lt hj]
        simp
      · rw [List.getElem?_eq_none (by omega), List.getElem?_eq_none (by
          simp only [List.length_singleton, signatureBatchSize] at hj ⊢; omega)]
        rfl

/-- When `Sign` on `n ≥ 1` hashes returns, the device answered the second command of every batch
with a `sign` array, and the signatures are the entries of these arrays, parsed in order. No count
is checked: when every array holds as many entries as its batch has hashes there are `n`
signatures, signature `j` being entry `j mod 15` of batch `⌊j/15⌋`. -/
theorem sign_returns_batch_entries (hs : List (List UInt8)) (kps : List String)
    (hlen : hs.length = kps.length) (hn : 0 < hs.length) (d : Device) (sigs : List Signature)
    (h : (sign hs kps d).1 = .ok sigs) :
    ∃ arrays : List (List Json), arrays.length = batchCount hs.length ∧
      (∀ k (hk : k < arrays.length), ∃ reply,
        d.communication.reply (d.communication.sent ++
          (signSchedule hs kps d.password).take (2 * k + 2)) = .ok reply ∧
        reply.array? "sign" = some arrays[k]) ∧
      parseSigs arrays.flatten = .ok sigs ∧
      ((∀ k (hk : k < arrays.length), arrays[k].length = (batchIndices hs.length k).length) →
        sigs.length = hs.length ∧
        ∀ j < hs.length, ∃ entry sig,
          (arrays[j / signatureBatchSize]?.bind fun a => a[j % signatureBatchSize]?) = some entry ∧
          parseSig entry = .ok sig ∧ sigs[j]? = some sig) := by
  have hrun := signLoop_run hs kps hlen d _ 0 [] rfl
  rw [← sign_eq_signLoop hs kps hlen hn] at hrun
  obtain ⟨-, arrays, hc, hrep, parsed, hp, rfl⟩ := hrun.ok sigs h
  rw [Nat.sub_zero] at hc
  refine ⟨arrays, hc, fun k hk => by simpa only [Nat.zero_add] using hrep k hk, hp, fun hsize => ?_⟩
  obtain ⟨hflen, hidx⟩ := flatten_batches arrays hs.length hc hsize
  obtain ⟨hl, hget⟩ := List.forall₂_iff_get.1 ((parseSigs_eq_ok_iff _ _).1 hp)
  refine ⟨by simp [← hl, hflen], fun j hj => ?_⟩
  have hj₁ : j < arrays.flatten.length := by omega
  have hj₂ : j < sigs.length := by omega
  refine ⟨arrays.flatten[j], sigs[j], by rw [← hidx, List.getElem?_eq_getElem hj₁],
    by simpa using hget j hj₁ hj₂, List.getElem?_eq_getElem hj₂⟩

theorem sign_returns_batch_entries_sixteen :
    (sign sixteenHashes sixteenPaths zeroSigning).1 =
      .ok ((List.range 16).map fun _ => { r := 0, s := 0 }) ∧
    ∃ arrays : List (List Json), arrays.length = 2 ∧
      (∀ k (hk : k < arrays.length), arrays[k].length = (batchIndices 16 k).length) ∧
      parseSigs arrays.flatten = .ok ((List.range 16).map fun _ => { r := 0, s := 0 }) := by
  have h := congrArg Prod.fst sign_zeroSigning
  obtain ⟨arrays, hc, hrep, hp, -⟩ :=
    sign_returns_batch_entries sixteenHashes sixteenPaths rfl (by decide) zeroSigning _ h
  refine ⟨h, arrays, hc.trans batchCount_sixteen, fun k hk => ?_, hp⟩
  obtain ⟨reply, hr, ha⟩ := hrep k hk
  rw [zeroSigning, answeringBatches_second _ _ _ (hc ▸ hk)] at hr
  cases hr
  rw [← Option.some.inj ha, List.length_map]

def oneHash : List (List UInt8) := [[0]]

def onePath : List String := ["m/0/0"]

theorem batchCount_oneHash : batchCount oneHash.length = 1 := by
  simp [batchCount, oneHash, signatureBatchSize]

/-- One hash, and a second reply that holds two entries: `Sign` returns two signatures. -/
theorem sign_returns_extra_signature :
    (sign oneHash onePath (answering [("sign", .arr [zeroEntry, zeroEntry])])).1 =
      .ok [{ r := 0, s := 0 }, { r := 0, s := 0 }] :=
  by rw [sign_answering _ _ rfl (by decide) [("sign", .arr [zeroEntry, zeroEntry])] rfl
      (parseSigs_map [(), ()] (fun _ => zeroEntry) (fun _ => { r := 0, s := 0 }) fun _ _ => parseSig_zeroEntry),
    batchCount_oneHash]; rfl

/-- `Sign` accepts a `sig` whose R half starts with `-`, and returns `R = -1`. -/
theorem sign_returns_negative_r :
    (sign oneHash onePath (answering [("sign", .arr [negativeEntry])])).1 =
      .ok [{ r := -1, s := 1 }] :=
  by rw [sign_answering _ _ rfl (by decide) [("sign", .arr [negativeEntry])] rfl
      (parseSigs_map [()] (fun _ => negativeEntry) (fun _ => { r := -1, s := 1 }) fun _ _ => parseSig_negativeEntry),
    batchCount_oneHash]; rfl

end BitboxWallet.Bitbox
