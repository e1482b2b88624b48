import BitboxWallet.Bitbox.Sign
import Mathlib.Data.List.Forall2

/-! # Reading the `sign` array

`Sign` parses each entry of a `sign` array with `parseSig`: the entry's `sig` must be 128 bytes,
and each half is read with `big.Int.SetString(_, 16)`, which takes a sign character before the
digits. `parseSigs` stops at the first entry that does not parse.
-/

namespace BitboxWallet.Bitbox

/-! ## Reading hex -/

theorem foldl_hexStep_none (l : List UInt8) : l.foldl hexStep none = none := by
  induction l with
  | nil => rfl
  | cons b l ih => exact ih

theorem foldl_hexStep_zeros (k : Nat) : (List.replicate k 48).foldl hexStep (some 0) = some 0 := by
  induction k with
  | zero => rfl
  | succ k ih => exact ih

theorem scanHex_zeros_append (k : Nat) {l : List UInt8} (hl : l ≠ []) :
    scanHex (List.replicate k 48 ++ l) = scanHex l := by
  simp [scanHex, hl, List.foldl_append, foldl_hexStep_zeros]

/-- `[+-]?[0-9a-fA-F]+`: what `SetString(_, 16)` accepts. -/
def SignedHex (bs : List UInt8) : Prop :=
  ∃ digits, (bs = digits ∨ bs = 45 :: digits ∨ bs = 43 :: digits) ∧ digits ≠ [] ∧
    ∀ b ∈ digits, (hexDigitValue b).isSome

theorem foldl_hexStep_isSome (l : List UInt8) (n : Nat) :
    (l.foldl hexStep (some n)).isSome ↔ ∀ b ∈ l, (hexDigitValue b).isSome := by
  induction l generalizing n with
  | nil => simp
  | cons b l ih =>
    rw [List.foldl_cons, List.forall_mem_cons]
    rcases hb : hexDigitValue b with _ | v
    · simp [hexStep, hb, foldl_hexStep_none]
    · simp [hexStep, hb, ih]

theorem scanHex_isSome (ds : List UInt8) :
    (scanHex ds).isSome ↔ ds ≠ [] ∧ ∀ b ∈ ds, (hexDigitValue b).isSome := by
  by_cases h : ds = [] <;> simp [scanHex, h, foldl_hexStep_isSome]

theorem setString16_isSome (bs : List UInt8) : (setString16 bs).isSome ↔ SignedHex bs := by
  cases bs with
  | nil => simp [setString16, SignedHex]
  | cons b ds =>
    simp only [setString16, SignedHex]
    split_ifs with h45 h43
    · -- a minus sign, then the digits
      subst h45
      rw [Option.isSome_map', scanHex_isSome]
      refine ⟨fun h => ⟨ds, .inr (.inl rfl), h⟩, ?_⟩
      rintro ⟨digits, h | h | h, hne, hall⟩
      · subst h
        exact absurd (hall 45 (List.mem_cons_self _ _)) (by decide)
      · cases h
        exact ⟨hne, hall⟩
      · exact absurd (List.cons.inj h).1 (by decide)
    · -- a plus sign, then the digits
      subst h43
      rw [Option.isSome_map', scanHex_isSome]
      refine ⟨fun h => ⟨ds, .inr (.inr rfl), h⟩, ?_⟩
      rintro ⟨digits, h | h | h, hne, hall⟩
      · subst h
        exact absurd (hall 43 (List.mem_cons_self _ _)) (by decide)
      · exact absurd (List.cons.inj h).1 (by decide)
      · cases h
        exact ⟨hne, hall⟩
    · -- digits only
      rw [Option.isSome_map', scanHex_isSome]
      refine ⟨fun h => ⟨_, .inl rfl, h⟩, ?_⟩
      rintro ⟨digits, h | h | h, hne, hall⟩
      · subst h
        exact ⟨hne, hall⟩
      · exact absurd (List.cons.inj h).1 h45
      · exact absurd (List.cons.inj h).1 h43

/-- `Sign` accepts an entry exactly when it is a map whose `sig` is a string of 128 bytes, each
64-byte half an optional `-` or `+` and then hex digits. -/
theorem parseSig_ok_iff (entry : Json) :
    (∃ sig, parseSig entry = .ok sig) ↔
      ∃ sigMap s, entry = .obj sigMap ∧ JsonMap.string? sigMap "sig" = some s ∧
        (goBytes s).length = 128 ∧ SignedHex ((goBytes s).take 64) ∧
        SignedHex ((goBytes s).drop 64) := by
  cases entry with
  | obj sigMap =>
    simp only [parseSig, Json.obj.injEq, exists_eq_left', ← setString16_isSome,
      Option.isSome_iff_exists]
    rcases hsig : JsonMap.string? sigMap "sig" with _ | s
    · simp [hsig]
    by_cases hlen : (goBytes s).length = 128
    · rcases hr : setString16 ((goBytes s).take 64) with _ | r <;>
        rcases hs : setString16 ((goBytes s).drop 64) with _ | s' <;>
        simp only [hlen, hr, hs, hsig, ne_eq, not_true_eq_false, ↓reduceIte, reduceCtorEq,
          Except.ok.injEq, Option.some.injEq, exists_false, exists_const, exists_eq', exists_and_left,
          exists_eq_left', and_self, and_true, and_false]
    · simp [hsig, hlen]
  | _ => simp [parseSig]

theorem parseSig_halves {a b : List Char} {r s : Int}
    (ha : (a.flatMap String.utf8EncodeChar).length = 64)
    (hb : (b.flatMap String.utf8EncodeChar).length = 64)
    (hr : setString16 (a.flatMap String.utf8EncodeChar) = some r)
    (hs : setString16 (b.flatMap String.utf8EncodeChar) = some s) :
    parseSig (.obj [("sig", .str (String.mk (a ++ b)))]) = .ok { r, s } := by
  have hbytes : goBytes (String.mk (a ++ b)) =
      a.flatMap String.utf8EncodeChar ++ b.flatMap String.utf8EncodeChar :=
    List.flatMap_append _ _ _
  simp [parseSig, JsonMap.string?, hbytes, ha, hb, List.take_left' ha, List.drop_left' ha, hr, hs]

def digitHalf (last : Char) : List Char := List.replicate 63 '0' ++ [last]

def negOneHalf : List Char := '-' :: (List.replicate 62 '0' ++ ['1'])

theorem digitHalf_bytes (last : Char) :
    (digitHalf last).flatMap String.utf8EncodeChar =
      List.replicate 63 48 ++ String.utf8EncodeChar last := by
  simp [digitHalf, List.flatMap_replicate, show String.utf8EncodeChar '0' = [48] from rfl]

theorem setString16_zeros_digit (k : Nat) {b : UInt8} {v : Nat} (hb : hexDigitValue b = some v) :
    setString16 (List.replicate (k + 1) 48 ++ [b]) = some v := by
  rw [List.replicate_succ, List.cons_append, setString16, if_neg (by decide), if_neg (by decide),
    ← List.cons_append, ← List.replicate_succ, scanHex_zeros_append _ (List.cons_ne_nil _ _)]
  simp [scanHex, hexStep, hb]

theorem parseSig_digitHalves {r s : Char} {b b' : UInt8} {vr vs : Nat}
    (hr : String.utf8EncodeChar r = [b]) (hbr : hexDigitValue b = some vr)
    (hs : String.utf8EncodeChar s = [b']) (hbs : hexDigitValue b' = some vs) :
    parseSig (.obj [("sig", .str (String.mk (digitHalf r ++ digitHalf s)))]) =
      .ok { r := vr, s := vs } :=
  parseSig_halves (by simp [digitHalf_bytes, hr]) (by simp [digitHalf_bytes, hs])
    (by rw [digitHalf_bytes, hr, setString16_zeros_digit 62 hbr]; rfl)
    (by rw [digitHalf_bytes, hs, setString16_zeros_digit 62 hbs]; rfl)

theorem negOneHalf_bytes :
    negOneHalf.flatMap String.utf8EncodeChar = 45 :: (List.replicate 62 48 ++ [49]) := by
  simp [negOneHalf, List.flatMap_replicate, show String.utf8EncodeChar '0' = [48] from rfl,
    show String.utf8EncodeChar '1' = [49] from rfl, show String.utf8EncodeChar '-' = [45] from rfl]

/-! ## Entries used below -/

/-- A `sig` entry of two zero halves. -/
def zeroEntry : Json := .obj [("sig", .str (String.mk (digitHalf '0' ++ digitHalf '0')))]

theorem parseSig_zeroEntry : parseSig zeroEntry = .ok { r := 0, s := 0 } :=
  parseSig_digitHalves rfl (by decide) rfl (by decide)

/-- A `sig` whose R half is `-0…01` and whose S half is `0…01`. -/
def negativeEntry : Json := .obj [("sig", .str (String.mk (negOneHalf ++ digitHalf '1')))]

theorem parseSig_negativeEntry : parseSig negativeEntry = .ok { r := -1, s := 1 } :=
  parseSig_halves (by simp [negOneHalf_bytes]) (by simp [digitHalf_bytes]; rfl)
    (by rw [negOneHalf_bytes, setString16, if_pos rfl, scanHex_zeros_append _ (by simp)]; rfl)
    (by rw [digitHalf_bytes, show String.utf8EncodeChar '1' = [49] from rfl,
      setString16_zeros_digit 62 (show hexDigitValue 49 = some 1 by decide)]; rfl)

/-! ## Arrays -/

theorem parseSigs_eq_ok_iff (l : List Json) (sigs : List Signature) :
    parseSigs l = .ok sigs ↔ List.Forall₂ (fun entry sig => parseSig entry = .ok sig) l sigs := by
  induction l generalizing sigs with
  | nil => cases sigs <;> simp [parseSigs]
  | cons e l ih =>
    rw [parseSigs]
    cases h : parseSig e <;> cases hl : parseSigs l <;> cases sigs <;> simp [h, ← ih, hl]

theorem parseSigs_append {l₁ l₂ : List Json} {sigs₁ sigs₂ : List Signature}
    (h₁ : parseSigs l₁ = .ok sigs₁) (h₂ : parseSigs l₂ = .ok sigs₂) :
    parseSigs (l₁ ++ l₂) = .ok (sigs₁ ++ sigs₂) :=
  (parseSigs_eq_ok_iff _ _).2 (List.rel_append ((parseSigs_eq_ok_iff _ _).1 h₁)
    ((parseSigs_eq_ok_iff _ _).1 h₂))

theorem parseSigs_map {α : Type} (l : List α) (entry : α → Json) (sig : α → Signature)
    (h : ∀ a ∈ l, parseSig (entry a) = .ok (sig a)) :
    parseSigs (l.map entry) = .ok (l.map sig) := by
  induction l with
  | nil => rfl
  | cons a l ih =>
    rw [List.forall_mem_cons] at h
    simp only [List.map_cons, parseSigs, h.1, ih h.2]

end BitboxWallet.Bitbox
