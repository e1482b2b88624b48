import Mathlib.Data.List.Basic

/-! # The receive page of the web frontend (`routes/account/receive/receive.jsx`)

The page shows one receive address at a time, with buttons to the previous and the next address
when there are several, and a button that asks the device to verify the address shown. While the
device verifies, these buttons are disabled, so the address shown stays the one the pending
request names.

To build the payment URI, `render` tests `account.coinCode` for Litecoin, and then the name
`coinCode`, which no scope of the module binds: unless the page has a global of that name,
reading it throws a `ReferenceError`, and the page renders only for Litecoin accounts.

`null` and `undefined` are `none`. The translations, the styles, the guide and the escape key
handler are left out.
-/

namespace BitboxWallet.Frontend

/-- An entry of `receiveAddresses`. -/
structure ReceiveAddress where
  addressID : String
  address : String

/-- An entry of `this.props.accounts`: the fields the page reads. -/
structure Account where
  code : String
  coinCode : String

/-- The state of `Receive`, with the `verify-address` request whose `then` is pending. -/
structure ReceiveState where
  verifying : Bool
  activeIndex : Option Nat
  receiveAddresses : Option (List ReceiveAddress)
  paired : Option Bool
  verifyRequest : Option String

/-- The state the component starts in; no request is pending. -/
def ReceiveState.initial : ReceiveState :=
  { verifying := false, activeIndex := none, receiveAddresses := none, paired := none,
    verifyRequest := none }

/-- The props of the page, and the value of a global named `coinCode`, if the page has one. -/
structure ReceivePage where
  code : String
  accounts : Option (List Account)
  deviceIDs : List String
  globalCoinCode : Option String

/-! ## Rendering -/

/-- The prefix of the QR code's data: the `if` chain of `render`. Its second test reads the
name `coinCode`. -/
def uriPrefix (globalCoinCode : Option String) (account : Account) : Except String String :=
  if account.coinCode = "ltc" ∨ account.coinCode = "tltc" then .ok "litecoin:"
  else
    match globalCoinCode with
    | none => .error "ReferenceError: coinCode is not defined"
    | some coinCode =>
      if coinCode = "btx" ∨ coinCode = "tbtx" then .ok "bitcore:"
      else if account.coinCode = "eth" ∨ account.coinCode = "teth" ∨ account.coinCode = "reth" then
        .ok ""
      else .ok "bitcoin:"

/-- The address box of `render`. -/
structure ReceiveContent where
  qrData : String
  address : String
  /-- The arrows and the counter `(activeIndex + 1/length)`, shown for more than one address. -/
  navigation : Option (Nat × Nat)
  ltcLegacy : Bool
  btxLegacy : Bool

/-- What `render` shows once it found the account. -/
structure ReceiveView where
  /-- `none` while the addresses load. -/
  content : Option ReceiveContent
  pairingWarning : Bool
  /-- The arrows and the verify button are disabled. -/
  disabled : Bool

/-- The address box: `receiveAddresses[activeIndex].address` throws when there is no such
entry. -/
def receiveContent (uriPrefix code : String) (s : ReceiveState) :
    Except String (Option ReceiveContent) :=
  match s.receiveAddresses with
  | none => .ok none
  | some receiveAddresses =>
    match s.activeIndex.bind (receiveAddresses[·]?) with
    | none => .error "TypeError: Cannot read properties of undefined (reading 'address')"
    | some entry =>
      .ok (some
        { qrData := uriPrefix ++ entry.address, address := entry.address,
          navigation := if receiveAddresses.length > 1 then
            some (s.activeIndex.getD 0 + 1, receiveAddresses.length) else none,
          ltcLegacy := code = "ltc-p2wpkh-p2sh", btxLegacy := code = "btx-p2wpkh-p2sh" })

/-- `getAccount`. -/
def ReceivePage.getAccount (page : ReceivePage) : Option Account :=
  page.accounts.bind (·.find? (·.code = page.code))

/-- `render`: `none` is the `null` it returns without an account. -/
def ReceivePage.render (page : ReceivePage) (s : ReceiveState) :
    Except String (Option ReceiveView) :=
  match page.getAccount with
  | none => .ok none
  | some account => do
    let uriPrefix ← uriPrefix page.globalCoinCode account
    let content ← receiveContent uriPrefix page.code s
    pure (some { content, pairingWarning := s.paired = some false, disabled := s.verifying })

/-! ## Handlers -/

/-- What happens to the page: a request of `componentDidMount` or of `verifyAddress` resolves, or
the user clicks a button. -/
inductive ReceiveEvent where
  | addressesLoaded (receiveAddresses : List ReceiveAddress)
  | pairedLoaded (paired : Bool)
  | previous
  | next
  | verify
  | verified (canVerifyAddress : Bool)

/-- What a handler does besides setting the state. -/
inductive ReceiveEffect where
  | verifyAddress (addressID : String)
  | alertSecureOutput

/-- `previous`: `(activeIndex + n - 1) % n`, where `null` counts as 0. -/
def previousIndex (activeIndex : Option Nat) (n : Nat) : Nat := (activeIndex.getD 0 + n - 1) % n

/-- `next`: `(activeIndex + 1) % n`. -/
def nextIndex (activeIndex : Option Nat) (n : Nat) : Nat := (activeIndex.getD 0 + 1) % n

/-- `verifyAddress`: it sets `verifying`, then reads the address ID for the request; when there
is no entry there, that read throws and no request goes out. -/
def ReceiveState.verifyAddress (s : ReceiveState) : ReceiveState × List ReceiveEffect :=
  match s.receiveAddresses, s.activeIndex with
  | some receiveAddresses, some activeIndex =>
    match receiveAddresses[activeIndex]? with
    | some entry =>
      ({ s with verifying := true, verifyRequest := some entry.addressID },
        [.verifyAddress entry.addressID])
    | none => ({ s with verifying := true }, [])
  | _, _ => (s, [])

/-- The buttons the rendered page shows enabled: the arrows, and the verify button. -/
def ReceivePage.enabled (page : ReceivePage) (s : ReceiveState) : Bool × Bool :=
  match page.render s with
  | .ok (some view) =>
    ((view.content.bind (·.navigation)).isSome && !view.disabled, !view.disabled)
  | _ => (false, false)

/-- One event, when it can happen: a request resolves only while it is pending (the pairing
status is asked for only with a device), and a click needs its button rendered and enabled. -/
def ReceivePage.step (page : ReceivePage) (s : ReceiveState) :
    ReceiveEvent → Option (ReceiveState × List ReceiveEffect)
  | .addressesLoaded receiveAddresses =>
    if s.receiveAddresses.isNone then
      some ({ s with receiveAddresses := some receiveAddresses, activeIndex := some 0 }, [])
    else none
  | .pairedLoaded paired =>
    if !page.deviceIDs.isEmpty && s.paired.isNone then some ({ s with paired := some paired }, [])
    else none
  | .previous =>
    if (page.enabled s).1 then
      let activeIndex := previousIndex s.activeIndex (s.receiveAddresses.getD []).length
      some ({ s with activeIndex := some activeIndex }, [])
    else none
  | .next =>
    if (page.enabled s).1 then
      let activeIndex := nextIndex s.activeIndex (s.receiveAddresses.getD []).length
      some ({ s with activeIndex := some activeIndex }, [])
    else none
  | .verify => if (page.enabled s).2 then some s.verifyAddress else none
  | .verified canVerifyAddress =>
    if s.verifyRequest.isSome then
      some ({ s with verifying := false, verifyRequest := none },
        if canVerifyAddress then [] else [.alertSecureOutput])
    else none

/-! ## The arrows -/

theorem nextIndex_lt (activeIndex : Option Nat) {n : Nat} (hn : 0 < n) :
    nextIndex activeIndex n < n :=
  Nat.mod_lt _ hn

theorem previousIndex_lt (activeIndex : Option Nat) {n : Nat} (hn : 0 < n) :
    previousIndex activeIndex n < n :=
  Nat.mod_lt _ hn

theorem previousIndex_nextIndex {i n : Nat} (hi : i < n) :
    previousIndex (some (nextIndex (some i) n)) n = i := by
  simp only [previousIndex, nextIndex, Option.getD_some]
  rcases Nat.lt_or_ge (i + 1) n with h | h
  · rw [Nat.mod_eq_of_lt h, show i + 1 + n - 1 = i + n by omega, Nat.add_mod_right,
      Nat.mod_eq_of_lt hi]
  · rw [show i + 1 = n by omega, Nat.mod_self, Nat.zero_add,
      Nat.mod_eq_of_lt (show n - 1 < n by omega)]
    omega

theorem nextIndex_previousIndex {i n : Nat} (hi : i < n) :
    nextIndex (some (previousIndex (some i) n)) n = i := by
  simp only [previousIndex, nextIndex, Option.getD_some]
  rcases Nat.eq_zero_or_pos i with rfl | h
  · rw [Nat.zero_add, Nat.mod_eq_of_lt (show n - 1 < n by omega), Nat.sub_add_cancel hi,
      Nat.mod_self]
  · rw [show i + n - 1 = i - 1 + n by omega, Nat.add_mod_right,
      Nat.mod_eq_of_lt (show i - 1 < n by omega), Nat.sub_add_cancel h, Nat.mod_eq_of_lt hi]

/-! ## The address shown -/

/-- The entry the address box shows: `receiveAddresses[activeIndex]`. -/
def ReceiveState.shown (s : ReceiveState) : Option ReceiveAddress :=
  s.receiveAddresses.bind fun receiveAddresses => s.activeIndex.bind (receiveAddresses[·]?)

theorem shown_eq_some {s : ReceiveState} {entry : ReceiveAddress} :
    s.shown = some entry ↔ ∃ receiveAddresses i, s.receiveAddresses = some receiveAddresses ∧
      s.activeIndex = some i ∧ receiveAddresses[i]? = some entry := by
  simp only [ReceiveState.shown, Option.bind_eq_some, exists_and_left]

theorem receiveContent_of_shown {s : ReceiveState} {entry : ReceiveAddress}
    (h : s.shown = some entry) (uriPrefix code : String) :
    ∃ content, receiveContent uriPrefix code s = .ok (some content) ∧
      content.address = entry.address ∧ content.qrData = uriPrefix ++ entry.address := by
  obtain ⟨receiveAddresses, i, hr, hi, he⟩ := shown_eq_some.1 h
  simp only [receiveContent, hr, hi, Option.some_bind, he]
  exact ⟨_, rfl, rfl, rfl⟩

theorem receiveContent_eq_ok {uriPrefix code : String} {s : ReceiveState}
    {content : Option ReceiveContent} (h : receiveContent uriPrefix code s = .ok content)
    {receiveAddresses : List ReceiveAddress} (hr : s.receiveAddresses = some receiveAddresses) :
    s.shown.isSome ∧
      ((content.bind (·.navigation)).isSome = true → 1 < receiveAddresses.length) := by
  unfold receiveContent at h
  rw [hr] at h
  dsimp only at h
  split at h
  · cases h
  · rename_i entry hentry
    cases h
    refine ⟨by simp only [ReceiveState.shown, hr, Option.some_bind, hentry, Option.isSome_some],
      fun hnav => ?_⟩
    by_contra hlen
    simp [hlen] at hnav

theorem render_eq_some {page : ReceivePage} {s : ReceiveState} {view : ReceiveView}
    (h : page.render s = .ok (some view)) :
    view.disabled = s.verifying ∧ ∃ uriPrefix, receiveContent uriPrefix page.code s = .ok view.content := by
  unfold ReceivePage.render at h
  split at h
  · cases h
  · simp only [bind, Except.bind] at h
    split at h
    · cases h
    · split at h
      · cases h
      · cases h
        exact ⟨rfl, _, ‹_›⟩

theorem enabled_arrows {page : ReceivePage} {s : ReceiveState} (h : (page.enabled s).1 = true) :
    s.verifying = false ∧
      ∃ receiveAddresses, s.receiveAddresses = some receiveAddresses ∧
        1 < receiveAddresses.length := by
  unfold ReceivePage.enabled at h
  split at h
  · rename_i view hview
    obtain ⟨hdisabled, uriPrefix, hc⟩ := render_eq_some hview
    simp only [Bool.and_eq_true, Bool.not_eq_true'] at h
    refine ⟨hdisabled ▸ h.2, ?_⟩
    cases hr : s.receiveAddresses with
    | none =>
      simp only [receiveContent, hr, Except.ok.injEq] at hc
      simp [← hc] at h
    | some receiveAddresses => exact ⟨receiveAddresses, rfl, (receiveContent_eq_ok hc hr).2 h.1⟩
  · cases h

theorem enabled_verify {page : ReceivePage} {s : ReceiveState} (h : (page.enabled s).2 = true) :
    s.verifying = false ∧ (s.receiveAddresses.isSome → s.shown.isSome) := by
  unfold ReceivePage.enabled at h
  split at h
  · rename_i view hview
    obtain ⟨hdisabled, uriPrefix, hc⟩ := render_eq_some hview
    simp only [Bool.not_eq_true'] at h
    refine ⟨hdisabled ▸ h, fun hr => ?_⟩
    obtain ⟨receiveAddresses, hr⟩ := Option.isSome_iff_exists.1 hr
    exact (receiveContent_eq_ok hc hr).1
  · cases h

theorem verifyAddress_of_shown {s : ReceiveState} {entry : ReceiveAddress}
    (h : s.shown = some entry) :
    s.verifyAddress =
      ({ s with verifying := true, verifyRequest := some entry.addressID },
        [.verifyAddress entry.addressID]) := by
  obtain ⟨receiveAddresses, i, hr, hi, he⟩ := shown_eq_some.1 h
  simp only [ReceiveState.verifyAddress, hr, hi, he]

theorem verifyAddress_of_loading {s : ReceiveState} (h : s.receiveAddresses = none) :
    s.verifyAddress = (s, []) := by
  simp only [ReceiveState.verifyAddress, h]

/-! ## Clicking the arrows -/

theorem enabled_fst_iff {page : ReceivePage} {s : ReceiveState} :
    (page.enabled s).1 = true ↔
      (∃ account p, page.getAccount = some account ∧ uriPrefix page.globalCoinCode account = .ok p) ∧
      s.verifying = false ∧ ∃ l i, s.receiveAddresses = some l ∧ s.activeIndex = some i ∧
        i < l.length ∧ 1 < l.length := by
  unfold ReceivePage.enabled ReceivePage.render
  rcases ha : page.getAccount with _ | account
  · simp
  rcases hp : uriPrefix page.globalCoinCode account with e | p
  · simp [bind, Except.bind, hp]
  unfold receiveContent
  rcases hr : s.receiveAddresses with _ | l
  · simp [bind, Except.bind, pure, Except.pure, hp]
  rcases hi : s.activeIndex with _ | i
  · simp [bind, Except.bind, pure, Except.pure, hp]
  rcases he : l[i]? with _ | entry
  · simp [bind, Except.bind, pure, Except.pure, hp, he, List.getElem?_eq_none_iff.1 he]
  · simp [bind, Except.bind, pure, Except.pure, hp, he, (List.getElem?_eq_some_iff.1 he).1, and_comm]

section Arrows

variable {page : ReceivePage} {s : ReceiveState} {l : List ReceiveAddress} {i : Nat}

theorem enabled_fst_withIndex (h : (page.enabled s).1 = true) (hr : s.receiveAddresses = some l)
    {j : Nat} (hj : j < l.length) : (page.enabled { s with activeIndex := some j }).1 = true := by
  obtain ⟨hacc, hver, l', -, hr', -, -, hl⟩ := enabled_fst_iff.1 h
  exact enabled_fst_iff.2 ⟨hacc, hver, l, j, hr, rfl, hj, Option.some.inj (hr'.symm.trans hr) ▸ hl⟩

theorem withIndex_self (hi : s.activeIndex = some i) : { s with activeIndex := some i } = s := by
  cases s
  cases hi
  rfl

theorem step_next_of_enabled (hen : (page.enabled s).1 = true) (hr : s.receiveAddresses = some l)
    (hi : s.activeIndex = some i) :
    page.step s .next = some ({ s with activeIndex := some (nextIndex (some i) l.length) }, []) := by
  simp only [ReceivePage.step, if_pos hen, hr, hi, Option.getD_some]

theorem step_previous_of_enabled (hen : (page.enabled s).1 = true) (hr : s.receiveAddresses = some l)
    (hi : s.activeIndex = some i) :
    page.step s .previous =
      some ({ s with activeIndex := some (previousIndex (some i) l.length) }, []) := by
  simp only [ReceivePage.step, if_pos hen, hr, hi, Option.getD_some]

theorem enabled_of_step_arrow {e : ReceiveEvent} (he : e = .next ∨ e = .previous)
    {s' : ReceiveState} {effects : List ReceiveEffect} (h : page.step s e = some (s', effects)) :
    (page.enabled s).1 = true := by
  rcases he with rfl | rfl <;>
  · simp only [ReceivePage.step, Option.ite_none_right_eq_some] at h
    exact h.1

end Arrows

/-- The previous arrow undoes the next arrow, and the next arrow the previous one: a click of
one right after a click of the other gives back the page's state, and neither sends a request. -/
theorem arrows_undo (page : ReceivePage) (s s' : ReceiveState) (effects : List ReceiveEffect) :
    (page.step s .next = some (s', effects) → effects = [] ∧ page.step s' .previous = some (s, [])) ∧
    (page.step s .previous = some (s', effects) → effects = [] ∧ page.step s' .next = some (s, [])) := by
  refine ⟨fun h => ?_, fun h => ?_⟩
  · have hen := enabled_of_step_arrow (.inl rfl) h
    obtain ⟨-, -, l, i, hr, hi, hil, -⟩ := enabled_fst_iff.1 hen
    rw [step_next_of_enabled hen hr hi, Option.some.injEq, Prod.mk.injEq] at h
    obtain ⟨rfl, rfl⟩ := h
    rw [step_previous_of_enabled (enabled_fst_withIndex hen hr (nextIndex_lt _ (by omega))) hr rfl,
      previousIndex_nextIndex hil, withIndex_self hi]
    exact ⟨rfl, rfl⟩
  · have hen := enabled_of_step_arrow (.inr rfl) h
    obtain ⟨-, -, l, i, hr, hi, hil, -⟩ := enabled_fst_iff.1 hen
    rw [step_previous_of_enabled hen hr hi, Option.some.injEq, Prod.mk.injEq] at h
    obtain ⟨rfl, rfl⟩ := h
    rw [step_next_of_enabled (enabled_fst_withIndex hen hr (previousIndex_lt _ (by omega))) hr rfl,
      nextIndex_previousIndex hil, withIndex_self hi]
    exact ⟨rfl, rfl⟩

def litecoinAddresses : List ReceiveAddress := [⟨"0", "ltc1first"⟩, ⟨"1", "ltc1second"⟩]

def litecoinPage : ReceivePage := ⟨"ltc", some [⟨"ltc", "ltc"⟩], [], none⟩

def litecoinLoaded : ReceiveState :=
  { ReceiveState.initial with activeIndex := some 0, receiveAddresses := some litecoinAddresses }

theorem arrows_undo_litecoin :
    litecoinPage.step litecoinLoaded .next =
      some ({ litecoinLoaded with activeIndex := some 1 }, []) ∧
    litecoinPage.step { litecoinLoaded with activeIndex := some 1 } .previous =
      some (litecoinLoaded, []) :=
  have h : litecoinPage.step litecoinLoaded .next =
      some ({ litecoinLoaded with activeIndex := some 1 }, []) := rfl
  ⟨h, ((arrows_undo litecoinPage _ _ _).1 h).2⟩

/-! ## Every run of the page -/

/-- The states the page reaches from its initial state, one event at a time. -/
inductive ReceivePage.Reachable (page : ReceivePage) : ReceiveState → Prop where
  | initial : page.Reachable ReceiveState.initial
  | step {s s' : ReceiveState} {e : ReceiveEvent} {effects : List ReceiveEffect} :
      page.Reachable s → page.step s e = some (s', effects) → page.Reachable s'

structure ReceiveState.Inv (s : ReceiveState) : Prop where
  /-- The buttons are disabled exactly while a request is pending. -/
  verifying_eq : s.verifying = s.verifyRequest.isSome
  /-- A pending request names the entry shown. -/
  request_shown : ∀ addressID, s.verifyRequest = some addressID →
    ∃ entry, s.shown = some entry ∧ entry.addressID = addressID
  /-- Loaded addresses, unless there are none, have an entry at the index. -/
  shown_isSome : ∀ receiveAddresses, s.receiveAddresses = some receiveAddresses →
    receiveAddresses ≠ [] → s.shown.isSome

theorem ReceiveState.inv_initial : ReceiveState.initial.Inv :=
  ⟨rfl, fun _ h => (nomatch h), fun _ h => (nomatch h)⟩

theorem ReceiveState.Inv.verifyRequest_eq_none {s : ReceiveState} (hs : s.Inv)
    (h : s.verifying = false) : s.verifyRequest = none := by
  simpa [h] using hs.verifying_eq.symm

theorem ReceivePage.step_cases {page : ReceivePage} {s s' : ReceiveState} {e : ReceiveEvent}
    {effects : List ReceiveEffect} (h : page.step s e = some (s', effects)) :
    (∃ receiveAddresses, s.receiveAddresses = none ∧
      s' = { s with receiveAddresses := some receiveAddresses, activeIndex := some 0 }) ∨
    (∃ paired, s' = { s with paired := some paired }) ∨
    ((page.enabled s).1 = true ∧ ∃ activeIndex, activeIndex < (s.receiveAddresses.getD []).length ∧
      s' = { s with activeIndex := some activeIndex }) ∨
    ((page.enabled s).2 = true ∧ (s', effects) = s.verifyAddress) ∨
    s' = { s with verifying := false, verifyRequest := none } := by
  cases e with
  | addressesLoaded receiveAddresses =>
    simp only [ReceivePage.step, Option.ite_none_right_eq_some, Option.some.injEq,
      Prod.mk.injEq, Option.isNone_iff_eq_none] at h
    exact .inl ⟨receiveAddresses, h.1, h.2.1.symm⟩
  | pairedLoaded paired =>
    simp only [ReceivePage.step, Option.ite_none_right_eq_some, Option.some.injEq,
      Prod.mk.injEq] at h
    exact .inr (.inl ⟨paired, h.2.1.symm⟩)
  | previous =>
    simp only [ReceivePage.step, Option.ite_none_right_eq_some, Option.some.injEq,
      Prod.mk.injEq] at h
    obtain ⟨henabled, rfl, -⟩ := h
    obtain ⟨-, receiveAddresses, hr, hlen⟩ := enabled_arrows henabled
    refine .inr (.inr (.inl ⟨henabled, _, ?_, rfl⟩))
    simpa only [hr] using previousIndex_lt s.activeIndex (show 0 < receiveAddresses.length by omega)
  | next =>
    simp only [ReceivePage.step, Option.ite_none_right_eq_some, Option.some.injEq,
      Prod.mk.injEq] at h
    obtain ⟨henabled, rfl, -⟩ := h
    obtain ⟨-, receiveAddresses, hr, hlen⟩ := enabled_arrows henabled
    refine .inr (.inr (.inl ⟨henabled, _, ?_, rfl⟩))
    simpa only [hr] using nextIndex_lt s.activeIndex (show 0 < receiveAddresses.length by omega)
  | verify =>
    simp only [ReceivePage.step, Option.ite_none_right_eq_some, Option.some.injEq] at h
    exact .inr (.inr (.inr (.inl ⟨h.1, h.2.symm⟩)))
  | verified canVerifyAddress =>
    simp only [ReceivePage.step, Option.ite_none_right_eq_some, Option.some.injEq,
      Prod.mk.injEq] at h
    exact .inr (.inr (.inr (.inr h.2.1.symm)))

theorem ReceiveState.Inv.step {page : ReceivePage} {s s' : ReceiveState} {e : ReceiveEvent}
    {effects : List ReceiveEffect} (hs : s.Inv) (h : page.step s e = some (s', effects)) :
    s'.Inv := by
  rcases ReceivePage.step_cases h with ⟨receiveAddresses, hloading, rfl⟩ | ⟨paired, rfl⟩ |
    ⟨henabled, activeIndex, hlt, rfl⟩ | ⟨henabled, hverify⟩ | rfl
  · -- the addresses load
    have hreq : s.verifyRequest = none := by
      cases hr : s.verifyRequest with
      | none => rfl
      | some addressID =>
        obtain ⟨entry, hentry, -⟩ := hs.request_shown addressID hr
        simp [ReceiveState.shown, hloading] at hentry
    refine ⟨hs.verifying_eq, fun _ h => by simp [hreq] at h, fun _ h hne => ?_⟩
    cases h
    simp [ReceiveState.shown, List.length_pos.2 hne]
  · -- the pairing status loads
    exact ⟨hs.verifying_eq, hs.request_shown, hs.shown_isSome⟩
  · -- an arrow
    obtain ⟨hverifying, receiveAddresses, hr, -⟩ := enabled_arrows henabled
    have hreq := hs.verifyRequest_eq_none hverifying
    refine ⟨hs.verifying_eq, fun _ h => by simp [hreq] at h, fun _ h _ => ?_⟩
    rw [hr, Option.getD_some] at hlt
    simp [ReceiveState.shown, hr, List.getElem?_eq_getElem hlt]
  · -- the verify button
    obtain ⟨hverifying, hloaded⟩ := enabled_verify henabled
    cases hr : s.receiveAddresses with
    | none =>
      rw [verifyAddress_of_loading hr, Prod.mk.injEq] at hverify
      exact hverify.1 ▸ hs
    | some receiveAddresses =>
      obtain ⟨entry, hentry⟩ := Option.isSome_iff_exists.1 (hloaded (by simp [hr]))
      rw [verifyAddress_of_shown hentry, Prod.mk.injEq] at hverify
      obtain ⟨rfl, -⟩ := hverify
      exact ⟨rfl, fun _ h => ⟨entry, hentry, Option.some.inj h⟩,
        fun _ h hne => hs.shown_isSome _ h hne⟩
  · -- the request ends
    exact ⟨rfl, fun _ h => (nomatch h), hs.shown_isSome⟩

theorem ReceivePage.Reachable.inv {page : ReceivePage} {s : ReceiveState}
    (h : page.Reachable s) : s.Inv := by
  induction h with
  | initial => exact ReceiveState.inv_initial
  | step _ hstep ih => exact ih.step hstep

/-- While the device verifies an address, the page shows that address: in every state the page
reaches, the buttons are disabled exactly while a request is pending, the pending request names
the entry the address box renders, and loaded addresses, unless there are none, render. -/
theorem pending_request_shown (page : ReceivePage) (s : ReceiveState) (hs : page.Reachable s) :
    s.verifying = s.verifyRequest.isSome ∧
      (∀ addressID, s.verifyRequest = some addressID → ∀ uriPrefix, ∃ entry content,
        s.shown = some entry ∧ entry.addressID = addressID ∧
        receiveContent uriPrefix page.code s = .ok (some content) ∧
        content.address = entry.address ∧ content.qrData = uriPrefix ++ entry.address) ∧
      (∀ receiveAddresses, s.receiveAddresses = some receiveAddresses → receiveAddresses ≠ [] →
        ∀ uriPrefix, ∃ content, receiveContent uriPrefix page.code s = .ok (some content)) := by
  have hinv := hs.inv
  refine ⟨hinv.verifying_eq, fun addressID hreq uriPrefix => ?_, fun _ hr hne uriPrefix => ?_⟩
  · obtain ⟨entry, hentry, hid⟩ := hinv.request_shown addressID hreq
    obtain ⟨content, hc, haddress, hqr⟩ := receiveContent_of_shown hentry uriPrefix page.code
    exact ⟨entry, content, hentry, hid, hc, haddress, hqr⟩
  · obtain ⟨entry, hentry⟩ := Option.isSome_iff_exists.1 (hinv.shown_isSome _ hr hne)
    obtain ⟨content, hc, -⟩ := receiveContent_of_shown hentry uriPrefix page.code
    exact ⟨content, hc⟩

/-- The events in turn, with the effects of all of them; `none` when one of them cannot
happen. -/
def ReceivePage.run (page : ReceivePage) (s : ReceiveState) :
    List ReceiveEvent → Option (ReceiveState × List ReceiveEffect)
  | [] => some (s, [])
  | e :: events =>
    (page.step s e).bind fun (s', effects) =>
      (page.run s' events).map fun (s'', rest) => (s'', effects ++ rest)

theorem ReceivePage.Reachable.run {page : ReceivePage} {s s' : ReceiveState}
    {events : List ReceiveEvent} {effects : List ReceiveEffect} (hs : page.Reachable s)
    (h : page.run s events = some (s', effects)) : page.Reachable s' := by
  induction events generalizing s effects with
  | nil =>
    cases h
    exact hs
  | cons e events ih =>
    obtain ⟨⟨next, nextEffects⟩, hstep, hrun⟩ := Option.bind_eq_some.1 h
    obtain ⟨⟨last, rest⟩, hlast, hlast'⟩ := Option.map_eq_some'.1 hrun
    cases hlast'
    exact ih (hs.step hstep) hlast

def litecoinVerifying : ReceiveState :=
  { verifying := true, activeIndex := some 1, receiveAddresses := some litecoinAddresses,
    paired := none, verifyRequest := some "1" }

theorem litecoinPage_run :
    litecoinPage.run .initial [.addressesLoaded litecoinAddresses, .next, .verify] =
      some (litecoinVerifying, [.verifyAddress "1"]) := rfl

theorem pending_request_shown_litecoin :
    litecoinPage.Reachable litecoinVerifying ∧
      litecoinVerifying.verifying = litecoinVerifying.verifyRequest.isSome ∧
      (∀ addressID, litecoinVerifying.verifyRequest = some addressID → ∀ uriPrefix,
        ∃ entry content, litecoinVerifying.shown = some entry ∧ entry.addressID = addressID ∧
          receiveContent uriPrefix litecoinPage.code litecoinVerifying = .ok (some content) ∧
          content.address = entry.address ∧ content.qrData = uriPrefix ++ entry.address) ∧
      (∀ receiveAddresses, litecoinVerifying.receiveAddresses = some receiveAddresses →
        receiveAddresses ≠ [] → ∀ uriPrefix,
          ∃ content, receiveContent uriPrefix litecoinPage.code litecoinVerifying = .ok (some content)) :=
  have h : litecoinPage.Reachable litecoinVerifying := ReceivePage.Reachable.initial.run litecoinPage_run
  ⟨h, pending_request_shown litecoinPage litecoinVerifying h⟩

end BitboxWallet.Frontend
