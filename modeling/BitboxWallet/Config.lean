import BitboxWallet.Bitbox.Basic
import Mathlib.Logic.Function.Basic

/-! # The app configuration (package `config`)

`AccountActive` reads the setting of an account from its code, and panics on a code it does not
know. The default configuration activates the P2WPKH-P2SH accounts of Bitcoin, Litecoin and
Bitcore, and Ethereum, on every network.

`Config` keeps the app and the accounts configuration in memory and in two files. `NewConfig`
starts from the defaults and loads both files, but it stops at the first file it cannot read or
decode, so without a readable app configuration the saved accounts configuration is never loaded.
`SetAppConfig` and `SetAccountsConfig` change the memory first and then save, so a failed save
leaves the memory ahead of the file.

`json.Unmarshal`, `json.MarshalIndent` and `ioutil.WriteFile` are parameters. A failed
`Unmarshal` may have decoded part of the value, so it gives back the value it left with its
error.
-/

namespace BitboxWallet.Settings

/-- `Backend`: the account settings. The coin server settings are read by code outside this
model. -/
structure Backend where
  bitcoinP2PKHActive : Bool
  bitcoinP2WPKHP2SHActive : Bool
  bitcoinP2WPKHActive : Bool
  litecoinP2WPKHP2SHActive : Bool
  litecoinP2WPKHActive : Bool
  bitcoreP2PKHActive : Bool
  bitcoreP2WPKHP2SHActive : Bool
  bitcoreP2WPKHActive : Bool
  ethereumActive : Bool

/-- The cases of the `switch` of `AccountActive`, in order: the codes of each case and the
setting it returns. -/
def accountSettings : List (List String × (Backend → Bool)) :=
  [(["tbtc-p2pkh", "btc-p2pkh", "rbtc-p2pkh"], Backend.bitcoinP2PKHActive),
    (["tbtc-p2wpkh-p2sh", "btc-p2wpkh-p2sh", "rbtc-p2wpkh-p2sh"], Backend.bitcoinP2WPKHP2SHActive),
    (["tbtc-p2wpkh", "btc-p2wpkh", "rbtc-p2wpkh"], Backend.bitcoinP2WPKHActive),
    (["tltc-p2wpkh-p2sh", "ltc-p2wpkh-p2sh"], Backend.litecoinP2WPKHP2SHActive),
    (["tltc-p2wpkh", "ltc-p2wpkh"], Backend.litecoinP2WPKHActive),
    (["tbtx-p2pkh", "btx-p2pkh"], Backend.bitcoreP2PKHActive),
    (["tbtx-p2wpkh-p2sh", "btx-p2wpkh-p2sh"], Backend.bitcoreP2WPKHP2SHActive),
    (["tbtx-p2wpkh", "btx-p2wpkh"], Backend.bitcoreP2WPKHActive),
    (["eth", "teth", "reth"], Backend.ethereumActive)]

/-- `Backend.AccountActive`: the setting of the first case that lists `code`. An unknown code
panics with the message given here. -/
def Backend.accountActive (backend : Backend) (code : String) : Except String Bool :=
  match accountSettings.find? (fun case => code ∈ case.1) with
  | some (_, setting) => .ok (setting backend)
  | none => .error ("unknown code " ++ code)

/-- `AppConfig`; the frontend's part is any JSON value. -/
structure AppConfig where
  backend : Backend
  frontend : Json

/-- `NewDefaultAppConfig`. -/
def newDefaultAppConfig : AppConfig where
  backend :=
    { bitcoinP2PKHActive := false
      bitcoinP2WPKHP2SHActive := true
      bitcoinP2WPKHActive := false
      litecoinP2WPKHP2SHActive := true
      litecoinP2WPKHActive := false
      bitcoreP2PKHActive := false
      bitcoreP2WPKHP2SHActive := true
      bitcoreP2WPKHActive := false
      ethereumActive := true }
  frontend := .null

/-! ## The configuration and its files -/

/-- The files: what `ioutil.ReadFile` reads from each, if it can. -/
abbrev Files := String → Option (List UInt8)

/-- `json.Unmarshal` into a value of type `α`, which gives back the value it left and its error,
and `json.MarshalIndent` of a value. -/
structure Codec (α : Type) where
  unmarshal : List UInt8 → α → α × Option String
  marshal : α → Except String (List UInt8)

/-- `Config`, with `AccountsConfig` a parameter. -/
structure Config (Acc : Type) where
  appConfigFilename : String
  appConfig : AppConfig
  accountsConfigFilename : String
  accountsConfig : Acc

section Files

variable {Acc : Type} (appCodec : Codec AppConfig) (accountsCodec : Codec Acc)
  (writeFile : String → List UInt8 → Option String)

/-- `load`: read and decode the app configuration, then the accounts configuration, and stop at
the first file that cannot be read or decoded. -/
def Config.load (files : Files) (config : Config Acc) : Config Acc :=
  match files config.appConfigFilename with
  | none => config
  | some jsonBytes =>
    match appCodec.unmarshal jsonBytes config.appConfig with
    | (appConfig, some _) => { config with appConfig }
    | (appConfig, none) =>
      match files config.accountsConfigFilename with
      | none => { config with appConfig }
      | some jsonBytes =>
        let accountsConfig := (accountsCodec.unmarshal jsonBytes config.accountsConfig).1
        { config with appConfig, accountsConfig }

/-- `NewConfig`, with `defaultAccounts` the value of `newDefaultAccountsonfig`. -/
def newConfig (defaultAccounts : Acc) (appConfigFilename accountsConfigFilename : String)
    (files : Files) : Config Acc :=
  Config.load appCodec accountsCodec files
    { appConfigFilename, appConfig := newDefaultAppConfig, accountsConfigFilename,
      accountsConfig := defaultAccounts }

/-- `save`: write the encoded value, if it could be encoded. -/
def save (filename : String) (jsonBytes : Except String (List UInt8)) (files : Files) :
    Except String Files :=
  match jsonBytes with
  | .error err => .error err
  | .ok bytes =>
    match writeFile filename bytes with
    | some err => .error err
    | none => .ok (Function.update files filename (some bytes))

/-- The body of `SetAppConfig` and `SetAccountsConfig`: the memory already holds the new
`config`; save it to `filename`. It gives the error, the configuration and the files. -/
def Config.set (config : Config Acc) (filename : String) (jsonBytes : Except String (List UInt8))
    (files : Files) : Option String × Config Acc × Files :=
  match save writeFile filename jsonBytes files with
  | .ok files => (none, config, files)
  | .error err => (some err, config, files)

/-- `SetAppConfig`. -/
def Config.setAppConfig (appConfig : AppConfig) (config : Config Acc) (files : Files) :
    Option String × Config Acc × Files :=
  let config := { config with appConfig }
  config.set writeFile config.appConfigFilename (appCodec.marshal config.appConfig) files

/-- `SetAccountsConfig`. -/
def Config.setAccountsConfig (accountsConfig : Acc) (config : Config Acc) (files : Files) :
    Option String × Config Acc × Files :=
  let config := { config with accountsConfig }
  config.set writeFile config.accountsConfigFilename (accountsCodec.marshal config.accountsConfig)
    files

/-- The calls that change the configuration. -/
inductive Op (Acc : Type) where
  | setAppConfig (appConfig : AppConfig)
  | setAccountsConfig (accountsConfig : Acc)

/-- One call; its error goes back to the caller. -/
def Op.run : Op Acc → Config Acc × Files → Config Acc × Files
  | .setAppConfig appConfig, (config, files) =>
    (config.setAppConfig appCodec writeFile appConfig files).2
  | .setAccountsConfig accountsConfig, (config, files) =>
    (config.setAccountsConfig accountsCodec writeFile accountsConfig files).2

/-- The calls in order. -/
def runOps (ops : List (Op Acc)) (s : Config Acc × Files) : Config Acc × Files :=
  ops.foldl (fun s op => op.run appCodec accountsCodec writeFile s) s

/-! ## What the calls do -/

/-- What a call does to the memory: it sets one of the two values. -/
def Op.apply : Op Acc → Config Acc → Config Acc
  | .setAppConfig appConfig, config => { config with appConfig }
  | .setAccountsConfig accountsConfig, config => { config with accountsConfig }

/-- The file a call saves to. -/
def Op.filename (config : Config Acc) : Op Acc → String
  | .setAppConfig _ => config.appConfigFilename
  | .setAccountsConfig _ => config.accountsConfigFilename

/-- The encoding of the value a call saves. -/
def Op.jsonBytes : Op Acc → Except String (List UInt8)
  | .setAppConfig appConfig => appCodec.marshal appConfig
  | .setAccountsConfig accountsConfig => accountsCodec.marshal accountsConfig

/-- The save of a call into `config` succeeds. -/
def Op.Saves (config : Config Acc) (op : Op Acc) : Prop :=
  ∃ bytes, op.jsonBytes appCodec accountsCodec = .ok bytes ∧ writeFile (op.filename config) bytes = none

theorem set_eq (config : Config Acc) (filename : String) (jsonBytes : Except String (List UInt8))
    (files : Files) :
    (∃ bytes, jsonBytes = .ok bytes ∧ writeFile filename bytes = none ∧
      config.set writeFile filename jsonBytes files =
        (none, config, Function.update files filename (some bytes))) ∨
    ∃ err, config.set writeFile filename jsonBytes files = (some err, config, files) := by
  rcases jsonBytes with err | bytes
  · exact .inr ⟨err, rfl⟩
  · cases h : writeFile filename bytes with
    | none => exact .inl ⟨bytes, rfl, h, by simp only [Config.set, save, h]⟩
    | some err => exact .inr ⟨err, by simp only [Config.set, save, h]⟩

theorem set_fst (config : Config Acc) (filename : String) (jsonBytes : Except String (List UInt8))
    (files : Files) : (config.set writeFile filename jsonBytes files).2.1 = config := by
  rcases set_eq writeFile config filename jsonBytes files with ⟨_, -, -, h⟩ | ⟨_, h⟩ <;> rw [h]

theorem set_snd_of_ne (config : Config Acc) {filename other : String}
    (jsonBytes : Except String (List UInt8)) (files : Files) (hne : other ≠ filename) :
    (config.set writeFile filename jsonBytes files).2.2 other = files other := by
  rcases set_eq writeFile config filename jsonBytes files with ⟨_, -, -, h⟩ | ⟨_, h⟩ <;> rw [h]
  exact Function.update_noteq hne _ _

@[simp] theorem Op.apply_appConfigFilename (op : Op Acc) (config : Config Acc) :
    (op.apply config).appConfigFilename = config.appConfigFilename := by
  cases op <;> rfl

@[simp] theorem Op.apply_accountsConfigFilename (op : Op Acc) (config : Config Acc) :
    (op.apply config).accountsConfigFilename = config.accountsConfigFilename := by
  cases op <;> rfl

theorem Op.run_eq (op : Op Acc) (s : Config Acc × Files) :
    op.run appCodec accountsCodec writeFile s =
      ((op.apply s.1).set writeFile (op.filename s.1) (op.jsonBytes appCodec accountsCodec)
        s.2).2 := by
  cases op <;> rfl

theorem set_of_saves (config : Config Acc) {filename : String} {bytes : List UInt8}
    (files : Files) (hw : writeFile filename bytes = none) :
    config.set writeFile filename (.ok bytes) files =
      (none, config, Function.update files filename (some bytes)) := by
  simp only [Config.set, save, hw]

theorem Op.filename_apply (op op' : Op Acc) (config : Config Acc) :
    op.filename (op'.apply config) = op.filename config := by
  cases op <;> simp [Op.filename]

theorem Op.saves_apply {op op' : Op Acc} {config : Config Acc} :
    op.Saves appCodec accountsCodec writeFile (op'.apply config) ↔
      op.Saves appCodec accountsCodec writeFile config := by
  simp only [Op.Saves, Op.filename_apply]

/-! ## Runs -/

theorem runOps_cons (op : Op Acc) (ops : List (Op Acc)) (s : Config Acc × Files) :
    runOps appCodec accountsCodec writeFile (op :: ops) s =
      runOps appCodec accountsCodec writeFile ops (op.run appCodec accountsCodec writeFile s) :=
  rfl

theorem runOps_fst (ops : List (Op Acc)) (s : Config Acc × Files) :
    (runOps appCodec accountsCodec writeFile ops s).1 = ops.foldl (fun config op => op.apply config) s.1 := by
  induction ops generalizing s with
  | nil => rfl
  | cons op ops ih => rw [runOps_cons, ih, Op.run_eq, set_fst, List.foldl_cons]

theorem runOps_filenames (ops : List (Op Acc)) (s : Config Acc × Files) :
    (runOps appCodec accountsCodec writeFile ops s).1.appConfigFilename = s.1.appConfigFilename ∧
    (runOps appCodec accountsCodec writeFile ops s).1.accountsConfigFilename =
      s.1.accountsConfigFilename := by
  rw [runOps_fst]
  generalize s.1 = config
  induction ops generalizing config with
  | nil => exact ⟨rfl, rfl⟩
  | cons op ops ih => simpa using ih (op.apply config)

/-! ## The files and the memory -/

/-- The encoding of any value decodes to it, from any value. -/
def RoundTrips {α : Type} (codec : Codec α) : Prop :=
  ∀ x bytes, codec.marshal x = .ok bytes → ∀ y, codec.unmarshal bytes y = (x, none)

/-- The app configuration file holds the app configuration in memory. -/
def AppSynced (s : Config Acc × Files) : Prop :=
  ∃ bytes, s.2 s.1.appConfigFilename = some bytes ∧
    ∀ c, appCodec.unmarshal bytes c = (s.1.appConfig, none)

/-- The accounts configuration file holds the accounts configuration in memory. -/
def AccountsSynced (s : Config Acc × Files) : Prop :=
  ∃ bytes, s.2 s.1.accountsConfigFilename = some bytes ∧
    ∀ a, accountsCodec.unmarshal bytes a = (s.1.accountsConfig, none)

theorem newConfig_of_synced (defaultAccounts : Acc) {s : Config Acc × Files}
    (happ : AppSynced appCodec s) (hacc : AccountsSynced accountsCodec s) :
    newConfig appCodec accountsCodec defaultAccounts s.1.appConfigFilename
      s.1.accountsConfigFilename s.2 = s.1 := by
  obtain ⟨b₁, h₁, hu₁⟩ := happ
  obtain ⟨b₂, h₂, hu₂⟩ := hacc
  simp only [newConfig, Config.load, h₁, hu₁, h₂, hu₂]

theorem Op.run_fst (op : Op Acc) (s : Config Acc × Files) :
    (op.run appCodec accountsCodec writeFile s).1 = op.apply s.1 := by
  rw [Op.run_eq, set_fst]

theorem Op.run_synced {op : Op Acc} {s : Config Acc × Files}
    (hne : s.1.appConfigFilename ≠ s.1.accountsConfigFilename)
    (hsaves : op.Saves appCodec accountsCodec writeFile s.1) :
    (RoundTrips appCodec → (AppSynced appCodec s ∨ ∃ c, op = .setAppConfig c) →
      AppSynced appCodec (op.run appCodec accountsCodec writeFile s)) ∧
    (RoundTrips accountsCodec → (AccountsSynced accountsCodec s ∨ ∃ a, op = .setAccountsConfig a) →
      AccountsSynced accountsCodec (op.run appCodec accountsCodec writeFile s)) := by
  obtain ⟨bytes, hb, hw⟩ := hsaves
  rw [Op.run_eq, hb, set_of_saves writeFile _ _ hw]
  cases op with
  | setAppConfig c =>
    refine ⟨fun hrt _ => ⟨bytes, Function.update_same _ _ _, hrt c bytes hb⟩, ?_⟩
    rintro - (⟨b, h, hu⟩ | ⟨_, ⟨⟩⟩)
    exact ⟨b, (Function.update_noteq hne.symm _ _).trans h, hu⟩
  | setAccountsConfig a =>
    refine ⟨?_, fun hrt _ => ⟨bytes, Function.update_same _ _ _, hrt a bytes hb⟩⟩
    rintro - (⟨b, h, hu⟩ | ⟨_, ⟨⟩⟩)
    exact ⟨b, (Function.update_noteq hne _ _).trans h, hu⟩

theorem runOps_synced (ops : List (Op Acc)) (s : Config Acc × Files)
    (hne : s.1.appConfigFilename ≠ s.1.accountsConfigFilename)
    (hsaves : ∀ op ∈ ops, op.Saves appCodec accountsCodec writeFile s.1) :
    (RoundTrips appCodec → (AppSynced appCodec s ∨ ∃ c, .setAppConfig c ∈ ops) →
      AppSynced appCodec (runOps appCodec accountsCodec writeFile ops s)) ∧
    (RoundTrips accountsCodec → (AccountsSynced accountsCodec s ∨ ∃ a, .setAccountsConfig a ∈ ops) →
      AccountsSynced accountsCodec (runOps appCodec accountsCodec writeFile ops s)) := by
  induction ops generalizing s with
  | nil =>
    refine ⟨fun _ h => h.resolve_right ?_, fun _ h => h.resolve_right ?_⟩ <;> simp
  | cons op ops ih =>
    have hop := Op.run_synced appCodec accountsCodec writeFile hne
      (hsaves op (List.mem_cons_self _ _))
    have hfst := Op.run_fst appCodec accountsCodec writeFile op s
    obtain ⟨happ, hacc⟩ := ih (op.run appCodec accountsCodec writeFile s) (by simpa [hfst] using hne)
      fun op' hop' => by rw [hfst, Op.saves_apply]; exact hsaves op' (List.mem_cons_of_mem _ hop')
    rw [runOps_cons]
    refine ⟨fun hrt h => ?_, fun hrt h => ?_⟩
    · rcases h with h | ⟨c, hc⟩
      · exact happ hrt (.inl (hop.1 hrt (.inl h)))
      · rcases List.mem_cons.1 hc with rfl | hc
        · exact happ hrt (.inl (hop.1 hrt (.inr ⟨c, rfl⟩)))
        · exact happ hrt (.inr ⟨c, hc⟩)
    · rcases h with h | ⟨a, ha⟩
      · exact hacc hrt (.inl (hop.2 hrt (.inl h)))
      · rcases List.mem_cons.1 ha with rfl | ha
        · exact hacc hrt (.inl (hop.2 hrt (.inr ⟨a, rfl⟩)))
        · exact hacc hrt (.inr ⟨a, ha⟩)

theorem runOps_app_file (ops : List (Op Acc)) (s : Config Acc × Files)
    (hne : s.1.appConfigFilename ≠ s.1.accountsConfigFilename)
    (hops : ∀ op ∈ ops, ∃ a, op = .setAccountsConfig a) :
    (runOps appCodec accountsCodec writeFile ops s).2 s.1.appConfigFilename =
      s.2 s.1.appConfigFilename := by
  induction ops generalizing s with
  | nil => rfl
  | cons op ops ih =>
    obtain ⟨a, rfl⟩ := hops op (List.mem_cons_self _ _)
    have hfst := Op.run_fst appCodec accountsCodec writeFile (.setAccountsConfig a) s
    rw [runOps_cons, ← show (Op.apply (.setAccountsConfig a) s.1).appConfigFilename =
        s.1.appConfigFilename from rfl, ← hfst,
      ih _ (by simpa [hfst] using hne) fun op h => hops op (List.mem_cons_of_mem _ h), hfst,
      Op.run_eq]
    exact set_snd_of_ne writeFile _ _ _ hne

end Files

/-! ## Two runs -/

def flagCodec : Codec Bool where
  unmarshal bytes _ := (bytes == [1], none)
  marshal flag := .ok [if flag then 1 else 0]

theorem roundTrips_flagCodec : RoundTrips flagCodec := by
  intro x bytes h y
  cases x <;> cases h <;> rfl

def defaultCodec : Codec AppConfig where
  unmarshal _ _ := (newDefaultAppConfig, none)
  marshal _ := .error "json: unsupported value"

def started (files : Files) : Config Bool × Files :=
  ({ appConfigFilename := "config.json", appConfig := newDefaultAppConfig,
     accountsConfigFilename := "accounts.json", accountsConfig := false }, files)

/-- Saving never fails. -/
def writeOk (_ : String) (_ : List UInt8) : Option String := none

def backendBytes (b : Backend) : List UInt8 :=
  [b.bitcoinP2PKHActive, b.bitcoinP2WPKHP2SHActive, b.bitcoinP2WPKHActive,
    b.litecoinP2WPKHP2SHActive, b.litecoinP2WPKHActive, b.bitcoreP2PKHActive,
    b.bitcoreP2WPKHP2SHActive, b.bitcoreP2WPKHActive, b.ethereumActive].map
    fun active => if active then 1 else 0

def backendOfBytes (bytes : List UInt8) : Backend where
  bitcoinP2PKHActive := bytes.getD 0 0 = 1
  bitcoinP2WPKHP2SHActive := bytes.getD 1 0 = 1
  bitcoinP2WPKHActive := bytes.getD 2 0 = 1
  litecoinP2WPKHP2SHActive := bytes.getD 3 0 = 1
  litecoinP2WPKHActive := bytes.getD 4 0 = 1
  bitcoreP2PKHActive := bytes.getD 5 0 = 1
  bitcoreP2WPKHP2SHActive := bytes.getD 6 0 = 1
  bitcoreP2WPKHActive := bytes.getD 7 0 = 1
  ethereumActive := bytes.getD 8 0 = 1

theorem decide_byte_eq_one (active : Bool) : decide ((if active then 1 else 0 : UInt8) = 1) = active := by
  cases active <;> rfl

theorem backendOfBytes_backendBytes (b : Backend) : backendOfBytes (backendBytes b) = b := by
  simp only [backendOfBytes, backendBytes, List.map_cons, List.map_nil, List.getD_cons_zero,
    List.getD_cons_succ, decide_byte_eq_one]

def backendCodec : Codec AppConfig where
  unmarshal bytes _ := (⟨backendOfBytes bytes, .null⟩, none)
  marshal appConfig :=
    match appConfig.frontend with
    | .null => .ok (backendBytes appConfig.backend)
    | _ => .error "json: unsupported value"

theorem roundTrips_backendCodec : RoundTrips backendCodec := by
  rintro ⟨backend, frontend⟩ bytes h y
  cases frontend <;> cases h
  simp only [backendCodec, backendOfBytes_backendBytes]

def ethereumOff : AppConfig :=
  { newDefaultAppConfig with backend := { newDefaultAppConfig.backend with ethereumActive := false } }

def appFileOnly : Files := fun filename => if filename = "config.json" then some [] else none

section Restart

variable {Acc : Type} (appCodec : Codec AppConfig) (accountsCodec : Codec Acc)
  (writeFile : String → List UInt8 → Option String)

/-- Persistence. Take a run of `SetAppConfig` and `SetAccountsConfig` calls whose saves all
succeed, on two distinct files, with codecs that read back what they write. Once each
configuration has been set, or its file already held it, `NewConfig` on the files gives back the
memory: the last value set of each. -/
theorem newConfig_after_run (hrtApp : RoundTrips appCodec)
    (hrtAccounts : RoundTrips accountsCodec) (defaultAccounts : Acc) (ops : List (Op Acc))
    (s : Config Acc × Files) (hne : s.1.appConfigFilename ≠ s.1.accountsConfigFilename)
    (hsaves : ∀ op ∈ ops, op.Saves appCodec accountsCodec writeFile s.1)
    (happ : AppSynced appCodec s ∨ ∃ c, .setAppConfig c ∈ ops)
    (hacc : AccountsSynced accountsCodec s ∨ ∃ a, .setAccountsConfig a ∈ ops) :
    newConfig appCodec accountsCodec defaultAccounts s.1.appConfigFilename
        s.1.accountsConfigFilename (runOps appCodec accountsCodec writeFile ops s).2 =
      ops.foldl (fun config op => op.apply config) s.1 := by
  obtain ⟨hA, hB⟩ := runOps_synced appCodec accountsCodec writeFile ops s hne hsaves
  obtain ⟨h1, h2⟩ := runOps_filenames appCodec accountsCodec writeFile ops s
  rw [← runOps_fst, ← h1, ← h2]
  exact newConfig_of_synced appCodec accountsCodec defaultAccounts (hA hrtApp happ)
    (hB hrtAccounts hacc)

theorem newConfig_after_run_both :
    RoundTrips backendCodec ∧ RoundTrips flagCodec ∧
    (started appFileOnly).1.appConfigFilename ≠ (started appFileOnly).1.accountsConfigFilename ∧
    (∀ op ∈ [Op.setAppConfig ethereumOff, Op.setAccountsConfig true],
      op.Saves backendCodec flagCodec writeOk (started appFileOnly).1) ∧
    (AppSynced backendCodec (started appFileOnly) ∨
      ∃ c, .setAppConfig c ∈ [Op.setAppConfig ethereumOff, Op.setAccountsConfig true]) ∧
    (AccountsSynced flagCodec (started appFileOnly) ∨
      ∃ a, .setAccountsConfig a ∈ [Op.setAppConfig ethereumOff, Op.setAccountsConfig true]) ∧
    newConfig backendCodec flagCodec false (started appFileOnly).1.appConfigFilename
        (started appFileOnly).1.accountsConfigFilename
        (runOps backendCodec flagCodec writeOk [.setAppConfig ethereumOff, .setAccountsConfig true]
          (started appFileOnly)).2 =
      [Op.setAppConfig ethereumOff, Op.setAccountsConfig true].foldl
        (fun config op => op.apply config) (started appFileOnly).1 :=
  have hsaves : ∀ op ∈ [Op.setAppConfig ethereumOff, Op.setAccountsConfig true],
      op.Saves backendCodec flagCodec writeOk (started appFileOnly).1 := by
    simp only [List.mem_cons, List.mem_singleton, List.not_mem_nil, or_false, forall_eq_or_imp,
      forall_eq]
    exact ⟨⟨_, rfl, rfl⟩, ⟨_, rfl, rfl⟩⟩
  have happ : AppSynced backendCodec (started appFileOnly) ∨
      ∃ c, .setAppConfig c ∈ [Op.setAppConfig ethereumOff, Op.setAccountsConfig true] :=
    .inr ⟨ethereumOff, by simp⟩
  have hacc : AccountsSynced flagCodec (started appFileOnly) ∨
      ∃ a, .setAccountsConfig a ∈ [Op.setAppConfig ethereumOff, Op.setAccountsConfig true] :=
    .inr ⟨true, by simp⟩
  ⟨roundTrips_backendCodec, roundTrips_flagCodec, by decide, hsaves, happ, hacc,
    newConfig_after_run backendCodec flagCodec writeOk roundTrips_backendCodec roundTrips_flagCodec
      false _ _ (by decide) hsaves happ hacc⟩

/-- Without an app configuration file, a run of `SetAccountsConfig` calls whose saves succeed
leaves the accounts file holding the accounts configuration in memory, yet `NewConfig` on the
files starts from the default accounts configuration: it reads the accounts file only after a
readable app file. -/
theorem newConfig_forgets_accounts (hrtAccounts : RoundTrips accountsCodec)
    (defaultAccounts : Acc) (ops : List (Op Acc)) (s : Config Acc × Files)
    (hne : s.1.appConfigFilename ≠ s.1.accountsConfigFilename)
    (hnone : s.2 s.1.appConfigFilename = none) (hops : ∀ op ∈ ops, ∃ a, op = .setAccountsConfig a)
    (hsaves : ∀ op ∈ ops, op.Saves appCodec accountsCodec writeFile s.1) (hnil : ops ≠ []) :
    AccountsSynced accountsCodec (runOps appCodec accountsCodec writeFile ops s) ∧
    (newConfig appCodec accountsCodec defaultAccounts s.1.appConfigFilename
      s.1.accountsConfigFilename (runOps appCodec accountsCodec writeFile ops s).2).accountsConfig =
      defaultAccounts := by
  refine ⟨(runOps_synced appCodec accountsCodec writeFile ops s hne hsaves).2 hrtAccounts
    (.inr ?_), ?_⟩
  · obtain ⟨op, hop⟩ := List.exists_mem_of_ne_nil ops hnil
    obtain ⟨a, rfl⟩ := hops op hop
    exact ⟨a, hop⟩
  · simp [newConfig, Config.load, runOps_app_file appCodec accountsCodec writeFile ops s hne hops,
      hnone]

theorem newConfig_forgets_accounts_flag :
    RoundTrips flagCodec ∧
    (started fun _ => none).1.appConfigFilename ≠ (started fun _ => none).1.accountsConfigFilename ∧
    (started fun _ => none).2 (started fun _ => none).1.appConfigFilename = none ∧
    (∀ op ∈ [Op.setAccountsConfig true], ∃ a, op = .setAccountsConfig a) ∧
    (∀ op ∈ [Op.setAccountsConfig true],
      op.Saves defaultCodec flagCodec writeOk (started fun _ => none).1) ∧
    [Op.setAccountsConfig true] ≠ [] ∧
    AccountsSynced flagCodec
      (runOps defaultCodec flagCodec writeOk [.setAccountsConfig true] (started fun _ => none)) ∧
    (newConfig defaultCodec flagCodec false (started fun _ => none).1.appConfigFilename
      (started fun _ => none).1.accountsConfigFilename
      (runOps defaultCodec flagCodec writeOk [.setAccountsConfig true]
        (started fun _ => none)).2).accountsConfig = false :=
  have hsaves : ∀ op ∈ [Op.setAccountsConfig true],
      op.Saves defaultCodec flagCodec writeOk (started fun _ => none).1 := by
    simp [Op.Saves, Op.jsonBytes, flagCodec, writeOk]
  ⟨roundTrips_flagCodec, by decide, rfl, by simp, hsaves, by simp,
    newConfig_forgets_accounts defaultCodec flagCodec writeOk roundTrips_flagCodec false _ _
      (by decide) rfl (by simp) hsaves (by simp)⟩

end Restart

end BitboxWallet.Settings
