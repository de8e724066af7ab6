import AlertService.Proofs.Startup.AddressText
import AlertService.Proofs.Startup.Number
import AlertService.Startup.Config

/-!
# What an environment says

Every setting is what the environment says it is, or the configuration is refused. No default takes
the place of something that was set and cannot be read.

* `Says`: the configuration that an environment says.
* `read_eq_ok`: it is what is read, and nothing is read if there is none.
* `readsExactly`: with what is reported otherwise, and with the address there and back.
-/

namespace AlertService.Config

/-! ## What is said -/

/-- A setting that is a number below a bound. -/
structure Numeric where
  key : String
  bound : Nat
  default : Nat

namespace Numeric

def port : Numeric := ⟨"ENS_PORT", UInt16.size, 8080⟩

def access : Numeric := ⟨"ENS_ACCESS_TOKEN_TTL_SECS", UInt64.size, 3600⟩

def refresh : Numeric := ⟨"ENS_REFRESH_TOKEN_TTL_SECS", UInt64.size, 30 * 24 * 3600⟩

/-- The number that the setting is set to, or the default if it is not set. -/
inductive Sets (x : Numeric) (env : Environment) : Nat → Prop
  | unset : env x.key = none → Sets x env x.default
  | denoted {s : String} {n : Nat} : env x.key = some s → Setting.Denotes s.toList n →
      n < x.bound → Sets x env n

end Numeric

/-- The secret is set to something of one's own. -/
structure IsSecret (env : Environment) (s : String) : Prop where
  set : env "ENS_JWT_SECRET" = some s
  ne_empty : s ≠ ""
  own : s ∉ placeholders

/-- Where to listen, as it is set and with the port. -/
def listenText (env : Environment) (port : Nat) : String :=
  (env "ENS_HOST").getD "0.0.0.0" ++ ":" ++ toString port

/-- The configuration is what the environment says. -/
structure Says (env : Environment) (c : Config) : Prop where
  secret : IsSecret env c.secret
  port : Numeric.port.Sets env c.address.port
  address : c.address.Spells (listenText env c.address.port).toList
  access : Numeric.access.Sets env c.accessLifetime
  refresh : Numeric.refresh.Sets env c.refreshLifetime
  database : c.database = (env "ENS_DB_PATH").getD "ens.db"
  botToken : ∀ t, c.botToken = some t ↔ env "ENS_TELEGRAM_BOT_TOKEN" = some t ∧ t ≠ ""
  botUrl : c.botUrl = (env "ENS_TELEGRAM_API_URL").getD "https://api.telegram.org"
  webhookSecret : ∀ t, c.webhookSecret = some t ↔
    env "ENS_TELEGRAM_WEBHOOK_SECRET" = some t ∧ t ≠ ""

/-- What can be wrong. -/
inductive Item where
  | secret
  | number (x : Numeric)
  | address

namespace Item

def all : List Item :=
  [.secret, .number .port, .address, .number .access, .number .refresh]

def IsRight (env : Environment) : Item → Prop
  | .secret => ∃ s, IsSecret env s
  | .number x => ∃ n, x.Sets env n
  | .address => ∀ port, Numeric.port.Sets env port →
      ∃ a : Address, a.Spells (listenText env port).toList

/-- What is reported of a setting that is wrong. -/
inductive Reports (env : Environment) : Item → ConfigError → Prop
  | secret : Reports env .secret .placeholderSecret
  | number {x : Numeric} {s : String} {cause : NumberError} : env x.key = some s →
      Setting.number x.bound s = .error cause → Reports env (.number x) (.number x.key s cause)
  | address {port : Nat} : Numeric.port.Sets env port →
      Reports env .address (.address (listenText env port))

end Item

/-- The first thing that is wrong is reported. -/
def Faults (env : Environment) (e : ConfigError) : Prop :=
  ∃ before x after, Item.all = before ++ x :: after ∧ (∀ y ∈ before, y.IsRight env) ∧
    ¬x.IsRight env ∧ x.Reports env e

variable {env : Environment} {c : Config} {x : Numeric} {n port : Nat} {s key : String}
  {e : ConfigError} {a : Address}

/-! ## Single settings -/

theorem secretOf_eq_ok : secretOf env = .ok s ↔ IsSecret env s := by
  unfold secretOf
  dsimp only
  rw [ite_error_eq_ok, not_or, List.contains_iff_mem, Except.ok.injEq]
  constructor
  · rintro ⟨⟨hempty, hown⟩, rfl⟩
    cases hset : env "ENS_JWT_SECRET" with
    | none =>
      rw [hset] at hempty
      exact absurd rfl hempty
    | some t =>
      rw [hset] at hempty hown
      exact ⟨hset, hempty, hown⟩
  · rintro ⟨hset, hempty, hown⟩
    rw [hset]
    exact ⟨⟨hempty, hown⟩, rfl⟩

theorem fault_of_secretOf (h : secretOf env = .error e) :
    ¬Item.secret.IsRight env ∧ Item.secret.Reports env e := by
  constructor
  · rintro ⟨s, hs⟩
    exact nomatch (secretOf_eq_ok.mpr hs).symm.trans h
  · unfold secretOf at h
    dsimp only at h
    split_ifs at h
    exact Except.error.inj h ▸ .secret

theorem numberOr_eq_ok (hbound : 0 < x.bound) :
    numberOr env x.key x.bound x.default = .ok n ↔ x.Sets env n := by
  unfold numberOr
  cases hset : env x.key with
  | none =>
    constructor
    · intro h
      exact Except.ok.inj h ▸ .unset hset
    · rintro (_ | ⟨hsome, -, -⟩)
      · rfl
      · exact nomatch hset.symm.trans hsome
  | some s =>
    simp only [mapError_eq_ok, Setting.number_eq_ok hbound]
    constructor
    · rintro ⟨hdenotes, hlt⟩
      exact .denoted hset hdenotes hlt
    · rintro (hnone | ⟨hsome, hdenotes, hlt⟩)
      · exact nomatch hset.symm.trans hnone
      · obtain rfl := Option.some.inj (hset.symm.trans hsome)
        exact ⟨hdenotes, hlt⟩

theorem fault_of_numberOr (hbound : 0 < x.bound)
    (h : numberOr env x.key x.bound x.default = .error e) :
    ¬(Item.number x).IsRight env ∧ (Item.number x).Reports env e := by
  constructor
  · rintro ⟨n, hn⟩
    exact nomatch ((numberOr_eq_ok hbound).mpr hn).symm.trans h
  · unfold numberOr at h
    cases hset : env x.key with
    | none =>
      rw [hset] at h
      exact nomatch h
    | some s =>
      simp only [hset] at h
      cases hnumber : Setting.number x.bound s with
      | ok n =>
        rw [hnumber] at h
        exact nomatch h
      | error cause =>
        rw [hnumber] at h
        exact Except.error.inj h ▸ .number hset hnumber

theorem addressOf_eq_ok : addressOf ((env "ENS_HOST").getD "0.0.0.0") port = .ok a ↔
    a.Spells (listenText env port).toList := by
  rw [← Address.parse?_eq_some, addressOf, ← listenText]
  cases Address.parse? (listenText env port) with
  | none => exact iff_of_false nofun nofun
  | some b => rw [Except.ok.injEq, Option.some.injEq]

theorem fault_of_addressOf (hport : Numeric.port.Sets env port)
    (h : addressOf ((env "ENS_HOST").getD "0.0.0.0") port = .error e) :
    ¬Item.address.IsRight env ∧ Item.address.Reports env e := by
  constructor
  · intro hright
    obtain ⟨a, ha⟩ := hright port hport
    exact nomatch (addressOf_eq_ok.mpr ha).symm.trans h
  · rw [addressOf, ← listenText] at h
    cases htext : Address.parse? (listenText env port) with
    | none =>
      rw [htext] at h
      exact Except.error.inj h ▸ .address hport
    | some b =>
      rw [htext] at h
      exact nomatch h

theorem nonEmpty_eq_some : nonEmpty env key = some s ↔ env key = some s ∧ s ≠ "" := by
  rw [nonEmpty, Option.filter_eq_some_iff, decide_eq_true_eq]

theorem Numeric.Sets.unique {m : Nat} (hbound : 0 < x.bound) (h : x.Sets env n)
    (h' : x.Sets env m) : n = m :=
  Except.ok.inj (((numberOr_eq_ok hbound).mpr h).symm.trans ((numberOr_eq_ok hbound).mpr h'))

theorem Item.Reports.unique {y : Item} {e' : ConfigError} (h : y.Reports env e)
    (h' : y.Reports env e') : e = e' := by
  cases h with
  | secret => cases h'; rfl
  | number hset hcause =>
    cases h' with
    | number hset' hcause' =>
      obtain rfl := Option.some.inj (hset.symm.trans hset')
      rw [Except.error.inj (hcause.symm.trans hcause')]
  | address hport =>
    cases h' with
    | address hport' => rw [hport.unique (by decide) hport']

/-! ## All settings -/

theorem toList_listenText (env : Environment) (port : Nat) : (listenText env port).toList =
    ((env "ENS_HOST").getD "0.0.0.0").toList ++ ':' :: Nat.toDigits 10 port := by
  rw [listenText, String.toList_append, String.toList_append, Address.toList_toString,
    List.append_assoc]
  rfl

theorem read_eq_ok : read env = .ok c ↔ Says env c := by
  have hport : ∀ n, numberOr env "ENS_PORT" UInt16.size 8080 = .ok n ↔ Numeric.port.Sets env n :=
    fun n => numberOr_eq_ok (x := .port) (by decide)
  have haccess : ∀ n, numberOr env "ENS_ACCESS_TOKEN_TTL_SECS" UInt64.size 3600 = .ok n ↔
      Numeric.access.Sets env n := fun n => numberOr_eq_ok (x := .access) (by decide)
  have hrefresh : ∀ n, numberOr env "ENS_REFRESH_TOKEN_TTL_SECS" UInt64.size (30 * 24 * 3600) =
      .ok n ↔ Numeric.refresh.Sets env n := fun n => numberOr_eq_ok (x := .refresh) (by decide)
  simp only [read, bind_eq_ok, pure_eq_ok, secretOf_eq_ok, hport, haccess, hrefresh,
    addressOf_eq_ok]
  constructor
  · rintro ⟨secret, hsecret, port, hset, address, hspells, access, hacc, refresh, href, rfl⟩
    have hsame : address.port = port := by
      rw [toList_listenText] at hspells
      exact Address.port_of_spells hspells
    subst hsame
    exact ⟨hsecret, hset, hspells, hacc, href, rfl, fun _ => nonEmpty_eq_some, rfl,
      fun _ => nonEmpty_eq_some⟩
  · intro h
    have hbot : nonEmpty env "ENS_TELEGRAM_BOT_TOKEN" = c.botToken :=
      Option.ext fun t => nonEmpty_eq_some.trans (h.botToken t).symm
    have hwebhook : nonEmpty env "ENS_TELEGRAM_WEBHOOK_SECRET" = c.webhookSecret :=
      Option.ext fun t => nonEmpty_eq_some.trans (h.webhookSecret t).symm
    refine ⟨c.secret, h.secret, c.address.port, h.port, c.address, h.address, c.accessLifetime,
      h.access, c.refreshLifetime, h.refresh, ?_⟩
    rw [hbot, hwebhook, ← h.database, ← h.botUrl]

theorem faults_of_read (h : read env = .error e) : Faults env e := by
  have hport : 0 < Numeric.port.bound := by decide
  have haccess : 0 < Numeric.access.bound := by decide
  have hrefresh : 0 < Numeric.refresh.bound := by decide
  simp only [read, bind_eq_error] at h
  -- each of the settings is wrong after those before it have been right
  rcases h with h | ⟨secret, hs, h⟩
  · exact ⟨[], .secret, _, rfl, nofun, fault_of_secretOf h⟩
  have hsecret : Item.secret.IsRight env := ⟨secret, secretOf_eq_ok.mp hs⟩
  rcases h with h | ⟨port, hp, h⟩
  · refine ⟨[.secret], .number .port, _, rfl, ?_, fault_of_numberOr hport h⟩
    exact List.forall_mem_singleton.mpr hsecret
  have hset : Numeric.port.Sets env port := (numberOr_eq_ok hport).mp hp
  have hnumber : (Item.number .port).IsRight env := ⟨port, hset⟩
  rcases h with h | ⟨address, ha, h⟩
  · refine ⟨[.secret, .number .port], .address, _, rfl, ?_, fault_of_addressOf hset h⟩
    simp only [List.forall_mem_cons]
    exact ⟨hsecret, hnumber, nofun⟩
  have haddress : Item.address.IsRight env := fun port' hport' =>
    ⟨address, hset.unique hport hport' ▸ addressOf_eq_ok.mp ha⟩
  rcases h with h | ⟨access, hacc, h⟩
  · refine ⟨[.secret, .number .port, .address], .number .access, _, rfl, ?_,
      fault_of_numberOr haccess h⟩
    simp only [List.forall_mem_cons]
    exact ⟨hsecret, hnumber, haddress, nofun⟩
  have hnumber' : (Item.number .access).IsRight env := ⟨access, (numberOr_eq_ok haccess).mp hacc⟩
  rcases h with h | ⟨refresh, -, h⟩
  · refine ⟨[.secret, .number .port, .address, .number .access], .number .refresh, _, rfl, ?_,
      fault_of_numberOr hrefresh h⟩
    simp only [List.forall_mem_cons]
    exact ⟨hsecret, hnumber, haddress, hnumber', nofun⟩
  · exact nomatch h

theorem isRight_of_says (h : Says env c) : ∀ x ∈ Item.all, x.IsRight env := by
  have haddress : Item.address.IsRight env := fun port hport =>
    ⟨c.address, h.port.unique (by decide) hport ▸ h.address⟩
  simp only [Item.all, List.forall_mem_cons]
  exact ⟨⟨_, h.secret⟩, ⟨_, h.port⟩, haddress, ⟨_, h.access⟩, ⟨_, h.refresh⟩, nofun⟩

theorem exists_read : (∃ c, read env = .ok c) ↔ ∀ x ∈ Item.all, x.IsRight env := by
  constructor
  · rintro ⟨c, hc⟩
    exact isRight_of_says (read_eq_ok.mp hc)
  · intro hright
    cases hread : read env with
    | ok c => exact ⟨c, rfl⟩
    | error e =>
      obtain ⟨before, x, after, hall, -, hwrong, -⟩ := faults_of_read hread
      exact absurd (hright x (hall ▸ List.mem_append_right _ List.mem_cons_self)) hwrong

theorem read_eq_error : read env = .error e ↔ Faults env e := by
  classical
  refine ⟨faults_of_read, fun ⟨before, x, after, hall, hbefore, hwrong, hreports⟩ => ?_⟩
  cases hread : read env with
  | ok c =>
    have hright := isRight_of_says (read_eq_ok.mp hread)
    exact absurd (hright x (hall ▸ List.mem_append_right _ List.mem_cons_self)) hwrong
  | error e' =>
    -- there is only one first thing that is wrong
    have hfirst : ∀ before x after, Item.all = before ++ x :: after →
        (∀ y ∈ before, y.IsRight env) → ¬x.IsRight env →
          Item.all.find? (fun y => ¬y.IsRight env) = some x :=
      fun before x after hall hbefore hwrong => List.find?_eq_some_iff_append.mpr
        ⟨decide_eq_true hwrong, before, after, hall, fun y hy => by simp [hbefore y hy]⟩
    obtain ⟨before', x', after', hall', hbefore', hwrong', hreports'⟩ := faults_of_read hread
    obtain rfl : x' = x := Option.some.inj ((hfirst _ _ _ hall' hbefore' hwrong').symm.trans
      (hfirst _ _ _ hall hbefore hwrong))
    rw [hreports'.unique hreports]

/-! ## There and back -/

/-- The environment with another host and another port. -/
def listening (env : Environment) (host port : String) : Environment := fun key =>
  if key = "ENS_HOST" then some host else if key = "ENS_PORT" then some port else env key

theorem listening_of_ne {host port : String} (hhost : key ≠ "ENS_HOST") (hport : key ≠ "ENS_PORT") :
    listening env host port key = env key := by
  rw [listening, if_neg hhost, if_neg hport]

theorem Numeric.Sets.listening {host port : String} (h : x.Sets env n) (hhost : x.key ≠ "ENS_HOST")
    (hport : x.key ≠ "ENS_PORT") : x.Sets (listening env host port) n := by
  have hkey : Config.listening env host port x.key = env x.key := listening_of_ne hhost hport
  cases h with
  | unset hset => exact .unset (hkey.trans hset)
  | denoted hset hdenotes hlt => exact .denoted (hkey.trans hset) hdenotes hlt

/-- To listen where the configuration says makes no difference to it. -/
theorem says_listening (h : Says env c) :
    Says (listening env c.address.hostText (toString c.address.port)) c := by
  have hvalid := Address.isValid_of_spells h.address
  have hkey : ∀ key, key ≠ "ENS_HOST" → key ≠ "ENS_PORT" →
      listening env c.address.hostText (toString c.address.port) key = env key :=
    fun key => listening_of_ne
  refine ⟨⟨?_, h.secret.ne_empty, h.secret.own⟩, .denoted rfl ?_ hvalid.port_lt, ?_,
    h.access.listening (by decide) (by decide), h.refresh.listening (by decide) (by decide),
    ?_, fun t => ?_, ?_, fun t => ?_⟩
  · rw [hkey _ (by decide) (by decide)]
    exact h.secret.set
  · rw [Address.toList_toString]
    exact Setting.denotes_toDigits _
  · have htext : listenText (listening env c.address.hostText (toString c.address.port))
        c.address.port = c.address.text := (Address.text_eq _).symm
    rw [htext]
    exact Address.spells_text hvalid
  · rw [hkey _ (by decide) (by decide)]
    exact h.database
  · rw [hkey _ (by decide) (by decide)]
    exact h.botToken t
  · rw [hkey _ (by decide) (by decide)]
    exact h.botUrl
  · rw [hkey _ (by decide) (by decide)]
    exact h.webhookSecret t

/-! ## Start-up -/

/-- The environment is read exactly. -/
structure ReadsExactly (env : Environment) : Prop where
  /-- Each setting is what the environment says, and a default stands only for what is not set. -/
  exact : ∀ c, read env = .ok c ↔ Says env c
  accepts : (∃ c, read env = .ok c) ↔ ∀ x ∈ Item.all, x.IsRight env
  refuses : ∀ e, read env = .error e ↔ Faults env e
  /-- The address is printed as a host, a colon and a port, with which it is read again. -/
  returns : ∀ c, read env = .ok c → ∃ host port, c.address.text = host ++ ":" ++ port ∧
    ':' ∉ port.toList ∧ read (listening env host port) = .ok c

theorem readsExactly (env : Environment) : ReadsExactly env where
  exact _ := read_eq_ok
  accepts := exists_read
  refuses _ := read_eq_error
  returns c hc := by
    refine ⟨c.address.hostText, toString c.address.port, Address.text_eq _, fun hcolon => ?_,
      read_eq_ok.mpr (says_listening (read_eq_ok.mp hc))⟩
    rw [Address.toList_toString] at hcolon
    exact absurd ((Text.toDigits_spec _).1 ':' hcolon) (by decide)

end AlertService.Config
