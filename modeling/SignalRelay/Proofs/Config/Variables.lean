import Mathlib.Logic.Function.Basic
import Mathlib.Tactic.MkIffOfInductiveProp
import SignalRelay.Proofs.Config.ListenAddress
import SignalRelay.Proofs.Text.Unsigned

/-!
# The variables act independently

Each of the four variables decides one field of the settings: it is set to what its text denotes
(`Config.Variable.Denotes`), and a value that has no such text counts as absent
(`Config.Variable.Sets`). Both follow from what a variable sets in an environment
(`Config.Variable.meaning`), of which the settings are made up (`Config.field_given`).

Main statement: `Config.variables_act_independently`.
-/

namespace SignalRelay

namespace Config

/-! ### What a variable can be set to -/

/-- The variables that the settings are taken from. -/
inductive Variable where
  | address
  | port
  | keepaliveSecs
  | maxClients

/-- What a variable is set to: an IP address or a number. -/
inductive Meaning where
  | address (ip : IpAddress)
  | number (n : Nat)
  deriving DecidableEq

namespace Variable

/-- The name of a variable in the environment. -/
def name : Variable → String
  | address => "SIGNALING_ADDR"
  | port => "SIGNALING_PORT"
  | keepaliveSecs => "SIGNALING_KEEPALIVE_SECS"
  | maxClients => "SIGNALING_MAX_CLIENTS"

theorem name_injective : Function.Injective name := by
  intro v w h
  cases v <;> cases w <;> simp [name] at h ⊢

/-- The greatest number that a variable can be set to, unless it is set to an address. -/
def greatest? : Variable → Option Nat
  | address => none
  | port => some (2 ^ 16 - 1)
  | keepaliveSecs => some (2 ^ 64 - 1)
  | maxClients => some (2 ^ 32 - 1)

theorem greatest?_eq_none_iff {v : Variable} : v.greatest? = none ↔ v = address := by
  cases v <;> simp [greatest?]

/-- **The texts that a variable can be set to**, and what they denote: an IP address, or a number
that is not too great. -/
inductive Denotes : Variable → Meaning → List Char → Prop
  | address {ip : IpAddress} {s : List Char} (written : ip.AddressText s) :
    Denotes address (.address ip) s
  | number {v : Variable} {max n : Nat} {s : List Char} (bound : v.greatest? = some max)
      (written : Text.UnsignedText n s) (le : n ≤ max) :
    Denotes v (.number n) s

/-- What a variable is set to by default. -/
def default : Variable → Meaning
  | address => .address (.v4 .unspecified)
  | port => .number defaultPort.toNat
  | keepaliveSecs => .number defaultKeepaliveSecs.toNat
  | maxClients => .number defaultMaxClients.toNat

/-- The field of the settings that a variable decides. -/
def field : Variable → Config → Meaning
  | address, config => .address config.listenAddress.ip
  | port, config => .number config.listenAddress.port.toNat
  | keepaliveSecs, config => .number config.keepaliveSecs.toNat
  | maxClients, config => .number config.maxClients.toNat

/-- Whether a variable is set to a text that it can be set to. -/
def Usable (v : Variable) (value : Option ByteArray) : Prop :=
  ∃ (text : String) (meaning : Meaning), value = some text.toUTF8 ∧ v.Denotes meaning text.toList

/-- **What the value of a variable sets it to**: what its text denotes, and otherwise the
default. -/
@[mk_iff]
inductive Sets (v : Variable) (value : Option ByteArray) : Meaning → Prop
  | usable {text : String} {meaning : Meaning} (isText : value = some text.toUTF8)
      (denotes : v.Denotes meaning text.toList) :
    Sets v value meaning
  | unusable (not_usable : ¬v.Usable value) : Sets v value v.default

/-! ### What a variable is set to -/

/-- What a text sets a variable to. -/
def read? (v : Variable) (text : String) : Option Meaning :=
  match v.greatest? with
  | none => (IpAddress.parse? text).map .address
  | some max => (Text.unsigned? max text.toList).map .number

/-- **A text sets a variable to what it denotes.** -/
theorem read?_eq_some_iff {v : Variable} {text : String} {meaning : Meaning} :
    v.read? text = some meaning ↔ v.Denotes meaning text.toList := by
  unfold read?
  cases hmax : v.greatest? with
  | none =>
    obtain rfl := greatest?_eq_none_iff.1 hmax
    dsimp only
    rw [Option.map_eq_some_iff]
    constructor
    · rintro ⟨ip, hip, rfl⟩
      exact .address (IpAddress.parse?_eq_some_iff.1 hip)
    · intro h
      cases h with
      | address written => exact ⟨_, IpAddress.parse?_eq_some_iff.2 written, rfl⟩
      | number bound => cases bound
  | some max =>
    dsimp only
    rw [Option.map_eq_some_iff]
    constructor
    · rintro ⟨n, hn, rfl⟩
      obtain ⟨written, le⟩ := Text.unsigned?_eq_some_iff.1 hn
      exact .number hmax written le
    · intro h
      cases h with
      | address => cases hmax
      | number bound written le =>
        rw [hmax] at bound
        cases bound
        exact ⟨_, Text.unsigned?_eq_some_iff.2 ⟨written, le⟩, rfl⟩

theorem usable_iff {v : Variable} {value : Option ByteArray} :
    v.Usable value ↔ ((value.bind String.fromUTF8?).bind v.read?).isSome = true := by
  rw [Option.isSome_iff_exists]
  constructor
  · rintro ⟨text, meaning, rfl, denotes⟩
    refine ⟨meaning, ?_⟩
    rw [Option.bind_some, fromUTF8?_eq_some_iff.2 rfl]
    exact read?_eq_some_iff.2 denotes
  · rintro ⟨meaning, h⟩
    obtain ⟨text, htext, hread⟩ := Option.bind_eq_some_iff.1 h
    obtain ⟨bytes, rfl, hbytes⟩ := Option.bind_eq_some_iff.1 htext
    exact ⟨text, meaning, congrArg some (fromUTF8?_eq_some_iff.1 hbytes), read?_eq_some_iff.1 hread⟩

/-- What a variable is set to in an environment. -/
def meaning (v : Variable) (env : Environment) : Meaning :=
  ((env.text? v.name).bind v.read?).getD v.default

theorem meaning_of_denotes {v : Variable} {env : Environment} {text : String} {m : Meaning}
    (isText : env v.name = some text.toUTF8) (denotes : v.Denotes m text.toList) :
    v.meaning env = m := by
  rw [meaning, Environment.text?_eq_some_iff.2 isText, Option.bind_some,
    read?_eq_some_iff.2 denotes, Option.getD_some]

theorem meaning_of_not_usable {v : Variable} {env : Environment} (h : ¬v.Usable (env v.name)) :
    v.meaning env = v.default := by
  have hnone : (env.text? v.name).bind v.read? = none := by
    rw [usable_iff, Bool.not_eq_true, Option.isSome_eq_false_iff, Option.isNone_iff_eq_none] at h
    exact h
  rw [meaning, hnone, Option.getD_none]

/-- **A variable is set to what its value sets it to.** -/
theorem meaning_eq_iff {v : Variable} {env : Environment} {m : Meaning} :
    v.meaning env = m ↔ v.Sets (env v.name) m := by
  constructor
  · rintro rfl
    by_cases husable : v.Usable (env v.name)
    · obtain ⟨text, m, isText, denotes⟩ := husable
      rw [meaning_of_denotes isText denotes]
      exact .usable isText denotes
    · rw [meaning_of_not_usable husable]
      exact .unusable husable
  · intro h
    cases h with
    | usable isText denotes => exact meaning_of_denotes isText denotes
    | unusable not_usable => exact meaning_of_not_usable not_usable

theorem meaning_congr {v : Variable} {env other : Environment} (h : env v.name = other v.name) :
    v.meaning env = v.meaning other := by
  rw [meaning, meaning, Environment.text?, Environment.text?, h]

theorem not_usable_none (v : Variable) : ¬v.Usable none := by
  rintro ⟨text, m, isText, -⟩
  cases isText

/-- **A value that is not usable counts as absent.** -/
theorem meaning_update_none {v : Variable} {env : Environment} (h : ¬v.Usable (env v.name))
    (w : Variable) : w.meaning (Function.update env v.name none) = w.meaning env := by
  by_cases hw : w = v
  · subst hw
    have habsent : ¬w.Usable (Function.update env w.name none w.name) := by
      rw [Function.update_self]
      exact not_usable_none w
    rw [meaning_of_not_usable h, meaning_of_not_usable habsent]
  · exact meaning_congr (Function.update_of_ne (name_injective.ne hw) none env)

end Variable

/-! ### The settings -/

/-- The settings that an environment gives, unless the keepalive time is zero. -/
def given (env : Environment) : Config where
  listenAddress := .ofIp (setting env "SIGNALING_ADDR" IpAddress.parse? (.v4 .unspecified))
    (setting env "SIGNALING_PORT" port? defaultPort)
  keepaliveSecs := setting env "SIGNALING_KEEPALIVE_SECS" keepaliveSecs? defaultKeepaliveSecs
  maxClients := setting env "SIGNALING_MAX_CLIENTS" ClientId.parse? defaultMaxClients

theorem ofEnvironment_eq (env : Environment) :
    ofEnvironment env =
      if (given env).keepaliveSecs = 0 then .error .zeroKeepalive else .ok (given env) :=
  rfl

theorem number_setting {α : Type} {max : Nat} {ofNat : Nat → α} {toNat : α → Nat}
    (fits : ∀ n ≤ max, toNat (ofNat n) = n) {default : α} (v : Variable)
    (bound : v.greatest? = some max) (hdefault : v.default = .number (toNat default))
    (env : Environment) :
    .number (toNat (setting env v.name (fun text => (Text.unsigned? max text.toList).map ofNat)
      default)) = v.meaning env := by
  rw [Variable.meaning, hdefault, setting]
  cases env.text? v.name with
  | none => rfl
  | some text =>
    rw [Option.bind_some, Option.bind_some, Variable.read?, bound]
    dsimp only
    cases hread : Text.unsigned? max text.toList with
    | none => rfl
    | some n => exact congrArg Meaning.number (fits n (Text.le_of_unsigned? hread))

/-- **Every field is what its variable is set to.** -/
theorem field_given (v : Variable) (env : Environment) : v.field (given env) = v.meaning env := by
  cases v with
  | address =>
    -- the address falls back as a whole, whether its text is missing or cannot be read
    rw [Variable.field, given, SocketAddress.ip_ofIp, Variable.meaning, setting]
    change _ = ((env.text? "SIGNALING_ADDR").bind _).getD _
    cases env.text? "SIGNALING_ADDR" with
    | none => rfl
    | some text =>
      rw [Option.bind_some, Option.bind_some, Variable.read?]
      cases IpAddress.parse? text <;> rfl
  | port =>
    rw [Variable.field, given, SocketAddress.port_ofIp]
    exact number_setting (fun n hn => UInt16.toNat_ofNat_of_lt' (Nat.lt_succ_of_le hn))
      .port rfl rfl env
  | keepaliveSecs =>
    exact number_setting (fun n hn => UInt64.toNat_ofNat_of_lt' (Nat.lt_succ_of_le hn))
      .keepaliveSecs rfl rfl env
  | maxClients =>
    exact number_setting (fun n hn => UInt32.toNat_ofNat_of_lt' (Nat.lt_succ_of_le hn))
      .maxClients rfl rfl env

theorem scope_given (env : Environment) : (given env).listenAddress.scope = 0 :=
  SocketAddress.scope_ofIp _ _

/-- Settings without a scope are made up of what the variables decide. -/
theorem eq_of_field {config other : Config} (hconfig : config.listenAddress.scope = 0)
    (hother : other.listenAddress.scope = 0) (h : ∀ v : Variable, v.field config = v.field other) :
    config = other := by
  have hip := Meaning.address.inj (h .address)
  have hport := UInt16.toNat_inj.1 (Meaning.number.inj (h .port))
  have hsecs := UInt64.toNat_inj.1 (Meaning.number.inj (h .keepaliveSecs))
  have hclients := UInt32.toNat_inj.1 (Meaning.number.inj (h .maxClients))
  have haddress : config.listenAddress = other.listenAddress := by
    rw [← SocketAddress.ofIp_ip_port hconfig, ← SocketAddress.ofIp_ip_port hother, hip, hport]
  cases config
  cases other
  cases haddress
  cases hsecs
  cases hclients
  rfl

theorem ofEnvironment_congr {env other : Environment}
    (h : ∀ v : Variable, v.meaning env = v.meaning other) :
    ofEnvironment env = ofEnvironment other := by
  have hgiven : given env = given other := by
    apply eq_of_field (scope_given env) (scope_given other)
    intro v
    rw [field_given, field_given, h v]
  rw [ofEnvironment_eq, ofEnvironment_eq, hgiven]

/-- Whether an environment sets the keepalive time to zero. -/
def ZeroKeepalive (env : Environment) : Prop :=
  ∃ text : String, env "SIGNALING_KEEPALIVE_SECS" = some text.toUTF8 ∧ Text.ZeroText text.toList

theorem zeroKeepalive_iff {env : Environment} :
    ZeroKeepalive env ↔ Variable.keepaliveSecs.meaning env = .number 0 := by
  rw [Variable.meaning_eq_iff, Variable.sets_iff]
  constructor
  · rintro ⟨text, isText, zero⟩
    exact .inl ⟨text, isText, .number rfl (Text.unsignedText_zero_iff.2 zero) (Nat.zero_le _)⟩
  · rintro (⟨text, isText, denotes⟩ | ⟨-, hdefault⟩)
    · cases denotes with
      | number _ written => exact ⟨text, isText, Text.unsignedText_zero_iff.1 written⟩
    · -- the default is not zero
      cases hdefault

theorem keepaliveSecs_given_eq_zero_iff {env : Environment} :
    (given env).keepaliveSecs = 0 ↔ ZeroKeepalive env := by
  rw [zeroKeepalive_iff, ← field_given, Variable.field, Meaning.number.injEq, ← UInt64.toNat_inj]
  rfl

/-- **Only a keepalive time of zero is an error.** -/
theorem ofEnvironment_eq_error_iff {env : Environment} {error : ConfigError} :
    ofEnvironment env = .error error ↔ ZeroKeepalive env := by
  rw [← keepaliveSecs_given_eq_zero_iff, ofEnvironment_eq]
  split
  · next hzero => exact ⟨fun _ => hzero, fun _ => rfl⟩
  · next hnonzero => exact ⟨fun h => (by cases h), fun hzero => absurd hzero hnonzero⟩

theorem ofEnvironment_eq_ok_iff {env : Environment} {config : Config} :
    ofEnvironment env = .ok config ↔ ¬ZeroKeepalive env ∧ given env = config := by
  rw [← keepaliveSecs_given_eq_zero_iff, ofEnvironment_eq]
  split
  · next hzero => exact ⟨fun h => (by cases h), fun h => absurd hzero h.1⟩
  · next hnonzero => exact ⟨fun h => ⟨hnonzero, Except.ok.inj h⟩, fun h => congrArg _ h.2⟩

/-- An address that cannot be used leaves the port as it is set. -/
theorem listenAddress_given {env : Environment} {text : String} {port : UInt16}
    (hunusable : ¬Variable.address.Usable (env "SIGNALING_ADDR"))
    (isText : env "SIGNALING_PORT" = some text.toUTF8)
    (written : Text.UnsignedText port.toNat text.toList) :
    (given env).listenAddress = .v4 .unspecified port := by
  have hip : Meaning.address (given env).listenAddress.ip = .address (.v4 .unspecified) :=
    (field_given .address env).trans (Variable.meaning_of_not_usable hunusable)
  have hport : Meaning.number (given env).listenAddress.port.toNat = .number port.toNat :=
    (field_given .port env).trans (Variable.meaning_of_denotes isText
      (.number rfl written (Nat.le_of_lt_succ port.toNat_lt)))
  rw [← SocketAddress.ofIp_ip_port (scope_given env), Meaning.address.inj hip,
    UInt16.toNat_inj.1 (Meaning.number.inj hport)]
  rfl

/-! ### Main statement -/

/-- **The variables act independently.** The settings are refused iff the keepalive time is set to
zero, whatever the other variables hold. Otherwise every field is what the value of its variable
sets it to. A value that is no text, or not one of those that its variable can be set to, can be
left out. A field depends on its own variable alone; so an address that cannot be used leaves the
port as it is set. -/
theorem variables_act_independently :
    (∀ env, (∃ error, ofEnvironment env = .error error) ↔ ZeroKeepalive env) ∧
    (∀ env, ¬ZeroKeepalive env → ∃ config, ofEnvironment env = .ok config ∧
      config.listenAddress.scope = 0 ∧
      ∀ (v : Variable) (meaning : Meaning),
        v.field config = meaning ↔ v.Sets (env v.name) meaning) ∧
    (∀ (env : Environment) (v : Variable), ¬v.Usable (env v.name) →
      ofEnvironment (Function.update env v.name none) = ofEnvironment env) ∧
    (∀ env other config otherConfig, ofEnvironment env = .ok config →
      ofEnvironment other = .ok otherConfig →
      ∀ v : Variable, env v.name = other v.name → v.field config = v.field otherConfig) ∧
    (∀ env config (text : String) (port : UInt16), ofEnvironment env = .ok config →
      ¬Variable.address.Usable (env "SIGNALING_ADDR") →
      env "SIGNALING_PORT" = some text.toUTF8 → Text.UnsignedText port.toNat text.toList →
      config.listenAddress = .v4 .unspecified port) := by
  refine ⟨?_, ?_, ?_, ?_, ?_⟩
  · intro env
    constructor
    · rintro ⟨error, herror⟩
      exact ofEnvironment_eq_error_iff.1 herror
    · exact fun hzero => ⟨.zeroKeepalive, ofEnvironment_eq_error_iff.2 hzero⟩
  · intro env hnonzero
    refine ⟨given env, ofEnvironment_eq_ok_iff.2 ⟨hnonzero, rfl⟩, scope_given env, ?_⟩
    intro v meaning
    rw [field_given, Variable.meaning_eq_iff]
  · intro env v hunusable
    exact ofEnvironment_congr (Variable.meaning_update_none hunusable)
  · intro env other config otherConfig henv hother v hvalue
    obtain ⟨-, rfl⟩ := ofEnvironment_eq_ok_iff.1 henv
    obtain ⟨-, rfl⟩ := ofEnvironment_eq_ok_iff.1 hother
    rw [field_given, field_given, Variable.meaning_congr hvalue]
  · intro env config text port henv hunusable isText written
    obtain ⟨-, rfl⟩ := ofEnvironment_eq_ok_iff.1 henv
    exact listenAddress_given hunusable isText written

/-- No address, a port with zeros in front, a keepalive time that is one too great, and bytes that
are no text. -/
theorem variables_act_independently_of_garbage :
    let env : Environment := fun name =>
      if name = "SIGNALING_ADDR" then some "localhost".toUTF8
      else if name = "SIGNALING_PORT" then some "+0009100".toUTF8
      else if name = "SIGNALING_KEEPALIVE_SECS" then some "18446744073709551616".toUTF8
      else if name = "SIGNALING_MAX_CLIENTS" then some ⟨#[0x31, 0xff]⟩
      else none
    let other := Function.update env "SIGNALING_ADDR" (some "::ffff:1.2.3.4".toUTF8)
    ¬ZeroKeepalive env ∧
    (∃ config, ofEnvironment env = .ok config ∧
      config.listenAddress = .v4 .unspecified 9100 ∧
      Variable.keepaliveSecs.field config = .number 30 ∧
      Variable.maxClients.field config = .number 1000) ∧
    (¬Variable.maxClients.Usable (env "SIGNALING_MAX_CLIENTS") ∧
      ofEnvironment (Function.update env "SIGNALING_MAX_CLIENTS" none) = ofEnvironment env) ∧
    ∃ config otherConfig, ofEnvironment env = .ok config ∧ ofEnvironment other = .ok otherConfig ∧
      config.listenAddress.ip ≠ otherConfig.listenAddress.ip ∧
      Variable.port.field config = Variable.port.field otherConfig := by
  intro env other
  obtain ⟨hfails, hfields, hremove, hfield, hport⟩ := variables_act_independently
  have henv : ofEnvironment env = .ok ⟨.v4 .unspecified 9100, 30, 1000⟩ := by
    decide +kernel
  have hother : ofEnvironment other = .ok ⟨.v6 ⟨[0, 0, 0, 0, 0, 0xffff, 0x102, 0x304], rfl⟩ 9100 0,
      30, 1000⟩ := by
    decide +kernel
  have hnonzero : ¬ZeroKeepalive env := by
    intro hzero
    obtain ⟨error, herror⟩ := (hfails env).2 hzero
    rw [henv] at herror
    cases herror
  have haddress : ¬Variable.address.Usable (env "SIGNALING_ADDR") := by
    rw [Variable.usable_iff]
    decide +kernel
  have hsecs : ¬Variable.keepaliveSecs.Usable (env "SIGNALING_KEEPALIVE_SECS") := by
    rw [Variable.usable_iff]
    decide +kernel
  have hclients : ¬Variable.maxClients.Usable (env "SIGNALING_MAX_CLIENTS") := by
    rw [Variable.usable_iff]
    decide +kernel
  have written : Text.UnsignedText (9100 : UInt16).toNat "+0009100".toList := by
    have hread : Text.unsigned? 65535 "+0009100".toList = some 9100 := by decide +kernel
    exact (Text.unsigned?_eq_some_iff.1 hread).1
  refine ⟨hnonzero, ?_, ⟨hclients, hremove env .maxClients hclients⟩, _, _, henv, hother, ?_,
    hfield env other _ _ henv hother .port rfl⟩
  · obtain ⟨config, hconfig, -, hsets⟩ := hfields env hnonzero
    exact ⟨config, hconfig, hport env config _ 9100 hconfig haddress rfl written,
      (hsets .keepaliveSecs _).2 (.unusable hsecs), (hsets .maxClients _).2 (.unusable hclients)⟩
  · decide +kernel

end Config

end SignalRelay
