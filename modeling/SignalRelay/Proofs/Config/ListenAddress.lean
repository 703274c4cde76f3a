import SignalRelay.Config
import SignalRelay.Proofs.Net.Address
import SignalRelay.Proofs.Text.Numeral
import SignalRelay.Proofs.Text.Utf8

/-!
# Addresses survive as texts

An address and a port that are put into the environment as texts are those that the relay listens
on, and the address that it says it listens on is read as that address. So different addresses have
different texts. These are the canonical ones.

Main statement: `Config.addresses_survive_as_texts`.
-/

namespace SignalRelay

theorem Environment.text?_eq_some_iff {env : Environment} {name text : String} :
    env.text? name = some text ↔ env name = some text.toUTF8 := by
  simp [Environment.text?, Option.bind_eq_some_iff, fromUTF8?_eq_some_iff]

namespace Config

theorem setting_of_text? {α : Type} {env : Environment} {name text : String}
    (h : env.text? name = some text) (read? : String → Option α) (default : α) :
    setting env name read? default = (read? text).getD default := by
  rw [setting, h, Option.bind_some]

def portText (port : UInt16) : String := String.ofList (Text.decimal port.toNat)

theorem port?_portText (port : UInt16) : port? (portText port) = some port := by
  have hle : port.toNat ≤ 65535 := Nat.le_of_lt_succ port.toNat_lt
  rw [port?, portText, String.toList_ofList, Text.unsigned?_decimal hle, Option.map_some,
    UInt16.ofNat_toNat]

variable {env : Environment} {ip : IpAddress} {port : UInt16}

/-- **The relay listens on the address and the port that are set**, unless the keepalive time is set
to zero. -/
theorem exists_ofEnvironment (haddress : env "SIGNALING_ADDR" = some ip.text.toUTF8)
    (hport : env "SIGNALING_PORT" = some (portText port).toUTF8)
    (hkeepalive : (env.text? "SIGNALING_KEEPALIVE_SECS").bind keepaliveSecs? ≠ some 0) :
    ∃ config, ofEnvironment env = .ok config ∧ config.listenAddress = .ofIp ip port := by
  have hip : setting env "SIGNALING_ADDR" IpAddress.parse? (.v4 .unspecified) = ip := by
    rw [setting_of_text? (Environment.text?_eq_some_iff.2 haddress), IpAddress.parse?_text,
      Option.getD_some]
  have hlisten : setting env "SIGNALING_PORT" port? defaultPort = port := by
    rw [setting_of_text? (Environment.text?_eq_some_iff.2 hport), port?_portText, Option.getD_some]
  have hsecs :
      setting env "SIGNALING_KEEPALIVE_SECS" keepaliveSecs? defaultKeepaliveSecs ≠ 0 := by
    unfold setting
    cases h : (env.text? "SIGNALING_KEEPALIVE_SECS").bind keepaliveSecs? with
    | none => decide
    | some secs =>
      rintro rfl
      exact hkeepalive h
  unfold ofEnvironment
  simp only [hip, hlisten, if_neg hsecs]
  exact ⟨_, rfl, rfl⟩

/-! ### Main statement -/

/-- **Addresses survive as texts.** An IP address and a port, put into the environment as texts, are
those that the relay listens on. A socket address that was read from a text is read again from the
text of the address to listen on. Different addresses have different texts, of which an IPv6 address
has the canonical one. -/
theorem addresses_survive_as_texts :
    (∀ (env : Environment) (ip : IpAddress) (port : UInt16),
      env "SIGNALING_ADDR" = some ip.text.toUTF8 →
      env "SIGNALING_PORT" = some (portText port).toUTF8 →
      (env.text? "SIGNALING_KEEPALIVE_SECS").bind keepaliveSecs? ≠ some 0 →
      ∃ config, ofEnvironment env = .ok config ∧ config.listenAddress = .ofIp ip port) ∧
    (∀ text address, SocketAddress.parse? text = some address →
      SocketAddress.parse? (withAddress address).listenAddress.text = some address) ∧
    Function.Injective IpAddress.text ∧
    Function.Injective SocketAddress.text ∧
    (∀ ip : Ipv6, Ipv6.CanonicalText ip.groups ip.chars) ∧
    ∀ group, Ipv6.CanonicalGroup group (Ipv6.groupText group) := by
  refine ⟨?_, ?_, IpAddress.text_injective, SocketAddress.text_injective,
    Ipv6.canonicalText_chars, Ipv6.canonicalGroup_groupText⟩
  · intro env ip port haddress hport hkeepalive
    exact exists_ofEnvironment haddress hport hkeepalive
  · intro text address _
    exact SocketAddress.parse?_text address

/-- An address with two runs of zeros, the first of which is left out, and a scope. -/
theorem addresses_survive_as_texts_of_two_runs :
    let ip : Ipv6 := ⟨[0x2001, 0xdb8, 0, 0, 1, 0, 0, 0xa], rfl⟩
    let address : SocketAddress := .v6 ip 443 7
    let env : Environment := fun name =>
      if name = "SIGNALING_ADDR" then some "2001:db8::1:0:0:a".toUTF8
      else if name = "SIGNALING_PORT" then some "443".toUTF8
      else none
    SocketAddress.parse? "[2001:0DB8:0:0:1::a%07]:0443" = some address ∧
    address.text = "[2001:db8::1:0:0:a%7]:443" ∧
    SocketAddress.parse? "[2001:db8::1:0:0:a%7]:443" = some address ∧
    ∃ config, ofEnvironment env = .ok config ∧ config.listenAddress = .v6 ip 443 0 := by
  intro ip address env
  obtain ⟨henv, hparse, -⟩ := addresses_survive_as_texts
  have hread : SocketAddress.parse? "[2001:0DB8:0:0:1::a%07]:0443" = some address := by
    decide +kernel
  have htext : address.text = "[2001:db8::1:0:0:a%7]:443" := by
    decide +kernel
  refine ⟨hread, htext, htext ▸ hparse _ _ hread, ?_⟩
  exact henv env (.v6 ip) 443 (by decide +kernel) (by decide +kernel) (by decide +kernel)

end Config

end SignalRelay
