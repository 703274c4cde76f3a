import SignalRelay.Net.Ipv4
import SignalRelay.Proofs.Text.Digits

/-!
# IPv4 addresses are read as they are written

An octet is read up to the first character that is no digit, so an address is read off the head of
every text in which no digit follows it (`Ipv4.read_append`). Since an octet has no zeros in front,
an address is read off no other text (`Ipv4.of_read`). What starts with hexadecimal digits and no
dot behind them is no IPv4 address (`Ipv4.read_eq_none`).
-/

namespace SignalRelay.Ipv4

open Text (EndsDigits)

/-! ### Octets -/

theorem length_octetText_le (octet : UInt8) : (octetText octet).length ≤ 3 := by
  have hlt : octet.toNat < 256 := octet.toNat_lt
  apply (Nat.length_toDigits_le_iff (by omega) (by omega)).2
  omega

theorem octet?_of_digits {ds : List Nat} (length_pos : 1 ≤ ds.length) (length_le : ds.length ≤ 3)
    (lead : ds.head? = some 0 → ds.length = 1) (le : Text.ofDigits 10 ds ≤ 255) :
    octet? ds = some (UInt8.ofNat (Text.ofDigits 10 ds)) := by
  unfold octet?
  split
  · simp at length_pos
  · simp [Text.ofDigits]
  · next ds hone =>
    have hnil : ds = [] := by simpa using lead rfl
    exact absurd hnil hone
  · rw [if_pos ⟨length_le, le⟩]

theorem readOctet_append (octet : UInt8) {rest : List Char} (ends : EndsDigits 10 rest) :
    readOctet (octetText octet ++ rest) = some (octet, rest) := by
  obtain ⟨ds, hds, hdigits, hval, hlead⟩ := Text.exists_digits_decimal octet.toNat
  have htake := Text.takeDigits_append hdigits ends
  have hlength : ds.length = (octetText octet).length := hdigits.length_eq
  have hoctet := octet?_of_digits
    (List.length_pos_iff.2 hds) (hlength ▸ length_octetText_le octet)
    (fun hzero => by rw [hlength, octetText, Text.decimal, hlead hzero]; rfl)
    (hval.symm ▸ Nat.le_of_lt_succ octet.toNat_lt)
  rw [readOctet, octetText, htake, hoctet, hval, UInt8.ofNat_toNat]
  rfl

theorem spec_of_octet? {ds : List Nat} {octet : UInt8} (digits : ∀ d ∈ ds, d < 10)
    (h : octet? ds = some octet) :
    ds ≠ [] ∧ (ds.head? = some 0 → ds.length = 1) ∧ octet.toNat = Text.ofDigits 10 ds := by
  have toNat_ofNat {n : Nat} (hn : n ≤ 255) : (UInt8.ofNat n).toNat = n :=
    UInt8.toNat_ofNat_of_lt' (Nat.lt_succ_of_le hn)
  unfold octet? at h
  split at h
  · cases h
  · next d =>
    cases h
    have hd : d < 10 := digits d List.mem_cons_self
    refine ⟨List.cons_ne_nil _ _, fun _ => rfl, ?_⟩
    rw [toNat_ofNat (by omega)]
    simp [Text.ofDigits]
  · cases h
  · next hnil _ hlead =>
    obtain ⟨⟨-, hle⟩, heq⟩ := Option.ite_none_right_eq_some.1 h
    cases heq
    refine ⟨hnil, fun hzero => ?_, toNat_ofNat hle⟩
    obtain ⟨rest, rfl⟩ := List.head?_eq_some_iff.1 hzero
    exact absurd rfl (hlead rest)

/-- **An octet is read only as it is written.** -/
theorem of_readOctet {s rest : List Char} {octet : UInt8}
    (h : readOctet s = some (octet, rest)) : s = octetText octet ++ rest := by
  obtain ⟨octet, hoctet, heq⟩ := Option.map_eq_some_iff.1 h
  obtain ⟨rfl, rfl⟩ := Prod.mk.inj heq
  obtain ⟨written, hsplit, hdigits, -⟩ := Text.takeDigits_spec 10 s
  obtain ⟨nonempty, lead, hvalue⟩ := spec_of_octet? (fun _ => Text.lt_of_mem_digits hdigits) hoctet
  rw [octetText, hvalue, ← Text.eq_decimal_of_digits hdigits nonempty lead]
  exact hsplit

/-! ### Addresses -/

/-- **An address is read off the head of a text**, where no digit follows it. -/
theorem read_append (ip : Ipv4) {rest : List Char} (ends : EndsDigits 10 rest) :
    read (ip.chars ++ rest) = some (ip, rest) := by
  have hdot (s : List Char) : EndsDigits 10 ('.' :: s) := Text.endsDigits_cons rfl s
  simp only [chars, List.append_assoc, List.cons_append, read, readOctet_append _ (hdot _),
    readOctet_append _ ends, Text.after?_cons, Option.bind_eq_bind, Option.bind_some]

/-- **An address is read only as it is written.** -/
theorem of_read {s rest : List Char} {ip : Ipv4} (h : read s = some (ip, rest)) :
    s = ip.chars ++ rest := by
  obtain ⟨⟨first, s₁⟩, hfirst, h⟩ := Option.bind_eq_some_iff.1 h
  obtain ⟨t₁, hdot₁, h⟩ := Option.bind_eq_some_iff.1 h
  obtain ⟨⟨second, s₂⟩, hsecond, h⟩ := Option.bind_eq_some_iff.1 h
  obtain ⟨t₂, hdot₂, h⟩ := Option.bind_eq_some_iff.1 h
  obtain ⟨⟨third, s₃⟩, hthird, h⟩ := Option.bind_eq_some_iff.1 h
  obtain ⟨t₃, hdot₃, h⟩ := Option.bind_eq_some_iff.1 h
  obtain ⟨⟨fourth, s₄⟩, hfourth, h⟩ := Option.bind_eq_some_iff.1 h
  cases h
  rw [of_readOctet hfirst, Text.after?_eq_some_iff.1 hdot₁, of_readOctet hsecond,
    Text.after?_eq_some_iff.1 hdot₂, of_readOctet hthird, Text.after?_eq_some_iff.1 hdot₃,
    of_readOctet hfourth]
  simp only [chars, List.append_assoc, List.cons_append]

theorem head?_takeDigits_of_dot {s : List Char}
    (h : (Text.takeDigits 10 s).2.head? = some '.') :
    (Text.takeDigits 16 s).2.head? = some '.' := by
  induction s with
  | nil => cases h
  | cons c s ih =>
    rw [Text.takeDigits] at h ⊢
    cases hdigit : Text.digit? 10 c with
    | none =>
      rw [hdigit] at h
      obtain rfl : c = '.' := Option.some.inj h
      rfl
    | some d =>
      rw [hdigit] at h
      rw [Text.digit?_mono (by omega) hdigit]
      exact ih h

/-- What starts with digits and no dot behind them is no address. -/
theorem read_eq_none {s : List Char} (h : (Text.takeDigits 16 s).2.head? ≠ some '.') :
    read s = none := by
  rw [Option.eq_none_iff_forall_not_mem]
  intro result hresult
  obtain ⟨⟨first, s'⟩, hfirst, hresult⟩ := Option.bind_eq_some_iff.1 hresult
  obtain ⟨rest, hdot, -⟩ := Option.bind_eq_some_iff.1 hresult
  obtain ⟨octet, -, heq⟩ := Option.map_eq_some_iff.1 hfirst
  obtain ⟨-, rfl⟩ := Prod.mk.inj heq
  apply h
  apply head?_takeDigits_of_dot
  rw [Text.after?_eq_some_iff.1 hdot]
  rfl

end SignalRelay.Ipv4
