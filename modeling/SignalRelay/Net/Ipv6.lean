import SignalRelay.Net.Ipv4

/-!
# IPv6 addresses

Eight groups of 16 bits in hexadecimal, separated by colons. A double colon stands for zero groups,
and the last two groups may be written as an IPv4 address. Written out, the longest run of at least
two zero groups is left out, the first of several; an address that embeds an IPv4 address shows it.
-/

namespace SignalRelay

open Text (Reader)

structure Ipv6 where
  groups : List UInt16
  length_eq : groups.length = 8
  deriving DecidableEq, Repr

/-- The two groups that hold an IPv4 address. -/
def Ipv4.groups (ip : Ipv4) : List UInt16 :=
  [ip.first.toUInt16 * 256 + ip.second.toUInt16, ip.third.toUInt16 * 256 + ip.fourth.toUInt16]

theorem Ipv4.length_groups (ip : Ipv4) : ip.groups.length = 2 := rfl

/-- The IPv4 address held by two groups. -/
def Ipv4.ofGroups (high low : UInt16) : Ipv4 :=
  ⟨(high / 256).toUInt8, high.toUInt8, (low / 256).toUInt8, low.toUInt8⟩

namespace Ipv6

/-! ### Writing -/

/-- The hexadecimal text of a group. -/
def groupText (group : UInt16) : List Char := Text.hexadecimal group.toNat

/-- Groups with colons between them. -/
def joined : List UInt16 → List Char
  | [] => []
  | [group] => groupText group
  | group :: groups => groupText group ++ ':' :: joined groups

/-- How many zero groups stand at the head. -/
def zeros (groups : List UInt16) : Nat := (groups.takeWhile (· == 0)).length

/-- Start and length of the longest run of zero groups, the first of several. -/
def longestRun : List UInt16 → Nat × Nat
  | [] => (0, 0)
  | group :: groups =>
    let here := zeros (group :: groups)
    let (start, length) := longestRun groups
    if length ≤ here then (0, here) else (start + 1, length)

/-- Groups with the longest run of zeros left out. -/
def compressed (groups : List UInt16) : List Char :=
  let (start, length) := longestRun groups
  if 2 ≤ length then
    joined (groups.take start) ++ ':' :: ':' :: joined (groups.drop (start + length))
  else joined groups

def chars (ip : Ipv6) : List Char :=
  match ip.groups with
  | [0, 0, 0, 0, 0, 0xffff, high, low] => "::ffff:".toList ++ (Ipv4.ofGroups high low).chars
  | groups => compressed groups

/-! ### Reading -/

/-- The group that hexadecimal digits denote, of which there are one to four. -/
def group? (ds : List Nat) : Option UInt16 :=
  if 1 ≤ ds.length ∧ ds.length ≤ 4 then some (UInt16.ofNat (Text.ofDigits 16 ds)) else none

def readGroup : Reader UInt16 := fun s =>
  (group? (Text.takeDigits 16 s).1).map fun group => (group, (Text.takeDigits 16 s).2)

/-- What follows the colon in front of every group but the first. -/
def separator? (first : Bool) (s : List Char) : Option (List Char) :=
  if first then some s else Text.after? ':' s

/-- Groups taken off a text. -/
structure Run where
  groups : List UInt16
  /-- Whether the last two groups were written as an IPv4 address. -/
  endsInIpv4 : Bool
  rest : List Char

/-- Takes at most `limit` groups off a text. Where two more would fit, an IPv4 address may stand for
them, and nothing follows it. -/
def readGroups : (limit : Nat) → (first : Bool) → List Char → Run
  | 0, _, s => ⟨[], false, s⟩
  | limit + 1, first, s =>
    match if limit = 0 then none else (separator? first s).bind Ipv4.read with
    | some (ip, rest) => ⟨ip.groups, true, rest⟩
    | none =>
      match (separator? first s).bind readGroup with
      | none => ⟨[], false, s⟩
      | some (group, rest) =>
        let run := readGroups limit false rest
        ⟨group :: run.groups, run.endsInIpv4, run.rest⟩

theorem length_readGroups_le (limit : Nat) (first : Bool) (s : List Char) :
    (readGroups limit first s).groups.length ≤ limit := by
  induction limit generalizing first s with
  | zero => simp [readGroups]
  | succ limit ih =>
    rw [readGroups]
    split
    · next h =>
      have : limit ≠ 0 := by
        rintro rfl
        simp at h
      simp only [Ipv4.length_groups]
      omega
    · split
      · simp
      · simpa using ih false _

/-- The address with zero groups between head and tail. -/
def expand (head tail : List UInt16) (h : head.length + tail.length ≤ 8) : Ipv6 :=
  ⟨head ++ List.replicate (8 - head.length - tail.length) 0 ++ tail, by simp; omega⟩

def read : Reader Ipv6 := fun s =>
  let head := readGroups 8 true s
  if h : head.groups.length = 8 then some (⟨head.groups, h⟩, head.rest)
  else if head.endsInIpv4 then none
  else
    match head.rest with
    | ':' :: ':' :: s =>
      let tail := readGroups (7 - head.groups.length) true s
      have hhead : head.groups.length ≤ 8 := length_readGroups_le 8 true _
      have htail : tail.groups.length ≤ 7 - head.groups.length := length_readGroups_le _ true s
      some (expand head.groups tail.groups (by omega), tail.rest)
    | _ => none

end Ipv6

end SignalRelay
