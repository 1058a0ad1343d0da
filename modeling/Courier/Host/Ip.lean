import Courier.Text.CodePoint

/-!
IP addresses.

Both kinds of addresses are only recognised; what numbers they stand for is not needed.
-/

namespace Courier

namespace Ip

/-- One of the four numbers of an IPv4 address: at most 255, without leading zeros. -/
def isOctet (t : Text) : Bool :=
  !t.isEmpty && t.length ≤ 3 && t.all CodePoint.isDigit &&
    (t.head? != some (CodePoint.ofChar '0') || t.length = 1) && Text.digitsValue t ≤ 255

/-- Four octets with points between them. -/
def isIpv4 (t : Text) : Bool :=
  let parts := Text.splitOn '.' t
  parts.length = 4 && parts.all isOctet

/-- Whether a text looks like an IPv4 address: four runs of digits with points between them. -/
def looksLikeIpv4 (t : Text) : Bool :=
  let parts := Text.splitOn '.' t
  parts.length = 4 && parts.all fun part => !part.isEmpty && part.all CodePoint.isDigit

/-- One of the eight groups of an IPv6 address: one to four hexadecimal digits. -/
def isGroup (t : Text) : Bool :=
  !t.isEmpty && t.length ≤ 4 && t.all fun c => c.hexValue?.isSome

/-- The groups of an IPv6 address; an IPv4 address in the last place stands for two. -/
def groups? (t : Text) : Option (List Text) :=
  let parts := Text.splitOn ':' t
  match parts.getLast? with
  | some last =>
    if last.contains (CodePoint.ofChar '.') then
      if isIpv4 last then some (parts.dropLast ++ [Text.ofString "0", Text.ofString "0"]) else none
    else some parts
  | none => none

/-- Whether groups are those of an address: eight of them, or fewer with one gap between two of
them. Two colons at an end are a gap there; an empty group anywhere else is an error. -/
def areGroups (parts : List Text) : Bool :=
  let inner := parts.tail.dropLast
  match inner.findIdx? List.isEmpty with
  | none => parts.length = 8 && parts.all isGroup
  | some i =>
    let high := parts.take (i + 1)
    let low := parts.drop (i + 2)
    let highOk := high = [[]] || high.all isGroup
    let lowOk := low = [[]] || low.all isGroup
    let count := (high.filter (!·.isEmpty)).length + (low.filter (!·.isEmpty)).length
    highOk && lowOk && count ≤ 7

/-- An IPv6 address, with or without the name of a zone after a percent sign. -/
def isIpv6 (t : Text) : Bool :=
  let (address, zoneOk) := match Text.cut? '%' t with
    | none => (t, true)
    | some (address, zone) => (address, !zone.isEmpty && !zone.contains (CodePoint.ofChar '%'))
  zoneOk && match groups? address with
    | some parts => 3 ≤ parts.length && areGroups parts
    | none => false

/-- An address that looks like an IPv4 address need not be one, but every one looks like one. -/
theorem looksLikeIpv4_of_isIpv4 {t : Text} (h : isIpv4 t = true) : looksLikeIpv4 t = true := by
  rw [isIpv4, Bool.and_eq_true, List.all_eq_true] at h
  rw [looksLikeIpv4, Bool.and_eq_true, List.all_eq_true]
  refine ⟨h.1, fun part hp => ?_⟩
  have hpart := h.2 part hp
  simp only [isOctet, Bool.and_eq_true] at hpart
  rw [Bool.and_eq_true]
  exact ⟨hpart.1.1.1.1, hpart.1.1.2⟩

end Ip

end Courier
