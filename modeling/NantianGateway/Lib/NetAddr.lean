import NantianGateway.Lib.Text

/-!
# The text of network addresses

`Display` of `Ipv4Addr`, `Ipv6Addr` and `SocketAddr`, and the recursive-descent reader behind
`IpAddr::from_str`, which also reads address blocks.  A cut at the last colon removes exactly the
port; but **an IPv6 socket address is written in brackets**, and no address begins with one.
-/

namespace NantianGateway.NetAddr

open Text

/-! ## Addresses -/

structure Ipv4Addr where
  a : UInt8
  b : UInt8
  c : UInt8
  d : UInt8
  deriving DecidableEq

structure Ipv6Addr where
  segments : Vector UInt16 8
  deriving DecidableEq

inductive IpAddr where
  | v4 (ip : Ipv4Addr)
  | v6 (ip : Ipv6Addr)
  deriving DecidableEq

/-- A socket address; the flow information of the second family is not written. -/
inductive SocketAddr where
  | v4 (ip : Ipv4Addr) (port : UInt16)
  | v6 (ip : Ipv6Addr) (port : UInt16) (scopeId : UInt32)
  deriving DecidableEq

def SocketAddr.ip : SocketAddr → IpAddr
  | .v4 ip _ => .v4 ip
  | .v6 ip _ _ => .v6 ip

def SocketAddr.port : SocketAddr → UInt16
  | .v4 _ port => port
  | .v6 _ port _ => port

def SocketAddr.isIpv4 : SocketAddr → Bool
  | .v4 _ _ => true
  | .v6 _ _ _ => false

/-! ## Writing -/

def decimal (n : ℕ) : List Char := Nat.toDigits 10 n

def hexadecimal (n : ℕ) : List Char := Nat.toDigits 16 n

def Ipv4Addr.text (ip : Ipv4Addr) : List Char :=
  decimal ip.a.toNat ++ '.' :: (decimal ip.b.toNat ++ '.' :: (decimal ip.c.toNat ++ '.' ::
    decimal ip.d.toNat))

/-- `to_ipv4_mapped`. -/
def Ipv6Addr.mapped (ip : Ipv6Addr) : Option Ipv4Addr :=
  match ip.segments.toList with
  | [0, 0, 0, 0, 0, 0xffff, ab, cd] =>
    some ⟨(ab / 256).toUInt8, ab.toUInt8, (cd / 256).toUInt8, cd.toUInt8⟩
  | _ => none

/-- The start and length of the first longest run of zero segments; the second pair is the
run the scan is in. -/
def zeroRun : List UInt16 → ℕ → ℕ × ℕ → ℕ × ℕ → ℕ × ℕ
  | [], _, longest, _ => longest
  | segment :: rest, i, longest, current =>
    if segment = 0 then
      let current := (if current.2 = 0 then i else current.1, current.2 + 1)
      zeroRun rest (i + 1) (if longest.2 < current.2 then current else longest) current
    else zeroRun rest (i + 1) longest (0, 0)

def segmentsText (segments : List UInt16) : List Char :=
  [':'].intercalate (segments.map fun segment => hexadecimal segment.toNat)

def Ipv6Addr.text (ip : Ipv6Addr) : List Char :=
  match ip.mapped with
  | some ipv4 => "::ffff:".toList ++ ipv4.text
  | none =>
    let segments := ip.segments.toList
    let longest := zeroRun segments 0 (0, 0) (0, 0)
    if 1 < longest.2 then
      segmentsText (segments.take longest.1) ++ "::".toList ++
        segmentsText (segments.drop (longest.1 + longest.2))
    else segmentsText segments

/-- The part of a socket address before the colon of the port. -/
def SocketAddr.hostText : SocketAddr → List Char
  | .v4 ip _ => ip.text
  | .v6 ip _ scopeId =>
    if scopeId = 0 then '[' :: (ip.text ++ [']'])
    else '[' :: (ip.text ++ '%' :: (decimal scopeId.toNat ++ [']']))

/-- `Display` of a socket address. -/
def SocketAddr.text (addr : SocketAddr) : String :=
  String.ofList (addr.hostText ++ ':' :: decimal addr.port.toNat)

/-! ## Reading -/

/-- `char::to_digit`, for radix 10 and 16. -/
def toDigit (radix : ℕ) (c : Char) : Option ℕ :=
  let digit :=
    if c.isDigit then some (c.toNat - 48)
    else if 'a' ≤ c ∧ c ≤ 'f' then some (c.toNat - 87)
    else if 'A' ≤ c ∧ c ≤ 'F' then some (c.toNat - 55)
    else none
  digit.filter (· < radix)

/-- `read_number`: at least one digit, no more than `maxDigits`, a value below `bound`. -/
def readNumber (radix maxDigits bound : ℕ) (allowZeroPrefix : Bool) (l : List Char) :
    Option (ℕ × List Char) :=
  let digits := l.takeWhile fun c => (toDigit radix c).isSome
  let value := (digits.filterMap (toDigit radix)).foldl (fun n digit => n * radix + digit) 0
  if digits = [] ∨ maxDigits < digits.length ∨ bound ≤ value ∨
      (allowZeroPrefix = false ∧ digits.head? = some '0' ∧ 1 < digits.length) then none
  else some (value, l.drop digits.length)

def readGivenChar (c : Char) : List Char → Option (List Char)
  | [] => none
  | d :: l => if d = c then some l else none

variable (l : List Char)

def readOctet : Option (UInt8 × List Char) :=
  (readNumber 10 3 256 false l).map fun p => (UInt8.ofNat p.1, p.2)

def readIpv4 : Option (Ipv4Addr × List Char) := do
  let (a, l) ← readOctet l
  let (b, l) ← readOctet (← readGivenChar '.' l)
  let (c, l) ← readOctet (← readGivenChar '.' l)
  let (d, l) ← readOctet (← readGivenChar '.' l)
  return (⟨a, b, c, d⟩, l)

/-- `read_separator`: every item but the first has a colon before it. -/
def readSeparator {α : Type} (i : ℕ) (inner : List Char → Option (α × List Char))
    (l : List Char) : Option (α × List Char) :=
  if 0 < i then (readGivenChar ':' l).bind inner else inner l

/-- `read_groups`: the groups read into `left` free slots, and whether an IPv4 address ended
them. -/
def readGroups : ℕ → ℕ → List Char → (List UInt16 × Bool) × List Char
  | _, 0, l => (([], false), l)
  | i, left + 1, l =>
    match if 0 < left then readSeparator i readIpv4 l else none with
    | some (ip, l) =>
      (([ip.a.toUInt16 * 256 + ip.b.toUInt16, ip.c.toUInt16 * 256 + ip.d.toUInt16], true), l)
    | none =>
      match readSeparator i (readNumber 16 4 65536 true) l with
      | some (group, l) =>
        let rest := readGroups (i + 1) left l
        ((UInt16.ofNat group :: rest.1.1, rest.1.2), rest.2)
      | none => (([], false), l)

def Ipv6Addr.ofGroups (groups : List UInt16) : Ipv6Addr :=
  ⟨.ofFn fun i => groups[i.val]?.getD 0⟩

def readIpv6 : Option (Ipv6Addr × List Char) :=
  let head := readGroups 0 8 l
  if head.1.1.length = 8 then some (.ofGroups head.1.1, head.2)
  else if head.1.2 then none
  else
    match head.2 with
    | ':' :: ':' :: l =>
      let tail := readGroups 0 (8 - (head.1.1.length + 1)) l
      some (.ofGroups (head.1.1 ++
        List.replicate (8 - head.1.1.length - tail.1.1.length) 0 ++ tail.1.1), tail.2)
    | _ => none

def readIpAddr : Option (IpAddr × List Char) :=
  match readIpv4 l with
  | some (ip, l) => some (.v4 ip, l)
  | none => (readIpv6 l).map fun p => (.v6 p.1, p.2)

/-- `IpAddr::from_str`: the whole text is one address. -/
def parseIpAddr (s : String) : Option IpAddr :=
  (readIpAddr s.toList).bind fun p => if p.2 = [] then some p.1 else none

/-! ## Reading what was written -/

theorem octet_digits : ∀ n : Fin 256,
    ((decimal n).all fun c => (toDigit 10 c).isSome) = true ∧ decimal n ≠ [] ∧
      (decimal n).length ≤ 3 ∧
      ((decimal n).filterMap (toDigit 10)).foldl (fun n digit => n * 10 + digit) 0 = n.val ∧
      ¬ ((decimal n).head? = some '0' ∧ 1 < (decimal n).length) := by
  decide +kernel

theorem readOctet_decimal (o : UInt8) {rest : List Char}
    (hrest : rest.takeWhile (fun c => (toDigit 10 c).isSome) = []) :
    readOctet (decimal o.toNat ++ rest) = some (o, rest) := by
  obtain ⟨hdigits, hne, hlen, hvalue, hzero⟩ := octet_digits ⟨o.toNat, o.toNat_lt⟩
  have htake : (decimal o.toNat ++ rest).takeWhile (fun c => (toDigit 10 c).isSome)
      = decimal o.toNat := by
    rw [List.takeWhile_append_of_pos (List.all_eq_true.mp hdigits), hrest, List.append_nil]
  have hread : readNumber 10 3 256 false (decimal o.toNat ++ rest) = some (o.toNat, rest) := by
    unfold readNumber
    simp only [htake]
    rw [hvalue, if_neg, List.drop_left]
    rintro (h | h | h | h)
    · exact hne h
    · exact absurd hlen (Nat.not_le.mpr h)
    · exact absurd o.toNat_lt (Nat.not_lt.mpr h)
    · exact hzero h.2
  rw [readOctet, hread, Option.map_some, UInt8.ofNat_toNat]

/-- **An IPv4 address is read back from its text**, whatever follows that is not a digit. -/
theorem readIpv4_text (ip : Ipv4Addr) {rest : List Char}
    (hrest : rest.takeWhile (fun c => (toDigit 10 c).isSome) = []) :
    readIpv4 (ip.text ++ rest) = some (ip, rest) := by
  have hdot : ∀ l : List Char, ('.' :: l).takeWhile (fun c => (toDigit 10 c).isSome) = [] :=
    fun l => List.takeWhile_cons_of_neg (by decide)
  have hgiven : ∀ l : List Char, readGivenChar '.' ('.' :: l) = some l := fun l => rfl
  simp only [readIpv4, Ipv4Addr.text, List.append_assoc, List.cons_append, Option.bind_eq_bind,
    readOctet_decimal _ (hdot _), readOctet_decimal _ hrest, Option.bind_some, hgiven,
    Option.pure_def]

theorem parseIpAddr_ipv4 (ip : Ipv4Addr) : parseIpAddr (String.ofList ip.text) = some (.v4 ip) := by
  have hread : readIpv4 (ip.text ++ []) = some (ip, []) := readIpv4_text ip rfl
  rw [List.append_nil] at hread
  rw [parseIpAddr, String.toList_ofList, readIpAddr, hread]
  rfl

theorem parseIpAddr_bracket : parseIpAddr (String.ofList ('[' :: l)) = none := by
  have hnumber : ∀ radix maxDigits bound zero, radix ≤ 16 →
      readNumber radix maxDigits bound zero ('[' :: l) = none := by
    intro radix maxDigits bound zero hradix
    rw [readNumber, if_pos (.inl (List.takeWhile_cons_of_neg (by simp [toDigit, Char.isDigit])))]
  have hipv4 : readIpv4 ('[' :: l) = none := by
    rw [readIpv4, readOctet, hnumber 10 3 256 false (by decide)]
    rfl
  have hgroups : readGroups 0 8 ('[' :: l) = (([], false), '[' :: l) := by
    rw [readGroups, readSeparator, readSeparator, if_neg (Nat.lt_irrefl 0),
      if_neg (Nat.lt_irrefl 0), hipv4, hnumber 16 4 65536 true le_rfl]
    rfl
  have hipv6 : readIpv6 ('[' :: l) = none := by
    unfold readIpv6
    rw [hgroups]
    rfl
  rw [parseIpAddr, String.toList_ofList, readIpAddr, hipv4, hipv6]
  rfl

theorem not_mem_decimal {c : Char} (hc : c.isDigit = false) (n : ℕ) : c ∉ decimal n := by
  intro hmem
  rw [Nat.isDigit_of_mem_toDigits (by decide) (by decide) hmem] at hc
  cases hc

theorem rsplitOnce_text (addr : SocketAddr) : rsplitOnce ':' addr.text
      = some (String.ofList addr.hostText, String.ofList (decimal addr.port.toNat)) := by
  rw [rsplitOnce_eq_some_iff, SocketAddr.text, String.toList_ofList, String.toList_ofList,
    String.toList_ofList]
  exact ⟨rfl, not_mem_decimal rfl _⟩

/-! ## Address blocks -/

/-- A block of the addresses that share `len` leading bits with an address. -/
structure IpNet where
  addr : IpAddr
  len : ℕ
  deriving DecidableEq

def IpAddr.width : IpAddr → ℕ
  | .v4 _ => 32
  | .v6 _ => 128

def IpAddr.bits : IpAddr → ℕ
  | .v4 ip => ((ip.a.toNat * 256 + ip.b.toNat) * 256 + ip.c.toNat) * 256 + ip.d.toNat
  | .v6 ip => ip.segments.toList.foldl (fun n segment => n * 65536 + segment.toNat) 0

/-- The notation `address/length`. -/
def parseIpNet (s : String) : Option IpNet := do
  let (addr, l) ← readIpAddr s.toList
  let (len, l) ← readNumber 10 3 (addr.width + 1) false (← readGivenChar '/' l)
  if l = [] then some ⟨addr, len⟩ else none

/-- An address is in a block of its own family with whose address it shares the leading
bits. -/
def IpNet.contains (net : IpNet) (ip : IpAddr) : Bool :=
  net.addr.width == ip.width &&
    net.addr.bits / 2 ^ (ip.width - net.len) == ip.bits / 2 ^ (ip.width - net.len)

end NantianGateway.NetAddr
