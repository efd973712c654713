import AnoPki.Foundation.Strings

/-! # IP addresses and prefixes

Go's `net/netip`: the texts `ParseAddr` and `ParsePrefix` accept, and which addresses a prefix
contains; the texts of addresses, and `SplitHostPort` of `net`. -/
namespace Foundation.Netip

/-- An address: its bits as a number, and the zone of an IPv6 address. -/
structure Addr where
  is6 : Bool
  value : Nat
  zone : Text
deriving DecidableEq, Repr

/-- A prefix: the leading bits of an address. -/
structure Prefix where
  addr : Addr
  bits : Nat
deriving DecidableEq, Repr

def Addr.bitLen (addr : Addr) : Nat := if addr.is6 then 128 else 32

/-- A decimal number without a leading zero. -/
def readDecimal (text : Text) : Option Nat :=
  if text = [] ∨ text.any (fun c => !c.isDigit) ∨ (text.head? = some '0' ∧ text ≠ ['0']) then none
  else some (Nat.ofDigitChars 10 text 0)

def readOctet (text : Text) : Option Nat := (readDecimal text).filter (· ≤ 255)

def parseIPv4 (text : Text) : Option Nat :=
  match (text.splitOn '.').mapM readOctet with
  | some [a, b, c, d] => some (((a * 256 + b) * 256 + c) * 256 + d)
  | _ => none

def hexDigit (c : Char) : Option Nat :=
  if c.isDigit then some (c.toNat - '0'.toNat)
  else if 'a' ≤ c ∧ c ≤ 'f' then some (c.toNat - 'a'.toNat + 10)
  else if 'A' ≤ c ∧ c ≤ 'F' then some (c.toNat - 'A'.toNat + 10)
  else none

def readHex (text : Text) : Nat :=
  text.foldl (fun acc c => acc * 16 + (hexDigit c).getD 0) 0

/-- The 16-bit groups of an IPv6 address and the position of its `::`. -/
def parseGroups : Nat → Text → List Nat → Option Nat → Option (List Nat × Option Nat)
  | 0, _, _, _ => none
  | fuel + 1, text, groups, ellipsis =>
    let digits := text.takeWhile fun c => (hexDigit c).isSome
    if digits = [] ∨ digits.length > 4 then none
    else
      match text.drop digits.length with
      | [] => some (groups ++ [readHex digits], ellipsis)
      | '.' :: _ =>
        if (ellipsis = none ∧ groups.length ≠ 6) ∨ groups.length > 6 then none
        else (parseIPv4 text).map fun v4 => (groups ++ [v4 / 65536, v4 % 65536], ellipsis)
      | [':'] => none
      | ':' :: ':' :: rest =>
        if ellipsis ≠ none then none
        else if rest = [] then some (groups ++ [readHex digits], some (groups.length + 1))
        else parseGroups fuel rest (groups ++ [readHex digits]) (some (groups.length + 1))
      | ':' :: rest => parseGroups fuel rest (groups ++ [readHex digits]) ellipsis
      | _ => none

/-- The zeros of the ellipsis put in. -/
def expandGroups (groups : List Nat) (ellipsis : Option Nat) : Option (List Nat) :=
  match ellipsis with
  | none => if groups.length = 8 then some groups else none
  | some position =>
    if groups.length < 8 then
      some (groups.take position ++ List.replicate (8 - groups.length) 0 ++ groups.drop position)
    else none

def parseIPv6 (text : Text) : Option Addr := do
  let (body, zone) := (text.cut '%').getD (text, [])
  if zone = [] ∧ '%' ∈ text then none
  let (groups, ellipsis) ← match body with
    | [':', ':'] => some ([], some 0)
    | ':' :: ':' :: rest => parseGroups 8 rest [] (some 0)
    | _ => parseGroups 8 body [] none
  let groups ← expandGroups groups ellipsis
  return ⟨true, groups.foldl (fun value group => value * 65536 + group) 0, zone⟩

/-- The first of `.`, `:` and `%` decides how a text is read. -/
def parseAddr (text : Text) : Option Addr :=
  match text.find? (fun c => c = '.' || c = ':' || c = '%') with
  | some '.' => (parseIPv4 text).map fun value => ⟨false, value, []⟩
  | some ':' => parseIPv6 text
  | _ => none

def parsePrefix (text : Text) : Option Prefix := do
  if '/' ∉ text then none
  let bitsText := text.reverse.takeWhile (· ≠ '/')
  let addr ← parseAddr (text.take (text.length - bitsText.length - 1))
  if addr.zone ≠ [] then none
  let bits ← readDecimal bitsText.reverse
  if bits > addr.bitLen then none
  return ⟨addr, bits⟩

/-- An address with a zone is in no prefix, and neither is one of the other family. -/
def Prefix.contains (range : Prefix) (addr : Addr) : Bool :=
  addr.zone = [] && range.addr.is6 = addr.is6 &&
    range.addr.value >>> (addr.bitLen - range.bits) = addr.value >>> (addr.bitLen - range.bits)

example : (parsePrefix "10.0.0.0/8").map (·.contains ⟨false, 167772161, []⟩) = some true := by
  decide +kernel

example : parseAddr "2001:db8::1" = some ⟨true, 0x20010db8000000000000000000000001, []⟩ := by
  decide +kernel

/-- An IPv6 address that stands for an IPv4 one. -/
def Addr.is4In6 (addr : Addr) : Bool := addr.is6 && addr.value >>> 32 = 0xffff

def Addr.unmap (addr : Addr) : Addr :=
  if addr.is4In6 then ⟨false, addr.value % 2 ^ 32, []⟩ else addr

/-- Big-endian digits of a number. -/
def places (base : Nat) : Nat → Nat → List Nat
  | 0, _ => []
  | count + 1, value => places base count (value / base) ++ [value % base]

def string4 (value : Nat) : Text := List.intercalate ['.'] ((places 256 4 value).map Text.decimal)

/-- The longest run of at least two zero groups: where it starts and where it has ended. -/
def zeroRun (groups : List Nat) : Nat × Nat :=
  (List.range 8).foldl (fun run i =>
    let l := ((groups.drop i).takeWhile (· = 0)).length
    if 2 ≤ l ∧ run.2 - run.1 < l then (i, i + l) else run) (255, 255)

def joinGroups (groups : List Nat) : Text := List.intercalate [':'] (groups.map (Nat.toDigits 16))

def string6 (value : Nat) : Text :=
  let groups := places 65536 8 value
  let run := zeroRun groups
  if run.1 = 255 then joinGroups groups
  else joinGroups (groups.take run.1) ++ ':' :: ':' :: joinGroups (groups.drop run.2)

/-- `Addr.String`. -/
def Addr.string (addr : Addr) : Text :=
  if addr.is6 = false then string4 addr.value
  else
    let body := if addr.is4In6 then "::ffff:".toList ++ string4 addr.unmap.value else
      string6 addr.value
    if addr.zone = [] then body else body ++ '%' :: addr.zone

theorem Addr.string_ne_nil (addr : Addr) : addr.string ≠ [] := by
  have dotted : ∀ value, string4 value ≠ [] := by
    intro value
    simp [string4, places, List.intercalate, Text.decimal_ne_nil]
  have grouped : ∀ value, string6 value ≠ [] := by
    intro value
    rw [string6]
    split
    · simp [joinGroups, places, List.intercalate, Nat.toDigits_ne_nil]
    · simp
  rw [Addr.string]
  split
  · exact dotted addr.value
  · dsimp only
    split <;> split <;> simp [grouped]

example : (parseAddr "2001:DB8:0:0:1::1").map Addr.string = some "2001:db8::1:0:0:1".toList := by
  decide +kernel

/-- Host and port of an address; the port starts after the last colon. -/
def splitHostPort (hostport : Text) : Option (Text × Text) :=
  let port := (hostport.reverse.takeWhile (· ≠ ':')).reverse
  let i := hostport.length - port.length - 1
  if ':' ∉ hostport then none
  else if hostport.head? = some '[' then
    -- The first `]` has to stand just before the last colon.
    let closing := (hostport.takeWhile (· ≠ ']')).length
    if ']' ∉ hostport ∨ closing + 1 ≠ i then none
    else if '[' ∈ hostport.drop 1 ∨ ']' ∈ hostport.drop (closing + 1) then none
    else some ((hostport.take closing).drop 1, port)
  else if ':' ∈ hostport.take i ∨ '[' ∈ hostport ∨ ']' ∈ hostport then none
  else some (hostport.take i, port)

example : splitHostPort "[::1]:443" = some ("::1".toList, "443".toList) := by
  decide +kernel

end Foundation.Netip
