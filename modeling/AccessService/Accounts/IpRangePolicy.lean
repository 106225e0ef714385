/-
  AccessService.Accounts.IpRangePolicy

  `ip-range.policy.ts`: which network ranges admit a client address.  The policy strips
  `::ffff:` from the text of an address before it parses it, reads a range up to its first
  `/`, and leaves parsing and matching to `ipaddr.js`, which is a parameter here.
-/

import AccessService.Js.Decimal
import Mathlib.Data.Nat.Bitwise

namespace AccessService.Accounts

open AccessService.Js

inductive AuthActionType where
  | passwordLogin
  | mfaVerify
  | ssoLogin
  | invitationValidation
  | passwordReset
  deriving DecidableEq

-- ============================================================================
-- ipaddr.js
-- ============================================================================

inductive AddressKind where
  | ipv4
  | ipv6
  deriving DecidableEq

def AddressKind.width : AddressKind → Nat
  | .ipv4 => 32
  | .ipv6 => 128

/-- What the policy uses of `ipaddr.js`; `parse` throws where it finds no address. -/
structure IpAddr (Address : Type) where
  parse : String → Option Address
  kind : Address → AddressKind
  isIPv4MappedAddress : Address → Bool
  toIPv4Address : Address → Address
  /-- `address.match(range, bits)` -/
  matchRange : Address → Address → JsNumber → Bool

variable {Address : Type}

/-- The library as documented, where `value` is an address as a number in network order. -/
structure IpAddr.Documented (lib : IpAddr Address) (value : Address → Nat) : Prop where
  slash_notMem : ∀ {text a}, lib.parse text = some a → '/' ∉ text.toList
  /-- No IPv4 text has a colon. -/
  kind_of_colons : ∀ {rest a}, lib.parse ("::ffff:" ++ rest) = some a → lib.kind a = .ipv6
  /-- Each address has a text that does not begin as a compressed mapped one: four decimal
      numbers, or eight groups. -/
  spelled : ∀ a, ∃ text c, lib.parse text = some c ∧ lib.kind c = lib.kind a ∧
    value c = value a ∧ ¬ "::ffff:".toList <+: text.toList
  value_lt : ∀ a, value a < 2 ^ (lib.kind a).width
  isIPv4MappedAddress_iff : ∀ {a}, lib.kind a = .ipv6 →
    (lib.isIPv4MappedAddress a = true ↔ value a / 2 ^ 32 = 0xffff)
  toIPv4Address_mapped : ∀ {a}, lib.kind a = .ipv6 → lib.isIPv4MappedAddress a = true →
    lib.kind (lib.toIPv4Address a) = .ipv4 ∧ value (lib.toIPv4Address a) = value a % 2 ^ 32
  /-- The two addresses are compared from the front, while there are bits left to compare. -/
  matchRange_iff : ∀ {a b bits}, lib.kind a = lib.kind b →
    (lib.matchRange a b bits = true ↔ ∀ i < (lib.kind b).width,
      JsNumber.lt (.fin i) bits = true →
        (value a).testBit ((lib.kind b).width - 1 - i) =
          (value b).testBit ((lib.kind b).width - 1 - i))

-- ============================================================================
-- The policy
-- ============================================================================

namespace IpRangePolicy

def isExemptAction : Option AuthActionType → Bool
  | some .invitationValidation | some .passwordReset => true
  | _ => false

def normalizeIp (ip : String) : String :=
  if "::ffff:".toList.isPrefixOf ip.toList then String.ofList (ip.toList.drop 7) else ip

variable (lib : IpAddr Address)

/-- The address before the first `/` and the number of bits after it; without text there, the
    whole address. -/
def parseRange (cidr : String) : Option (Address × JsNumber) :=
  let parts := split cidr '/'
  let rangeStr := parts.head?.getD ""
  let prefixStr := (parts[1]?).getD ""
  (lib.parse rangeStr).map fun parsedRange =>
    (parsedRange,
      if prefixStr ≠ "" then parseInt prefixStr else .fin (lib.kind parsedRange).width)

def isOutside (kind : AddressKind) (bits : JsNumber) : Bool :=
  JsNumber.lt bits (.fin 0) || JsNumber.lt (.fin kind.width) bits

def isIpInRange (parsedIp parsedRange : Address) (bits : JsNumber) : Bool :=
  if isOutside (lib.kind parsedRange) bits then false
  else if lib.kind parsedIp ≠ lib.kind parsedRange then
    if lib.kind parsedIp = .ipv6 ∧ lib.isIPv4MappedAddress parsedIp = true then
      if lib.kind parsedRange = .ipv4 then
        lib.matchRange (lib.toIPv4Address parsedIp) parsedRange bits
      else false
    else false
  else lib.matchRange parsedIp parsedRange bits

/-- What is thrown is caught, and admits nobody. -/
def isIpInCidr (ip cidr : String) : Bool :=
  match lib.parse (normalizeIp ip), parseRange lib cidr with
  | some parsedIp, some (parsedRange, bits) => isIpInRange lib parsedIp parsedRange bits
  | _, _ => false

def isIpAllowed (ip : String) (allowedCidrs : List String)
    (actionType : Option AuthActionType) : Bool :=
  if isExemptAction actionType then true
  else if allowedCidrs.length = 0 then false
  else allowedCidrs.any fun cidr => isIpInCidr lib ip cidr

-- ============================================================================
-- Texts
-- ============================================================================

theorem normalizeIp_mapped (rest : String) : normalizeIp ("::ffff:" ++ rest) = rest := by
  have hlength : "::ffff:".toList.length = 7 := by decide +kernel
  have hstart : "::ffff:".toList.isPrefixOf ("::ffff:" ++ rest).toList = true := by
    rw [List.isPrefixOf_iff_prefix, String.toList_append]
    exact List.prefix_append _ _
  rw [normalizeIp, if_pos hstart, String.toList_append, ← hlength, List.drop_left,
    String.ofList_toList]

theorem normalizeIp_of_not {ip : String} (h : ¬ "::ffff:".toList <+: ip.toList) :
    normalizeIp ip = ip := by
  rw [normalizeIp, if_neg]
  rwa [List.isPrefixOf_iff_prefix]

/-- A text is left as it is, unless it begins with `::ffff:`. -/
theorem normalizeIp_cases (ip : String) :
    (∃ rest, ip = "::ffff:" ++ rest ∧ normalizeIp ip = rest) ∨
      ¬ "::ffff:".toList <+: ip.toList ∧ normalizeIp ip = ip := by
  by_cases hstart : "::ffff:".toList <+: ip.toList
  · obtain ⟨rest, hrest⟩ := hstart
    have hchars : (String.ofList rest).toList = rest := String.toList_ofList
    have hip : ip = "::ffff:" ++ String.ofList rest := by
      rw [← String.toList_inj, String.toList_append, hchars, hrest]
    exact .inl ⟨_, hip, hip ▸ normalizeIp_mapped _⟩
  · exact .inr ⟨hstart, normalizeIp_of_not hstart⟩

variable {lib} {value : Address → Nat} {text digits : String} {a b : Address}
  {bits : JsNumber} {p : Nat}

theorem parseRange_whole (hlib : lib.Documented value) (h : lib.parse text = some b) :
    parseRange lib text = some (b, .fin (lib.kind b).width) := by
  rw [parseRange, split_of_notMem (hlib.slash_notMem h)]
  simp [h]

theorem parseRange_slash (hlib : lib.Documented value) (h : lib.parse text = some b)
    (hdigits : '/' ∉ digits.toList) (hne : digits ≠ "") :
    parseRange lib (text ++ "/" ++ digits) = some (b, parseInt digits) := by
  have hslash : "/" = String.ofList ['/'] := rfl
  rw [parseRange, String.append_assoc, hslash, split_append (hlib.slash_notMem h),
    split_of_notMem hdigits]
  simp [h, hne]

theorem isIpInCidr_iff {ip cidr : String} :
    isIpInCidr lib ip cidr = true ↔ ∃ a b bits, lib.parse (normalizeIp ip) = some a ∧
      parseRange lib cidr = some (b, bits) ∧ isIpInRange lib a b bits = true := by
  unfold isIpInCidr
  rcases lib.parse (normalizeIp ip) with _ | a
  · simp
  · rcases parseRange lib cidr with _ | ⟨b, bits⟩ <;> simp

theorem isIpAllowed_eq_any {ip : String} {cidrs : List String}
    {actionType : Option AuthActionType} (h : isExemptAction actionType = false) :
    isIpAllowed lib ip cidrs actionType = cidrs.any fun cidr => isIpInCidr lib ip cidr := by
  rw [isIpAllowed, h]
  cases cidrs <;> simp

-- ============================================================================
-- Bits
-- ============================================================================

/-- The top `p` bits of a number of `width` bits. -/
def topBits (width p value : Nat) : Nat := value >>> (width - p)

theorem topBits_self (width value : Nat) : topBits width width value = value := by
  rw [topBits, Nat.sub_self, Nat.shiftRight_zero]

theorem topBits_eq_iff {w x y : Nat} (hx : x < 2 ^ w) (hy : y < 2 ^ w) (hp : p ≤ w) :
    topBits w p x = topBits w p y ↔
      ∀ i < p, x.testBit (w - 1 - i) = y.testBit (w - 1 - i) := by
  unfold topBits
  constructor
  · intro h i hi
    have hbit := congrArg (·.testBit (p - 1 - i)) h
    simp only [Nat.testBit_shiftRight] at hbit
    have hplace : w - p + (p - 1 - i) = w - 1 - i := by omega
    rwa [hplace] at hbit
  · intro h
    refine Nat.eq_of_testBit_eq fun j => ?_
    rw [Nat.testBit_shiftRight, Nat.testBit_shiftRight]
    by_cases hj : j < p
    · have hplace : w - p + j = w - 1 - (p - 1 - j) := by omega
      rw [hplace]
      exact h _ (by omega)
    · have hlarge : w ≤ w - p + j := by omega
      have hpow : 2 ^ w ≤ 2 ^ (w - p + j) := Nat.pow_le_pow_right (by decide) hlarge
      rw [Nat.testBit_lt_two_pow (hx.trans_le hpow), Nat.testBit_lt_two_pow (hy.trans_le hpow)]

theorem matchRange_topBits (hlib : lib.Documented value) (hkind : lib.kind a = lib.kind b)
    (hp : p ≤ (lib.kind b).width) :
    lib.matchRange a b (.fin p) = true ↔
      topBits (lib.kind b).width p (value a) = topBits (lib.kind b).width p (value b) := by
  rw [hlib.matchRange_iff hkind,
    topBits_eq_iff (hkind ▸ hlib.value_lt a) (hlib.value_lt b) hp]
  simp only [JsNumber.lt_fin, decide_eq_true_eq, Nat.cast_lt]
  exact ⟨fun h i hi => h i (hi.trans_le hp) hi, fun h i _ hi => h i hi⟩

/-- An address is in every range around itself. -/
theorem matchRange_same (hlib : lib.Documented value) (hkind : lib.kind a = lib.kind b)
    (hvalue : value a = value b) : lib.matchRange a b bits = true :=
  (hlib.matchRange_iff hkind).mpr fun _ _ _ => by rw [hvalue]

theorem not_isOutside (kind : AddressKind) (hp : p ≤ kind.width) :
    isOutside kind (.fin p) = false := by
  have hlow : ¬ ((p : ℚ) < 0) := not_lt.mpr (Nat.cast_nonneg p)
  have hhigh : ¬ ((kind.width : ℚ) < p) := not_lt.mpr (Nat.cast_le.mpr hp)
  simp [isOutside, hlow, hhigh]

/-- Without a number of bits nothing is compared, and each address of the kind is admitted. -/
theorem isIpInCidr_of_nan (hlib : lib.Documented value) {ip cidr : String}
    (hip : lib.parse (normalizeIp ip) = some a)
    (hcidr : parseRange lib cidr = some (b, .nan)) (hkind : lib.kind a = lib.kind b) :
    isIpInCidr lib ip cidr = true := by
  refine isIpInCidr_iff.mpr ⟨a, b, .nan, hip, hcidr, ?_⟩
  have hin : isOutside (lib.kind b) .nan = false := rfl
  have hmatch : lib.matchRange a b .nan = true := by
    refine (hlib.matchRange_iff hkind).mpr fun i _ hi => ?_
    rw [JsNumber.lt_nan_right] at hi
    cases hi
  rw [isIpInRange, hin, if_neg Bool.false_ne_true, if_neg (not_not.mpr hkind), hmatch]

-- ============================================================================
-- A small library: two IPv4 addresses and a mapped one
-- ============================================================================

inductive SampleAddress where
  | lan
  | mappedLan
  | outside
  deriving DecidableEq

def sampleSpellings : List (String × SampleAddress) :=
  [("192.168.1.1", .lan), ("10.0.0.1", .outside), ("::ffff:192.168.1.1", .mappedLan),
    ("::ffff:c0a8:101", .mappedLan), ("0:0:0:0:0:ffff:c0a8:101", .mappedLan)]

def sampleKind : SampleAddress → AddressKind
  | .lan | .outside => .ipv4
  | .mappedLan => .ipv6

def sampleValue : SampleAddress → Nat
  | .lan => 0xc0a80101
  | .mappedLan => 0xffffc0a80101
  | .outside => 0x0a000001

def sampleIpAddr : IpAddr SampleAddress where
  parse text := (sampleSpellings.find? fun e => e.1 = text).map Prod.snd
  kind := sampleKind
  isIPv4MappedAddress a := sampleValue a / 2 ^ 32 = 0xffff
  toIPv4Address _ := .lan
  matchRange a b bits :=
    decide (∀ i < (sampleKind b).width, JsNumber.lt (.fin i) bits = true →
      (sampleValue a).testBit ((sampleKind b).width - 1 - i) =
        (sampleValue b).testBit ((sampleKind b).width - 1 - i))

theorem mem_sampleSpellings {a : SampleAddress} (h : sampleIpAddr.parse text = some a) :
    (text, a) ∈ sampleSpellings := by
  obtain ⟨e, he, rfl⟩ := Option.map_eq_some_iff.mp h
  obtain rfl : e.1 = text := by simpa using List.find?_some he
  exact List.mem_of_find?_eq_some he

theorem sampleDocumented : sampleIpAddr.Documented sampleValue where
  slash_notMem {text a} h := by
    have hall : ∀ e ∈ sampleSpellings, '/' ∉ e.1.toList := by decide +kernel
    exact hall _ (mem_sampleSpellings h)
  kind_of_colons {rest a} h := by
    have hall : ∀ e ∈ sampleSpellings, "::ffff:".toList <+: e.1.toList →
        sampleKind e.2 = .ipv6 := by decide +kernel
    refine hall _ (mem_sampleSpellings h) ?_
    rw [String.toList_append]
    exact List.prefix_append _ _
  spelled a := by
    cases a with
    | lan => exact ⟨"192.168.1.1", .lan, by decide +kernel⟩
    | mappedLan => exact ⟨"0:0:0:0:0:ffff:c0a8:101", .mappedLan, by decide +kernel⟩
    | outside => exact ⟨"10.0.0.1", .outside, by decide +kernel⟩
  value_lt a := by cases a <;> decide
  isIPv4MappedAddress_iff _ := decide_eq_true_iff
  toIPv4Address_mapped {a} hkind _ := by
    cases a with
    | mappedLan => exact ⟨rfl, by decide⟩
    | lan => cases hkind
    | outside => cases hkind
  matchRange_iff _ := decide_eq_true_iff

end IpRangePolicy

end AccessService.Accounts
