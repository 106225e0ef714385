/-
  AccessService.Accounts.IpRangeMatching

  What `isIpInCidr` decides.  A text is matched by the top bits of the address it spells
  exactly where the part that is left after `::ffff:` spells the same address
  (`matchesTopBits_iff`).  A range that is not well formed admits nobody exactly where no
  address or a number of bits out of bounds is read from it (`refusesMalformed_iff`):
  `parseInt` reads `NaN` or a leading number from other texts, and no comparison stops `NaN`.
-/

import AccessService.Accounts.IpRangePolicy

namespace AccessService.Accounts.IpRangePolicy

open AccessService.Js

variable {Address : Type} (lib : IpAddr Address) (value : Address → Nat)

-- ============================================================================
-- Addresses and ranges
-- ============================================================================

/-- An address by its kind and number; an IPv4-mapped one is the IPv4 address in it. -/
def host (a : Address) : AddressKind × Nat :=
  if lib.kind a = .ipv6 ∧ lib.isIPv4MappedAddress a = true then
    (.ipv4, value (lib.toIPv4Address a))
  else (lib.kind a, value a)

/-- The text of the network of the first `p` bits of an address: `'b/p'`, or a bare `'b'`. -/
inductive IsNetwork (b : Address) : Nat → String → Prop where
  | slash {text : String} {p : Nat} (h : lib.parse text = some b)
      (hp : p ≤ (lib.kind b).width) : IsNetwork b p (text ++ "/" ++ toString p)
  | whole {text : String} (h : lib.parse text = some b) : IsNetwork b (lib.kind b).width text

variable {lib} {value} {a b c : Address} {p : Nat} {text cidr : String} {bits : JsNumber}

theorem host_of_ipv4 (h : lib.kind a = .ipv4) : host lib value a = (.ipv4, value a) := by
  rw [host, if_neg (by simp [h]), h]

theorem host_of_mapped (h : lib.kind a = .ipv6) (hmapped : lib.isIPv4MappedAddress a = true) :
    host lib value a = (.ipv4, value (lib.toIPv4Address a)) :=
  if_pos ⟨h, hmapped⟩

theorem host_of_ipv6 (h : lib.kind a = .ipv6) (hmapped : lib.isIPv4MappedAddress a = false) :
    host lib value a = (.ipv6, value a) := by
  rw [host, if_neg (by simp [hmapped]), h]

theorem host_eq_ipv6 {v : Nat} (h : host lib value a = (.ipv6, v)) :
    lib.kind a = .ipv6 ∧ value a = v := by
  unfold host at h
  split at h
  · cases (Prod.mk.inj h).1
  · exact Prod.mk.inj h

theorem parseInt_digits (hp : p ≤ 128) : parseInt (toString p) = .fin p := by
  refine parseInt_of_digits (by simp [toString, Nat.repr]) ?_
  rw [abs_of_nonneg (Int.natCast_nonneg p)]
  omega

theorem IsNetwork.le_width {kind : AddressKind} (h : IsNetwork lib b p cidr)
    (hb : lib.kind b = kind) : p ≤ kind.width := by
  subst hb
  cases h with
  | slash h hp => exact hp
  | whole h => exact le_rfl

theorem parseRange_network (hlib : lib.Documented value) (h : IsNetwork lib b p cidr) :
    parseRange lib cidr = some (b, .fin p) := by
  cases h with
  | whole h => exact parseRange_whole hlib h
  | slash h hp =>
    have hwidth : (lib.kind b).width ≤ 128 := by cases lib.kind b <;> decide
    have hdigits : (toString p).toList = Nat.toDigits 10 p := by simp [toString, Nat.repr]
    rw [parseRange_slash hlib h, parseInt_digits (hp.trans hwidth)]
    · intro hslash
      rw [hdigits] at hslash
      exact absurd (Nat.isDigit_of_mem_toDigits (by decide) (by decide) hslash) (by decide)
    · intro hempty
      rw [hempty] at hdigits
      exact Nat.toDigits_ne_nil hdigits.symm

/-- What is decided for an IPv4 network. -/
theorem isIpInRange_ipv4 (hlib : lib.Documented value) (hb : lib.kind b = .ipv4) (hp : p ≤ 32) :
    isIpInRange lib a b (.fin p) = true ↔
      ∃ v, host lib value a = (.ipv4, v) ∧ topBits 32 p v = topBits 32 p (value b) := by
  have hp' : p ≤ (lib.kind b).width := by rwa [hb]
  have hin : isOutside .ipv4 (.fin p) = false := not_isOutside .ipv4 hp
  have hrange : ∀ x, lib.kind x = .ipv4 → (lib.matchRange x b (.fin p) = true ↔
      topBits 32 p (value x) = topBits 32 p (value b)) := by
    intro x hx
    have htop := matchRange_topBits hlib (hx.trans hb.symm) hp'
    rwa [hb] at htop
  rcases ha : lib.kind a with _ | _
  · rw [host_of_ipv4 ha]
    simp [isIpInRange, hin, ha, hb, hrange a ha]
  · rcases hmapped : lib.isIPv4MappedAddress a with _ | _
    · rw [host_of_ipv6 ha hmapped]
      simp [isIpInRange, hin, ha, hb, hmapped]
    · rw [host_of_mapped ha hmapped]
      have hkind := (hlib.toIPv4Address_mapped ha hmapped).1
      simp [isIpInRange, hin, ha, hb, hmapped, hrange _ hkind]

theorem isIpInRange_ipv6 (hlib : lib.Documented value) (hb : lib.kind b = .ipv6)
    (hp : p ≤ 128) :
    isIpInRange lib a b (.fin p) = true ↔
      lib.kind a = .ipv6 ∧ topBits 128 p (value a) = topBits 128 p (value b) := by
  have hp' : p ≤ (lib.kind b).width := by rwa [hb]
  have hin : isOutside .ipv6 (.fin p) = false := not_isOutside .ipv6 hp
  rcases ha : lib.kind a with _ | _
  · simp [isIpInRange, hin, ha, hb]
  · have htop := matchRange_topBits hlib (ha.trans hb.symm) hp'
    rw [hb] at htop
    have hrange : isIpInRange lib a b (.fin p) = lib.matchRange a b (.fin p) := by
      simp [isIpInRange, hin, ha, hb]
    rw [hrange, htop]
    exact (and_iff_right rfl).symm

theorem isIpInCidr_network (hlib : lib.Documented value)
    (hip : lib.parse (normalizeIp text) = some c) (h : IsNetwork lib b p cidr) :
    isIpInCidr lib text cidr = isIpInRange lib c b (.fin p) := by
  rw [isIpInCidr, hip, parseRange_network hlib h]

-- ============================================================================
-- Spellings
-- ============================================================================

variable (lib) (value)

/-- A text of an IPv4 address, or of the IPv6 address that maps it. -/
def Spells (text : String) (a : Address) : Prop :=
  ∃ c, lib.parse text = some c ∧
    (lib.kind c = .ipv4 ∧ value c = value a ∨
      lib.kind c = .ipv6 ∧ value c = 0xffff * 2 ^ 32 + value a)

/-- Every network is decided by the top bits of the address that the text spells. -/
structure MatchesTopBits (text : String) : Prop where
  ipv4 : ∀ a b p cidr, lib.kind a = .ipv4 → Spells lib value text a → lib.kind b = .ipv4 →
    IsNetwork lib b p cidr →
      (isIpInCidr lib text cidr = true ↔ topBits 32 p (value a) = topBits 32 p (value b))
  ipv6 : ∀ a b p cidr, lib.parse text = some a → lib.kind a = .ipv6 →
    lib.isIPv4MappedAddress a = false → lib.kind b = .ipv6 → IsNetwork lib b p cidr →
      (isIpInCidr lib text cidr = true ↔ topBits 128 p (value a) = topBits 128 p (value b))
  ipv4_ipv6 : ∀ a b p cidr, lib.parse text = some a → lib.kind a = .ipv4 →
    lib.kind b = .ipv6 → IsNetwork lib b p cidr → isIpInCidr lib text cidr = false
  ipv6_ipv4 : ∀ a b p cidr, lib.parse text = some a → lib.kind a = .ipv6 →
    lib.isIPv4MappedAddress a = false → lib.kind b = .ipv4 → IsNetwork lib b p cidr →
      isIpInCidr lib text cidr = false

/-- What follows a leading `::ffff:` spells the same address as the whole text. -/
def KeepsAddress (text : String) : Prop :=
  ∀ rest, text = "::ffff:" ++ rest → ∀ a, lib.parse text = some a →
    ∃ c, lib.parse rest = some c ∧ host lib value c = host lib value a

variable {lib} {value}

theorem Spells.host_eq (hlib : lib.Documented value) (ha : lib.kind a = .ipv4)
    (h : Spells lib value text a) :
    ∃ c, lib.parse text = some c ∧ host lib value c = (.ipv4, value a) := by
  have hlt : value a < 2 ^ 32 := by
    have hwidth := hlib.value_lt a
    rwa [ha] at hwidth
  obtain ⟨c, hc, ⟨hkind, hvalue⟩ | ⟨hkind, hvalue⟩⟩ := h
  · exact ⟨c, hc, by rw [host_of_ipv4 hkind, hvalue]⟩
  · have hmapped : lib.isIPv4MappedAddress c = true :=
      (hlib.isIPv4MappedAddress_iff hkind).mpr (by rw [hvalue]; omega)
    have hinner : value (lib.toIPv4Address c) = value a := by
      rw [(hlib.toIPv4Address_mapped hkind hmapped).2, hvalue]
      omega
    exact ⟨c, hc, by rw [host_of_mapped hkind hmapped, hinner]⟩

/-- Normalized, a text that keeps its address spells it still, and an IPv4 text is left as it
    is. -/
theorem KeepsAddress.normalized (hlib : lib.Documented value) (h : KeepsAddress lib value text)
    (ha : lib.parse text = some a) :
    ∃ c, lib.parse (normalizeIp text) = some c ∧ host lib value c = host lib value a ∧
      (lib.kind a = .ipv4 → c = a) := by
  rcases normalizeIp_cases text with ⟨rest, hrest, hnormal⟩ | ⟨-, hnormal⟩
  · obtain ⟨c, hc, hhost⟩ := h rest hrest a ha
    refine ⟨c, by rw [hnormal, hc], hhost, fun hkind => ?_⟩
    rw [hrest] at ha
    rw [hlib.kind_of_colons ha] at hkind
    cases hkind
  · exact ⟨a, by rw [hnormal, ha], rfl, fun _ => rfl⟩

/-- Around each address there is the network of itself. -/
theorem exists_network (hlib : lib.Documented value) (a : Address) :
    ∃ b cidr, lib.kind b = lib.kind a ∧ value b = value a ∧
      IsNetwork lib b (lib.kind b).width cidr := by
  obtain ⟨text, b, hb, hkind, hvalue, -⟩ := hlib.spelled a
  exact ⟨b, text, hkind, hvalue, .whole hb⟩

theorem matchesTopBits_of_keepsAddress (hlib : lib.Documented value)
    (h : KeepsAddress lib value text) : MatchesTopBits lib value text where
  ipv4 a b p cidr ha htext hb hcidr := by
    obtain ⟨a', ha', hhost⟩ := htext.host_eq hlib ha
    obtain ⟨c, hc, hsame, -⟩ := h.normalized hlib ha'
    rw [isIpInCidr_network hlib hc hcidr, isIpInRange_ipv4 hlib hb (hcidr.le_width hb),
      hsame, hhost]
    simp
  ipv6 a b p cidr htext ha hmapped hb hcidr := by
    obtain ⟨c, hc, hsame, -⟩ := h.normalized hlib htext
    rw [host_of_ipv6 ha hmapped] at hsame
    obtain ⟨hkind, hvalue⟩ := host_eq_ipv6 hsame
    rw [isIpInCidr_network hlib hc hcidr, isIpInRange_ipv6 hlib hb (hcidr.le_width hb), hvalue]
    exact and_iff_right hkind
  ipv4_ipv6 a b p cidr htext ha hb hcidr := by
    obtain ⟨c, hc, -, hleft⟩ := h.normalized hlib htext
    rw [isIpInCidr_network hlib hc hcidr, hleft ha, Bool.eq_false_iff, Ne,
      isIpInRange_ipv6 hlib hb (hcidr.le_width hb), ha]
    exact fun hin => nomatch hin.1
  ipv6_ipv4 a b p cidr htext ha hmapped hb hcidr := by
    obtain ⟨c, hc, hsame, -⟩ := h.normalized hlib htext
    rw [host_of_ipv6 ha hmapped] at hsame
    rw [isIpInCidr_network hlib hc hcidr, Bool.eq_false_iff, Ne,
      isIpInRange_ipv4 hlib hb (hcidr.le_width hb), hsame]
    exact fun ⟨_, hin, _⟩ => nomatch (Prod.mk.inj hin).1

theorem parsed_of_isIpInCidr (hlib : lib.Documented value) (hcidr : IsNetwork lib b p cidr)
    (h : isIpInCidr lib text cidr = true) :
    ∃ c, lib.parse (normalizeIp text) = some c ∧ isIpInRange lib c b (.fin p) = true := by
  obtain ⟨c, _, _, hc, -, -⟩ := isIpInCidr_iff.mp h
  rw [isIpInCidr_network hlib hc hcidr] at h
  exact ⟨c, hc, h⟩

/-- The network of the address itself tells whether the address is kept. -/
theorem keepsAddress_of_matchesTopBits (hlib : lib.Documented value)
    (h : MatchesTopBits lib value text) : KeepsAddress lib value text := by
  rintro rest rfl a ha
  have hkind := hlib.kind_of_colons ha
  rcases hmapped : lib.isIPv4MappedAddress a with _ | _
  · obtain ⟨b, cidr, hb, hvalue, hcidr⟩ := exists_network hlib a
    have hb' := hb.trans hkind
    rw [hb'] at hcidr
    have hin := (h.ipv6 a b _ cidr ha hkind hmapped hb' hcidr).mpr (by rw [hvalue])
    obtain ⟨c, hc, hrange⟩ := parsed_of_isIpInCidr hlib hcidr hin
    obtain ⟨hckind, htop⟩ := (isIpInRange_ipv6 hlib hb' le_rfl).mp hrange
    rw [topBits_self, topBits_self, hvalue] at htop
    have hcmapped : lib.isIPv4MappedAddress c = false := by
      rw [Bool.eq_false_iff, Ne, hlib.isIPv4MappedAddress_iff hckind, htop,
        ← hlib.isIPv4MappedAddress_iff hkind, hmapped]
      exact Bool.false_ne_true
    rw [normalizeIp_mapped] at hc
    exact ⟨c, hc, by rw [host_of_ipv6 hckind hcmapped, host_of_ipv6 hkind hmapped, htop]⟩
  · obtain ⟨hinner, hlow⟩ := hlib.toIPv4Address_mapped hkind hmapped
    have hhigh := (hlib.isIPv4MappedAddress_iff hkind).mp hmapped
    obtain ⟨b, cidr, hb, hvalue, hcidr⟩ := exists_network hlib (lib.toIPv4Address a)
    have hb' := hb.trans hinner
    rw [hb'] at hcidr
    have hspells : Spells lib value ("::ffff:" ++ rest) (lib.toIPv4Address a) :=
      ⟨a, ha, .inr ⟨hkind, by omega⟩⟩
    have hin := (h.ipv4 _ b _ cidr hinner hspells hb' hcidr).mpr (by rw [hvalue])
    obtain ⟨c, hc, hrange⟩ := parsed_of_isIpInCidr hlib hcidr hin
    obtain ⟨v, hhost, htop⟩ := (isIpInRange_ipv4 hlib hb' le_rfl).mp hrange
    have hv : v = value (lib.toIPv4Address a) := by
      rw [← hvalue]
      exact htop
    rw [normalizeIp_mapped] at hc
    exact ⟨c, hc, by rw [hhost, host_of_mapped hkind hmapped, hv]⟩

theorem matchesTopBits_iff (hlib : lib.Documented value) (text : String) :
    MatchesTopBits lib value text ↔ KeepsAddress lib value text :=
  ⟨keepsAddress_of_matchesTopBits hlib, matchesTopBits_of_keepsAddress hlib⟩

theorem matchesTopBits_iff_sample :
    MatchesTopBits sampleIpAddr sampleValue "::ffff:192.168.1.1" := by
  refine (matchesTopBits_iff sampleDocumented _).mpr fun rest hrest a ha => ?_
  have hkept : rest = "192.168.1.1" := by
    rw [← normalizeIp_mapped rest, ← hrest]
    decide +kernel
  have hmapped : sampleIpAddr.parse "::ffff:192.168.1.1" = some .mappedLan := by decide +kernel
  obtain rfl := Option.some.inj (hmapped.symm.trans ha)
  rw [hkept]
  exact ⟨.lan, by decide +kernel⟩

/-- The hexadecimal text of the mapped 192.168.1.1 is outside the network of that address. -/
theorem not_matchesTopBits :
    sampleIpAddr.Documented sampleValue ∧
      ¬ MatchesTopBits sampleIpAddr sampleValue "::ffff:c0a8:101" := by
  refine ⟨sampleDocumented, fun h => ?_⟩
  have hlan : IsNetwork sampleIpAddr .lan 32 "192.168.1.1" := .whole (by decide +kernel)
  have hspells : Spells sampleIpAddr sampleValue "::ffff:c0a8:101" .lan :=
    ⟨.mappedLan, by decide +kernel, .inr ⟨rfl, rfl⟩⟩
  have hin := (h.ipv4 .lan .lan 32 _ rfl hspells rfl hlan).mpr rfl
  exact absurd hin (by decide +kernel)

-- ============================================================================
-- Malformed ranges
-- ============================================================================

variable (lib)

/-- `'address'`, or `'address/p'` with decimal digits for a number within the width. -/
inductive WellFormed : String → Prop where
  | address {text : String} {b : Address} (h : lib.parse text = some b) : WellFormed text
  | slash {text digits : String} {b : Address} {p : Nat} (h : lib.parse text = some b)
      (hdigits : readDigits 10 digits.toList = some p) (hp : p ≤ (lib.kind b).width) :
      WellFormed (text ++ "/" ++ digits)

open Classical in
/-- The ranges of a list that are not well formed admit nobody, and make no difference. -/
structure RefusesMalformed (cidrs : List String) : Prop where
  refused : ∀ cidr ∈ cidrs, ¬ WellFormed lib cidr → ∀ ip, isIpInCidr lib ip cidr = false
  dropped : ∀ ip actionType, isExemptAction actionType = false →
    isIpAllowed lib ip cidrs actionType =
      isIpAllowed lib ip (cidrs.filter (WellFormed lib ·)) actionType

/-- There is no address before the first `/`, or the text that follows it is read as a number
    below zero or above the width. -/
def Unreadable (cidr : String) : Prop :=
  ∀ b, lib.parse ((split cidr '/').head?.getD "") = some b →
    ((split cidr '/')[1]?).getD "" ≠ "" ∧
      isOutside (lib.kind b) (parseInt (((split cidr '/')[1]?).getD "")) = true

variable {lib}

/-- A well-formed range is read as the address and the number in it. -/
theorem WellFormed.parseRange_eq (hlib : lib.Documented value) (h : WellFormed lib cidr) :
    ∃ b, ∃ p ≤ (lib.kind b).width, parseRange lib cidr = some (b, .fin p) := by
  cases h with
  | @address _ b h => exact ⟨b, (lib.kind b).width, le_rfl, parseRange_whole hlib h⟩
  | @slash text digits b p h hdigits hp =>
    have hwidth : (lib.kind b).width ≤ 128 := by cases lib.kind b <;> decide
    have hsafe : |(p : ℤ)| < 2 ^ 53 := by
      rw [abs_of_nonneg (Int.natCast_nonneg p)]
      omega
    have hslash : '/' ∉ digits.toList := fun hmem =>
      absurd (isDigit_of_readDigits hdigits _ hmem) (by decide)
    have hne : digits ≠ "" := by
      rintro rfl
      cases hdigits
    refine ⟨b, p, hp, ?_⟩
    rw [parseRange_slash hlib h hslash hne, parseInt_of_readDigits hdigits hsafe]

theorem unreadable_iff :
    Unreadable lib cidr ↔
      ∀ b bits, parseRange lib cidr = some (b, bits) → isOutside (lib.kind b) bits = true := by
  unfold Unreadable parseRange
  rcases hb : lib.parse ((split cidr '/').head?.getD "") with _ | b
  · simp [hb]
  · have hin := not_isOutside (lib.kind b) le_rfl
    by_cases hempty : ((split cidr '/')[1]?).getD "" = ""
    · simp [hb, hempty, hin]
    · simp [hb, hempty]

theorem refused_iff (hlib : lib.Documented value) :
    (∀ ip, isIpInCidr lib ip cidr = false) ↔ Unreadable lib cidr := by
  rw [unreadable_iff]
  constructor
  · intro h b bits hcidr
    by_contra hinside
    obtain ⟨text, c, hc, hkind, hvalue, hstart⟩ := hlib.spelled b
    have hin : isIpInRange lib c b bits = true := by
      rw [isIpInRange, if_neg hinside, if_neg (by simp [hkind])]
      exact matchRange_same hlib hkind hvalue
    have hadmits := isIpInCidr_iff.mpr
      ⟨c, b, bits, by rw [normalizeIp_of_not hstart, hc], hcidr, hin⟩
    rw [h text] at hadmits
    cases hadmits
  · intro h ip
    rw [Bool.eq_false_iff, Ne, isIpInCidr_iff]
    rintro ⟨a, b, bits, -, hcidr, hin⟩
    rw [isIpInRange, if_pos (h b bits hcidr)] at hin
    cases hin

theorem refusesMalformed_iff (hlib : lib.Documented value) (cidrs : List String) :
    RefusesMalformed lib cidrs ↔
      ∀ cidr ∈ cidrs, ¬ WellFormed lib cidr → Unreadable lib cidr := by
  constructor
  · intro h cidr hcidr hmalformed
    exact (refused_iff hlib).mp (h.refused cidr hcidr hmalformed)
  · intro h
    have hrefused : ∀ cidr ∈ cidrs, ¬ WellFormed lib cidr → ∀ ip,
        isIpInCidr lib ip cidr = false :=
      fun cidr hcidr hmalformed => (refused_iff hlib).mpr (h cidr hcidr hmalformed)
    refine ⟨hrefused, fun ip actionType hexempt => ?_⟩
    rw [isIpAllowed_eq_any hexempt, isIpAllowed_eq_any hexempt, Bool.eq_iff_iff,
      List.any_eq_true, List.any_eq_true]
    constructor
    · rintro ⟨cidr, hcidr, hin⟩
      refine ⟨cidr, List.mem_filter.mpr ⟨hcidr, ?_⟩, hin⟩
      by_contra hmalformed
      rw [hrefused cidr hcidr (by simpa using hmalformed)] at hin
      cases hin
    · rintro ⟨cidr, hcidr, hin⟩
      exact ⟨cidr, (List.mem_filter.mp hcidr).1, hin⟩

theorem refusesMalformed_iff_sample :
    RefusesMalformed sampleIpAddr ["192.168.1.1", "192.168.1.1/-1", "lan/24"] := by
  refine (refusesMalformed_iff sampleDocumented _).mpr fun cidr hcidr hmalformed => ?_
  simp only [List.mem_cons, List.not_mem_nil, or_false] at hcidr
  rcases hcidr with rfl | rfl | rfl
  · have hlan : sampleIpAddr.parse "192.168.1.1" = some .lan := by decide +kernel
    exact absurd (.address hlan) hmalformed
  · intro b hb
    exact ⟨by decide +kernel, by cases b <;> decide +kernel⟩
  · intro b hb
    have hnone : sampleIpAddr.parse ((split "lan/24" '/').head?.getD "") = none := by
      decide +kernel
    rw [hnone] at hb
    cases hb

/-- With letters for the number of bits a range of one address admits every other one. -/
theorem not_refusesMalformed :
    sampleIpAddr.Documented sampleValue ∧ ¬ RefusesMalformed sampleIpAddr ["192.168.1.1/abc"] := by
  refine ⟨sampleDocumented, fun h => ?_⟩
  have hlan : sampleIpAddr.parse "192.168.1.1" = some .lan := by decide +kernel
  have hletters : parseRange sampleIpAddr "192.168.1.1/abc" = some (.lan, .nan) := by
    decide +kernel
  have hmalformed : ¬ WellFormed sampleIpAddr "192.168.1.1/abc" := by
    intro hform
    obtain ⟨b, p, -, hread⟩ := hform.parseRange_eq sampleDocumented
    rw [hletters] at hread
    cases hread
  have hout := h.refused _ List.mem_cons_self hmalformed "10.0.0.1"
  have hin : isIpInCidr sampleIpAddr "10.0.0.1" "192.168.1.1/abc" = true :=
    isIpInCidr_of_nan (a := .outside) sampleDocumented (by decide +kernel) hletters rfl
  rw [hout] at hin
  cases hin

end AccessService.Accounts.IpRangePolicy
