import Cortado.Net.AddrText

/-!
# The characters of an address

The readers of addresses consume digits, dots and colons only.  A text with
any other character, such as the zone of a link-local address, is not the
address of a host.
-/

namespace Cortado.Net

namespace Reader

/-- A character an address can have. -/
def addrChar (c : Char) : Prop :=
  (digitValue 16 c).isSome = true ∨ c = '.' ∨ c = ':'

/-- The first text ends in the second, after characters of addresses. -/
def Reads (text rest : List Char) : Prop :=
  ∃ used, text = used ++ rest ∧ ∀ c ∈ used, addrChar c

/-- The reader consumes characters of addresses only. -/
def Strict (reader : Reader α) : Prop :=
  ∀ text value rest, reader text = some (value, rest) → Reads text rest

theorem Reads.refl (text : List Char) : Reads text text := by
  refine ⟨[], rfl, ?_⟩
  intro c member
  cases member

theorem Reads.cons {c : Char} (isAddr : addrChar c) {text rest : List Char}
    (reads : Reads text rest) : Reads (c :: text) rest := by
  obtain ⟨used, rfl, areAddr⟩ := reads
  refine ⟨c :: used, rfl, ?_⟩
  intro other member
  rcases List.mem_cons.mp member with rfl | later
  · exact isAddr
  · exact areAddr other later

theorem Reads.trans {text middle rest : List Char}
    (first : Reads text middle) (second : Reads middle rest) :
    Reads text rest := by
  obtain ⟨used, rfl, areAddr⟩ := first
  obtain ⟨more, rfl, alsoAddr⟩ := second
  refine ⟨used ++ more, (List.append_assoc _ _ _).symm, ?_⟩
  intro c member
  rcases List.mem_append.mp member with before | after
  · exact areAddr c before
  · exact alsoAddr c after

theorem addrChar_of_digit {radix : Nat} (small : radix ≤ 16) {c : Char}
    {digit : Nat} (isDigit : digitValue radix c = some digit) :
    addrChar c := by
  left
  unfold digitValue at isDigit ⊢
  obtain ⟨value, isBelow⟩ := Option.filter_eq_some_iff.mp isDigit
  rw [value, Option.filter_some_pos]
  · rfl
  · simp only [decide_eq_true_eq] at isBelow ⊢
    omega

theorem reads_spanDigits {radix : Nat} (small : radix ≤ 16)
    (text : List Char) : Reads text (spanDigits radix text).2 := by
  induction text with
  | nil => exact Reads.refl []
  | cons c text induction =>
      unfold spanDigits
      cases isDigit : digitValue radix c with
      | none => exact Reads.refl _
      | some digit => exact induction.cons (addrChar_of_digit small isDigit)

theorem strict_number {radix : Nat} (small : radix ≤ 16)
    (maxDigits : Option Nat) (allowZeroPrefix : Bool) (bound : Nat) :
    Strict (number radix maxDigits allowZeroPrefix bound) := by
  intro text value rest read
  have reads := reads_spanDigits small text
  unfold number at read
  dsimp only at read
  split at read
  · cases read
  · split at read
    · cases read
    · split at read
      · cases read
      · split at read
        · cases read
          exact reads
        · cases read

theorem strict_givenChar {target : Char} (isAddr : addrChar target) :
    Strict (givenChar target) := by
  intro text value rest read
  cases text with
  | nil => cases read
  | cons c text =>
      simp only [givenChar] at read
      split at read
      · rename_i same
        cases read
        rw [same]
        exact (Reads.refl _).cons isAddr
      · cases read

theorem Strict.separator {sep : Char} (isAddr : addrChar sep)
    {inner : Reader α} (strict : Strict inner) (index : Nat) :
    Strict (separator sep index inner) := by
  intro text value rest read
  unfold Reader.separator at read
  split at read
  · exact strict text value rest read
  · obtain ⟨⟨_, middle⟩, first, second⟩ := Option.bind_eq_some_iff.mp read
    exact (strict_givenChar isAddr _ _ _ first).trans
      (strict _ _ _ second)

theorem strict_ipv4Octet (index : Nat) : Strict (ipv4Octet index) :=
  (strict_number (by decide) _ _ _).separator (Or.inr (Or.inl rfl)) index

theorem strict_ipv4Addr : Strict ipv4Addr := by
  intro text value rest read
  unfold ipv4Addr at read
  obtain ⟨⟨a, afterA⟩, readA, read⟩ := Option.bind_eq_some_iff.mp read
  obtain ⟨⟨b, afterB⟩, readB, read⟩ := Option.bind_eq_some_iff.mp read
  obtain ⟨⟨c, afterC⟩, readC, read⟩ := Option.bind_eq_some_iff.mp read
  obtain ⟨⟨d, afterD⟩, readD, read⟩ := Option.bind_eq_some_iff.mp read
  cases read
  exact (strict_ipv4Octet 0 _ _ _ readA).trans
    ((strict_ipv4Octet 1 _ _ _ readB).trans
      ((strict_ipv4Octet 2 _ _ _ readC).trans
        (strict_ipv4Octet 3 _ _ _ readD)))

theorem reads_groups (limit left index : Nat) (text : List Char) :
    Reads text (groups limit left index text).2.2 := by
  induction left generalizing index text with
  | zero => exact Reads.refl text
  | succ left induction =>
      have colon : addrChar ':' := Or.inr (Or.inr rfl)
      unfold groups
      dsimp only
      split
      · rename_i addr rest embedded
        split at embedded
        · exact strict_ipv4Addr.separator colon index _ _ _ embedded
        · cases embedded
      · split
        · rename_i group rest read
          have first := (strict_number (by decide) _ _ _).separator colon
            index _ _ _ read
          exact first.trans (induction (index + 1) rest)
        · exact Reads.refl text

theorem strict_ipv6Addr : Strict ipv6Addr := by
  intro text value rest read
  have colon : addrChar ':' := Or.inr (Or.inr rfl)
  have head := reads_groups 8 8 0 text
  unfold ipv6Addr at read
  dsimp only at read
  split at read
  · cases read
    exact head
  · split at read
    · cases read
    · obtain ⟨⟨_, afterFirst⟩, first, read⟩ := Option.bind_eq_some_iff.mp read
      obtain ⟨⟨_, afterSecond⟩, second, read⟩ :=
        Option.bind_eq_some_iff.mp read
      cases read
      exact head.trans ((strict_givenChar colon _ _ _ first).trans
        ((strict_givenChar colon _ _ _ second).trans
          (reads_groups _ _ 0 afterSecond)))

theorem strict_ipAddr : Strict ipAddr := by
  intro text value rest read
  unfold ipAddr at read
  split at read
  · rename_i addr middle isV4
    cases read
    exact strict_ipv4Addr _ _ _ isV4
  · obtain ⟨⟨addr, middle⟩, isV6, read⟩ := Option.map_eq_some_iff.mp read
    cases read
    exact strict_ipv6Addr _ _ _ isV6

end Reader

/-- A text with a foreign character is no address. -/
theorem IpAddr.parse?_eq_none {text : String} {c : Char}
    (member : c ∈ text.toList) (foreign : ¬Reader.addrChar c) :
    IpAddr.parse? text = none := by
  by_contra parsed
  obtain ⟨addr, parsed⟩ := Option.ne_none_iff_exists'.mp parsed
  unfold IpAddr.parse? Reader.whole at parsed
  split at parsed
  · rename_i value read
    obtain ⟨used, whole, areAddr⟩ := Reader.strict_ipAddr _ _ _ read
    rw [whole, List.append_nil] at member
    exact foreign (areAddr c member)
  · cases parsed

end Cortado.Net
