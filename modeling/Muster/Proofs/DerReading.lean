import Muster.Bytes.Der
import Muster.Proofs.OctetDigits
/-!
Every DER element has one text: what is read off the head of some octets is the element, written out,
and whatever follows it. A length must be below 2^28, which all elements of a key stay far away from.
-/
namespace Muster.Bytes.Der

/-- Contents short enough to be read. -/
def Fits (contents : List UInt8) : Prop :=
  contents.length < Nat.pow 2 28

/-- A length from 128 on takes one octet for the count of its octets. -/
theorem encodeLength_of_le {n : Nat} (hn : 128 ≤ n) :
    encodeLength n = UInt8.ofNat (0x80 + width n) :: ofNat n := by
  rw [encodeLength, if_neg (Nat.not_lt.2 hn)]

theorem encodeLength_of_lt {n : Nat} (hn : n < 128) : encodeLength n = [UInt8.ofNat n] := by
  rw [encodeLength, if_pos hn]

theorem width_le_of_length {n : Nat} (hn : n < Nat.pow 2 28) : width n ≤ 4 := by
  apply width_le
  change n < 4294967296
  change n < 268435456 at hn
  omega

theorem takeLength?_encodeLength {n : Nat} (hn : n < Nat.pow 2 28) (rest : List UInt8) :
    takeLength? (encodeLength n ++ rest) = some (n, rest) := by
  by_cases hshort : n < 128
  · have hoctet : (UInt8.ofNat n).toNat = n := UInt8.toNat_ofNat_of_lt' (by change n < 256; omega)
    have hlow : UInt8.ofNat n < 0x80 := by
      rw [UInt8.lt_iff_toNat_lt, hoctet]
      exact hshort
    rw [encodeLength_of_lt hshort, List.singleton_append, takeLength?, if_pos hlow, hoctet]
  · have hlong := Nat.not_lt.1 hshort
    have hwidth := width_le_of_length hn
    have hpos : 0 < width n := width_pos (by omega)
    have hoctet : (UInt8.ofNat (0x80 + width n)).toNat = 0x80 + width n :=
      UInt8.toNat_ofNat_of_lt' (by change 0x80 + width n < 256; omega)
    have hhigh : ¬ UInt8.ofNat (0x80 + width n) < 0x80 := by
      rw [UInt8.lt_iff_toNat_lt, hoctet]
      exact Nat.not_lt.2 (Nat.le_add_right 0x80 _)
    have hcount : 0x80 + width n - 0x80 = (ofNat n).length := Nat.add_sub_cancel_left 0x80 _
    have hsane : ¬ ((ofNat n).length = 0 ∨ 4 < (ofNat n).length ∨
        (ofNat n).length ≠ (ofNat n).length ∨ Nat.pow 2 28 ≤ n) := by
      change 0 < (ofNat n).length at hpos
      change (ofNat n).length ≤ 4 at hwidth
      omega
    rw [encodeLength_of_le hlong, List.cons_append, takeLength?, if_neg hhigh]
    simp only [hoctet, hcount, List.take_left, List.drop_left, toNat_ofNat, hsane,
      encodeLength_of_le hlong, ↓reduceIte]

theorem eq_of_takeLength? {bytes rest : List UInt8} {n : Nat}
    (hread : takeLength? bytes = some (n, rest)) :
    bytes = encodeLength n ++ rest ∧ n < Nat.pow 2 28 := by
  cases bytes with
  | nil => cases hread
  | cons first tail =>
      rw [takeLength?] at hread
      split at hread
      · next hlow =>
          cases hread
          have hshort : first.toNat < 128 := UInt8.lt_iff_toNat_lt.1 hlow
          refine ⟨?_, Nat.lt_trans hshort (by decide)⟩
          rw [encodeLength_of_lt hshort, UInt8.ofNat_toNat, List.singleton_append]
      · dsimp only at hread
        split at hread
        · cases hread
        · next hsane =>
            have hsize : toNat (tail.take (first.toNat - 0x80)) < Nat.pow 2 28 :=
              Nat.lt_of_not_le fun hlarge => hsane (Or.inr (Or.inr (Or.inr hlarge)))
            split at hread
            · next hwritten =>
                obtain ⟨rfl, rfl⟩ := Prod.mk.inj (Option.some.inj hread)
                refine ⟨?_, hsize⟩
                rw [hwritten, List.cons_append, List.take_append_drop]
            · cases hread

/-- A length is read exactly where it stands in its one form. -/
theorem takeLength?_eq_some_iff {bytes rest : List UInt8} {n : Nat} :
    takeLength? bytes = some (n, rest) ↔ bytes = encodeLength n ++ rest ∧ n < Nat.pow 2 28 := by
  constructor
  · exact eq_of_takeLength?
  · rintro ⟨rfl, hn⟩
    exact takeLength?_encodeLength hn rest

theorem element_append (tag : UInt8) (contents rest : List UInt8) :
    element tag contents ++ rest = tag :: (encodeLength contents.length ++ (contents ++ rest)) := by
  rw [element, List.append_assoc, List.cons_append]

/-- An element of any kind is read off the head of some octets exactly where it stands there. -/
theorem takeAny?_eq_some_iff {bytes contents rest : List UInt8} {tag : UInt8} :
    takeAny? bytes = some (tag, contents, rest) ↔
      bytes = element tag contents ++ rest ∧ Fits contents := by
  cases bytes with
  | nil =>
      constructor
      · intro hread
        cases hread
      · rintro ⟨hempty, -⟩
        rw [element_append] at hempty
        cases hempty
  | cons first tail =>
      simp only [takeAny?, Option.bind_eq_bind, Option.bind_eq_some_iff, Prod.exists]
      constructor
      · rintro ⟨n, behind, hlength, hread⟩
        obtain ⟨rfl, hn⟩ := takeLength?_eq_some_iff.1 hlength
        split at hread
        · cases hread
        · next henough =>
            cases hread
            have htake : (behind.take n).length = n :=
              List.length_take_of_le (Nat.not_lt.1 henough)
            refine ⟨?_, ?_⟩
            · rw [element_append, htake, List.take_append_drop]
            · rw [Fits, htake]
              exact hn
      · rintro ⟨hbytes, hfits⟩
        rw [element_append, List.cons.injEq] at hbytes
        obtain ⟨rfl, rfl⟩ := hbytes
        refine ⟨contents.length, contents ++ rest, takeLength?_encodeLength hfits _, ?_⟩
        rw [if_neg (by rw [List.length_append]; omega), List.take_left, List.drop_left]

/-- An element is read off the head of some octets exactly where it stands there. -/
theorem take?_eq_some_iff {bytes contents rest : List UInt8} {tag : UInt8} :
    take? tag bytes = some (contents, rest) ↔
      bytes = element tag contents ++ rest ∧ Fits contents := by
  rw [← takeAny?_eq_some_iff]
  simp only [take?, Option.bind_eq_bind, Option.bind_eq_some_iff, Prod.exists]
  constructor
  · rintro ⟨found, inside, behind, hread, hsame⟩
    split at hsame
    · next htag =>
        cases hsame
        rw [← htag]
        exact hread
    · cases hsame
  · intro hread
    exact ⟨tag, contents, rest, hread, if_pos rfl⟩

/-- An element that is all of the octets. -/
theorem whole?_eq_some_iff {bytes contents : List UInt8} {tag : UInt8} :
    whole? tag bytes = some contents ↔ bytes = element tag contents ∧ Fits contents := by
  have hread := @take?_eq_some_iff bytes contents [] tag
  rw [List.append_nil] at hread
  rw [← hread]
  simp only [whole?, Option.bind_eq_bind, Option.bind_eq_some_iff, Prod.exists]
  constructor
  · rintro ⟨inside, behind, htake, hsame⟩
    split at hsame
    · next hempty =>
        cases hsame
        rw [htake, List.isEmpty_iff.1 hempty]
    · cases hsame
  · intro htake
    exact ⟨contents, [], htake, rfl⟩

/-- The contents of an integer are its octets, or these behind a zero. -/
theorem naturalContents_cases (n : Nat) :
    naturalContents n = ofNat n ∨ naturalContents n = 0 :: ofNat n := by
  rw [naturalContents]
  cases hdigits : ofNat n with
  | nil => exact Or.inr rfl
  | cons first rest =>
      by_cases hlow : first < 0x80
      · exact Or.inl (if_pos hlow)
      · exact Or.inr (if_neg hlow)

theorem toNat_naturalContents (n : Nat) : toNat (naturalContents n) = n := by
  rcases naturalContents_cases n with hsame | hzero
  · rw [hsame, toNat_ofNat]
  · rw [hzero, toNat_cons, toNat_ofNat]
    exact Nat.zero_mul _ ▸ Nat.zero_add n

theorem length_naturalContents_le (n : Nat) : (naturalContents n).length ≤ width n + 1 := by
  rcases naturalContents_cases n with hsame | hzero
  · rw [hsame]
    exact Nat.le_succ _
  · rw [hzero]
    exact Nat.le_refl _

/-- An integer is read off the head of some octets exactly where it stands there. -/
theorem takeNatural?_eq_some_iff {bytes rest : List UInt8} {n : Nat} :
    takeNatural? bytes = some (n, rest) ↔
      bytes = natural n ++ rest ∧ Fits (naturalContents n) := by
  rw [natural, ← take?_eq_some_iff]
  simp only [takeNatural?, Option.bind_eq_bind, Option.bind_eq_some_iff, Prod.exists]
  constructor
  · rintro ⟨contents, behind, htake, hsame⟩
    split at hsame
    · next hwritten =>
        cases hsame
        rw [hwritten]
        exact htake
    · cases hsame
  · intro htake
    refine ⟨naturalContents n, rest, htake, ?_⟩
    rw [toNat_naturalContents, if_pos rfl]

theorem bitStringOctets?_eq_some_iff {bytes octets : List UInt8} :
    bitStringOctets? bytes = some octets ↔ bytes = 0 :: octets := by
  cases bytes with
  | nil => simp [bitStringOctets?]
  | cons first rest =>
      by_cases hfirst : first = 0
      · simp [bitStringOctets?, hfirst]
      · rw [bitStringOctets?]
        · simp [hfirst]
        · rintro _ ⟨⟩
          exact hfirst rfl

/-- What an element that fits holds fits too, and so do the parts that it is made of. -/
theorem Fits.of_element {contents : List UInt8} {tag : UInt8}
    (hfits : Fits (element tag contents)) : Fits contents := by
  rw [Fits, element, List.length_append] at hfits
  exact Nat.lt_of_le_of_lt (Nat.le_add_left _ _) hfits

theorem Fits.of_append {front behind : List UInt8} (hfits : Fits (front ++ behind)) :
    Fits front ∧ Fits behind := by
  rw [Fits, List.length_append] at hfits
  exact ⟨Nat.lt_of_le_of_lt (Nat.le_add_right _ _) hfits,
    Nat.lt_of_le_of_lt (Nat.le_add_left _ _) hfits⟩

theorem length_encodeLength_le {n : Nat} (hn : n < Nat.pow 2 28) : (encodeLength n).length ≤ 5 := by
  by_cases hshort : n < 128
  · rw [encodeLength_of_lt hshort]
    exact Nat.le_add_left 1 4
  · rw [encodeLength_of_le (Nat.not_lt.1 hshort)]
    exact Nat.succ_le_succ (width_le_of_length hn)

theorem length_element_le {contents : List UInt8} (hfits : Fits contents) (tag : UInt8) :
    (element tag contents).length ≤ contents.length + 6 := by
  have hlength := length_encodeLength_le hfits
  rw [element, List.length_append, List.length_cons]
  omega

end Muster.Bytes.Der
