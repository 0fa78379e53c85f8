/-!
Blank characters are those with the Unicode property White_Space, which is wider than the ASCII
blanks and does not hold the zero-width ones. Trimming removes them at both ends of a text.
-/
namespace Muster.Text

def isBlank (c : Char) : Bool :=
  let n := c.toNat
  (0x9 ≤ n && n ≤ 0xD) || n == 0x20 || n == 0x85 || n == 0xA0 || n == 0x1680 ||
    (0x2000 ≤ n && n ≤ 0x200A) || n == 0x2028 || n == 0x2029 || n == 0x202F || n == 0x205F ||
    n == 0x3000

/-- The characters from the first one that is not blank. -/
def dropBlank (cs : List Char) : List Char :=
  cs.dropWhile isBlank

/-- The characters up to the last one that is not blank. -/
def dropBlankEnd (cs : List Char) : List Char :=
  (dropBlank cs.reverse).reverse

def trim (s : String) : String :=
  String.ofList (dropBlankEnd (dropBlank s.toList))

/-- A text of blank characters only, among them the empty one. -/
def isBlankText (s : String) : Bool :=
  s.toList.all isBlank

theorem dropBlank_idem (cs : List Char) : dropBlank (dropBlank cs) = dropBlank cs := by
  induction cs with
  | nil => rfl
  | cons c rest ih =>
      by_cases h : isBlank c
      · simpa [dropBlank, h] using ih
      · simp [dropBlank, h]

theorem dropBlank_cons {c : Char} (hc : isBlank c = false) (rest : List Char) :
    dropBlank (c :: rest) = c :: rest := by
  rw [dropBlank, List.dropWhile_cons_of_neg (by simp [hc])]

theorem dropBlank_eq_self {chars : List Char} (hchars : ∀ c ∈ chars, isBlank c = false) :
    dropBlank chars = chars := by
  cases chars with
  | nil => rfl
  | cons c rest => exact dropBlank_cons (hchars c List.mem_cons_self) rest

theorem trim_eq_self {text : String} (htext : ∀ c ∈ text.toList, isBlank c = false) :
    trim text = text := by
  have hreverse : ∀ c ∈ text.toList.reverse, isBlank c = false := fun c hc =>
    htext c (List.mem_reverse.1 hc)
  rw [trim, dropBlank_eq_self htext, dropBlankEnd, dropBlank_eq_self hreverse,
    List.reverse_reverse, String.ofList_toList]

theorem isBlank_of_visible {c : Char} (hlow : 0x21 ≤ c.toNat) (hhigh : c.toNat ≤ 0x7E) :
    isBlank c = false := by
  simp only [isBlank, Bool.or_eq_false_iff, Bool.and_eq_false_iff, decide_eq_false_iff_not,
    beq_eq_false_iff_ne]
  omega

end Muster.Text
