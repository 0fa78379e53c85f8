import Mathlib.Data.List.TakeWhile
import Muster.Text.Blank
/-!
What trimming takes away. Every text is the trimmed one with blanks around it, and blanks that are put
around a text are taken away again, together with those that stood there before.
-/
namespace Muster.Text

/-- Blanks to be put around a text. -/
structure Padding where
  before : String
  behind : String
  blank_before : isBlankText before = true
  blank_behind : isBlankText behind = true

/-- The text with the blanks around it. -/
def Padding.around (padding : Padding) (text : String) : String :=
  padding.before ++ text ++ padding.behind

theorem isBlankText_iff (text : String) :
    isBlankText text = true ↔ ∀ c ∈ text.toList, isBlank c = true :=
  List.all_eq_true

section Characters

variable {blanks : List Char}

theorem dropBlank_eq_nil_iff (cs : List Char) : dropBlank cs = [] ↔ ∀ c ∈ cs, isBlank c = true :=
  List.dropWhile_eq_nil_iff

theorem dropBlank_append_left (hblanks : ∀ c ∈ blanks, isBlank c = true) (chars : List Char) :
    dropBlank (blanks ++ chars) = dropBlank chars :=
  List.dropWhile_append_of_pos hblanks

theorem dropBlankEnd_append_right (hblanks : ∀ c ∈ blanks, isBlank c = true) (chars : List Char) :
    dropBlankEnd (chars ++ blanks) = dropBlankEnd chars := by
  have hreverse : ∀ c ∈ blanks.reverse, isBlank c = true := fun c hc =>
    hblanks c (List.mem_reverse.1 hc)
  rw [dropBlankEnd, List.reverse_append, dropBlank_append_left hreverse, dropBlankEnd]

/-- If nothing but blanks stands in front, all of it goes at once; else the front is trimmed alone. -/
theorem dropBlankEnd_dropBlank_append (hblanks : ∀ c ∈ blanks, isBlank c = true)
    (chars : List Char) :
    dropBlankEnd (dropBlank (chars ++ blanks)) = dropBlankEnd (dropBlank chars) := by
  have hnone : dropBlank blanks = [] := (dropBlank_eq_nil_iff blanks).2 hblanks
  have happend : dropBlank (chars ++ blanks) =
      if (dropBlank chars).isEmpty then dropBlank blanks else dropBlank chars ++ blanks :=
    List.dropWhile_append
  rw [happend]
  split
  · next hempty => rw [hnone, List.isEmpty_iff.1 hempty]
  · exact dropBlankEnd_append_right hblanks _

theorem exists_blanks_dropBlank (chars : List Char) :
    ∃ blanks, (∀ c ∈ blanks, isBlank c = true) ∧ blanks ++ dropBlank chars = chars :=
  ⟨chars.takeWhile isBlank, fun _ hc => List.mem_takeWhile_imp hc,
    List.takeWhile_append_dropWhile⟩

theorem exists_dropBlankEnd_blanks (chars : List Char) :
    ∃ blanks, (∀ c ∈ blanks, isBlank c = true) ∧ dropBlankEnd chars ++ blanks = chars := by
  obtain ⟨blanks, hblanks, hchars⟩ := exists_blanks_dropBlank chars.reverse
  refine ⟨blanks.reverse, fun c hc => hblanks c (List.mem_reverse.1 hc), ?_⟩
  rw [dropBlankEnd, ← List.reverse_append, hchars, List.reverse_reverse]

end Characters

@[simp] theorem trim_around (padding : Padding) (text : String) :
    trim (padding.around text) = trim text := by
  have hbefore := (isBlankText_iff _).1 padding.blank_before
  have hbehind := (isBlankText_iff _).1 padding.blank_behind
  have hchars : (padding.around text).toList =
      padding.before.toList ++ (text.toList ++ padding.behind.toList) := by
    rw [Padding.around, String.toList_append, String.toList_append, List.append_assoc]
  rw [trim, hchars, dropBlank_append_left hbefore, dropBlankEnd_dropBlank_append hbehind, trim]

/-- Every text is what is left of it by trimming, with blanks around it. -/
theorem exists_around_trim (text : String) :
    ∃ padding : Padding, padding.around (trim text) = text := by
  obtain ⟨before, hbefore, hfront⟩ := exists_blanks_dropBlank text.toList
  obtain ⟨behind, hbehind, hmiddle⟩ := exists_dropBlankEnd_blanks (dropBlank text.toList)
  refine ⟨⟨String.ofList before, String.ofList behind, ?_, ?_⟩, ?_⟩
  · rwa [isBlankText_iff, String.toList_ofList]
  · rwa [isBlankText_iff, String.toList_ofList]
  · rw [Padding.around, trim, ← String.ofList_append, ← String.ofList_append, List.append_assoc,
      hmiddle, hfront, String.ofList_toList]

theorem trim_trim (text : String) : trim (trim text) = trim text := by
  obtain ⟨padding, htext⟩ := exists_around_trim text
  calc trim (trim text) = trim (padding.around (trim text)) := (trim_around padding _).symm
    _ = trim text := by rw [htext]

theorem utf8ByteSize_trim_le (text : String) : (trim text).utf8ByteSize ≤ text.utf8ByteSize := by
  obtain ⟨padding, htext⟩ := exists_around_trim text
  have hsize := congrArg String.utf8ByteSize htext
  rw [Padding.around, String.utf8ByteSize_append, String.utf8ByteSize_append] at hsize
  omega

theorem trim_eq_empty_iff (text : String) : trim text = "" ↔ isBlankText text = true := by
  rw [trim, String.ofList_eq_empty_iff, dropBlankEnd, List.reverse_eq_nil_iff,
    dropBlank_eq_nil_iff, isBlankText_iff]
  simp only [List.mem_reverse]
  rw [← dropBlank_eq_nil_iff, dropBlank_idem, dropBlank_eq_nil_iff]

theorem trim_ne_empty_iff (text : String) : trim text ≠ "" ↔ isBlankText text = false := by
  rw [Ne, trim_eq_empty_iff, Bool.not_eq_true]

theorem ne_empty_of_not_blank {text : String} (htext : isBlankText text = false) : text ≠ "" := by
  rintro rfl
  cases htext

theorem isBlankText_around (padding : Padding) (text : String) :
    isBlankText (padding.around text) = isBlankText text := by
  rw [Bool.eq_iff_iff, ← trim_eq_empty_iff, trim_around, trim_eq_empty_iff]

/-- Two texts are one text but for the blanks around it. -/
def PaddingApart (left right : String) : Prop :=
  ∃ (text : String) (padding other : Padding), left = padding.around text ∧ right = other.around text

theorem paddingApart_iff (left right : String) :
    PaddingApart left right ↔ trim left = trim right := by
  constructor
  · rintro ⟨text, padding, other, rfl, rfl⟩
    rw [trim_around, trim_around]
  · intro hsame
    obtain ⟨padding, hleft⟩ := exists_around_trim left
    obtain ⟨other, hright⟩ := exists_around_trim right
    exact ⟨trim left, padding, other, hleft.symm, by rw [hsame, hright]⟩

end Muster.Text
