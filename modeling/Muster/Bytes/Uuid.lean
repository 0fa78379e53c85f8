import Muster.Bytes.Entropy
import Muster.Text.Hexadecimal
/-!
Random identifiers: 16 octets with the version and variant bits of a random UUID. They are written in
hexadecimal, either in five groups or without any hyphen.
-/
namespace Muster.Bytes.Uuid

/-- The octets with the bits that mark a random identifier. -/
def mark (octets : List UInt8) : List UInt8 :=
  octets.zipIdx.map fun (b, i) =>
    if i = 6 then b &&& 0x0F ||| 0x40 else if i = 8 then b &&& 0x3F ||| 0x80 else b

def fresh (source : Entropy) : List UInt8 × Entropy :=
  let (octets, source) := source.octets 16
  (mark octets, source)

def digits (octets : List UInt8) : List Char :=
  octets.flatMap Text.octetDigits

def simpleText (octets : List UInt8) : String :=
  String.ofList (digits octets)

/-- An identifier in groups of 8, 4, 4, 4 and 12 digits. -/
def text (octets : List UInt8) : String :=
  let ds := digits octets
  String.ofList (ds.take 8 ++ '-' :: (ds.drop 8).take 4 ++ '-' :: (ds.drop 12).take 4 ++
    '-' :: (ds.drop 16).take 4 ++ '-' :: ds.drop 20)

theorem length_fresh (source : Entropy) : (fresh source).1.length = 16 := by
  change (mark (source.octets 16).1).length = 16
  rw [mark, List.length_map, List.length_zipIdx, Entropy.length_octets]

/-- What holds of the sixteen digits holds of all digits of an identifier. -/
theorem digits_forall {property : Char → Prop}
    (hdigit : ∀ digit : Fin 16, property (Nat.digitChar digit)) (octets : List UInt8) :
    ∀ c ∈ digits octets, property c := by
  intro c hc
  obtain ⟨octet, -, hmem⟩ := List.mem_flatMap.1 hc
  have hoctet := octet.toNat_lt
  simp only [Text.octetDigits, List.mem_cons, List.not_mem_nil, or_false] at hmem
  rcases hmem with rfl | rfl
  · exact hdigit ⟨octet.toNat / 16, by omega⟩
  · exact hdigit ⟨octet.toNat % 16, by omega⟩

/-- In groups there are hyphens as well. -/
theorem text_forall {property : Char → Prop}
    (hdigit : ∀ digit : Fin 16, property (Nat.digitChar digit)) (hhyphen : property '-')
    (octets : List UInt8) : ∀ c ∈ (text octets).toList, property c := by
  have hdigits := digits_forall hdigit octets
  intro c hc
  simp only [text, String.toList_ofList, List.mem_append, List.mem_cons] at hc
  rcases hc with (((hc | rfl | hc) | rfl | hc) | rfl | hc) | rfl | hc
  · exact hdigits c (List.mem_of_mem_take hc)
  · exact hhyphen
  · exact hdigits c (List.mem_of_mem_drop (List.mem_of_mem_take hc))
  · exact hhyphen
  · exact hdigits c (List.mem_of_mem_drop (List.mem_of_mem_take hc))
  · exact hhyphen
  · exact hdigits c (List.mem_of_mem_drop (List.mem_of_mem_take hc))
  · exact hhyphen
  · exact hdigits c (List.mem_of_mem_drop hc)

end Muster.Bytes.Uuid
