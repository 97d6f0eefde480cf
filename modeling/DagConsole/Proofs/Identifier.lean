import DagConsole.Identifier
import DagConsole.Proofs.Json.Restoring
import DagConsole.Proofs.Text.Numeral

/-! Identifiers are read back from their canonical text, however they were spelled before. -/
namespace DagConsole

namespace Id

variable {kind : IdKind}

/-- Five groups of digits with hyphens between them are read as the digits of all groups. -/
theorem ofHyphenated?_groups {a b c d e : List Char} (first : a.length = 8) (second : b.length = 4)
    (third : c.length = 4) (fourth : d.length = 4) (fifth : e.length = 12) :
    (ofHyphenated? (a ++ '-' :: b ++ '-' :: c ++ '-' :: d ++ '-' :: e) : Option (Id kind)) =
      ofDigits? (a ++ b ++ c ++ d ++ e) := by
  simp [ofHyphenated?, List.drop_append, List.getElem?_append, first, second, third, fourth, fifth,
    List.drop_eq_nil_of_le]

theorem ofDigits?_hexDigits (id : Id kind) : ofDigits? (Text.hexDigits 32 id.bits.toNat) = some id := by
  have fits : id.bits.toNat < 16 ^ 32 := id.bits.isLt
  rw [ofDigits?, if_pos (Text.length_hexDigits _ _), Text.hexNumber?_hexDigits fits, Option.map_some,
    BitVec.ofNat_toNat, BitVec.setWidth_eq]

/-- Taken apart, the digits are all there. -/
theorem groups_append {digits : List Char} (length : digits.length = 32) :
    (digits.drop 0).take 8 ++ (digits.drop 8).take 4 ++ (digits.drop 12).take 4 ++ (digits.drop 16).take 4 ++
      (digits.drop 20).take 12 = digits := by
  simp only [List.drop_zero, ← List.take_add, Nat.reduceAdd]
  exact List.take_of_length_le (Nat.le_of_eq length)

theorem ofText?_text (id : Id kind) : ofText? id.text = some id := by
  have digits := Text.length_hexDigits 32 id.bits.toNat
  have group {start count : Nat} (inside : start + count ≤ 32) :
      (((Text.hexDigits 32 id.bits.toNat).drop start).take count).length = count := by
    rw [List.length_take, List.length_drop, digits]
    omega
  have read : (ofHyphenated? _ : Option (Id kind)) = _ :=
    ofHyphenated?_groups (group (by decide : 0 + 8 ≤ 32)) (group (by decide : 8 + 4 ≤ 32))
      (group (by decide : 12 + 4 ≤ 32)) (group (by decide : 16 + 4 ≤ 32)) (group (by decide : 20 + 12 ≤ 32))
  rw [groups_append digits, ofDigits?_hexDigits] at read
  have length : id.text.toList.length = 36 := by simp [text, digits]
  simp only [ofText?, length]
  rw [text, String.toList_ofList]
  exact read

theorem restores : Restores (@decode kind) toJson := fun _ id _ => ofText?_text id

end Id

theorem FinMap.restores {kind : IdKind} {α : Type} {decode : Decoder α} {encode : α → Json}
    (values : Restores decode encode) :
    Restores (Decoder.map Id.ofText? decode) fun m : FinMap (Id kind) α => m.toJson encode :=
  Decoder.map_restores Id.ofText?_text values

end DagConsole
