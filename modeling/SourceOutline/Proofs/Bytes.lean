import Mathlib.Data.List.Basic
import Mathlib.Order.Basic
import SourceOutline.Text

/-! The order of texts by characters is their order by bytes: the encoding of a greater character is
greater, and never only a continuation of a smaller one. -/
namespace SourceOutline.Text

def bytes (s : String) : List UInt8 := s.toUTF8.data.toList

theorem bytes_eq (s : String) : bytes s = s.toList.flatMap String.utf8EncodeChar := by
  have encoded : s.toUTF8 = s.toList.utf8Encode := by
    conv_lhs => rw [← String.ofList_toList (s := s)]
    exact String.toByteArray_ofList
  rw [bytes, encoded, List.utf8Encode, List.toList_data_toByteArray]

/-- Two byte texts in order: the first bytes are in order, and if they are equal the rests are. -/
theorem cons_lt_cons {a b : Nat} {s t : List UInt8} (bound : b < 256) (le : a ≤ b)
    (rest : a = b → s < t) : UInt8.ofNat a :: s < UInt8.ofNat b :: t := by
  rw [List.cons_lt_cons_iff]
  rcases Nat.lt_or_eq_of_le le with less | rfl
  · left
    rw [UInt8.lt_iff_toNat_lt, UInt8.toNat_ofNat', UInt8.toNat_ofNat']
    omega
  · exact .inr ⟨rfl, rest rfl⟩

theorem encode_lt_encode {c d : Char} (less : c < d) (s t : List UInt8) :
    String.utf8EncodeChar c ++ s < String.utf8EncodeChar d ++ t := by
  have codes : c.val.toNat < d.val.toNat := less
  have bound : d.val.toNat < 1114112 := by
    have := d.valid
    grind
  simp only [String.utf8EncodeChar]
  generalize c.val.toNat = m at codes
  generalize d.val.toNat = n at codes bound
  split_ifs
  all_goals simp only [List.cons_append, List.nil_append]
  all_goals try omega
  -- A longer encoding has a greater first byte; of two as long, some byte is the first to differ.
  all_goals refine cons_lt_cons (by omega) (by omega) fun same => ?_
  all_goals try omega
  all_goals refine cons_lt_cons (by omega) (by omega) fun same => ?_
  all_goals try omega
  all_goals refine cons_lt_cons (by omega) (by omega) fun same => ?_
  all_goals try omega
  all_goals refine cons_lt_cons (by omega) (by omega) fun same => ?_
  all_goals omega

theorem encodeAll_lt {cs ds : List Char} (less : cs < ds) :
    cs.flatMap String.utf8EncodeChar < ds.flatMap String.utf8EncodeChar := by
  induction ds generalizing cs with
  | nil => exact absurd less (List.not_lt_nil cs)
  | cons d ds ih =>
    cases cs with
    | nil =>
      rw [List.flatMap_nil, List.flatMap_cons]
      cases first : String.utf8EncodeChar d with
      | nil => exact absurd first String.utf8EncodeChar_ne_nil
      | cons b bs => exact List.nil_lt_cons b _
    | cons c cs =>
      rw [List.flatMap_cons, List.flatMap_cons]
      rcases List.cons_lt_cons_iff.mp less with first | ⟨rfl, rest⟩
      · exact encode_lt_encode first _ _
      · exact List.append_left_lt (ih rest)

theorem bytes_lt_bytes {s t : String} (less : s < t) : bytes s < bytes t := by
  rw [bytes_eq, bytes_eq]
  exact encodeAll_lt less

end SourceOutline.Text
