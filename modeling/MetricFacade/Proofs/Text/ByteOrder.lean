import Mathlib.Data.String.Basic

/-!
# Texts by their bytes

Texts are compared by code points. UTF-8 keeps that order: of two code points the smaller one
has the smaller bytes, and no character's bytes begin another's. So comparing the bytes of two
texts comes to the same.

Results:

* `utf8EncodeChar_append_lt`: whatever follows, the smaller character has the smaller bytes.
* `bytes_lt_iff`: the order of texts is the order of their bytes.
-/
namespace MetricFacade.Text

/-- The bytes of a text in UTF-8. -/
def bytes (s : String) : List UInt8 :=
  s.toUTF8.data.toList

theorem bytes_eq (s : String) : bytes s = s.toList.flatMap String.utf8EncodeChar := by
  have hbytes : s.toUTF8 = (String.ofList s.toList).toByteArray := by
    rw [String.ofList_toList]
    rfl
  rw [bytes, hbytes, String.toByteArray_ofList, List.utf8Encode, List.data_toByteArray]

theorem byte_cons_lt {a b : UInt8} {xs ys : List UInt8} :
    a :: xs < b :: ys ↔ a.toNat < b.toNat ∨ a.toNat = b.toNat ∧ xs < ys := by
  rw [List.cons_lt_cons_iff, UInt8.lt_iff_toNat_lt, ← UInt8.toNat_inj]

/-- Where both characters take equally many bytes, the first that differs decides; where they do
not, the first byte does. -/
theorem utf8EncodeChar_append_lt {c d : Char} (h : c < d) (xs ys : List UInt8) :
    String.utf8EncodeChar c ++ xs < String.utf8EncodeChar d ++ ys := by
  have hlt : c.val.toNat < d.val.toNat := h
  have hmax : d.val.toNat < 0x110000 := by
    rcases d.valid with hd | hd <;> omega
  unfold String.utf8EncodeChar
  generalize c.val.toNat = v at hlt
  generalize d.val.toNat = w at hlt hmax
  dsimp only
  by_cases hfour : v ≤ 65535
  · split_ifs
    all_goals
      simp only [List.cons_append, List.nil_append, byte_cons_lt, UInt8.toNat_ofNat']
      omega
  · -- four bytes against four: what counts is at which six bits the code points part
    simp only [show ¬ v ≤ 127 by omega, show ¬ v ≤ 2047 by omega, hfour,
      show ¬ w ≤ 127 by omega, show ¬ w ≤ 2047 by omega, show ¬ w ≤ 65535 by omega, if_false,
      List.cons_append, List.nil_append, byte_cons_lt, UInt8.toNat_ofNat']
    by_cases hthird : v / 64 = w / 64
    · exact .inr ⟨by omega, .inr ⟨by omega, .inr ⟨by omega, .inl (by omega)⟩⟩⟩
    by_cases hsecond : v / 4096 = w / 4096
    · exact .inr ⟨by omega, .inr ⟨by omega, .inl (by omega)⟩⟩
    by_cases hfirst : v / 262144 = w / 262144
    · exact .inr ⟨by omega, .inl (by omega)⟩
    · exact .inl (by omega)

theorem bytes_lt_of_lt {s t : List Char} (h : s < t) :
    s.flatMap String.utf8EncodeChar < t.flatMap String.utf8EncodeChar := by
  induction s generalizing t with
  | nil =>
    cases t with
    | nil => exact absurd h (List.lt_irrefl [])
    | cons d t =>
      rw [List.flatMap_cons]
      cases hd : String.utf8EncodeChar d with
      | nil => exact absurd hd String.utf8EncodeChar_ne_nil
      | cons b bs => exact List.nil_lt_cons b _
  | cons c s ih =>
    cases t with
    | nil => exact absurd h (List.not_lt_nil _)
    | cons d t =>
      rw [List.flatMap_cons, List.flatMap_cons]
      rcases List.cons_lt_cons_iff.1 h with hcd | ⟨rfl, hst⟩
      · exact utf8EncodeChar_append_lt hcd _ _
      · exact List.append_left_lt (ih hst)

/-- Texts ascend as their bytes do. -/
theorem bytes_lt_iff {s t : String} : bytes s < bytes t ↔ s < t := by
  rw [bytes_eq, bytes_eq]
  constructor
  · intro hbytes
    rcases lt_trichotomy s t with hst | rfl | hts
    · exact hst
    · exact absurd hbytes (List.lt_irrefl _)
    · exact absurd (bytes_lt_of_lt (String.lt_iff.1 hts)) (List.lt_asymm hbytes)
  · intro hst
    exact bytes_lt_of_lt (String.lt_iff.1 hst)

end MetricFacade.Text
