import Mathlib
import SqlTemplate.Text

/-!
The order of texts is that of their bytes: of two texts, the one whose first differing character has
the smaller code is also the one whose first differing byte is smaller.
-/
namespace SqlTemplate.Text

/-- The bytes of a text in UTF-8. -/
def bytes (t : Text) : List UInt8 := t.flatMap String.utf8EncodeChar

@[simp] theorem bytes_nil : bytes [] = [] := rfl

@[simp] theorem bytes_cons (c : Char) (t : Text) :
    bytes (c :: t) = String.utf8EncodeChar c ++ bytes t := rfl

theorem toNat_lt (c : Char) : c.val.toNat < 1114112 := by
  rcases c.valid with h | ⟨-, h⟩
  · exact Nat.lt_trans h (by decide)
  · exact h

theorem ofNat_lt_ofNat {m n : Nat} (h : m < n) (hn : n < 256) :
    UInt8.ofNat m < UInt8.ofNat n := by
  rw [UInt8.lt_iff_toNat_lt, UInt8.toNat_ofNat', UInt8.toNat_ofNat']
  omega

/-- Codes of four bytes: what is before the last six bits decides, then these. -/
theorem four_bytes_lt {m n : Nat} (h : m < n) (hn : n < 1114112) (s t : List UInt8) :
    UInt8.ofNat (m / 262144 % 8 + 240) :: UInt8.ofNat (m / 4096 % 64 + 128) ::
        UInt8.ofNat (m / 64 % 64 + 128) :: UInt8.ofNat (m % 64 + 128) :: s <
      UInt8.ofNat (n / 262144 % 8 + 240) :: UInt8.ofNat (n / 4096 % 64 + 128) ::
        UInt8.ofNat (n / 64 % 64 + 128) :: UInt8.ofNat (n % 64 + 128) :: t := by
  simp only [List.cons_lt_cons_iff]
  by_cases h₁ : m / 262144 < n / 262144
  · exact .inl (ofNat_lt_ofNat (by omega) (by omega))
  have heq₁ : m / 262144 = n / 262144 := by omega
  refine .inr ⟨by rw [heq₁], ?_⟩
  by_cases h₂ : m / 4096 < n / 4096
  · exact .inl (ofNat_lt_ofNat (by omega) (by omega))
  have heq₂ : m / 4096 = n / 4096 := by omega
  refine .inr ⟨by rw [heq₂], ?_⟩
  by_cases h₃ : m / 64 < n / 64
  · exact .inl (ofNat_lt_ofNat (by omega) (by omega))
  have heq₃ : m / 64 = n / 64 := by omega
  exact .inr ⟨by rw [heq₃], .inl (ofNat_lt_ofNat (by omega) (by omega))⟩

/-- Whatever stands behind two characters, the bytes of the smaller one are smaller. -/
theorem encode_append_lt {c d : Char} (h : c < d) (s t : List UInt8) :
    String.utf8EncodeChar c ++ s < String.utf8EncodeChar d ++ t := by
  have hlt : c.val.toNat < d.val.toNat := h
  have hd := toNat_lt d
  unfold String.utf8EncodeChar
  dsimp only
  generalize c.val.toNat = m at hlt
  generalize d.val.toNat = n at hlt hd
  by_cases hfour : m ≤ 65535
  · -- with another number of bytes the first one decides, else there are three bytes at most
    split_ifs <;>
      simp only [List.cons_append, List.nil_append, List.cons_lt_cons_iff,
        UInt8.lt_iff_toNat_lt, ← UInt8.toNat_inj, UInt8.toNat_ofNat'] <;>
      omega
  · rw [if_neg (by omega), if_neg (by omega), if_neg hfour, if_neg (by omega), if_neg (by omega),
      if_neg (by omega)]
    exact four_bytes_lt hlt hd s t

theorem bytes_lt_of_lt {a b : Text} (h : a < b) : bytes a < bytes b := by
  induction a generalizing b with
  | nil =>
    cases b with
    | nil => exact absurd h (List.lt_irrefl _)
    | cons d b =>
      obtain ⟨u, us, hu⟩ := List.exists_cons_of_ne_nil (String.utf8EncodeChar_ne_nil (c := d))
      rw [bytes_nil, bytes_cons, hu]
      exact List.nil_lt_cons u _
  | cons c a ih =>
    cases b with
    | nil => exact absurd h (List.not_lt_nil _)
    | cons d b =>
      rw [bytes_cons, bytes_cons]
      rcases List.cons_lt_cons_iff.1 h with hcd | ⟨rfl, hab⟩
      · exact encode_append_lt hcd _ _
      · exact List.append_left_lt (ih hab)

theorem bytes_lt_bytes {a b : Text} : bytes a < bytes b ↔ a < b := by
  refine ⟨fun h => ?_, bytes_lt_of_lt⟩
  rcases lt_trichotomy a b with hab | rfl | hba
  · exact hab
  · exact absurd h (List.lt_irrefl _)
  · exact absurd (List.lt_trans h (bytes_lt_of_lt hba)) (List.lt_irrefl _)

end SqlTemplate.Text
