/-!
Texts compare by code points, and so compare their UTF-8 bytes.
-/

set_option autoImplicit false
namespace MatchTree.Text

/-- The UTF-8 bytes of a text. -/
def bytes (s : String) : List UInt8 := s.toUTF8.data.toList

theorem bytes_eq_flatMap (s : String) : bytes s = s.toList.flatMap String.utf8EncodeChar := by
  rw [bytes, String.toUTF8_eq_toByteArray, ← String.utf8Encode_toList, List.utf8Encode]
  simp

theorem append_lt_append {front first second : List UInt8} (below : first < second) :
    front ++ first < front ++ second := by
  induction front with
  | nil => exact below
  | cons byte rest ih => exact List.cons_lt_cons_iff.mpr (.inr ⟨rfl, ih⟩)

theorem ofNat_lt_iff (m n : Nat) : UInt8.ofNat m < UInt8.ofNat n ↔ m % 256 < n % 256 := by
  simp [UInt8.lt_iff_toNat_lt]

theorem ofNat_eq_iff (m n : Nat) : UInt8.ofNat m = UInt8.ofNat n ↔ m % 256 = n % 256 := by
  simp [← UInt8.toNat_inj]

/-- The four digits that the bytes of a character are made of. -/
theorem digits {n : Nat} (top : n < 2097152) : ∃ a b c d : Nat,
    n = 262144 * a + 4096 * b + 64 * c + d ∧ (a < 8 ∧ b < 64 ∧ c < 64 ∧ d < 64) ∧
      n / 262144 % 8 = a ∧ n / 4096 % 64 = b ∧ n / 64 % 64 = c ∧ n % 64 = d :=
  ⟨n / 262144, n / 4096 % 64, n / 64 % 64, n % 64, by omega⟩

/-- The bytes of two characters differ first where the greater one has the greater byte. -/
theorem encodeChar_append_lt {c d : Char} (below : c < d) (first second : List UInt8) :
    String.utf8EncodeChar c ++ first < String.utf8EncodeChar d ++ second := by
  have below : c.val.toNat < d.val.toNat := below
  have top : d.val.toNat < 1114112 := by
    have := d.valid
    unfold UInt32.isValidChar Nat.isValidChar at this
    omega
  unfold String.utf8EncodeChar
  generalize c.val.toNat = m at below
  generalize d.val.toNat = n at below top
  by_cases four : 65535 < m
  · have above (k : Nat) (le : k ≤ 65535) : ¬ m ≤ k ∧ ¬ n ≤ k := by omega
    obtain ⟨a, b, c, d, whole, bounds, first, second, third, fourth⟩ :=
      digits (Nat.lt_trans below (Nat.lt_trans top (by decide)))
    obtain ⟨a', b', c', d', whole', bounds', first', second', third', fourth'⟩ :=
      digits (Nat.lt_trans top (by decide))
    simp only [above 127 (by decide), above 2047 (by decide), above 65535 (by decide), if_false,
      List.cons_append, List.cons_lt_cons_iff, ofNat_lt_iff, ofNat_eq_iff, first, second, third,
      fourth, first', second', third', fourth']
    clear first second third fourth first' second' third' fourth' above
    omega
  · simp only
    repeat' split
    all_goals
      simp only [List.cons_append, List.nil_append, List.cons_lt_cons_iff, ofNat_lt_iff,
        ofNat_eq_iff]
      omega

theorem flatMap_encodeChar_lt {first second : List Char} (below : first < second) :
    first.flatMap String.utf8EncodeChar < second.flatMap String.utf8EncodeChar := by
  induction first generalizing second with
  | nil =>
    cases second with
    | nil => exact absurd below (List.lt_irrefl [])
    | cons d rest =>
      rw [List.flatMap_nil, List.flatMap_cons]
      obtain ⟨byte, bytes, found⟩ := List.exists_cons_of_ne_nil String.utf8EncodeChar_ne_nil
      rw [found]
      exact List.nil_lt_cons _ _
  | cons c rest ih =>
    cases second with
    | nil => exact absurd below (List.not_lt_nil _)
    | cons d others =>
      rw [List.flatMap_cons, List.flatMap_cons]
      rcases List.cons_lt_cons_iff.mp below with lt | ⟨rfl, later⟩
      · exact encodeChar_append_lt lt _ _
      · exact append_lt_append (ih later)

theorem bytes_lt_of_lt {s t : String} (below : s < t) : bytes s < bytes t := by
  rw [bytes_eq_flatMap, bytes_eq_flatMap]
  exact flatMap_encodeChar_lt (String.lt_iff.mp below)

/-- The order of texts is the order of their bytes. -/
theorem bytes_lt_iff {s t : String} : bytes s < bytes t ↔ s < t := by
  refine ⟨fun below => String.not_le.mp fun le => ?_, bytes_lt_of_lt⟩
  by_cases same : s = t
  · exact List.lt_irrefl _ (same ▸ below)
  · have above : t < s := String.not_le.mp fun ge => same (String.le_antisymm ge le)
    exact List.lt_asymm below (bytes_lt_of_lt above)

end MatchTree.Text
