import Guest.Proofs.Text.Occurrences
import Guest.Text.Bytes

/-!
# Searching bytes

No encoding of a character starts inside of another one.  So a text that is not empty occurs among
the bytes of another one only where a character starts, and there it occurs among the characters as
well.  The searches find the same occurrences by bytes and by characters, and the conversions of
offsets and indices are inverse to each other there.
-/

namespace Guest

namespace Text

variable {p s t : List Char} {c : Char} {after : List UInt8} {i n offset : Nat}

/-! ## Offsets of characters -/

theorem bytes_cons : bytes (c :: s) = String.utf8EncodeChar c ++ bytes s := List.flatMap_cons

theorem bytes_append : bytes (s ++ t) = bytes s ++ bytes t := List.flatMap_append

theorem bytes_take_append_drop (n : Nat) (s : List Char) :
    bytes (s.take n) ++ bytes (s.drop n) = bytes s := by
  rw [← bytes_append, List.take_append_drop]

theorem bytes_eq_nil_iff : bytes s = [] ↔ s = [] := by
  cases s with
  | nil => exact iff_of_true rfl rfl
  | cons c s =>
      rw [bytes_cons, List.append_eq_nil_iff]
      exact iff_of_false (fun h => String.utf8EncodeChar_ne_nil h.1) (List.cons_ne_nil _ _)

/-- The offset among the bytes of the character at an index. -/
def offsetOf (s : List Char) (i : Nat) : Nat := (bytes (s.take i)).length

theorem offsetOf_length (s : List Char) : offsetOf s s.length = (bytes s).length := by
  rw [offsetOf, List.take_length]

theorem offsetOf_cons_succ : offsetOf (c :: s) (i + 1) = c.utf8Size + offsetOf s i := by
  rw [offsetOf, List.take_succ_cons, bytes_cons, List.length_append, String.length_utf8EncodeChar,
    offsetOf]

theorem drop_offsetOf (s : List Char) (i : Nat) :
    (bytes s).drop (offsetOf s i) = bytes (s.drop i) := by
  rw [← bytes_take_append_drop i s, offsetOf, List.drop_left]

theorem take_offsetOf (s : List Char) (i : Nat) :
    (bytes s).take (offsetOf s i) = bytes (s.take i) := by
  rw [← bytes_take_append_drop i s, offsetOf, List.take_left]

theorem offsetOf_add (s : List Char) (n i : Nat) :
    offsetOf s (n + i) = offsetOf s n + offsetOf (s.drop n) i := by
  rw [offsetOf, List.take_add, bytes_append, List.length_append, offsetOf, offsetOf]

theorem getElem?_charOffsets (offset : Nat) (s : List Char) (i : Nat) :
    (charOffsets offset s)[i]? = (s[i]?).map fun c => (offset + offsetOf s i, c) := by
  induction s generalizing offset i with
  | nil => rfl
  | cons c s ih =>
      cases i with
      | zero => rfl
      | succ i =>
          rw [charOffsets, List.getElem?_cons_succ, List.getElem?_cons_succ, ih, offsetOf_cons_succ,
            Nat.add_assoc]

/-- The offset that is looked up among the characters is the count of the bytes before the
character, also behind the last one. -/
theorem byteOffset_eq (s : List Char) (i : Nat) : byteOffset s i = offsetOf s i := by
  rw [byteOffset, getElem?_charOffsets]
  rcases Nat.lt_or_ge i s.length with hi | hi
  · rw [List.getElem?_eq_getElem hi]
    exact Nat.zero_add _
  · rw [List.getElem?_eq_none hi, offsetOf, List.take_of_length_le hi]
    rfl

theorem charCount_utf8EncodeChar (c : Char) : charCount (String.utf8EncodeChar c) = 1 := by
  cases hbytes : String.utf8EncodeChar c with
  | nil => exact absurd hbytes String.utf8EncodeChar_ne_nil
  | cons b more =>
      have hfirst (i : Nat) (hi : i < (b :: more).length) :
          (b :: more)[i].IsUTF8FirstByte ↔ i = 0 := by
        simp only [← hbytes]
        exact UInt8.isUTF8FirstByte_getElem_utf8EncodeChar
      have hb : startsChar b = true := decide_eq_true ((hfirst 0 (Nat.zero_lt_succ _)).mpr rfl)
      have hmore : ∀ x ∈ more, ¬startsChar x = true := by
        intro x hx hstarts
        obtain ⟨i, hi, rfl⟩ := List.getElem_of_mem hx
        exact absurd ((hfirst (i + 1) (Nat.succ_lt_succ hi)).mp (of_decide_eq_true hstarts)) nofun
      rw [charCount, List.countP_cons_of_pos hb, List.countP_eq_zero.mpr hmore]

/-- Every character has one first byte. -/
theorem charCount_bytes (s : List Char) : charCount (bytes s) = s.length := by
  induction s with
  | nil => rfl
  | cons c s ih =>
      have hcount := charCount_utf8EncodeChar c
      rw [charCount] at ih hcount
      rw [charCount, bytes_cons, List.countP_append, ih, hcount, List.length_cons, Nat.add_comm]

/-- The index of a character is found again from its offset. -/
theorem charIndex_offsetOf (hi : i ≤ s.length) : charIndex s (offsetOf s i) = i := by
  rw [charIndex, take_offsetOf, charCount_bytes, List.length_take_of_le hi]

theorem offsetOf_le_iff (hi : i ≤ s.length) (hn : n ≤ s.length) :
    offsetOf s i ≤ offsetOf s n ↔ i ≤ n := by
  have hmono {i n : Nat} (h : i ≤ n) : offsetOf s i ≤ offsetOf s n := by
    rw [← Nat.add_sub_cancel' h, offsetOf_add]
    exact Nat.le_add_right _ _
  constructor
  · intro h
    rcases Nat.le_total i n with hle | hle
    · exact hle
    · have heq : offsetOf s i = offsetOf s n := Nat.le_antisymm h (hmono hle)
      rw [← charIndex_offsetOf hi, heq, charIndex_offsetOf hn]
  · exact hmono

/-! ## Occurrences among the bytes -/

/-- The encodings of characters can be told apart without what follows them. -/
theorem bytes_prefix_iff : bytes p <+: bytes s ↔ p <+: s := by
  constructor
  · rintro ⟨after, h⟩
    refine List.isPrefix_of_utf8Encode_append_eq_utf8Encode after.toByteArray ?_
    have hbytes := congrArg List.toByteArray h
    rwa [List.toByteArray_append] at hbytes
  · rintro ⟨after, rfl⟩
    rw [bytes_append]
    exact List.prefix_append _ _

/-- A byte that starts a character stands at the offset of one. -/
theorem exists_offsetOf (hoffset : offset < (bytes s).length)
    (h : (bytes s)[offset].IsUTF8FirstByte) : ∃ i < s.length, offset = offsetOf s i := by
  induction s generalizing offset with
  | nil => cases hoffset
  | cons c s ih =>
      simp only [bytes_cons] at hoffset h
      have hsize := String.length_utf8EncodeChar c
      by_cases hinside : offset < (String.utf8EncodeChar c).length
      · rw [List.getElem_append_left hinside, UInt8.isUTF8FirstByte_getElem_utf8EncodeChar] at h
        exact ⟨0, Nat.zero_lt_succ _, h⟩
      · rw [List.length_append] at hoffset
        rw [List.getElem_append_right (Nat.le_of_not_lt hinside)] at h
        obtain ⟨i, hi, heq⟩ := ih (by omega) h
        refine ⟨i + 1, Nat.succ_lt_succ hi, ?_⟩
        rw [offsetOf_cons_succ]
        omega

theorem OccursAt.bytes (h : OccursAt p s i) : OccursAt (bytes p) (bytes s) (offsetOf s i) := by
  obtain ⟨before, after, rfl, rfl⟩ := h
  refine ⟨Text.bytes before, Text.bytes after, ?_, ?_⟩
  · rw [bytes_append, bytes_append]
  · rw [offsetOf, List.append_assoc, List.take_left]

/-- A text that is not empty occurs among the bytes only at the offsets of its occurrences among the
characters. -/
theorem exists_occursAt (hp : p ≠ []) (h : OccursAt (bytes p) (bytes s) offset) :
    ∃ i, OccursAt p s i ∧ offset = offsetOf s i := by
  have hprefix : bytes p <+: (bytes s).drop offset := by
    refine (occursAt_iff_prefix_drop ?_).mp h
    exact Nat.le_trans (Nat.le_add_right _ _) h.add_length_le
  obtain ⟨c, p, rfl⟩ := List.exists_cons_of_ne_nil hp
  have hsize : 0 < (String.utf8EncodeChar c).length := by
    rw [String.length_utf8EncodeChar]
    exact c.utf8Size_pos
  obtain ⟨after, hafter⟩ := hprefix
  have hfirst : ((bytes s).drop offset)[0]? = some (String.utf8EncodeChar c)[0] := by
    rw [← hafter, bytes_cons, List.append_assoc, List.getElem?_append_left hsize,
      List.getElem?_eq_getElem hsize]
  rw [List.getElem?_drop, Nat.add_zero, List.getElem?_eq_some_iff] at hfirst
  obtain ⟨hoffset, hbyte⟩ := hfirst
  obtain ⟨i, hi, rfl⟩ := exists_offsetOf hoffset (by
    rw [hbyte]
    exact UInt8.isUTF8FirstByte_getElem_zero_utf8EncodeChar)
  refine ⟨i, (occursAt_iff_prefix_drop (Nat.le_of_lt hi)).mpr ?_, rfl⟩
  rw [← bytes_prefix_iff, ← drop_offsetOf]
  exact ⟨after, hafter⟩

/-! ## Searches by bytes and by characters -/

theorem startsWith_bytes (p s : List Char) :
    startsWith (bytes p) (bytes s) = startsWith p s := by
  rw [Bool.eq_iff_iff, startsWith_iff, startsWith_iff, bytes_prefix_iff]

/-- The first occurrence among the bytes is the one among the characters. -/
theorem indexOf?_bytes (p s : List Char) :
    indexOf? (bytes p) (bytes s) = (indexOf? p s).map (offsetOf s) := by
  cases hsearch : indexOf? p s with
  | some i =>
      obtain ⟨hoccurs, hleast⟩ := isLeast_of_indexOf? hsearch
      refine indexOf?_eq_some_iff.mpr ⟨hoccurs.bytes, fun offset hoffset => ?_⟩
      by_cases hp : p = []
      · subst hp
        rw [Nat.le_zero.mp (hleast (occursAt_nil_iff.mpr (Nat.zero_le _)))]
        exact Nat.zero_le _
      · obtain ⟨n, hn, rfl⟩ := exists_occursAt hp hoffset
        have hi := Nat.le_trans (Nat.le_add_right _ _) hoccurs.add_length_le
        have hlength := Nat.le_trans (Nat.le_add_right _ _) hn.add_length_le
        exact (offsetOf_le_iff hi hlength).mpr (hleast hn)
  | none =>
      have hnone := not_occursAt_of_indexOf? hsearch
      refine indexOf?_eq_none_iff.mpr fun offset hoffset => ?_
      have hp : p ≠ [] := by
        rintro rfl
        exact hnone 0 (occursAt_nil_iff.mpr (Nat.zero_le _))
      obtain ⟨i, hi, -⟩ := exists_occursAt hp hoffset
      exact hnone i hi

/-- The last occurrence among the bytes is the one among the characters. -/
theorem lastIndexOf?_bytes (p s : List Char) :
    lastIndexOf? (bytes p) (bytes s) = (lastIndexOf? p s).map (offsetOf s) := by
  cases hsearch : lastIndexOf? p s with
  | some i =>
      obtain ⟨hoccurs, hgreatest⟩ := isGreatest_of_lastIndexOf? hsearch
      refine lastIndexOf?_eq_some_iff.mpr ⟨hoccurs.bytes, fun offset hoffset => ?_⟩
      have hi := Nat.le_trans (Nat.le_add_right _ _) hoccurs.add_length_le
      by_cases hp : p = []
      · subst hp
        have hend := hgreatest (occursAt_nil_iff.mpr (Nat.le_refl s.length))
        rw [Nat.le_antisymm hi hend, offsetOf_length]
        exact occursAt_nil_iff.mp hoffset
      · obtain ⟨n, hn, rfl⟩ := exists_occursAt hp hoffset
        have hlength := Nat.le_trans (Nat.le_add_right _ _) hn.add_length_le
        exact (offsetOf_le_iff hlength hi).mpr (hgreatest hn)
  | none =>
      have hnone := lastIndexOf?_eq_none_iff.mp hsearch
      refine lastIndexOf?_eq_none_iff.mpr fun offset hoffset => ?_
      have hp : p ≠ [] := by
        rintro rfl
        exact hnone 0 (occursAt_nil_iff.mpr (Nat.zero_le _))
      obtain ⟨i, hi, -⟩ := exists_occursAt hp hoffset
      exact hnone i hi

theorem contains_bytes (p s : List Char) : contains (bytes p) (bytes s) = contains p s := by
  rw [Bool.eq_iff_iff, contains_iff, contains_iff, indexOf?_bytes, Ne, Option.map_eq_none_iff]

/-- A text ends with another one among the bytes if it does among the characters. -/
theorem endsWith_bytes (p s : List Char) : endsWith (bytes p) (bytes s) = endsWith p s := by
  rw [Bool.eq_iff_iff, endsWith_iff, endsWith_iff]
  constructor
  · rintro ⟨before, h⟩
    by_cases hp : p = []
    · subst hp
      exact List.nil_suffix
    · have hend : OccursAt (bytes p) (bytes s) before.length :=
        ⟨before, [], by rw [List.append_nil, h], rfl⟩
      obtain ⟨i, hi, hoffset⟩ := exists_occursAt hp hend
      obtain ⟨front, back, rfl, rfl⟩ := hi
      have hlength := congrArg List.length h
      rw [offsetOf, List.append_assoc, List.take_left] at hoffset
      simp only [bytes_append, List.length_append] at hlength
      have hback : bytes back = [] := List.length_eq_zero_iff.mp (by omega)
      rw [bytes_eq_nil_iff.mp hback, List.append_nil]
      exact List.suffix_append _ _
  · rintro ⟨before, rfl⟩
    rw [bytes_append]
    exact List.suffix_append _ _

end Text

end Guest
