import MetricGateway.Number.Binary64
import MetricGateway.Series

/-!
# Fields of a fixed width

All formats on the wire cut a message into fields whose widths are known before
their contents. A reader takes the front of what is left, so what a writer puts
in front of it comes back whatever follows.

For numbers the two directions meet: so many bytes are the same as a number below
a power of 256, in either order of the bytes.
-/

namespace MetricGateway.Bytes

/-! ## Taking the front -/

/-- Bytes of the right width in front are what is taken. -/
theorem take?_append {width : Nat} {front : Bytes} (h : front.length = width) (rest : Bytes) :
    take? width (front ++ rest) = some (front, rest) := by
  subst h
  rw [take?, if_pos (by rw [List.length_append]; exact Nat.le_add_right _ _), List.take_left,
    List.drop_left]

/-- What is taken stands in front and has the right width. -/
theorem eq_append_of_take? {width : Nat} {b front rest : Bytes}
    (h : take? width b = some (front, rest)) : b = front ++ rest ∧ front.length = width := by
  unfold take? at h
  split at h
  · next hle =>
    cases h
    exact ⟨(List.take_append_drop width b).symm, List.length_take_of_le hle⟩
  · cases h

/-- Bytes that are long enough have a front of any width. -/
theorem exists_append_of_le {width : Nat} {b : Bytes} (h : width ≤ b.length) :
    ∃ front rest, b = front ++ rest ∧ front.length = width
      ∧ rest.length = b.length - width :=
  ⟨b.take width, b.drop width, (List.take_append_drop width b).symm,
    List.length_take_of_le h, List.length_drop ..⟩

/-! ## Numbers -/

/-- So many bytes are a number below that power of 256. -/
theorem ofLittleEndian_lt (b : Bytes) : ofLittleEndian b < 256 ^ b.length := by
  induction b with
  | nil => exact Nat.one_pos
  | cons x rest ih =>
      have hx : x.toNat < 256 := x.toNat_lt
      rw [ofLittleEndian, List.length_cons, Nat.pow_succ]
      omega

/-- Writing the number that was read gives its bytes back. -/
theorem littleEndian_ofLittleEndian (b : Bytes) :
    littleEndian b.length (ofLittleEndian b) = b := by
  induction b with
  | nil => rfl
  | cons x rest ih =>
      have hx : x.toNat < 256 := x.toNat_lt
      have hlow : UInt8.ofNat (x.toNat + 256 * ofLittleEndian rest) = x := by
        refine UInt8.toNat_inj.mp ?_
        rw [UInt8.toNat_ofNat']
        omega
      have hhigh : (x.toNat + 256 * ofLittleEndian rest) / 256 = ofLittleEndian rest := by omega
      rw [ofLittleEndian, List.length_cons, littleEndian, hlow, hhigh, ih]

@[simp] theorem length_bigEndian (width n : Nat) : (bigEndian width n).length = width := by
  rw [bigEndian, List.length_reverse, length_littleEndian]

theorem ofBigEndian_bigEndian (width n : Nat) :
    ofBigEndian (bigEndian width n) = n % 256 ^ width := by
  rw [ofBigEndian, bigEndian, List.reverse_reverse, ofLittleEndian_littleEndian]

theorem ofBigEndian_lt (b : Bytes) : ofBigEndian b < 256 ^ b.length := by
  have hlt := ofLittleEndian_lt b.reverse
  rwa [List.length_reverse] at hlt

theorem bigEndian_ofBigEndian (b : Bytes) : bigEndian b.length (ofBigEndian b) = b := by
  have hback := littleEndian_ofLittleEndian b.reverse
  rw [List.length_reverse] at hback
  rw [bigEndian, ofBigEndian, hback, List.reverse_reverse]

end MetricGateway.Bytes

namespace MetricGateway

/-! ## Fields with a meaning -/

/-- Four bytes are those of the organization that is read from them. -/
theorem OrgId.toBytes_ofBytes {b : Bytes} (h : b.length = 4) : (ofBytes b).toBytes = b := by
  have hlt := Bytes.ofLittleEndian_lt b
  rw [h] at hlt
  rw [toBytes, ofBytes, UInt32.toNat_ofNat', Nat.mod_eq_of_lt hlt, ← h,
    Bytes.littleEndian_ofLittleEndian]

/-- Eight bytes are those of the number that is read from them. -/
theorem Number.Binary64.toBytes_ofBytes {b : Bytes} (h : b.length = 8) :
    (ofBytes b).toBytes = b := by
  have hlt := Bytes.ofLittleEndian_lt b
  rw [h] at hlt
  rw [toBytes, ofBytes, UInt64.toNat_ofNat', Nat.mod_eq_of_lt hlt, ← h,
    Bytes.littleEndian_ofLittleEndian]

/-- Sixteen bytes are a key. -/
theorem SeriesKey.exists_toBytes_eq {b : Bytes} (h : b.length = 16) :
    ∃ key : SeriesKey, key.toBytes = b := by
  have hsome : (ofBytes? b).isSome := by rw [ofBytes?, dif_pos h]; rfl
  obtain ⟨key, hkey⟩ := Option.isSome_iff_exists.mp hsome
  exact ⟨key, toBytes_of_ofBytes? hkey⟩

end MetricGateway
