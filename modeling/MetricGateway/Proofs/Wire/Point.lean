import MetricGateway.Proofs.Wire.Field
import MetricGateway.Wire.Point

/-!
# Compact points as bytes

A point is a mark and four fields, or three without the organization, one behind
the other. The mark tells how long the message has to be, and a message of this
length is cut into fields without anything missing or left over. So there is
nothing to refuse in a message but its mark and its length, and each message that
is read is the one that writing would produce.

What the shorter format loses is the organization. A point is read back as it was
written, or with organization zero.
-/

namespace MetricGateway.Wire

open Number (Binary64)

namespace Point

/-- What can be read of a point that was written in a format: all, or all but the organization. -/
def asRead (p : Point) : PointFormat → Point
  | .withOrg => p
  | .withoutOrg => { p with key.org := ⟨0⟩ }

/-- Only the organization is ever lost, and not even that if it is zero. -/
theorem asRead_eq_self_iff {p : Point} {format : PointFormat} :
    p.asRead format = p ↔ (format = .withoutOrg → p.key.org = ⟨0⟩) := by
  obtain ⟨⟨org, key⟩, value, time⟩ := p
  cases format <;> simp [asRead, eq_comm]

/-- Nothing more is lost when a point is sent on in the format in which it was read. -/
theorem encode_asRead (format : PointFormat) (p : Point) :
    (p.asRead format).encode format = p.encode format := by
  cases format <;> rfl

/-! ## Fields -/

/-- The fields of a point are read back. -/
theorem decodeFields_tail_encode (format : PointFormat) (p : Point) :
    decodeFields format (p.encode format).tail = some (p.asRead format) := by
  have hkey := Bytes.take?_append p.key.key.length_toBytes
  have horg := Bytes.take?_append p.key.org.length_toBytes
  have hvalue := Bytes.take?_append p.value.length_toBytes
  have htime := Bytes.take?_append (Bytes.length_littleEndian 4 p.time.toNat) []
  rw [List.append_nil] at htime
  cases format with
  | withOrg =>
      simp [encode, decodeFields, asRead, hkey, horg, hvalue, htime,
        Bytes.ofLittleEndian_littleEndian, SeriesKey.ofBytes?_toBytes, OrgId.ofBytes_toBytes,
        Binary64.ofBytes_toBytes]
  | withoutOrg =>
      simp [encode, decodeFields, asRead, hkey, hvalue, htime, Bytes.ofLittleEndian_littleEndian,
        SeriesKey.ofBytes?_toBytes, Binary64.ofBytes_toBytes]

/-- Reading a point gives back what its format keeps. -/
theorem decode_encode (format : PointFormat) (p : Point) :
    decode (p.encode format) = .ok (format, p.asRead format) := by
  rw [decode, detect_encode]
  dsimp only
  rw [if_pos (length_encode format p), decodeFields_tail_encode]

/-! ## Messages -/

/-- Twelve bytes are a value and a time. -/
theorem exists_sample_eq {b : Bytes} (h : b.length = 12) : ∃ (value : Binary64) (time : UInt32),
    b = value.toBytes ++ Bytes.littleEndian 4 time.toNat := by
  have hlong : 8 ≤ b.length := by omega
  obtain ⟨value, time, rfl, hvalue, htime⟩ := Bytes.exists_append_of_le hlong
  rw [h] at htime
  refine ⟨.ofBytes value, .ofNat (Bytes.ofLittleEndian time), ?_⟩
  rw [Binary64.toBytes_ofBytes hvalue]
  -- a time is laid out as an organization is
  exact congrArg (value ++ ·) (OrgId.toBytes_ofBytes htime).symm

/-- Fields of the right length are those of a point. -/
theorem exists_encode_eq (format : PointFormat) {fields : Bytes}
    (h : fields.length + 1 = format.size) :
    ∃ p : Point, p.encode format = format.mark :: fields := by
  have hlong : 16 ≤ fields.length := by
    cases format <;> simp only [PointFormat.size] at h <;> omega
  obtain ⟨keyBytes, rest, rfl, hkey, -⟩ := Bytes.exists_append_of_le hlong
  obtain ⟨key, rfl⟩ := SeriesKey.exists_toBytes_eq hkey
  rw [List.length_append, hkey] at h
  cases format with
  | withOrg =>
      have hrest : rest.length = 16 := by simp only [PointFormat.size] at h; omega
      have horgLong : 4 ≤ rest.length := by omega
      obtain ⟨org, rest, rfl, horg, hsample⟩ := Bytes.exists_append_of_le horgLong
      obtain ⟨value, time, rfl⟩ := exists_sample_eq (show rest.length = 12 by omega)
      exact ⟨⟨⟨.ofBytes org, key⟩, value, time⟩, by simp [encode, OrgId.toBytes_ofBytes horg]⟩
  | withoutOrg =>
      have hrest : rest.length = 12 := by simp only [PointFormat.size] at h; omega
      obtain ⟨value, time, rfl⟩ := exists_sample_eq hrest
      exact ⟨⟨⟨⟨0⟩, key⟩, value, time⟩, by simp [encode]⟩

/-- The first byte of a message is the mark of the format that it shows. -/
theorem exists_mark_of_detect {message : Bytes} {format : PointFormat}
    (h : PointFormat.detect message = some format) : ∃ fields, message = format.mark :: fields := by
  cases message with
  | nil => cases h
  | cons b fields =>
      refine ⟨fields, ?_⟩
      unfold PointFormat.detect at h
      dsimp only at h
      split at h
      · next hb => cases h; rw [hb]; rfl
      · split at h
        · next hb => cases h; rw [hb]; rfl
        · cases h

/-- A message of the length of its format is a point. -/
theorem exists_encode_of_detect {message : Bytes} {format : PointFormat}
    (h : PointFormat.detect message = some format) (hlength : message.length = format.size) :
    ∃ p : Point, p.encode format = message := by
  obtain ⟨fields, rfl⟩ := exists_mark_of_detect h
  exact exists_encode_eq format hlength

/-- What reading a message can do: the mark is refused, or the length is, or the message is a point
and is read as one. -/
theorem decode_cases (message : Bytes) :
    (PointFormat.detect message = none ∧ decode message = .error .unknownFormat)
      ∨ ∃ format, PointFormat.detect message = some format ∧
        ((message.length ≠ format.size ∧ decode message = .error .unexpectedLength)
          ∨ ∃ p : Point, p.encode format = message
            ∧ decode message = .ok (format, p.asRead format)) := by
  cases hdetect : PointFormat.detect message with
  | none => exact Or.inl ⟨rfl, by rw [decode, hdetect]⟩
  | some format =>
      refine Or.inr ⟨format, rfl, ?_⟩
      by_cases hlength : message.length = format.size
      · obtain ⟨p, rfl⟩ := exists_encode_of_detect hdetect hlength
        exact Or.inr ⟨p, rfl, decode_encode format p⟩
      · refine Or.inl ⟨hlength, ?_⟩
        rw [decode, hdetect]
        exact if_neg hlength

/-- A message that is read is the one that writing the point produces, and its format keeps all of
the point. -/
theorem decode_eq_ok_iff {message : Bytes} {format : PointFormat} {p : Point} :
    decode message = .ok (format, p) ↔ message = p.encode format ∧ p.asRead format = p := by
  constructor
  · intro h
    rcases decode_cases message with ⟨-, heq⟩ | ⟨format', -, ⟨-, heq⟩ | ⟨q, rfl, heq⟩⟩
    · rw [heq] at h; cases h
    · rw [heq] at h; cases h
    · rw [heq] at h
      cases h
      refine ⟨(encode_asRead format q).symm, ?_⟩
      cases format <;> rfl
  · rintro ⟨rfl, hself⟩
    rw [decode_encode, hself]

/-- A message shows a format and has its length exactly in two ways. -/
theorem detect_and_length_iff {message : Bytes} :
    (∃ format, PointFormat.detect message = some format ∧ message.length = format.size) ↔
      (message.length = 33 ∧ message.head? = some 2)
        ∨ (message.length = 29 ∧ message.head? = some 3) := by
  cases message with
  | nil => simp [PointFormat.detect]
  | cons b fields =>
      simp only [PointFormat.detect, List.head?_cons, Option.some.injEq]
      constructor
      · rintro ⟨format, hformat, hlength⟩
        split at hformat
        · next hb => cases hformat; exact Or.inl ⟨hlength, hb⟩
        · split at hformat
          · next hb => cases hformat; exact Or.inr ⟨hlength, hb⟩
          · cases hformat
      · rintro (⟨hlength, rfl⟩ | ⟨hlength, rfl⟩)
        · exact ⟨.withOrg, rfl, hlength⟩
        · exact ⟨.withoutOrg, rfl, hlength⟩

/-- **Compact points and messages correspond.** A message is read as a point if and only if it is
what writing this point into an empty buffer leaves there, where a point that is read without
organization has organization zero. So reading undoes writing but for that organization, and writing
undoes reading. Whatever has 33 bytes and starts with 2 is a point, and what has 29 and starts with
3; nothing else is, and no message ever ends within a field. What a buffer holds stays in front. -/
theorem decode_iff_encodeTo (message buffer : Bytes) (format : PointFormat) (p : Point) :
    (decode message = .ok (format, p) ↔
        message = encodeTo [] format p ∧ (format = .withoutOrg → p.key.org = ⟨0⟩))
      ∧ decode (encodeTo [] format p) = .ok (format, p.asRead format)
      ∧ ((∃ read, decode message = .ok read) ↔
        (message.length = 33 ∧ message.head? = some 2)
          ∨ (message.length = 29 ∧ message.head? = some 3))
      ∧ decode message ≠ .error .truncated
      ∧ encodeTo buffer format p = buffer ++ encodeTo [] format p := by
  have hempty : encodeTo [] format p = p.encode format := List.nil_append _
  refine ⟨?_, ?_, ?_, ?_, ?_⟩
  · rw [hempty, ← asRead_eq_self_iff, decode_eq_ok_iff]
  · rw [hempty, decode_encode]
  · rw [← detect_and_length_iff]
    rcases decode_cases message with ⟨hnone, heq⟩ | ⟨format', hdetect, ⟨hlength, heq⟩ |
      ⟨q, rfl, heq⟩⟩
    · rw [heq, hnone]; simp
    · rw [heq, hdetect]; simpa using hlength
    · rw [heq]
      exact ⟨fun _ => ⟨format', hdetect, length_encode format' q⟩, fun _ => ⟨_, rfl⟩⟩
  · rcases decode_cases message with ⟨-, heq⟩ | ⟨format', -, ⟨-, heq⟩ | ⟨q, -, heq⟩⟩ <;>
      rw [heq] <;> nofun
  · rw [hempty]; rfl

end Point

end MetricGateway.Wire
