import RdmaKvCache.Common.WireFormat

/-!
# Numbers, strings and enumerators on the wire

Each low-level read helper reads exactly what its write helper writes.  The
helpers shift and mask; what they store is the number with its most significant
byte first.
-/

namespace RdmaKvCache

open ByteOrders CheckedReaders

/-! ## Enumerators -/

/-- An enumeration is an `int`, of which one byte is sent. -/
def FitsOneByte (code : Int32) : Prop :=
  0 ≤ code ∧ code < 256

instance (code : Int32) : Decidable (FitsOneByte code) :=
  inferInstanceAs (Decidable (_ ∧ _))

theorem codeOfByte_toInt (byte : UInt8) :
    (codeOfByte byte).toInt = byte.toNat := by
  have bound : byte.toNat < 256 := byte.toNat_lt
  have widened : byte.toUInt32.toNat = byte.toNat := UInt8.toNat_toUInt32 byte
  have value := BitVec.toInt_eq_toNat_cond byte.toUInt32.toBitVec
  change
    (codeOfByte byte).toInt =
      if 2 * byte.toUInt32.toNat < 2 ^ 32 then (byte.toUInt32.toNat : Int)
      else _
    at value
  rw [value, widened, if_pos (by omega)]

theorem fitsOneByte_codeOfByte (byte : UInt8) :
    FitsOneByte (codeOfByte byte) := by
  have bound : byte.toNat < 256 := byte.toNat_lt
  have value := codeOfByte_toInt byte
  constructor
  · apply Int32.le_iff_toInt_le.mpr
    rw [value]
    exact Int.natCast_nonneg _
  · apply Int32.lt_iff_toInt_lt.mpr
    rw [value]
    exact Int.ofNat_lt.mpr bound

@[simp]
theorem byteOfCode_codeOfByte (byte : UInt8) :
    byteOfCode (codeOfByte byte) = byte := by
  simp [byteOfCode, codeOfByte]

theorem codeOfByte_byteOfCode
    {code : Int32} (fits : FitsOneByte code) :
    codeOfByte (byteOfCode code) = code := by
  have nonneg : 0 ≤ code.toInt := Int32.le_iff_toInt_le.mp fits.1
  have below : code.toInt < 256 := Int32.lt_iff_toInt_lt.mp fits.2
  have bound : code.toUInt32.toNat < 2 ^ 32 := code.toUInt32.toNat_lt
  have value := BitVec.toInt_eq_toNat_cond code.toBitVec
  change
    code.toInt =
      if 2 * code.toUInt32.toNat < 2 ^ 32 then (code.toUInt32.toNat : Int)
      else (code.toUInt32.toNat : Int) - (2 ^ 32 : Nat)
    at value
  have unsigned : (code.toUInt32.toNat : Int) = code.toInt := by
    split at value
    · exact value.symm
    · omega
  apply Int32.toInt_inj.mp
  rw [codeOfByte_toInt, byteOfCode, UInt32.toNat_toUInt8]
  omega

theorem forall_byte
    {property : UInt8 → Prop}
    (holds : ∀ value < 256, property (UInt8.ofNat value)) (byte : UInt8) :
    property byte := by
  have stored := holds byte.toNat byte.toNat_lt
  rwa [UInt8.ofNat_toNat] at stored

theorem NodeRole.ofCode_code (role : NodeRole) : .ofCode role.code = role := by
  cases role with
  | unlisted code =>
      exact dif_neg code.property
  | orchestrator | prefill | decode =>
      rfl

theorem NodeRole.code_ofCode (byte : UInt8) :
    (NodeRole.ofCode (codeOfByte byte)).code = codeOfByte byte := by
  revert byte
  apply forall_byte
  decide +kernel

theorem RequestStatus.ofCode_code (status : RequestStatus) :
    .ofCode status.code = status := by
  cases status with
  | unlisted code =>
      exact dif_neg code.property
  | pending | prefilling | transferring | decoding | completed | failed
  | error =>
      rfl

theorem RequestStatus.code_ofCode (byte : UInt8) :
    (RequestStatus.ofCode (codeOfByte byte)).code = codeOfByte byte := by
  revert byte
  apply forall_byte
  decide +kernel

theorem MessageType.ofCode_code (type : MessageType) :
    .ofCode type.code = type := by
  cases type with
  | unlisted code =>
      exact dif_neg code.property
  | _ =>
      rfl

theorem MessageType.code_ofCode (byte : UInt8) :
    (MessageType.ofCode (codeOfByte byte)).code = codeOfByte byte := by
  revert byte
  apply forall_byte
  decide +kernel

/-! ## Numbers -/

theorem writeUint16_eq (v : UInt16) : writeUint16 v = bigEndian 2 v.toNat := by
  have bound : v.toNat < 65536 := v.toNat_lt
  have high : (v >>> 8).toUInt8 = UInt8.ofNat (v.toNat / 256) := by
    apply UInt8.toNat_inj.mp
    rw [UInt16.toNat_toUInt8, UInt16.toNat_shiftRight, UInt8.toNat_ofNat',
      Nat.shiftRight_eq_div_pow]
    rfl
  have low : (v &&& 0xFF).toUInt8 = UInt8.ofNat v.toNat := by
    apply UInt8.toNat_inj.mp
    rw [UInt16.toNat_toUInt8, UInt16.toNat_and, UInt8.toNat_ofNat']
    change (v.toNat &&& 2 ^ 8 - 1) % 256 = v.toNat % 256
    rw [Nat.and_two_pow_sub_one_eq_mod]
    omega
  rw [writeUint16, high, low]
  rfl

theorem writeUint64_eq (v : UInt64) : writeUint64 v = bigEndian 8 v.toNat := by
  have high : (v >>> 32).toUInt32.toNat = v.toNat / 256 ^ 4 := by
    have bound : v.toNat < 2 ^ 64 := v.toNat_lt
    rw [UInt64.toNat_toUInt32, UInt64.toNat_shiftRight,
      Nat.shiftRight_eq_div_pow]
    change v.toNat / 2 ^ 32 % 2 ^ 32 = _
    omega
  have low : (v &&& 0xFFFFFFFF).toUInt32.toNat = v.toNat % 256 ^ 4 := by
    rw [UInt64.toNat_toUInt32, UInt64.toNat_and]
    change (v.toNat &&& 2 ^ 32 - 1) % 2 ^ 32 = _
    rw [Nat.and_two_pow_sub_one_eq_mod]
    omega
  have stored :
      bigEndian 4 (v.toNat % 256 ^ 4) = bigEndian 4 v.toNat := by
    have loaded := bigEndian_ofBigEndian (bigEndian 4 v.toNat)
    rwa [length_bigEndian, ofBigEndian_bigEndian] at loaded
  rw [writeUint64, writeUint32, writeUint32, high, low, stored,
    ← bigEndian_add]

@[simp]
theorem length_writeUint16 (v : UInt16) : (writeUint16 v).length = 2 :=
  rfl

@[simp]
theorem length_writeUint32 (v : UInt32) : (writeUint32 v).length = 4 :=
  length_bigEndian 4 v.toNat

@[simp]
theorem length_writeUint64 (v : UInt64) : (writeUint64 v).length = 8 := by
  rw [writeUint64_eq, length_bigEndian]

@[simp]
theorem length_writeString (s : ByteString) :
    (writeString s).length = 4 + s.length := by
  rw [writeString, List.length_append, length_writeUint32]

theorem reads_uint8 :
    Reads readUint8 fun v encoding => encoding = writeUint8 v :=
  .ofBlock (fun _ => rfl) (fun _ => rfl) fun bytes one => by
    obtain ⟨byte, rfl⟩ := List.length_eq_one_iff.mp one
    rfl

theorem reads_uint16 :
    Reads readUint16 fun v encoding => encoding = writeUint16 v := by
  have decode (high low : UInt8) :
      (high.toUInt16 <<< 8 ||| low.toUInt16).toNat =
        high.toNat * 256 + low.toNat := by
    have highBound : high.toNat < 256 := high.toNat_lt
    have lowBound : low.toNat < 2 ^ 8 := low.toNat_lt
    rw [UInt16.toNat_or, UInt16.toNat_shiftLeft, UInt8.toNat_toUInt16,
      UInt8.toNat_toUInt16]
    change high.toNat <<< 8 % 2 ^ 16 ||| low.toNat = _
    have shifted : high.toNat <<< 8 % 2 ^ 16 = high.toNat <<< 8 := by
      rw [Nat.shiftLeft_eq]
      omega
    calc
      _ = high.toNat * 2 ^ 8 + low.toNat := by
        rw [shifted, ← Nat.shiftLeft_add_eq_or_of_lt lowBound,
          Nat.shiftLeft_eq]
      _ = _ := by omega
  refine .ofBlock (fun _ => rfl) ?_ ?_
  · intro v
    have bound : v.toNat < 65536 := v.toNat_lt
    apply UInt16.toNat_inj.mp
    rw [writeUint16_eq]
    change
      ((UInt8.ofNat (v.toNat / 256)).toUInt16 <<< 8 |||
          (UInt8.ofNat v.toNat).toUInt16).toNat =
        v.toNat
    rw [decode, UInt8.toNat_ofNat', UInt8.toNat_ofNat']
    omega
  · intro bytes two
    obtain ⟨high, low, rfl⟩ := List.length_eq_two.mp two
    have number :
        (high.toUInt16 <<< 8 ||| low.toUInt16).toNat =
          ofBigEndian [high, low] := by
      rw [decode]
      simp [ofBigEndian]
    rw [writeUint16_eq]
    change
      bigEndian 2 (high.toUInt16 <<< 8 ||| low.toUInt16).toNat = [high, low]
    rw [number]
    exact bigEndian_ofBigEndian [high, low]

theorem uint32_ofBigEndian_toNat
    {bytes : ByteString} (four : bytes.length ≤ 4) :
    (UInt32.ofNat (ofBigEndian bytes)).toNat = ofBigEndian bytes := by
  have bound := ofBigEndian_lt bytes
  have smaller : 256 ^ bytes.length ≤ 256 ^ 4 :=
    Nat.pow_le_pow_right (by decide) four
  rw [UInt32.toNat_ofNat']
  exact Nat.mod_eq_of_lt (Nat.lt_of_lt_of_le bound smaller)

theorem reads_uint32 :
    Reads readUint32 fun v encoding => encoding = writeUint32 v := by
  refine .ofBlock length_writeUint32 ?_ ?_
  · intro v
    have bound : v.toNat < 256 ^ 4 := v.toNat_lt
    rw [writeUint32, ofBigEndian_bigEndian, Nat.mod_eq_of_lt bound,
      UInt32.ofNat_toNat]
  · intro bytes four
    rw [writeUint32, uint32_ofBigEndian_toNat (Nat.le_of_eq four)]
    have stored := bigEndian_ofBigEndian bytes
    rwa [four] at stored

theorem reads_uint64 :
    Reads readUint64 fun v encoding => encoding = writeUint64 v := by
  have decode (bytes : ByteString) (eight : bytes.length = 8) :
      ((UInt32.ofNat (ofBigEndian (bytes.take 4))).toUInt64 <<< 32 |||
          (UInt32.ofNat (ofBigEndian (bytes.drop 4))).toUInt64).toNat =
        ofBigEndian bytes := by
    have highLength : (bytes.take 4).length = 4 :=
      List.length_take_of_le (by omega)
    have lowLength : (bytes.drop 4).length = 4 := by
      rw [List.length_drop, eight]
    have highBound := ofBigEndian_lt (bytes.take 4)
    have lowBound := ofBigEndian_lt (bytes.drop 4)
    have value := ofBigEndian_append (bytes.take 4) (bytes.drop 4)
    rw [highLength] at highBound
    rw [lowLength] at lowBound value
    rw [List.take_append_drop] at value
    rw [UInt64.toNat_or, UInt64.toNat_shiftLeft, UInt32.toNat_toUInt64,
      UInt32.toNat_toUInt64, uint32_ofBigEndian_toNat (Nat.le_of_eq highLength),
      uint32_ofBigEndian_toNat (Nat.le_of_eq lowLength), value]
    change
      ofBigEndian (bytes.take 4) <<< 32 % 2 ^ 64 |||
          ofBigEndian (bytes.drop 4) =
        _
    have shifted :
        ofBigEndian (bytes.take 4) <<< 32 % 2 ^ 64 =
          ofBigEndian (bytes.take 4) <<< 32 := by
      rw [Nat.shiftLeft_eq]
      omega
    have small : ofBigEndian (bytes.drop 4) < 2 ^ 32 := by
      omega
    calc
      _ =
          ofBigEndian (bytes.take 4) * 2 ^ 32 +
            ofBigEndian (bytes.drop 4) := by
        rw [shifted, ← Nat.shiftLeft_add_eq_or_of_lt small, Nat.shiftLeft_eq]
      _ = _ := by omega
  refine .ofBlock length_writeUint64 ?_ ?_
  · intro v
    have bound : v.toNat < 256 ^ 8 := v.toNat_lt
    apply UInt64.toNat_inj.mp
    rw [decode _ (length_writeUint64 v), writeUint64_eq, ofBigEndian_bigEndian,
      Nat.mod_eq_of_lt bound]
  · intro bytes eight
    rw [writeUint64_eq, decode bytes eight]
    have stored := bigEndian_ofBigEndian bytes
    rwa [eight] at stored

/-! ## Strings and arrays -/

/-- A size that is sent as a `uint32_t`. -/
abbrev FitsSize (size : Nat) : Prop :=
  size < 2 ^ 32

theorem toNat_size {size : Nat} (fits : FitsSize size) :
    (UInt32.ofNat size).toNat = size := by
  rw [UInt32.toNat_ofNat']
  exact Nat.mod_eq_of_lt fits

theorem reads_string :
    Reads readString fun s encoding =>
      FitsSize s.length ∧ encoding = writeString s := by
  refine
    (reads_uint32.bind fun length => Reads.block length.toNat).congr ?_
  intro s encoding
  constructor
  · rintro ⟨length, _, _, rfl, ⟨rfl, exact⟩, rfl⟩
    refine ⟨?_, ?_⟩
    · rw [exact]
      exact length.toNat_lt
    · rw [writeString, exact, UInt32.ofNat_toNat]
  · rintro ⟨fits, rfl⟩
    exact
      ⟨UInt32.ofNat s.length, _, s, rfl, ⟨rfl, (toNat_size fits).symm⟩, rfl⟩

theorem reads_gid :
    Reads readGid fun gid encoding => encoding = gid.toList := by
  refine .ofBlock (fun gid => gid.size_toArray) ?_ ?_
  · intro gid
    ext index below
    simp [List.getD_eq_getElem?_getD]
  · intro bytes sixteen
    apply List.ext_getElem
    · simp [sixteen]
    · intro index first second
      simp [List.getD_eq_getElem?_getD, second]

end RdmaKvCache
