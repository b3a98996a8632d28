import FlowTree.Text.Utf8

/-! # Texts and their bytes

A text is told by its UTF-8 bytes. The characters of ASCII are the bytes below 128, each of which is read as
itself, so such a text and its bytes are the same numbers. -/

namespace FlowTree.Text

variable {s : String} {cs : List Char}

theorem toBytes_eq (s : String) : toBytes s = s.toList.flatMap String.utf8EncodeChar := by
  have h : s.toByteArray = s.toList.utf8Encode := String.utf8Encode_toList.symm
  rw [toBytes, String.toUTF8_eq_toByteArray, h, List.utf8Encode, List.data_toByteArray]

@[simp] theorem ofBytes?_toBytes (s : String) : ofBytes? (toBytes s) = some s := by
  have h : (⟨(toBytes s).toArray⟩ : ByteArray) = s.toByteArray := rfl
  rw [ofBytes?, h, String.fromUTF8?, dif_pos s.isValidUTF8]
  rfl

theorem ofBytes?_eq_some_iff {bytes : List UInt8} : ofBytes? bytes = some s ↔ toBytes s = bytes := by
  constructor
  · intro h
    unfold ofBytes? String.fromUTF8? at h
    split at h
    next =>
      obtain rfl := Option.some.inj h
      rfl
    next => cases h
  · rintro rfl
    exact ofBytes?_toBytes s

theorem byteLength_append (cs ds : List Char) : byteLength (cs ++ ds) = byteLength cs + byteLength ds := by
  induction cs with
  | nil => exact (Nat.zero_add _).symm
  | cons c cs ih => rw [List.cons_append, byteLength, byteLength, ih, Nat.add_assoc]

theorem utf8ByteSize_ofList (cs : List Char) : (String.ofList cs).utf8ByteSize = byteLength cs := by
  induction cs with
  | nil => rfl
  | cons c cs ih =>
    rw [String.ofList_cons, String.utf8ByteSize_append, ih, byteLength, String.utf8ByteSize_singleton]

/-! ### ASCII -/

/-- All characters are below 128. -/
def IsAscii (cs : List Char) : Prop :=
  ∀ c ∈ cs, c.toNat < 128

theorem IsAscii.of_cons {c : Char} (h : IsAscii (c :: cs)) : c.toNat < 128 ∧ IsAscii cs :=
  ⟨h c List.mem_cons_self, fun d hd => h d (List.mem_cons_of_mem _ hd)⟩

theorem utf8EncodeChar_ascii {c : Char} (h : c.toNat < 128) : String.utf8EncodeChar c = [UInt8.ofNat c.toNat] := by
  have hle : c.val.toNat ≤ 127 := Nat.lt_succ_iff.mp h
  rw [String.utf8EncodeChar]
  exact if_pos hle

theorem flatMap_utf8EncodeChar_ascii (h : IsAscii cs) :
    cs.flatMap String.utf8EncodeChar = cs.map fun c => UInt8.ofNat c.toNat := by
  induction cs with
  | nil => rfl
  | cons c cs ih => rw [List.flatMap_cons, utf8EncodeChar_ascii h.of_cons.1, ih h.of_cons.2, List.map_cons, List.singleton_append]

theorem toBytes_ascii (h : IsAscii s.toList) : toBytes s = s.toList.map fun c => UInt8.ofNat c.toNat := by
  rw [toBytes_eq, flatMap_utf8EncodeChar_ascii h]

theorem toNat_ofNat_ascii {c : Char} (h : c.toNat < 128) : (UInt8.ofNat c.toNat).toNat = c.toNat := by
  rw [UInt8.toNat_ofNat']
  exact Nat.mod_eq_of_lt (by omega)

theorem lead_ascii {b : UInt8} (h : b.toNat < 128) : lead b = .char (Char.ofNat b.toNat) := by
  rw [lead]
  exact if_pos h

theorem decodeFrom_ascii (h : IsAscii cs) : decodeFrom none (cs.map fun c => UInt8.ofNat c.toNat) = cs := by
  induction cs with
  | nil => rfl
  | cons c cs ih =>
    have hb : (UInt8.ofNat c.toNat).toNat = c.toNat := toNat_ofNat_ascii h.of_cons.1
    have hlead : lead (UInt8.ofNat c.toNat) = .char c := by
      rw [lead_ascii (by rw [hb]; exact h.of_cons.1), hb, Char.ofNat_toNat]
    rw [List.map_cons, decodeFrom, hlead]
    exact congrArg (c :: ·) (ih h.of_cons.2)

end FlowTree.Text
