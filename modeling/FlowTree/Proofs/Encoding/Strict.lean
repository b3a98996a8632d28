import FlowTree.Proofs.Encoding.Scheme
import FlowTree.Proofs.Text.Case
import Mathlib.Data.List.Forall2
import Mathlib.Data.List.Induction

/-! # What is read as an encoding

A text is read only if it is what its scheme writes, as the scheme lets it be written: with blanks around it, hexadecimal
digits in either case, and a padding that `base64url` does not write. The groups of `binary` are read more freely, with
any number of digits and a plus sign; those of eight digits are read as they are written. -/

namespace FlowTree.Scheme

open Text (isBlank toBytes ofBytes?)

variable {cs group : List Char} {bytes : List UInt8} {b : UInt8} {x t : String}

/-! ### Hexadecimal digits -/

theorem isAscii_of_hexDigit? {c : Char} {n : Nat} (h : Json.hexDigit? c = some n) : c.toNat < 128 := by
  unfold Json.hexDigit? at h
  split at h
  next hrange => exact lt_of_le_of_lt (show c.toNat ≤ 57 from hrange.2) (by decide)
  split at h
  next hrange => exact lt_of_le_of_lt (show c.toNat ≤ 102 from hrange.2) (by decide)
  split at h
  next hrange => exact lt_of_le_of_lt (show c.toNat ≤ 70 from hrange.2) (by decide)
  cases h

/-- A digit is written in lower case. -/
theorem digitChar_of_hexDigit? {c : Char} {n : Nat} (h : Json.hexDigit? c = some n) :
    n < 16 ∧ Nat.digitChar n = c.toLower := by
  have hall : ∀ m < 128, (Json.hexDigit? (Char.ofNat m)).all
      (fun n => n < 16 ∧ Nat.digitChar n = (Char.ofNat m).toLower) = true := by decide +kernel
  have hc := hall c.toNat (isAscii_of_hexDigit? h)
  rw [Char.ofNat_toNat, h] at hc
  simpa using hc

theorem hexDigit?_toLower (c : Char) : Json.hexDigit? c.toLower = Json.hexDigit? c := by
  have hall : ∀ m < 128, Json.hexDigit? (Char.ofNat m).toLower = Json.hexDigit? (Char.ofNat m) := by decide +kernel
  by_cases hc : c.toNat < 128
  · have hascii := hall c.toNat hc
    rwa [Char.ofNat_toNat] at hascii
  · rcases Text.toLower_cases c with hc' | ⟨-, hletter, -⟩
    · rw [hc']
    · omega

theorem unhex?_map_toLower (cs : List Char) : unhex? (cs.map Char.toLower) = unhex? cs := by
  fun_induction unhex? cs with
  | case1 h l rest ih => simp [unhex?, hexDigit?_toLower, ih]
  | case2 | case3 => rfl

theorem unhex?_eq_some_iff : unhex? cs = some bytes ↔ cs.map Char.toLower = bytes.flatMap hexByte := by
  constructor
  · intro h
    fun_induction unhex? cs generalizing bytes with
    | case1 p q rest ih =>
      simp only [Option.pure_def, Option.bind_eq_bind, Option.bind_eq_some_iff, Option.some.injEq] at h
      obtain ⟨n, hn, m, hm, bytes, hbytes, rfl⟩ := h
      obtain ⟨hn', hp⟩ := digitChar_of_hexDigit? hn
      obtain ⟨hm', hq⟩ := digitChar_of_hexDigit? hm
      have hbyte : (UInt8.ofNat (n * 16 + m)).toNat = n * 16 + m := by
        rw [UInt8.toNat_ofNat']
        exact Nat.mod_eq_of_lt (by omega)
      have hhigh : (n * 16 + m) / 16 = n := by omega
      have hlow : (n * 16 + m) % 16 = m := by omega
      rw [List.map_cons, List.map_cons, List.flatMap_cons, hexByte, hbyte, hhigh, hlow, hp, hq, ih hbytes]
      rfl
    | case2 => cases h
    | case3 =>
      obtain rfl := Option.some.inj h
      rfl
  · intro h
    rw [← unhex?_map_toLower, h, unhex?_hexByte]

/-! ### Binary groups -/

/-- Eight binary digits. -/
def IsOctet (group : List Char) : Prop :=
  group.length = 8 ∧ ∀ c ∈ group, c = '0' ∨ c = '1'

/-- The group gives the value of the byte in binary digits, perhaps after a plus sign. -/
def WritesByte (group : List Char) (b : UInt8) : Prop :=
  ∃ digits, (group = digits ∨ group = '+' :: digits) ∧ digits ≠ [] ∧ (∀ c ∈ digits, c = '0' ∨ c = '1') ∧
    ofBinaryDigits digits = b.toNat

theorem ofBinaryDigits_concat (cs : List Char) (c : Char) :
    ofBinaryDigits (cs ++ [c]) = ofBinaryDigits cs * 2 + (if c = '1' then 1 else 0) := by
  simp [ofBinaryDigits]

/-- Of two rows of as many digits only one has a value. -/
theorem eq_of_ofBinaryDigits {ds : List Char} (hcs : ∀ c ∈ cs, c = '0' ∨ c = '1') (hds : ∀ d ∈ ds, d = '0' ∨ d = '1')
    (hlength : cs.length = ds.length) (h : ofBinaryDigits cs = ofBinaryDigits ds) : cs = ds := by
  induction cs using List.reverseRecOn generalizing ds with
  | nil => exact (List.length_eq_zero_iff.mp hlength.symm).symm
  | append_singleton cs c ih =>
    rcases List.eq_nil_or_concat ds with rfl | ⟨ds, d, rfl⟩
    · simp at hlength
    · rw [List.concat_eq_append] at hds hlength h ⊢
      rw [ofBinaryDigits_concat, ofBinaryDigits_concat] at h
      have hc := hcs c (by simp)
      have hd := hds d (by simp)
      have hbits : ofBinaryDigits cs = ofBinaryDigits ds ∧ c = d := by
        rcases hc with rfl | rfl <;> rcases hd with rfl | rfl <;> simp at h ⊢ <;> omega
      obtain rfl := ih (fun c hc => hcs c (List.mem_append_left _ hc)) (fun d hd => hds d (List.mem_append_left _ hd))
        (by simpa using hlength) hbits.1
      rw [hbits.2]

/-- The byte that binary digits write by themselves. -/
def ofDigits? (digits : List Char) : Option UInt8 :=
  if digits ≠ [] ∧ digits.all (fun c => c = '0' || c = '1') ∧ ofBinaryDigits digits < 256 then
    some (UInt8.ofNat (ofBinaryDigits digits))
  else none

theorem ofDigits?_eq_some_iff {digits : List Char} : ofDigits? digits = some b ↔
    digits ≠ [] ∧ (∀ c ∈ digits, c = '0' ∨ c = '1') ∧ ofBinaryDigits digits = b.toNat := by
  have hall : digits.all (fun c => c = '0' || c = '1') = true ↔ ∀ c ∈ digits, c = '0' ∨ c = '1' := by
    simp only [List.all_eq_true, Bool.or_eq_true, decide_eq_true_eq]
  rw [ofDigits?, Option.ite_none_right_eq_some, hall]
  constructor
  · rintro ⟨⟨hne, hdigits, hlt⟩, hb⟩
    obtain rfl := Option.some.inj hb
    refine ⟨hne, hdigits, ?_⟩
    rw [UInt8.toNat_ofNat', Nat.mod_eq_of_lt hlt]
  · rintro ⟨hne, hdigits, hvalue⟩
    rw [hvalue, UInt8.ofNat_toNat]
    exact ⟨⟨hne, hdigits, b.toNat_lt⟩, rfl⟩

theorem unbinary?_of_unsigned (h : group.head? ≠ some '+') : unbinary? group = ofDigits? group := by
  rw [unbinary?]
  · rfl
  · rintro rest rfl
    exact h rfl

theorem unbinary?_eq_some_iff : unbinary? group = some b ↔ WritesByte group b := by
  constructor
  · intro h
    by_cases hsign : group.head? = some '+'
    · obtain ⟨digits, rfl⟩ := List.head?_eq_some_iff.mp hsign
      exact ⟨digits, Or.inr rfl, ofDigits?_eq_some_iff.mp h⟩
    · rw [unbinary?_of_unsigned hsign] at h
      exact ⟨group, Or.inl rfl, ofDigits?_eq_some_iff.mp h⟩
  · rintro ⟨digits, rfl | rfl, hdigits⟩
    · have hunsigned : group.head? ≠ some '+' := fun hsign => by
        have hplus := hdigits.2.1 '+' (List.mem_of_head? hsign)
        simp at hplus
      rw [unbinary?_of_unsigned hunsigned]
      exact ofDigits?_eq_some_iff.mpr hdigits
    · exact ofDigits?_eq_some_iff.mpr hdigits

theorem isOctet_binaryByte (b : UInt8) : IsOctet (binaryByte b) :=
  ⟨rfl, binaryByte_digits b⟩

/-- A group is as it would be written if it has eight digits, and only then. -/
theorem WritesByte.binaryByte_eq_iff (h : WritesByte group b) : binaryByte b = group ↔ IsOctet group := by
  constructor
  · rintro rfl
    exact isOctet_binaryByte b
  · rintro ⟨hlength, hdigits⟩
    obtain ⟨digits, rfl | rfl, -, -, hvalue⟩ := h
    · exact eq_of_ofBinaryDigits (binaryByte_digits b) hdigits hlength.symm (by rw [ofBinaryDigits_binaryByte, hvalue])
    · have hplus := hdigits '+' List.mem_cons_self
      simp at hplus

theorem mapM_unbinary?_eq_some_iff {groups : List String} :
    (groups.mapM fun group => unbinary? group.toList) = some bytes ↔
      List.Forall₂ WritesByte (groups.map String.toList) bytes := by
  induction groups generalizing bytes with
  | nil =>
    rw [List.mapM_nil, List.map_nil, List.forall₂_nil_left_iff, Option.pure_def, Option.some.injEq, eq_comm]
  | cons group groups ih =>
    simp only [List.mapM_cons, Option.pure_def, Option.bind_eq_bind, Option.bind_eq_some_iff, Option.some.injEq,
      List.map_cons, List.forall₂_cons_left_iff, ih, unbinary?_eq_some_iff, eq_comm (b := bytes)]
    simp only [← exists_and_left]

theorem eq_map_binaryByte {groups : List (List Char)} (h : List.Forall₂ WritesByte groups bytes)
    (hoctets : ∀ group ∈ groups, IsOctet group) : groups = bytes.map binaryByte := by
  induction h with
  | nil => rfl
  | cons hgroup _ ih =>
    rw [List.forall_mem_cons] at hoctets
    rw [List.map_cons, hgroup.binaryByte_eq_iff.mpr hoctets.1, ← ih hoctets.2]

/-! ### Padding -/

theorem exists_eq_trimEquals_append (cs : List Char) : ∃ n, cs = trimEquals cs ++ List.replicate n '=' := by
  have hcut := List.takeWhile_append_dropWhile (p := (· = '=')) (l := cs.reverse)
  have hequals : cs.reverse.takeWhile (· = '=') = List.replicate (cs.reverse.takeWhile (· = '=')).length '=' :=
    List.eq_replicate_of_mem fun c hc => by simpa using List.mem_takeWhile_imp hc
  refine ⟨(cs.reverse.takeWhile (· = '=')).length, ?_⟩
  rw [trimEquals, ← List.reverse_replicate, ← List.reverse_append, ← hequals, hcut, List.reverse_reverse]

theorem trimEquals_eq_iff {ds : List Char} (h : '=' ∉ ds) :
    trimEquals cs = ds ↔ ∃ n, cs = ds ++ List.replicate n '=' := by
  constructor
  · rintro rfl
    exact exists_eq_trimEquals_append cs
  · rintro ⟨n, rfl⟩
    have hdrop : (List.replicate n '=' ++ ds.reverse).dropWhile (· = '=') = ds.reverse.dropWhile (· = '=') :=
      List.dropWhile_append_of_pos fun c hc => decide_eq_true (List.eq_of_mem_replicate hc)
    rw [trimEquals, List.reverse_append, List.reverse_replicate, hdrop]
    exact trimEquals_eq_self h

/-! ### Texts -/

theorem trim_eq_ofList_iff : Text.trim x = String.ofList cs ↔ Text.trimChars x.toList = cs := by
  rw [← String.toList_inj, Text.toList_trim, String.toList_ofList]

theorem base64_decode?_eq_some_iff : base64.decode? x = some t ↔ Text.trim x = base64.encode t := by
  have hdigits := Base64.forall_mem_encode (a := Base64.standard) (P := (· ≠ '=')) (by decide +kernel) (toBytes t)
  rw [encode, trim_eq_ofList_iff,
    ← Base64.unpad?_eq_some_iff (fun hmem => hdigits _ hmem rfl) (Base64.length_encode_mod _ (toBytes t))]
  simp only [decode?, Option.bind_eq_some_iff, Base64.decode?_eq_some_iff Base64.reads_standard,
    Text.ofBytes?_eq_some_iff, exists_eq_right', exists_eq_right]

theorem base64url_decode?_eq_some_iff : base64url.decode? x = some t ↔
    ∃ n, Text.trim x = base64url.encode t ++ String.ofList (List.replicate n '=') := by
  have hdigits := Base64.forall_mem_encode (a := Base64.urlSafe) (P := (· ≠ '=')) (by decide +kernel) (toBytes t)
  simp only [encode, ← String.ofList_append, trim_eq_ofList_iff]
  rw [← trimEquals_eq_iff fun hmem => hdigits _ hmem rfl]
  simp only [decode?, Option.bind_eq_some_iff, Base64.decode?_eq_some_iff Base64.reads_urlSafe,
    Text.ofBytes?_eq_some_iff, exists_eq_right']

theorem hex_decode?_eq_some_iff :
    hex.decode? x = some t ↔ String.ofList ((Text.trim x).toList.map Char.toLower) = hex.encode t := by
  rw [encode, String.ofList_inj, Text.toList_trim, ← unhex?_eq_some_iff]
  simp only [decode?, Option.bind_eq_some_iff, Text.ofBytes?_eq_some_iff, exists_eq_right']

theorem binary_decode?_eq_some_iff : binary.decode? x = some t ↔
    List.Forall₂ WritesByte ((Text.words x).map String.toList) (toBytes t) := by
  simp only [decode?, Option.bind_eq_some_iff, mapM_unbinary?_eq_some_iff, Text.ofBytes?_eq_some_iff, exists_eq_right']

/-- The groups of a text are those that the other is written in if they are read as it and are octets. -/
theorem words_eq_iff : Text.words x = Text.words (binary.encode t) ↔
    binary.decode? x = some t ∧ ∀ group ∈ Text.words x, IsOctet group.toList := by
  constructor
  · intro h
    have hread : binary.decode? x = binary.decode? (binary.encode t) := by rw [decode?, decode?, h]
    refine ⟨hread.trans (decode?_encode (by rintro ⟨⟩)), fun group hgroup => ?_⟩
    rw [h, words_encode_binary] at hgroup
    obtain ⟨b, -, rfl⟩ := List.mem_map.mp hgroup
    rw [String.toList_ofList]
    exact isOctet_binaryByte b
  · rintro ⟨hread, hoctets⟩
    have hgroups := eq_map_binaryByte (binary_decode?_eq_some_iff.mp hread) (List.forall_mem_map.mpr hoctets)
    rw [words_encode_binary, ← List.map_inj_right fun _ _ => String.toList_inj.mp, hgroups, List.map_map]
    exact List.map_congr_left fun b _ => String.toList_ofList.symm

theorem intercalate_words_eq_iff : " ".intercalate (Text.words x) = binary.encode t ↔
    Text.words x = Text.words (binary.encode t) := by
  constructor
  · intro h
    rw [← h, Text.words_intercalate fun _ => Text.of_mem_words]
  · intro h
    rw [h, words_encode_binary, encode]

/-! ### What is read -/

/-- What each scheme on bytes takes for a writing of a text. -/
structure ReadsWritten (x t : String) : Prop where
  base64_iff : base64.decode? x = some t ↔ Text.trim x = base64.encode t
  base64url_iff : base64url.decode? x = some t ↔
    ∃ n, Text.trim x = base64url.encode t ++ String.ofList (List.replicate n '=')
  hex_iff : hex.decode? x = some t ↔ String.ofList ((Text.trim x).toList.map Char.toLower) = hex.encode t
  /-- Groups of any length are read, and a sign before the digits. -/
  binary_iff : binary.decode? x = some t ↔ List.Forall₂ WritesByte ((Text.words x).map String.toList) (toBytes t)
  /-- The binary text, with one blank between its groups, is the encoding if and only if it is read and its groups are
  octets. -/
  octets_iff : " ".intercalate (Text.words x) = binary.encode t ↔
    binary.decode? x = some t ∧ ∀ group ∈ Text.words x, IsOctet group.toList

/-- What is decoded was encoded, but for blanks, the case of hexadecimal digits, padding that is not needed and binary
groups that are no octets. -/
theorem decode?_readsWritten (x t : String) : ReadsWritten x t where
  base64_iff := base64_decode?_eq_some_iff
  base64url_iff := base64url_decode?_eq_some_iff
  hex_iff := hex_decode?_eq_some_iff
  binary_iff := binary_decode?_eq_some_iff
  octets_iff := intercalate_words_eq_iff.trans words_eq_iff

/-- Groups of seven digits, one of them with a sign, are read like those of eight. -/
example : binary.decode? "+1000001 1000010" = some "AB" ∧ binary.encode "AB" = "01000001 01000010" := by
  decide +kernel

end FlowTree.Scheme
