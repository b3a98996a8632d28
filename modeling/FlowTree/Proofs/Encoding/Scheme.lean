import FlowTree.Encoding.Scheme
import FlowTree.Proofs.Encoding.Base64
import FlowTree.Proofs.Text.Blank
import FlowTree.Proofs.Text.Utf8

/-! # Reading what was encoded

Each scheme reads what it writes. Before reading, blanks are taken off and padding too, so it matters that no
scheme on bytes writes a blank or an equals sign as a digit. `ascii` writes seven bits of each byte, which are
all there is of a character of ASCII. -/

namespace FlowTree.Scheme

open Text (isBlank toBytes ofBytes?)

variable {s : Scheme} {text : String}

/-! ### Digits -/

theorem hexDigit?_digitChar {n : Nat} (h : n < 16) : Json.hexDigit? (Nat.digitChar n) = some n := by
  have hall : ∀ n < 16, Json.hexDigit? (Nat.digitChar n) = some n := by decide
  exact hall n h

theorem isBlank_digitChar {n : Nat} (h : n < 16) : isBlank (Nat.digitChar n) = false := by
  have hall : ∀ n < 16, isBlank (Nat.digitChar n) = false := by decide
  exact hall n h

theorem unhex?_hexByte (bytes : List UInt8) : unhex? (bytes.flatMap hexByte) = some bytes := by
  induction bytes with
  | nil => rfl
  | cons b bytes ih =>
    have hb := b.toNat_lt
    have hvalue : b.toNat / 16 * 16 + b.toNat % 16 = b.toNat := by omega
    rw [List.flatMap_cons, hexByte, List.cons_append, List.cons_append, List.nil_append, unhex?,
      hexDigit?_digitChar (by omega), hexDigit?_digitChar (by omega), ih]
    simp only [Option.pure_def, Option.bind_eq_bind, Option.bind_some, hvalue, UInt8.ofNat_toNat]

theorem isBlank_hexByte (bytes : List UInt8) : ∀ c ∈ bytes.flatMap hexByte, isBlank c = false := by
  intro c hc
  obtain ⟨b, -, hc⟩ := List.mem_flatMap.mp hc
  have hb := b.toNat_lt
  simp only [hexByte, List.mem_cons, List.not_mem_nil, or_false] at hc
  rcases hc with rfl | rfl
  · exact isBlank_digitChar (by omega)
  · exact isBlank_digitChar (by omega)

/-- A binary digit is one of the two, and counts as the bit that it was written for. -/
theorem bit_cases (n : Nat) : (if n % 2 = 1 then '1' else '0') = '1' ∧ n % 2 = 1 ∨
    (if n % 2 = 1 then '1' else '0') = '0' ∧ n % 2 = 0 := by
  rcases Nat.mod_two_eq_zero_or_one n with h | h <;> simp [h]

theorem bit_value (n : Nat) : (if (if n % 2 = 1 then '1' else '0') = '1' then 1 else 0) = n % 2 := by
  rcases bit_cases n with ⟨hc, hn⟩ | ⟨hc, hn⟩ <;> simp [hn]

theorem binaryByte_digits (b : UInt8) : ∀ c ∈ binaryByte b, c = '0' ∨ c = '1' := by
  intro c hc
  obtain ⟨i, -, rfl⟩ := List.mem_map.mp hc
  rcases bit_cases (b.toNat / Nat.pow 2 i) with ⟨hc, -⟩ | ⟨hc, -⟩
  · exact Or.inr hc
  · exact Or.inl hc

/-- Reading a further bit of a number. -/
theorem halves (n i : Nat) : n / Nat.pow 2 (i + 1) * 2 + n / Nat.pow 2 i % 2 = n / Nat.pow 2 i := by
  have hpow : Nat.pow 2 (i + 1) = Nat.pow 2 i * 2 := rfl
  rw [hpow, ← Nat.div_div_eq_div_mul]
  omega

theorem ofBinaryDigits_binaryByte (b : UInt8) : ofBinaryDigits (binaryByte b) = b.toNat := by
  have hb := b.toNat_lt
  have hfirst : 0 * 2 + b.toNat / Nat.pow 2 7 % 2 = b.toNat / Nat.pow 2 7 := by
    rw [show Nat.pow 2 7 = 128 from rfl]
    omega
  have hlast : b.toNat / Nat.pow 2 0 = b.toNat := Nat.div_one _
  simp only [ofBinaryDigits, binaryByte, List.map_cons, List.map_nil, List.foldl_cons, List.foldl_nil, bit_value]
  rw [hfirst, halves _ 6, halves _ 5, halves _ 4, halves _ 3, halves _ 2, halves _ 1, halves _ 0, hlast]

theorem unbinary?_binaryByte (b : UInt8) : unbinary? (binaryByte b) = some b := by
  have hdigits := binaryByte_digits b
  have hne : binaryByte b ≠ [] := List.cons_ne_nil _ _
  have hall : (binaryByte b).all (fun c => c = '0' || c = '1') = true := by
    rw [List.all_eq_true]
    intro c hc
    simpa using hdigits c hc
  have hlt : ofBinaryDigits (binaryByte b) < 256 := by
    rw [ofBinaryDigits_binaryByte]
    exact b.toNat_lt
  rw [unbinary?]
  · rw [if_pos ⟨hne, hall, hlt⟩, ofBinaryDigits_binaryByte, UInt8.ofNat_toNat]
  · -- The first digit is no sign.
    intro rest hsign
    rcases hdigits '+' (hsign ▸ List.mem_cons_self) with h | h <;> cases h

/-! ### Texts -/

/-- All schemes can write all texts, apart from `ascii`. -/
def CanWrite (s : Scheme) (text : String) : Prop :=
  s = ascii → Text.IsAscii text.toList

theorem trimEquals_eq_self {cs : List Char} (h : '=' ∉ cs) : trimEquals cs = cs := by
  have hreverse : cs.reverse.dropWhile (· = '=') = cs.reverse := by
    cases hcs : cs.reverse with
    | nil => rfl
    | cons c rest =>
      have hc : c ≠ '=' := by
        rintro rfl
        exact h (List.mem_reverse.mp (hcs ▸ List.mem_cons_self))
      simp [hc]
  rw [trimEquals, hreverse, List.reverse_reverse]

theorem trimChars_eq_self_of_forall {cs : List Char} (h : ∀ c ∈ cs, isBlank c = false) : Text.trimChars cs = cs :=
  (Text.isTrimmed_of_forall h).trimChars_eq_self

theorem isBlank_pad {cs : List Char} (h : ∀ c ∈ cs, isBlank c = false) : ∀ c ∈ Base64.pad cs, isBlank c = false := by
  intro c hc
  rcases List.mem_append.mp hc with hc | hc
  · exact h c hc
  · rw [List.eq_of_mem_replicate hc]
    decide

theorem ascii_encode (h : Text.IsAscii text.toList) : ascii.encode text = text := by
  have hmap : (toBytes text).map (fun b => Char.ofNat (b.toNat % 128)) = text.toList := by
    rw [Text.toBytes_ascii h, List.map_map]
    refine (List.map_congr_left fun c hc => ?_).trans (List.map_id _)
    rw [Function.comp_apply, Text.toNat_ofNat_ascii (h c hc), Nat.mod_eq_of_lt (h c hc), Char.ofNat_toNat, id_eq]
  rw [encode, hmap, String.ofList_toList]

theorem ascii_decode? (h : Text.IsAscii text.toList) : ascii.decode? text = some text := by
  have hmap : text.toList.map (fun c => UInt8.ofNat (c.toNat % 256)) = text.toList.map fun c => UInt8.ofNat c.toNat :=
    List.map_congr_left fun c hc => by rw [Nat.mod_eq_of_lt (Nat.lt_trans (h c hc) (by decide))]
  rw [decode?, hmap, Text.ofBytes, Text.decodeFrom_ascii h, String.ofList_toList]

/-- The groups of a text in `binary` are its bytes. -/
theorem words_encode_binary (text : String) :
    Text.words (binary.encode text) = (toBytes text).map fun b => String.ofList (binaryByte b) := by
  refine Text.words_intercalate fun g hg => ?_
  obtain ⟨b, -, rfl⟩ := List.mem_map.mp hg
  rw [String.toList_ofList]
  refine ⟨mt String.ofList_eq_empty_iff.mp (List.cons_ne_nil _ _), fun c hc => ?_⟩
  rcases binaryByte_digits b c hc with rfl | rfl <;> decide

/-- A scheme reads what it writes. -/
theorem decode?_encode (h : CanWrite s text) : s.decode? (s.encode text) = some text := by
  cases s with
  | base64 =>
    have hchars := Base64.forall_mem_encode (a := Base64.standard) (P := fun c => isBlank c = false ∧ c ≠ '=')
      (by decide +kernel) (toBytes text)
    have htrim := trimChars_eq_self_of_forall (isBlank_pad fun c hc => (hchars c hc).1)
    have hpad := Base64.unpad?_pad (fun hmem => (hchars _ hmem).2 rfl) (Base64.length_encode_mod _ (toBytes text))
    rw [encode, decode?, String.toList_ofList, htrim, hpad]
    simp only [Option.bind_some, Base64.decode?_encode Base64.reads_standard, Text.ofBytes?_toBytes]
  | base64url =>
    have hchars := Base64.forall_mem_encode (a := Base64.urlSafe) (P := fun c => isBlank c = false ∧ c ≠ '=')
      (by decide +kernel) (toBytes text)
    have htrim := trimChars_eq_self_of_forall fun c hc => (hchars c hc).1
    rw [encode, decode?, String.toList_ofList, htrim, trimEquals_eq_self fun hmem => (hchars _ hmem).2 rfl,
      Base64.decode?_encode Base64.reads_urlSafe, Option.bind_some, Text.ofBytes?_toBytes]
  | hex =>
    rw [encode, decode?, String.toList_ofList, trimChars_eq_self_of_forall (isBlank_hexByte _), unhex?_hexByte,
      Option.bind_some, Text.ofBytes?_toBytes]
  | utf8 => rfl
  | ascii => rw [ascii_encode (h rfl), ascii_decode? (h rfl)]
  | binary =>
    have hread (bytes : List UInt8) :
        (bytes.map fun b => String.ofList (binaryByte b)).mapM (fun g => unbinary? g.toList) = some bytes := by
      induction bytes with
      | nil => rfl
      | cons b bytes ih => simp [String.toList_ofList, unbinary?_binaryByte, ih]
    rw [decode?, words_encode_binary, hread, Option.bind_some, Text.ofBytes?_toBytes]

/-- Nothing but the empty text is written as the empty text. -/
theorem encode_ne_empty (h : CanWrite s text) (hne : text ≠ "") : s.encode text ≠ "" := by
  intro hempty
  have hread := decode?_encode h
  have hnothing : s.decode? "" = some "" := by cases s <;> rfl
  rw [hempty, hnothing] at hread
  exact hne (Option.some.inj hread).symm

end FlowTree.Scheme
