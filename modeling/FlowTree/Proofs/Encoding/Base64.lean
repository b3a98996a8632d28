import FlowTree.Encoding.Base64

/-! # Reading base64

Four digits of six bits say what three bytes of eight say, and a last group of two or three digits what one or
two bytes say. So reading undoes writing, for every alphabet that can tell its digits apart. Padding is told
from the digits by its character, and no writing leaves a group of one digit. -/

namespace FlowTree.Base64

variable {a : Alphabet} {cs : List Char}

/-- Every digit is read as itself. -/
def Reads (a : Alphabet) : Prop :=
  ∀ n < 64, value? a (digit a n) = some n

theorem reads_standard : Reads standard := by
  unfold Reads
  decide +kernel

theorem reads_urlSafe : Reads urlSafe := by
  unfold Reads
  decide +kernel

theorem Reads.value?_digit (h : Reads a) {n : Nat} (hn : n < 64) : value? a (digit a n) = some n := h n hn

/-- Two pieces of a byte, put together again. -/
theorem ofNat_eq_of_pieces {b : UInt8} {n : Nat} (h : n = b.toNat) : UInt8.ofNat n = b := by
  rw [h, UInt8.ofNat_toNat]

theorem decode?_encode (h : Reads a) (bytes : List UInt8) : decode? a (encode a bytes) = some bytes := by
  fun_induction encode a bytes with
  | case1 x y z rest ih =>
    have hx := x.toNat_lt
    have hy := y.toNat_lt
    have hz := z.toNat_lt
    rw [decode?, h.value?_digit (by omega), h.value?_digit (by omega), h.value?_digit (by omega),
      h.value?_digit (by omega), ih]
    simp only [Option.pure_def, Option.bind_eq_bind, Option.bind_some, Option.some.injEq, List.cons.injEq, and_true]
    exact ⟨ofNat_eq_of_pieces (by omega), ofNat_eq_of_pieces (by omega), ofNat_eq_of_pieces (by omega)⟩
  | case2 x y =>
    have hx := x.toNat_lt
    have hy := y.toNat_lt
    have hrest : y.toNat % 16 * 4 % 4 = 0 := by omega
    rw [decode?, h.value?_digit (by omega), h.value?_digit (by omega), h.value?_digit (by omega)]
    simp only [Option.pure_def, Option.bind_eq_bind, Option.bind_some, hrest, if_true, Option.some.injEq,
      List.cons.injEq, and_true]
    exact ⟨ofNat_eq_of_pieces (by omega), ofNat_eq_of_pieces (by omega)⟩
  | case3 x =>
    have hx := x.toNat_lt
    have hrest : x.toNat % 4 * 16 % 16 = 0 := by omega
    rw [decode?, h.value?_digit (by omega), h.value?_digit (by omega)]
    simp only [Option.pure_def, Option.bind_eq_bind, Option.bind_some, hrest, if_true, Option.some.injEq,
      List.cons.injEq, and_true]
    exact ofNat_eq_of_pieces (by omega)
  | case4 => rfl

/-- What holds of every digit holds of every character that is written. -/
theorem forall_mem_encode {P : Char → Prop} (h : ∀ n < 64, P (digit a n)) (bytes : List UInt8) :
    ∀ c ∈ encode a bytes, P c := by
  have hbyte : ∀ x : UInt8, x.toNat / 4 < 64 := fun x => by have := x.toNat_lt; omega
  fun_induction encode a bytes with
  | case1 x y z rest ih =>
    have hy := y.toNat_lt
    have hz := z.toNat_lt
    simp only [List.forall_mem_cons]
    exact ⟨h _ (hbyte x), h _ (by omega), h _ (by omega), h _ (by omega), ih⟩
  | case2 x y =>
    have hy := y.toNat_lt
    simp only [List.forall_mem_cons]
    exact ⟨h _ (hbyte x), h _ (by omega), h _ (by omega), List.forall_mem_nil P⟩
  | case3 x =>
    simp only [List.forall_mem_cons]
    exact ⟨h _ (hbyte x), h _ (by omega), List.forall_mem_nil P⟩
  | case4 => exact List.forall_mem_nil P

/-! ### What is read -/

/-- A character that is read is the digit itself. -/
theorem digit_of_value? {c : Char} {n : Nat} (h : value? a c = some n) : n < 64 ∧ digit a n = c := by
  have hback : ∀ m, m = c.toNat → Char.ofNat m = c := by
    rintro _ rfl
    exact c.ofNat_toNat
  have hletters : 'A'.toNat = 65 ∧ 'a'.toNat = 97 ∧ '0'.toNat = 48 := ⟨rfl, rfl, rfl⟩
  unfold value? at h
  split at h
  next hupper =>
    have hrange : 65 ≤ c.toNat ∧ c.toNat ≤ 90 := hupper
    obtain rfl := Option.some.inj h
    refine ⟨by omega, ?_⟩
    rw [digit, if_pos (by omega)]
    exact hback _ (by omega)
  split at h
  next hlower =>
    have hrange : 97 ≤ c.toNat ∧ c.toNat ≤ 122 := hlower
    obtain rfl := Option.some.inj h
    refine ⟨by omega, ?_⟩
    rw [digit, if_neg (by omega), if_pos (by omega)]
    exact hback _ (by omega)
  split at h
  next hdigit =>
    have hrange : 48 ≤ c.toNat ∧ c.toNat ≤ 57 := hdigit
    obtain rfl := Option.some.inj h
    refine ⟨by omega, ?_⟩
    rw [digit, if_neg (by omega), if_neg (by omega), if_pos (by omega)]
    exact hback _ (by omega)
  split at h
  next hplus =>
    obtain rfl := Option.some.inj h
    exact ⟨by decide, hplus.symm⟩
  split at h
  next hslash =>
    obtain rfl := Option.some.inj h
    exact ⟨by decide, hslash.symm⟩
  cases h

/-- What is read is what is written: no two groups of digits write the same bytes. -/
theorem encode_of_decode? {bytes : List UInt8} (h : decode? a cs = some bytes) : encode a bytes = cs := by
  have hbyte : ∀ n < 256, (UInt8.ofNat n).toNat = n := fun n hn => by
    rw [UInt8.toNat_ofNat']
    exact Nat.mod_eq_of_lt hn
  fun_induction decode? a cs generalizing bytes with
  | case1 p q r s rest ih =>
    simp only [Option.pure_def, Option.bind_eq_bind, Option.bind_eq_some_iff, Option.some.injEq] at h
    obtain ⟨p', hp, q', hq, r', hr, s', hs, bytes, hbytes, rfl⟩ := h
    obtain ⟨hp', rfl⟩ := digit_of_value? hp
    obtain ⟨hq', rfl⟩ := digit_of_value? hq
    obtain ⟨hr', rfl⟩ := digit_of_value? hr
    obtain ⟨hs', rfl⟩ := digit_of_value? hs
    have hfirst : (p' * 4 + q' / 16) / 4 = p' := by omega
    have hsecond : (p' * 4 + q' / 16) % 4 * 16 + (q' % 16 * 16 + r' / 4) / 16 = q' := by omega
    have hthird : (q' % 16 * 16 + r' / 4) % 16 * 4 + (r' % 4 * 64 + s') / 64 = r' := by omega
    have hfourth : (r' % 4 * 64 + s') % 64 = s' := by omega
    rw [encode, ih hbytes, hbyte _ (by omega), hbyte _ (by omega), hbyte _ (by omega), hfirst, hsecond, hthird, hfourth]
  | case2 p q r =>
    simp only [Option.pure_def, Option.bind_eq_bind, Option.bind_eq_some_iff, Option.ite_none_right_eq_some,
      Option.some.injEq] at h
    obtain ⟨p', hp, q', hq, r', hr, hrest, rfl⟩ := h
    obtain ⟨hp', rfl⟩ := digit_of_value? hp
    obtain ⟨hq', rfl⟩ := digit_of_value? hq
    obtain ⟨hr', rfl⟩ := digit_of_value? hr
    have hfirst : (p' * 4 + q' / 16) / 4 = p' := by omega
    have hsecond : (p' * 4 + q' / 16) % 4 * 16 + (q' % 16 * 16 + r' / 4) / 16 = q' := by omega
    -- The bits of the last digit that no byte takes are zero.
    have hthird : (q' % 16 * 16 + r' / 4) % 16 * 4 = r' := by omega
    rw [encode, hbyte _ (by omega), hbyte _ (by omega), hfirst, hsecond, hthird]
  | case3 p q =>
    simp only [Option.pure_def, Option.bind_eq_bind, Option.bind_eq_some_iff, Option.ite_none_right_eq_some,
      Option.some.injEq] at h
    obtain ⟨p', hp, q', hq, hrest, rfl⟩ := h
    obtain ⟨hp', rfl⟩ := digit_of_value? hp
    obtain ⟨hq', rfl⟩ := digit_of_value? hq
    have hfirst : (p' * 4 + q' / 16) / 4 = p' := by omega
    have hsecond : (p' * 4 + q' / 16) % 4 * 16 = q' := by omega
    rw [encode, hbyte _ (by omega), hfirst, hsecond]
  | case4 => cases h
  | case5 =>
    obtain rfl := Option.some.inj h
    rfl

theorem decode?_eq_some_iff (h : Reads a) {bytes : List UInt8} : decode? a cs = some bytes ↔ cs = encode a bytes := by
  constructor
  · exact fun hread => (encode_of_decode? hread).symm
  · rintro rfl
    exact decode?_encode h bytes

theorem length_encode_mod (a : Alphabet) (bytes : List UInt8) : (encode a bytes).length % 4 ≠ 1 := by
  fun_induction encode a bytes with
  | case1 x y z rest ih =>
    simp only [List.length_cons]
    omega
  | case2 | case3 | case4 => simp

/-! ### Padding -/

/-- Padding is taken off again, unless it would have to fill up a single digit. -/
theorem unpad?_pad (heq : '=' ∉ cs) (hlength : cs.length % 4 ≠ 1) : unpad? (pad cs) = some cs := by
  have hpadded : (pad cs).length % 4 = 0 := by
    rw [pad, List.length_append, List.length_replicate]
    omega
  have hreverse : (pad cs).reverse = List.replicate ((4 - cs.length % 4) % 4) '=' ++ cs.reverse := by simp [pad]
  have hcases : cs.length % 4 = 0 ∨ cs.length % 4 = 2 ∨ cs.length % 4 = 3 := by omega
  rw [unpad?, if_neg (not_not_intro hpadded), hreverse]
  rcases hcases with h | h | h
  · have hnone : pad cs = cs := by simp [pad, h]
    rw [h, hnone]
    split
    next rest hrest => exact absurd (List.mem_reverse.mp (by rw [show cs.reverse = _ from hrest]; simp)) heq
    next rest _ hrest => exact absurd (List.mem_reverse.mp (by rw [show cs.reverse = _ from hrest]; simp)) heq
    next => rfl
  · rw [h]
    exact congrArg some cs.reverse_reverse
  · rw [h]
    cases hcs : cs.reverse with
    | nil => simp [List.reverse_eq_nil_iff.mp hcs] at h
    | cons c rest =>
      have hc : c ≠ '=' := by
        rintro rfl
        exact heq (List.mem_reverse.mp (hcs ▸ List.mem_cons_self))
      have hlist : cs = (c :: rest).reverse := by rw [← hcs, List.reverse_reverse]
      simp [hc, hlist]

/-- Padding that is taken off is the padding that would be put on. -/
theorem pad_of_unpad? {ds : List Char} (h : unpad? cs = some ds) : pad ds = cs := by
  have hpad : ∀ (rest : List Char) (n : Nat), n < 4 → (rest.length + n) % 4 = 0 →
      pad rest.reverse = rest.reverse ++ List.replicate n '=' := by
    intro rest n hn hlength
    rw [pad, List.length_reverse, show (4 - rest.length % 4) % 4 = n by omega]
  unfold unpad? at h
  split at h
  next => cases h
  next hlength =>
    rw [ne_eq, Decidable.not_not, ← List.length_reverse] at hlength
    split at h
    next rest hreverse =>
      obtain rfl := Option.some.inj h
      rw [hreverse] at hlength
      rw [hpad rest 2 (by decide) hlength, ← cs.reverse_reverse, hreverse]
      simp
    next rest _ hreverse =>
      obtain rfl := Option.some.inj h
      rw [hreverse] at hlength
      rw [hpad rest 1 (by decide) hlength, ← cs.reverse_reverse, hreverse]
      simp
    next =>
      obtain rfl := Option.some.inj h
      have hnone := hpad cs.reverse 0 (by decide) hlength
      rwa [List.reverse_reverse, List.replicate_zero, List.append_nil] at hnone

theorem unpad?_eq_some_iff {ds : List Char} (heq : '=' ∉ ds) (hlength : ds.length % 4 ≠ 1) :
    unpad? cs = some ds ↔ cs = pad ds := by
  constructor
  · exact fun h => (pad_of_unpad? h).symm
  · rintro rfl
    exact unpad?_pad heq hlength

end FlowTree.Base64
