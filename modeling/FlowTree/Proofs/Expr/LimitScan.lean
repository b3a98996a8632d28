import FlowTree.Proofs.Expr.Tokens

/-! # The scan of the limits

The scan follows string literals on its own, and sees them exactly where the grammar does: on its way over
a phrase it counts what the extent of the phrase says, and outside of literals it is again afterwards
(`Costs`). So a sentence passes the scan if and only if its extent keeps the limits. -/

namespace FlowTree

namespace Expr.Scan

/-- No character of the text makes the scan exceed a limit. -/
def Passes (s : Scan) : List Char → Prop
  | [] => True
  | c :: cs => (s.step c).exceeded? = none ∧ (s.step c).Passes cs

theorem check_eq_ok_iff {s : Scan} {offset : Nat} {cs : List Char} : s.check offset cs = .ok () ↔ s.Passes cs := by
  induction cs generalizing s offset with
  | nil => simp [check, Passes]
  | cons c cs ih =>
    rw [check, Passes]
    cases h : (s.step c).exceeded? with
    | none => simp [ih]
    | some cause => simp

theorem exceeded?_eq_none_iff {s : Scan} : s.exceeded? = none ↔ s.depth ≤ maxDepth ∧ s.length ≤ maxLength := by
  unfold exceeded?
  split
  · simp only [reduceCtorEq, false_iff]
    omega
  · split
    · simp only [reduceCtorEq, false_iff]
      omega
    · simp only [true_iff]
      omega

/-- The scan outside of string literals. -/
def outside (depth length : Nat) : Scan := { depth, length }

/-- The scan in a string literal with quotes `q`. -/
def inside (q : Char) (depth length : Nat) : Scan := { depth, length, quote := some q }

end Expr.Scan

namespace Grammar
open FlowTree.Expr FlowTree.Expr.Scan

/-- On its way from `cs` to `rest` the scan sees at most `depth` more parentheses open at once, counts
    `length` characters, and keeps the limits if these allow it. -/
def Costs (depth length : Nat) (cs rest : List Char) : Prop :=
  ∀ d l, d ≤ maxDepth → l ≤ maxLength → ((outside d l).Passes cs ↔
    d + depth ≤ maxDepth ∧ l + length ≤ maxLength ∧ (outside d (l + length)).Passes rest)

theorem Costs.refl (cs : List Char) : Costs 0 0 cs cs := fun d l hd hl => by simp [hd, hl]

theorem Costs.trans {k k' n n' : Nat} {cs mid rest : List Char} (h : Costs k n cs mid) (h' : Costs k' n' mid rest) :
    Costs (max k k') (n + n') cs rest := fun d l hd hl => by
  rw [h d l hd hl]
  constructor
  · rintro ⟨hk, hn, hp⟩
    obtain ⟨hk', hn', hp⟩ := (h' d (l + n) hd hn).mp hp
    exact ⟨by omega, by omega, by rwa [← Nat.add_assoc]⟩
  · rintro ⟨hk, hn, hp⟩
    have hn' : l + n ≤ maxLength := by omega
    exact ⟨by omega, hn', (h' d (l + n) hd hn').mpr ⟨by omega, by omega, by rwa [Nat.add_assoc]⟩⟩

/-! ### Tokens -/

/-- A character that the scan only counts. -/
def IsPlain (c : Char) : Prop :=
  c ≠ '\'' ∧ c ≠ '"' ∧ c ≠ '(' ∧ c ≠ ')'

instance (c : Char) : Decidable (IsPlain c) := inferInstanceAs (Decidable (_ ∧ _))

theorem IsPlain.step {c : Char} (h : IsPlain c) (d l : Nat) : (outside d l).step c = outside d (l + 1) := by
  simp [Scan.step, outside, h.1, h.2.1, h.2.2.1, h.2.2.2]

theorem IsPlain.costs {c : Char} (h : IsPlain c) (cs : List Char) : Costs 0 1 (c :: cs) cs := fun d l hd _ => by
  rw [Passes, h.step, exceeded?_eq_none_iff]
  simp [outside, hd]

theorem costs_plain {word : List Char} (h : ∀ c ∈ word, IsPlain c) (rest : List Char) :
    Costs 0 word.length (word ++ rest) rest := by
  induction word with
  | nil => exact .refl rest
  | cons c word ih =>
    have hc := (h c (by simp)).costs (word ++ rest)
    have := hc.trans (ih fun c' hc' => h c' (by simp [hc']))
    rwa [Nat.add_comm] at this

theorem isPlain_of_isDigit {c : Char} (hc : c.isDigit = true) : IsPlain c := by
  have ne : ∀ d : Char, d.isDigit = false → c ≠ d := fun _ => ne_of_isDigit hc
  exact ⟨ne _ (by decide), ne _ (by decide), ne _ (by decide), ne _ (by decide)⟩

theorem isPlain_of_mem_blanks : ∀ c ∈ blanks, IsPlain c := by simp [blanks, IsPlain]

theorem Numeral.isPlain {token : List Char} (h : Numeral token) : ∀ c ∈ token, IsPlain c :=
  h.forall (fun _ => isPlain_of_isDigit) (by simp [IsPlain])

theorem Blanks.costs {n : Nat} {cs rest : List Char} (h : Blanks n cs rest) : Costs 0 n cs rest := by
  induction h with
  | none => exact .refl _
  | more hc _ ih =>
    have := ((isPlain_of_mem_blanks _ hc).costs _).trans ih
    rwa [Nat.add_comm] at this

theorem isPlain_binarySign (op : BinaryOp) : ∀ c ∈ binarySign op, IsPlain c := by
  cases op <;> simp [binarySign, IsPlain]

theorem isPlain_prefixSign (op : PrefixOp) : IsPlain (prefixSign op) := by
  cases op <;> simp [prefixSign, IsPlain]

theorem isPlain_word : ∀ entry ∈ words, ∀ c ∈ entry.1, IsPlain c := by simp [words, IsPlain]

/-- The scan leaves a string literal where the reader does, and counts nothing in it. -/
theorem passes_inside {q : Char} {body s rest : List Char} (h : Contents q body s) (hq : q ≠ '\\') {d l : Nat}
    (hd : d ≤ maxDepth) (hl : l ≤ maxLength) :
    (inside q d l).Passes (body ++ q :: rest) ↔ (outside d l).Passes rest := by
  have within : ∀ s : Scan, s.depth = d → s.length = l → s.exceeded? = none := fun s h1 h2 =>
    exceeded?_eq_none_iff.mpr ⟨h1 ▸ hd, h2 ▸ hl⟩
  induction h with
  | nil =>
    have hstep : (inside q d l).step q = outside d l := by simp [Scan.step, inside, outside, hq]
    rw [List.nil_append, Passes, hstep]
    exact and_iff_right (within _ rfl rfl)
  | @plain c cs s hb hc _ ih =>
    have hstep : (inside q d l).step c = inside q d l := by simp [Scan.step, inside, hb, hc]
    rw [List.cons_append, Passes, hstep]
    exact (and_iff_right (within _ rfl rfl)).trans ih
  | @escaped c d' cs s _ _ ih =>
    have hstep : (inside q d l).step '\\' = { inside q d l with escaped := true } := by simp [Scan.step, inside]
    have hstep' : ({ inside q d l with escaped := true } : Scan).step c = inside q d l := by
      simp [Scan.step, inside]
    rw [List.cons_append, List.cons_append, Passes, hstep, Passes, hstep']
    exact (and_iff_right (within _ rfl rfl)).trans ((and_iff_right (within _ rfl rfl)).trans ih)

theorem LiteralAt.costs {cs rest : List Char} {l : Literal} {n : Nat} (h : LiteralAt cs l n rest) :
    Costs 0 n cs rest := by
  cases h with
  | number h _ => exact costs_plain h.isPlain rest
  | @string q body s rest hq h =>
    intro d l hd hl
    have hb : q ≠ '\\' := by rcases hq with rfl | rfl <;> decide
    have hstep : (outside d l).step q = inside q d (l + 1) := by simp [Scan.step, outside, inside, hq]
    rw [Passes, hstep, exceeded?_eq_none_iff]
    constructor
    · rintro ⟨⟨-, hl'⟩, hp⟩
      exact ⟨hd, hl', (passes_inside h hb hd hl').mp hp⟩
    · rintro ⟨-, hl', hp⟩
      exact ⟨⟨hd, hl'⟩, (passes_inside h hb hd hl').mpr hp⟩
  | word hmem _ => exact costs_plain (isPlain_word _ hmem) rest

theorem Prefixes.costs {ops : List PrefixOp} {n : Nat} {cs rest : List Char} (h : Prefixes ops n cs rest) :
    Costs 0 n cs rest := by
  induction h with
  | nil => exact .refl _
  | @cons op ops n m cs mid rest hb _ ih => exact (hb.costs.trans ((isPlain_prefixSign op).costs mid)).trans ih

/-! ### Phrases -/

/-- Parentheses are open around what they hold, and no longer after it. -/
theorem Costs.enclose {k n : Nat} {cs rest : List Char} (h : Costs k n cs (')' :: rest)) :
    Costs (k + 1) (n + 2) ('(' :: cs) rest := fun d l hd hl => by
  have hopen : (outside d l).step '(' = outside (d + 1) (l + 1) := rfl
  have hclose : (outside (d + 1) (l + 1 + n)).step ')' = outside d (l + 1 + n + 1) := rfl
  rw [Passes, hopen, exceeded?_eq_none_iff]
  constructor
  · rintro ⟨⟨hd', hl'⟩, hp⟩
    obtain ⟨hk, hn, hp⟩ := (h (d + 1) (l + 1) hd' hl').mp hp
    rw [Passes, hclose, exceeded?_eq_none_iff] at hp
    obtain ⟨⟨-, hn'⟩, hp⟩ := hp
    have hsum : l + 1 + n + 1 = l + (n + 2) := by omega
    rw [hsum] at hn' hp
    exact ⟨by omega, hn', hp⟩
  · rintro ⟨hk, hn, hp⟩
    have hd' : d + 1 ≤ maxDepth := by omega
    have hl' : l + 1 ≤ maxLength := by omega
    refine ⟨⟨hd', hl'⟩, (h (d + 1) (l + 1) hd' hl').mpr ⟨by omega, by omega, ?_⟩⟩
    rw [Passes, hclose, exceeded?_eq_none_iff]
    have hsum : l + 1 + n + 1 = l + (n + 2) := by omega
    rw [hsum]
    exact ⟨⟨hd, hn⟩, hp⟩

/-- The scan of a phrase counts what its extent says. -/
theorem Derives.costs {part : Part} {cs rest : List Char} {e : Expr} {x : Extent}
    (h : Derives part cs e x rest) : Costs x.depth x.length cs rest := by
  induction h with
  | literal hb hl => simpa using hb.costs.trans hl.costs
  | @parens n m cs inside e x mid rest hopen _ hclose ih =>
    have := hopen.costs.trans (ih.trans hclose.costs).enclose
    have hsum : n + (x.length + m + 2) = n + m + (x.length + 2) := by omega
    rw [Nat.zero_max, Nat.max_zero, hsum] at this
    exact this
  | chain hp _ ih =>
    have := hp.costs.trans ih
    rwa [Nat.zero_max] at this
  | operand _ ih => exact ih
  | @binary ops ls op n cs left x mid after right y rest _ _ hb _ ih ihr =>
    have := ih.trans ((hb.costs.trans (costs_plain (isPlain_binarySign op) after)).trans ihr)
    simpa [Extent.join, Extent.widen] using this

/-- A sentence passes the scan if its parentheses and its length keep the limits, and only then. -/
theorem Sentence.checkLimits_iff {cs : List Char} {e : Expr} {x : Extent} (h : Sentence cs e x) :
    checkLimits cs = .ok () ↔ x.depth ≤ maxDepth ∧ x.length ≤ maxLength := by
  obtain ⟨n, y, rest, h, hb, rfl⟩ := h
  have := (h.costs.trans hb.costs) 0 0 (Nat.zero_le _) (Nat.zero_le _)
  rw [checkLimits, check_eq_ok_iff]
  refine this.trans ?_
  simp [Passes, Extent.widen, Nat.add_comm]

end Grammar

end FlowTree
