import FlowTree.Proofs.Expr.Bounds
import FlowTree.Proofs.Text.Utf8

/-! # Where texts are refused

A fault has its place at the start of what a reader left. Readers leave an end of what they were given, also
where they stop, so the place is one between two characters. A phrase sees of the text behind it only that it
continues no word, and stays a phrase when that is cut off. So what stands before an unexpected rest is a
sentence of its own, with the tree that was read. The scan of the limits stops at the first character beyond
one of them. -/

namespace FlowTree

namespace SyntaxError.Cause

/-! ### Wordings -/

/-- The first letter of the wording of a fault. -/
def initial : SyntaxError.Cause → Char
  | unexpected _ => 'u'
  | tooDeep => 'n'
  | missing | longChain | tooLong => 'e'

theorem message_unexpected (rest : String) : (unexpected rest).message = "unexpected input '" ++ rest ++ "'" := rfl

theorem head?_message (cause : SyntaxError.Cause) : cause.message.toList.head? = some cause.initial := by
  cases cause with
  | unexpected rest =>
    have hquoted : "unexpected input '".toList.head? = some 'u' := by decide
    rw [message_unexpected, String.toList_append, String.toList_append, List.append_assoc, List.head?_append, hquoted,
      Option.some_or, initial]
  | missing | longChain | tooDeep | tooLong => rfl

/-- The wording tells the fault. -/
theorem message_inj {cause other : SyntaxError.Cause} (h : cause.message = other.message) : cause = other := by
  have hinitial : cause.initial = other.initial := by
    rw [← Option.some_inj, ← head?_message, ← head?_message, h]
  cases cause with
  | unexpected rest =>
    cases other with
    | unexpected rest' =>
      rw [message_unexpected, message_unexpected, String.append_left_inj, String.append_right_inj] at h
      rw [h]
    | missing | longChain | tooDeep | tooLong => cases hinitial
  | missing | longChain | tooDeep | tooLong =>
    cases other with
    | unexpected rest => cases hinitial
    | missing | longChain | tooDeep | tooLong =>
      revert h
      decide

end SyntaxError.Cause

namespace Expr

/-! ### Limits -/

/-- The characters outside of string literals, and the quotes that open literals. The text begins inside of a
    literal if `quote` gives its quotes. -/
def bareFrom (quote : Option Char) : List Char → List Char
  | [] => []
  | c :: cs =>
    match quote with
    | none => c :: bareFrom (if c = '\'' ∨ c = '"' then some c else none) cs
    | some q =>
      match c, cs with
      | '\\', _ :: cs => bareFrom (some q) cs
      | c, cs => bareFrom (if c = q then none else some q) cs

def bare (cs : List Char) : List Char :=
  bareFrom none cs

/-- How many parentheses are open after one more character. One that closes nothing does not count. -/
def parensAfter (n : Nat) (c : Char) : Nat :=
  if c = '(' then n + 1 else if c = ')' then n - 1 else n

/-- How many parentheses are open at the end of a text. -/
def openParens (cs : List Char) : Nat :=
  (bare cs).foldl parensAfter 0

/-- At `offset` stands the first character of the source with which the measure is beyond the limit. -/
def FirstBeyond (measure : List Char → Nat) (limit : Nat) (source : String) (offset : Nat) : Prop :=
  ∃ before c after, source = String.ofList (before ++ c :: after) ∧ offset = (String.ofList before).utf8ByteSize ∧
    limit < measure (before ++ [c]) ∧ ∀ earlier, earlier <+: before → measure earlier ≤ limit

namespace Scan

theorem step_bare (depth length : Nat) (c : Char) : (⟨depth, length, none, false⟩ : Scan).step c =
    ⟨parensAfter depth c, length + 1, if c = '\'' ∨ c = '"' then some c else none, false⟩ := by
  unfold step parensAfter
  dsimp only
  split
  · next hquote =>
    rcases hquote with rfl | rfl <;> rfl
  · split
    · rfl
    · split <;> rfl

/-- The scan counts the characters and the parentheses outside of literals. -/
theorem steps_eq (quote : Option Char) (cs : List Char) (depth length : Nat) :
    ((⟨depth, length, quote, false⟩ : Scan).steps cs).length = length + (bareFrom quote cs).length ∧
      ((⟨depth, length, quote, false⟩ : Scan).steps cs).depth = (bareFrom quote cs).foldl parensAfter depth := by
  fun_induction bareFrom quote cs generalizing depth length with
  | case1 quote => exact ⟨rfl, rfl⟩
  | case2 c cs ih =>
    obtain ⟨hlength, hdepth⟩ := ih (parensAfter depth c) (length + 1)
    rw [steps, List.foldl_cons, step_bare, List.length_cons, List.foldl_cons]
    refine ⟨hlength.trans ?_, hdepth⟩
    omega
  | case3 q d cs ih => exact ih depth length
  | case4 q c cs hescape ih =>
    by_cases hc : c = '\\'
    · -- A backslash ends the text, so nothing comes of it.
      obtain rfl : cs = [] := List.eq_nil_iff_forall_not_mem.mpr fun d hd => by
        obtain ⟨d, cs, rfl⟩ := List.exists_cons_of_ne_nil (List.ne_nil_of_mem hd)
        exact hescape d cs hc rfl
      subst hc
      exact ⟨rfl, rfl⟩
    · have hstep : (⟨depth, length, some q, false⟩ : Scan).step c =
          ⟨depth, length, if c = q then none else some q, false⟩ := by
        simp only [step, hc, Bool.false_eq_true, if_false]
        split <;> rfl
      rw [steps, List.foldl_cons, hstep]
      exact ih depth length

/-- The scan reports the first character after which it exceeds a limit. -/
theorem check_eq_error {s : Scan} {offset : Nat} {cs : List Char} {fault : SyntaxError} (hs : s.exceeded? = none)
    (h : s.check offset cs = .error fault) : ∃ before c after, cs = before ++ c :: after ∧
      fault.offset = offset + Text.byteLength before ∧ (s.steps (before ++ [c])).exceeded? = some fault.cause ∧
      ∀ earlier, earlier <+: before → (s.steps earlier).exceeded? = none := by
  induction cs generalizing s offset with
  | nil => cases h
  | cons c cs ih =>
    rw [check] at h
    split at h
    · next cause hcause =>
      cases h
      refine ⟨[], c, cs, rfl, rfl, hcause, fun earlier hearlier => ?_⟩
      rw [List.prefix_nil.mp hearlier]
      exact hs
    · next hnone =>
      obtain ⟨before, d, after, rfl, hoffset, hcause, hearlier⟩ := ih hnone h
      refine ⟨c :: before, d, after, rfl, ?_, hcause, fun earlier hprefix => ?_⟩
      · rw [hoffset, Text.byteLength, Nat.add_assoc]
      · cases earlier with
        | nil => exact hs
        | cons e earlier =>
          obtain ⟨rfl, hearlierprefix⟩ := List.cons_prefix_cons.mp hprefix
          exact hearlier earlier hearlierprefix

theorem exceeded?_cases {s : Scan} {cause : SyntaxError.Cause} (h : s.exceeded? = some cause) :
    (cause = .tooDeep ∧ maxDepth < s.depth) ∨ (cause = .tooLong ∧ maxLength < s.length) := by
  unfold exceeded? at h
  split at h
  · next hdepth => exact Or.inl ⟨(Option.some.inj h).symm, hdepth⟩
  · split at h
    · next hlength => exact Or.inr ⟨(Option.some.inj h).symm, hlength⟩
    · cases h

end Scan

theorem depth_steps (cs : List Char) : (({} : Scan).steps cs).depth = openParens cs :=
  (Scan.steps_eq none cs 0 0).2

theorem length_steps (cs : List Char) : (({} : Scan).steps cs).length = (bare cs).length :=
  (Scan.steps_eq none cs 0 0).1.trans (Nat.zero_add _)

theorem exceeded?_steps_eq_none_iff {cs : List Char} :
    (({} : Scan).steps cs).exceeded? = none ↔ openParens cs ≤ maxDepth ∧ (bare cs).length ≤ maxLength := by
  rw [Scan.exceeded?_eq_none_iff, depth_steps, length_steps]

/-- What the limits report is too many open parentheses or too many characters, at the first character with which
    they are too many. -/
theorem fault_of_checkLimits {source : String} {fault : SyntaxError} (h : checkLimits source.toList = .error fault) :
    (fault.cause = .tooDeep ∧ FirstBeyond openParens maxDepth source fault.offset) ∨
    (fault.cause = .tooLong ∧ FirstBeyond (fun cs => (bare cs).length) maxLength source fault.offset) := by
  obtain ⟨before, c, after, hsource, hoffset, hcause, hearlier⟩ := Scan.check_eq_error rfl h
  have hsource : source = String.ofList (before ++ c :: after) := by rw [← hsource, String.ofList_toList]
  have hoffset : fault.offset = (String.ofList before).utf8ByteSize := by
    rw [hoffset, Nat.zero_add, Text.utf8ByteSize_ofList]
  rcases Scan.exceeded?_cases hcause with ⟨hcause, hbeyond⟩ | ⟨hcause, hbeyond⟩
  · rw [depth_steps] at hbeyond
    exact Or.inl ⟨hcause, before, c, after, hsource, hoffset, hbeyond, fun earlier hprefix =>
      (exceeded?_steps_eq_none_iff.mp (hearlier earlier hprefix)).1⟩
  · rw [length_steps] at hbeyond
    exact Or.inr ⟨hcause, before, c, after, hsource, hoffset, hbeyond, fun earlier hprefix =>
      (exceeded?_steps_eq_none_iff.mp (hearlier earlier hprefix)).2⟩

end Expr

namespace Grammar
open FlowTree.Expr (maxDepth maxLength)

/-! ### What a reader leaves -/

def Stop.rest : Stop → List Char
  | missing rest => rest
  | longChain rest => rest

/-- Where the reader stops after the blanks of a text, it leaves an end of the text. -/
def LeavesEnd (reader : Reader) : Prop :=
  ∀ cs stop, reader (skipBlanks cs) = .error stop → stop.rest <:+ cs

theorem skipBlanks_suffix (cs : List Char) : skipBlanks cs <:+ cs :=
  List.dropWhile_suffix _

theorem ReadsAs.suffix {part : Part} {cs rest : List Char} {e : Expr} (h : ReadsAs part cs e rest) : rest <:+ cs := by
  obtain ⟨x, mid, hd, rfl, -⟩ := h
  exact (skipBlanks_suffix mid).trans hd.suffix

theorem leavesEnd_primary {inner : Reader} (hs : Sound (.levels precedence) inner) (hi : LeavesEnd inner) :
    LeavesEnd (primary inner) := by
  intro cs stop h
  simp only [primary, skipBlanks_skipBlanks] at h
  split at h
  · cases h
  · split at h
    · next inside hopen =>
      have hinside : inside <:+ cs := (List.suffix_cons ..).trans (hopen ▸ skipBlanks_suffix cs)
      split at h
      · next e mid hin =>
        split at h
        · cases h
        · next rest hclose =>
          cases h
          exact (skipBlanks_suffix mid).trans ((hs _ _ _ hin).suffix.trans hinside)
      · next stop hin =>
        cases h
        exact (hi _ _ hin).trans hinside
    · cases h
      exact skipBlanks_suffix cs

theorem leavesEnd_unary {inner : Reader} (hi : LeavesEnd (primary inner)) : LeavesEnd (unary inner) := by
  intro cs stop h
  obtain ⟨n, mid, hp, hmid⟩ := prefixOps_sound cs
  simp only [unary, prefixOps_skipBlanks, hmid] at h
  split at h
  · cases h
    exact (skipBlanks_suffix mid).trans hp.suffix
  · split at h
    · cases h
    · next stop hprimary =>
      cases h
      exact (hi _ _ hprimary).trans hp.suffix

theorem chainFrom_suffix {operand : Reader} {ops : List BinaryOp} {ls : List (List BinaryOp)}
    (hs : Sound (.levels ls) operand) (ho : LeavesEnd operand) {fuel : Nat} {left : Expr} {cs : List Char} {stop : Stop}
    (h : chainFrom operand ops fuel left cs = .error stop) : stop.rest <:+ cs := by
  induction fuel generalizing left cs with
  | zero => cases h
  | succ fuel ih =>
    rw [chainFrom] at h
    split at h
    · cases h
    · next op after hop =>
      have hafter : after <:+ cs := by
        refine (List.suffix_append (binarySign op) after).trans ?_
        rw [← (operator?_sound hop).2]
        exact skipBlanks_suffix cs
      split at h
      · next right rest hr => exact (ih h).trans ((hs _ _ _ hr).suffix.trans hafter)
      · cases h
      · next stop _ hstop =>
        cases h
        exact (ho _ _ hstop).trans hafter

theorem leavesEnd_chain {operand : Reader} {ops : List BinaryOp} {ls : List (List BinaryOp)}
    (hs : Sound (.levels ls) operand) (ho : LeavesEnd operand) : LeavesEnd (chain ops operand) := by
  intro cs stop h
  rw [chain] at h
  split at h
  · next first rest hfirst => exact (chainFrom_suffix hs ho h).trans (hs _ _ _ hfirst).suffix
  · next stop hstop =>
    cases h
    exact ho _ _ hstop

theorem leavesEnd_levels {inner : Reader} (hs : Sound (.levels precedence) inner) (hi : LeavesEnd inner)
    (ls : List (List BinaryOp)) : LeavesEnd (readerOf inner (.levels ls)) := by
  induction ls with
  | nil => exact leavesEnd_unary (leavesEnd_primary hs hi)
  | cons ops ls ih => exact leavesEnd_chain (sound_readerOf hs (.levels ls)) ih

theorem leavesEnd_expression (depth : Nat) : LeavesEnd (expression depth) := by
  induction depth with
  | zero =>
    intro cs stop h
    cases h
    exact skipBlanks_suffix cs
  | succ depth ih =>
    intro cs stop h
    rw [expression_succ] at h
    exact (leavesEnd_levels (sound_expression depth) ih precedence _ _ h).trans (skipBlanks_suffix cs)

/-! ### Phrases cut off -/

/-- What a text begins with does not depend on the end of what follows it. -/
theorem Blanks.cut {n : Nat} {cs kept tail : List Char} (h : Blanks n cs (kept ++ tail)) :
    ∃ taken, cs = taken ++ tail ∧ Blanks n taken kept := by
  generalize hrest : kept ++ tail = rest at h
  induction h with
  | none => exact ⟨kept, hrest.symm, .none⟩
  | more hc _ ih =>
    obtain ⟨taken, rfl, hb⟩ := ih hrest
    exact ⟨_ :: taken, rfl, .more hc hb⟩

theorem not_continuesWord_of_append {kept tail : List Char} (h : ¬ContinuesWord (kept ++ tail)) :
    ¬ContinuesWord kept := by
  rintro ⟨c, hhead, hc⟩
  refine h ⟨c, ?_, hc⟩
  rw [List.head?_append, hhead]
  rfl

theorem LiteralAt.cut {cs kept tail : List Char} {l : Literal} {n : Nat} (h : LiteralAt cs l n (kept ++ tail)) :
    ∃ taken, cs = taken ++ tail ∧ LiteralAt taken l n kept := by
  generalize hrest : kept ++ tail = rest at h
  cases h with
  | @number token f rest htoken hf =>
    subst hrest
    exact ⟨token ++ kept, (List.append_assoc ..).symm, .number htoken hf⟩
  | @string q body s rest hq hbody =>
    subst hrest
    refine ⟨q :: (body ++ q :: kept), ?_, .string hq hbody⟩
    simp
  | @word word l rest hword hcontinues =>
    subst hrest
    exact ⟨word ++ kept, (List.append_assoc ..).symm, .word hword (not_continuesWord_of_append hcontinues)⟩

theorem Prefixes.cut {ops : List PrefixOp} {n : Nat} {cs kept tail : List Char}
    (h : Prefixes ops n cs (kept ++ tail)) : ∃ taken, cs = taken ++ tail ∧ Prefixes ops n taken kept := by
  generalize hrest : kept ++ tail = rest at h
  induction h with
  | nil => exact ⟨kept, hrest.symm, .nil⟩
  | cons hb _ ih =>
    obtain ⟨mid, rfl, hp⟩ := ih hrest
    rw [← List.cons_append] at hb
    obtain ⟨taken, rfl, hsign⟩ := hb.cut
    exact ⟨taken, rfl, .cons hsign hp⟩

theorem Derives.cut {part : Part} {cs kept tail : List Char} {e : Expr} {x : Extent}
    (h : Derives part cs e x (kept ++ tail)) : ∃ taken, cs = taken ++ tail ∧ Derives part taken e x kept := by
  generalize hrest : kept ++ tail = rest at h
  induction h generalizing kept with
  | literal hb hl =>
    obtain ⟨mid, rfl, hliteral⟩ := LiteralAt.cut (hrest ▸ hl)
    obtain ⟨taken, rfl, hblanks⟩ := hb.cut
    exact ⟨taken, rfl, .literal hblanks hliteral⟩
  | parens hopen _ hclose ih =>
    rw [← hrest, ← List.cons_append] at hclose
    obtain ⟨mid, rfl, hend⟩ := hclose.cut
    obtain ⟨inside, rfl, hin⟩ := ih rfl
    rw [← List.cons_append] at hopen
    obtain ⟨taken, rfl, hbegin⟩ := hopen.cut
    exact ⟨taken, rfl, .parens hbegin hin hend⟩
  | chain hp _ ih =>
    obtain ⟨mid, rfl, hop⟩ := ih hrest
    obtain ⟨taken, rfl, hops⟩ := hp.cut
    exact ⟨taken, rfl, .chain hops hop⟩
  | operand _ ih =>
    obtain ⟨taken, rfl, h⟩ := ih hrest
    exact ⟨taken, rfl, .operand h⟩
  | @binary ops ls op n cs left x mid after right y rest _ hop hb _ ih ihr =>
    obtain ⟨after, rfl, hright⟩ := ihr hrest
    rw [← List.append_assoc] at hb
    obtain ⟨mid, rfl, hsign⟩ := hb.cut
    obtain ⟨taken, rfl, hleft⟩ := ih rfl
    exact ⟨taken, rfl, .binary hleft hop hsign hright⟩

/-- What stands before the rest that a reading leaves is a sentence, with the tree that was read. -/
theorem sentence_of_read {depth : Nat} {cs rest : List Char} {e : Expr}
    (h : expression depth cs = .ok (e, rest)) :
    ∃ taken x, cs = taken ++ rest ∧ Sentence taken e x ∧ x.chain ≤ maxDepth := by
  cases depth with
  | zero => cases h
  | succ depth =>
    rw [expression_succ] at h
    obtain ⟨x, mid, hd, rfl, hchain⟩ := sound_readerOf (sound_expression depth) _ _ _ _ h
    obtain ⟨n, hb⟩ := exists_blanks_skipBlanks mid
    rw [← List.nil_append (skipBlanks mid)] at hb
    obtain ⟨gap, hmid, hgap⟩ := hb.cut
    rw [hmid] at hd
    obtain ⟨taken, hcs, htaken⟩ := hd.cut
    exact ⟨taken, _, hcs, ⟨n, x, gap, htaken, hgap, rfl⟩, hchain⟩

end Grammar

namespace Expr
open Grammar

/-! ### Faults -/

theorem Scan.Passes.of_append {s : Scan} {cs ds : List Char} (h : s.Passes (cs ++ ds)) : s.Passes cs := by
  induction cs generalizing s with
  | nil => trivial
  | cons c cs ih => exact ⟨h.1, ih h.2⟩

theorem checkLimits_of_append {cs ds : List Char} (h : checkLimits (cs ++ ds) = .ok ()) : checkLimits cs = .ok () :=
  Scan.check_eq_ok_iff.mpr (Scan.check_eq_ok_iff.mp h).of_append

/-- What stands before an unexpected rest is accepted alone. -/
theorem parse_of_read {taken rest : List Char} {e : Expr} {x : Extent}
    (hlimits : checkLimits (taken ++ rest) = .ok ()) (h : Sentence taken e x) (hchain : x.chain ≤ maxDepth) :
    parse (String.ofList taken) = .ok e := by
  obtain ⟨hdepth, hlength⟩ := h.checkLimits_iff.mp (checkLimits_of_append hlimits)
  rw [parse_eq_ok_iff, String.toList_ofList]
  exact ⟨x, h, hdepth, hchain, hlength⟩

theorem offset_faultAt (before rest : List Char) (cause : SyntaxError.Cause) :
    (faultAt (before ++ rest) rest cause).offset = (String.ofList before).utf8ByteSize := by
  rw [faultAt, Text.byteLength_append, Nat.add_sub_cancel, Text.utf8ByteSize_ofList]

theorem FirstBeyond.place {measure : List Char → Nat} {limit offset : Nat} {source : String}
    (h : FirstBeyond measure limit source offset) :
    ∃ before after, source = before ++ after ∧ offset = before.utf8ByteSize := by
  obtain ⟨before, c, after, rfl, hoffset, -⟩ := h
  exact ⟨String.ofList before, String.ofList (c :: after), String.ofList_append, hoffset⟩

/-- Why the source is refused with a fault. -/
inductive Refused (source : String) : SyntaxError → Prop
  | tooDeep {offset} (h : FirstBeyond openParens maxDepth source offset) : Refused source ⟨offset, .tooDeep⟩
  | tooLong {offset} (h : FirstBeyond (fun cs => (bare cs).length) maxLength source offset) :
      Refused source ⟨offset, .tooLong⟩
  | stopped {before after cause} (hsource : source = before ++ after) (hcause : cause = .missing ∨ cause = .longChain) :
      Refused source ⟨before.utf8ByteSize, cause⟩
  | unexpected {before quoted e} (hsource : source = before ++ quoted) (hquoted : quoted ≠ "")
      (hread : Grammar.expression (maxDepth + 1) source.toList = .ok (e, quoted.toList))
      (hparse : parse before = .ok e) :
      Refused source ⟨before.utf8ByteSize, .unexpected quoted⟩

variable {source : String} {fault : SyntaxError}

theorem refused_of_stop {stop : Stop} {cause : SyntaxError.Cause}
    (h : Grammar.expression (maxDepth + 1) source.toList = .error stop)
    (hcause : cause = .missing ∨ cause = .longChain) :
    Refused source (faultAt source.toList stop.rest cause) := by
  rw [expression_succ] at h
  obtain ⟨before, hbefore⟩ := leavesEnd_levels (sound_expression maxDepth) (leavesEnd_expression maxDepth) _ _ _ h
  have hsource : source = String.ofList before ++ String.ofList stop.rest := by
    rw [← String.ofList_append, hbefore, String.ofList_toList]
  have hfault : faultAt source.toList stop.rest cause = ⟨(String.ofList before).utf8ByteSize, cause⟩ := by
    rw [← hbefore, ← offset_faultAt before stop.rest cause]
    rfl
  rw [hfault]
  exact .stopped hsource hcause

theorem refused_of_rest {e : Expr} {rest : List Char} (hlimits : checkLimits source.toList = .ok ())
    (h : Grammar.expression (maxDepth + 1) source.toList = .ok (e, rest)) (hrest : rest ≠ []) :
    Refused source (faultAt source.toList rest (.unexpected (String.ofList rest))) := by
  obtain ⟨taken, x, htaken, hsentence, hchain⟩ := sentence_of_read h
  have hsource : source = String.ofList taken ++ String.ofList rest := by
    rw [← String.ofList_append, ← htaken, String.ofList_toList]
  have hfault : faultAt source.toList rest (.unexpected (String.ofList rest)) =
      ⟨(String.ofList taken).utf8ByteSize, .unexpected (String.ofList rest)⟩ := by
    rw [htaken, ← offset_faultAt taken rest (.unexpected (String.ofList rest))]
    rfl
  rw [hfault]
  refine .unexpected hsource (by simpa using hrest) (by rw [String.toList_ofList, h]) ?_
  exact parse_of_read (htaken ▸ hlimits) hsentence hchain

theorem refused_of_parse (h : parse source = .error fault) : Refused source fault := by
  unfold parse parseChars at h
  split at h
  · next fault' hlimits =>
    cases h
    obtain ⟨offset, cause⟩ := fault
    rcases fault_of_checkLimits hlimits with ⟨rfl, hfirst⟩ | ⟨rfl, hfirst⟩
    · exact .tooDeep hfirst
    · exact .tooLong hfirst
  · next hlimits =>
    split at h
    · cases h
    · next e rest hrest hread =>
      cases h
      exact refused_of_rest hlimits hread hrest
    · next rest hstop =>
      cases h
      exact refused_of_stop hstop (Or.inl rfl)
    · next rest hstop =>
      cases h
      exact refused_of_stop hstop (Or.inr rfl)

/-- What a fault tells of its source. -/
structure Located (source : String) (fault : SyntaxError) : Prop where
  place : ∃ before after, source = before ++ after ∧ fault.offset = before.utf8ByteSize
  /-- The unexpected input is the rest of the source. What stands before it is accepted alone, with the tree that was
      read from the source. -/
  unexpected : ∀ quoted, fault.cause.message = "unexpected input '" ++ quoted ++ "'" → quoted ≠ "" ∧
    ∃ before e, source = before ++ quoted ∧ fault.offset = before.utf8ByteSize ∧
      Grammar.expression (maxDepth + 1) source.toList = .ok (e, quoted.toList) ∧ parse before = .ok e
  tooDeep : fault.cause.message = "nesting deeper than 64 levels" → FirstBeyond openParens 64 source fault.offset
  tooLong : fault.cause.message = "expression longer than 2048 characters" →
    FirstBeyond (fun cs => (bare cs).length) 2048 source fault.offset

theorem parse_located (h : parse source = .error fault) : Located source fault := by
  have hrefused := refused_of_parse h
  constructor
  case place =>
    cases hrefused with
    | tooDeep hfirst => exact hfirst.place
    | tooLong hfirst => exact hfirst.place
    | stopped hsource _ => exact ⟨_, _, hsource, rfl⟩
    | unexpected hsource _ _ _ => exact ⟨_, _, hsource, rfl⟩
  case unexpected =>
    intro quoted hmessage
    have hcause : fault.cause = .unexpected quoted := SyntaxError.Cause.message_inj hmessage
    cases hrefused with
    | tooDeep => cases hcause
    | tooLong => cases hcause
    | stopped _ hstopped => rcases hstopped with rfl | rfl <;> cases hcause
    | unexpected hsource hquoted hread hparse =>
      cases hcause
      exact ⟨hquoted, _, _, hsource, rfl, hread, hparse⟩
  case tooDeep =>
    intro hmessage
    have hcause : fault.cause = .tooDeep := SyntaxError.Cause.message_inj hmessage
    cases hrefused with
    | tooDeep hfirst => exact hfirst
    | tooLong => cases hcause
    | stopped _ hstopped => rcases hstopped with rfl | rfl <;> cases hcause
    | unexpected => cases hcause
  case tooLong =>
    intro hmessage
    have hcause : fault.cause = .tooLong := SyntaxError.Cause.message_inj hmessage
    cases hrefused with
    | tooDeep => cases hcause
    | tooLong hfirst => exact hfirst
    | stopped _ hstopped => rcases hstopped with rfl | rfl <;> cases hcause
    | unexpected => cases hcause

/-- A sign that no operand follows is left, with the blanks before it read. -/
theorem located_dangling : parse "'é' == 'b' + ) (" = .error ⟨12, .unexpected "+ ) ("⟩ ∧
    Located "'é' == 'b' + ) (" ⟨12, .unexpected "+ ) ("⟩ := by
  have hparse : parse "'é' == 'b' + ) (" = .error ⟨12, .unexpected "+ ) ("⟩ := by
    -- Trees hold floats and cannot be compared, so that the comparison leaves them out.
    have hfault : (parse "'é' == 'b' + ) (").casesOn some (fun _ => none) =
        some (⟨12, .unexpected "+ ) ("⟩ : SyntaxError) := by decide +kernel
    cases h : parse "'é' == 'b' + ) (" with
    | ok e => rw [h] at hfault; cases hfault
    | error fault => rw [h] at hfault; cases hfault; rfl
  exact ⟨hparse, parse_located hparse⟩

end Expr

end FlowTree
