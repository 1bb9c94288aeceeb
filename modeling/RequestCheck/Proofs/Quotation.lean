import Mathlib.Data.List.Nodup
import RequestCheck.Proofs.ReadBack
import RequestCheck.Proofs.Reports
import RequestCheck.Request
import RequestCheck.Text.Blank

/-!
# Complaints on one line

A quoted text is printable, whatever the text holds, and no two texts are quoted alike: no code point
between quotes is written as the start of another one. So a complaint is one line, and the number, the
fault and the line that it is about can be told from it.

    quotedPoint q c ++ t = quotedPoint q c' ++ t'  →  c = c' ∧ t = t'        (quotedPoint_append_inj)
    t.quoted = t'.quoted  ↔  t = t'                                          (quoted_inj)
    e.message = e'.message  ↔  e = e'                                        (LineError.message_inj)
-/

namespace RequestCheck

namespace Text

/-! ## Hexadecimal numbers -/

def hexNumber (digits : Text) : Nat :=
  digits.foldl (fun n c => n * 16 + (hexValue? c).elim 0 Fin.val) 0

theorem hexNumber_concat (digits : Text) (n : Nat) :
    hexNumber (digits ++ [hexDigit n]) = hexNumber digits * 16 + n % 16 := by
  unfold hexNumber
  rw [List.foldl_append, List.foldl_cons, hexValue?_hexDigit]
  rfl

theorem hexNumber_toDigits (n : Nat) :
    hexNumber ((Nat.toDigits 16 n).map CodePoint.ofChar) = n := by
  induction n using Nat.strongRecOn with
  | ind n ih =>
    rw [toDigits_hex]
    split
    · next hn =>
      have key := hexNumber_concat [] n
      rw [List.nil_append] at key
      rw [key, Nat.mod_eq_of_lt hn]
      exact Nat.zero_add n
    · next hn =>
      rw [hexNumber_concat, ih (n / 16) (by omega)]
      omega

theorem hexNumber_padLeft (width : Nat) (digits : Text) :
    hexNumber (padLeft width '0' digits) = hexNumber digits := by
  have hzeros : ∀ k, hexNumber (List.replicate k '0') = 0 := by
    intro k
    induction k with
    | zero => rfl
    | succ k ih => rw [List.replicate_succ']; exact (hexNumber_concat _ 0).trans (by rw [ih])
  unfold padLeft hexNumber
  rw [List.foldl_append, ← hexNumber, hzeros]

theorem hexNumber_ofHex (width n : Nat) : hexNumber (ofHex width n) = n := by
  unfold ofHex
  rw [hexNumber_padLeft, hexNumber_toDigits]

theorem length_ofHex {width n : Nat} (hwidth : 0 < width) (h : n < Nat.pow 16 width) :
    (ofHex width n).length = width := by
  have hle := (Nat.length_toDigits_le_iff (b := 16) (by decide) hwidth).mpr h
  unfold ofHex padLeft
  rw [List.length_append, List.length_replicate, List.length_map]
  omega

/-! ## Code points between quotes -/

/-- The letters behind a backslash that stand for one code point each. -/
def letters (quote : CodePoint) : List (CodePoint × CodePoint) :=
  [(quote, quote), ('\\', '\\'), ('n', '\n'), ('r', '\r'), ('t', '\t')]

/-- The letters behind a backslash that stand in front of so many hexadecimal digits. -/
def marks : List (CodePoint × Nat) := [('x', 2), ('u', 4), ('U', 8)]

/-- How a code point stands between quotes. -/
inductive Shape (quote c : CodePoint) : Text → Prop where
  | self (h : c ≠ '\\') : Shape quote c [c]
  | letter {letter : CodePoint} (h : (letter, c) ∈ letters quote) : Shape quote c ['\\', letter]
  | digits {mark : CodePoint} {digits : Text} (hmark : (mark, digits.length) ∈ marks)
      (hnumber : hexNumber digits = c.val) : Shape quote c ('\\' :: mark :: digits)

variable {quote c c' : CodePoint} {t t' : Text}

theorem shape_hexEscape (quote c : CodePoint) : Shape quote c (hexEscape c) := by
  have hdigits : ∀ mark width, (mark, width) ∈ marks → 0 < width → c.val < Nat.pow 16 width →
      Shape quote c ('\\' :: mark :: ofHex width c.val) := by
    intro mark width hmark hwidth hc
    refine .digits ?_ (hexNumber_ofHex width c.val)
    rw [length_ofHex hwidth hc]
    exact hmark
  unfold hexEscape
  split
  · next h => exact hdigits 'x' 2 (by decide) (by decide) h
  split
  · next h => exact hdigits 'u' 4 (by decide) (by decide) h
  · exact hdigits 'U' 8 (by decide) (by decide) (Nat.lt_trans c.isLt (by decide))

theorem shape_quotedPoint (quote c : CodePoint) : Shape quote c (quotedPoint quote c) := by
  unfold quotedPoint
  split
  · next h =>
    refine .letter ?_
    rcases h with rfl | rfl <;> simp [letters]
  next hescape =>
  split
  · next h => rw [h]; exact @Shape.letter quote '\n' 'n' (by simp [letters])
  split
  · next h => rw [h]; exact @Shape.letter quote '\r' 'r' (by simp [letters])
  split
  · next h => rw [h]; exact @Shape.letter quote '\t' 't' (by simp [letters])
  split
  · exact .self fun h => hescape (.inr h)
  · exact shape_hexEscape quote c

/-- **No code point** between quotes is written as the start of another one. -/
theorem Shape.append_inj {e e' : Text} (hquote : quote = '\'' ∨ quote = '"') (h : Shape quote c e)
    (h' : Shape quote c' e') (heq : e ++ t = e' ++ t') : c = c' ∧ t = t' := by
  have hnodup : ((letters quote).map Prod.fst).Nodup := by rcases hquote with rfl | rfl <;> decide
  have hapart : ∀ m ∈ marks, m.1 ∉ (letters quote).map Prod.fst := by
    rcases hquote with rfl | rfl <;> decide
  have hmarks : ∀ m ∈ marks, ∀ m' ∈ marks, m.1 = m'.1 → m.2 = m'.2 := by decide
  cases h with
  | self hc =>
    cases h' with
    | self => exact List.cons.inj heq
    | letter => exact absurd (List.cons.inj heq).1 hc
    | digits => exact absurd (List.cons.inj heq).1 hc
  | letter hletter =>
    cases h' with
    | self hc' => exact absurd (List.cons.inj heq).1.symm hc'
    | letter hletter' =>
      obtain ⟨hhead, hrest⟩ := List.cons.inj (List.cons.inj heq).2
      have hsame := List.inj_on_of_nodup_map hnodup hletter hletter' hhead
      exact ⟨congrArg Prod.snd hsame, hrest⟩
    | digits hmark' =>
      have hmem := List.mem_map_of_mem (f := Prod.fst) hletter
      rw [(List.cons.inj (List.cons.inj heq).2).1] at hmem
      exact absurd hmem (hapart _ hmark')
  | digits hmark hnumber =>
    cases h' with
    | self hc' => exact absurd (List.cons.inj heq).1.symm hc'
    | letter hletter' =>
      have hmem := List.mem_map_of_mem (f := Prod.fst) hletter'
      rw [← (List.cons.inj (List.cons.inj heq).2).1] at hmem
      exact absurd hmem (hapart _ hmark)
    | digits hmark' hnumber' =>
      obtain ⟨hhead, hrest⟩ := List.cons.inj (List.cons.inj heq).2
      obtain ⟨rfl, hbehind⟩ := List.append_inj hrest (hmarks _ hmark _ hmark' hhead)
      exact ⟨Fin.ext (hnumber.symm.trans hnumber'), hbehind⟩

theorem quotedPoint_append_inj (hquote : quote = '\'' ∨ quote = '"')
    (h : quotedPoint quote c ++ t = quotedPoint quote c' ++ t') : c = c' ∧ t = t' :=
  (shape_quotedPoint quote c).append_inj hquote (shape_quotedPoint quote c') h

theorem quotedPoint_ne_nil (quote c : CodePoint) : quotedPoint quote c ≠ [] := by
  have key := shape_quotedPoint quote c
  intro h
  rw [h] at key
  cases key

/-! ## Quoted texts -/

theorem quoteFor_cases (t : Text) : t.quoteFor = '\'' ∨ t.quoteFor = '"' := by
  unfold quoteFor
  split
  · exact .inr rfl
  · exact .inl rfl

theorem flatMap_quotedPoint_inj (hquote : quote = '\'' ∨ quote = '"')
    (h : t.flatMap (quotedPoint quote) = t'.flatMap (quotedPoint quote)) : t = t' := by
  induction t generalizing t' with
  | nil =>
    cases t' with
    | nil => rfl
    | cons c' t' =>
      rw [List.flatMap_cons] at h
      exact absurd (List.append_eq_nil_iff.mp h.symm).1 (quotedPoint_ne_nil quote c')
  | cons c t ih =>
    cases t' with
    | nil =>
      rw [List.flatMap_cons] at h
      exact absurd (List.append_eq_nil_iff.mp h).1 (quotedPoint_ne_nil quote c)
    | cons c' t' =>
      rw [List.flatMap_cons, List.flatMap_cons] at h
      obtain ⟨rfl, hrest⟩ := quotedPoint_append_inj hquote h
      rw [ih hrest]

/-- **No two texts** are quoted alike. -/
theorem quoted_inj : t.quoted = t'.quoted ↔ t = t' := by
  constructor
  · intro h
    obtain ⟨hquote, hrest⟩ := List.cons.inj h
    rw [hquote] at hrest
    exact flatMap_quotedPoint_inj (quoteFor_cases t') (List.append_cancel_right hrest)
  · rintro rfl
    rfl

example : quoted [CodePoint.ofChar '\x07'] = "'\\x07'" ∧ quoted "\\x07" = "'\\\\x07'" := by decide

/-! ## Printable code points -/

theorem isPrintable_of_plain (h : 0x20 ≤ c.val ∧ c.val ≤ 0x7E) : isPrintable c = true := by
  unfold isPrintable unprintableRanges
  rw [inRanges, if_neg (by omega), inRanges, if_pos (by omega)]
  simp only [Bool.or_false, Bool.not_eq_true', decide_eq_false_iff_not]
  omega

/-- A number in none of some sorted ranges is outside of each. -/
theorem outside_of_inRanges {ranges : List (Nat × Nat)} {n : Nat}
    (hsorted : ranges.Pairwise fun r r' => r.1 ≤ r'.1) (h : inRanges ranges n = false) :
    ∀ r ∈ ranges, n < r.1 ∨ r.2 < n := by
  induction ranges with
  | nil => exact nofun
  | cons r ranges ih =>
    obtain ⟨low, high⟩ := r
    obtain ⟨hfirst, hrest⟩ := List.pairwise_cons.mp hsorted
    rw [inRanges] at h
    split at h
    · next hlow =>
      refine List.forall_mem_cons.mpr ⟨.inl hlow, fun r hr => .inl ?_⟩
      exact Nat.lt_of_lt_of_le hlow (hfirst r hr)
    · rw [Bool.or_eq_false_iff, decide_eq_false_iff_not] at h
      exact List.forall_mem_cons.mpr ⟨.inr (Nat.not_le.mp h.1), ih hrest h.2⟩

theorem pairwise_unprintableRanges : unprintableRanges.Pairwise fun r r' => r.1 ≤ r'.1 := by
  let le : Nat × Nat → Nat × Nat → Prop := fun r r' => r.1 ≤ r'.1
  have htrans : Trans le le le := ⟨Nat.le_trans⟩
  have hchain : unprintableRanges.IsChain le := by decide +kernel
  exact List.isChain_iff_pairwise.mp hchain

/-- **Printable** is no control character, no surrogate, nothing for private use, and no blank but the
space. -/
theorem of_isPrintable (h : isPrintable c = true) :
    0x20 ≤ c.val ∧ ¬ (0x7F ≤ c.val ∧ c.val ≤ 0x9F) ∧ c.isSurrogate = false ∧
      ¬ (0xE000 ≤ c.val ∧ c.val ≤ 0xF8FF) ∧ c.val < 0xF0000 ∧ (isBlank c = true → c = ' ') := by
  rw [isPrintable, Bool.not_eq_true'] at h
  have key := outside_of_inRanges pairwise_unprintableRanges h
  have hcontrol := key (0x0, 0x1F) (by decide)
  have hdelete := key (0x7F, 0xA0) (by decide)
  have hsurrogate := key (0xD7FC, 0xF8FF) (by decide +kernel)
  have hplane := key (0xE01F0, 0x10FFFF) (by decide +kernel)
  have hlt := c.isLt
  refine ⟨by omega, by omega, ?_, by omega, by omega, fun hblank => ?_⟩
  · simp only [CodePoint.isSurrogate, Bool.and_eq_false_iff, decide_eq_false_iff_not]
    omega
  · have hogham := key (0x1680, 0x1680) (by decide +kernel)
    have hwide := key (0x1FFF, 0x200F) (by decide +kernel)
    have hseparator := key (0x2028, 0x202F) (by decide +kernel)
    have hmedium := key (0x205F, 0x206F) (by decide +kernel)
    have hideographic := key (0x2FFC, 0x3000) (by decide +kernel)
    simp only [isBlank, Bool.or_eq_true, Bool.and_eq_true, decide_eq_true_eq, beq_iff_eq] at hblank
    refine Fin.ext ?_
    show c.val = 32
    omega

theorem isPrintable_quotedPoint (hquote : quote = '\'' ∨ quote = '"') :
    ∀ x ∈ quotedPoint quote c, isPrintable x = true := by
  have hplain : ∀ {e : Text}, Plain e → ∀ x ∈ e, isPrintable x = true := fun he x hx =>
    isPrintable_of_plain (he x hx)
  unfold quotedPoint
  split
  · next h =>
    have hc : c = '\\' ∨ c = '\'' ∨ c = '"' := by
      rcases h with rfl | rfl
      · exact .inr hquote
      · exact .inl rfl
    rcases hc with rfl | rfl | rfl <;> exact hplain (.of_all (by decide))
  split
  · exact hplain (.of_all (by decide))
  split
  · exact hplain (.of_all (by decide))
  split
  · exact hplain (.of_all (by decide))
  split
  · next h =>
    intro x hx
    rw [List.mem_singleton.mp hx]
    exact h
  · unfold hexEscape
    split
    · exact hplain (.append (.of_all (by decide)) (plain_ofHex 2 c.val))
    split
    · exact hplain (.append (.of_all (by decide)) (plain_ofHex 4 c.val))
    · exact hplain (.append (.of_all (by decide)) (plain_ofHex 8 c.val))

/-- **A quoted text** is printable. -/
theorem isPrintable_quoted (t : Text) : ∀ x ∈ t.quoted, isPrintable x = true := by
  have hquote : isPrintable t.quoteFor = true := by
    rcases quoteFor_cases t with h | h <;> rw [h] <;> decide
  intro x hx
  rcases List.mem_cons.mp hx with rfl | hx
  · exact hquote
  rcases List.mem_append.mp hx with hx | hx
  · obtain ⟨c, -, hx⟩ := List.mem_flatMap.mp hx
    exact isPrintable_quotedPoint (quoteFor_cases t) x hx
  · rw [List.mem_singleton.mp hx]
    exact hquote

/-- A text without line ends is one line. -/
theorem lines_eq_singleton (hne : t ≠ []) (h : ∀ c ∈ t, c ≠ lineFeed ∧ c ≠ carriageReturn) :
    lines t = [t] := by
  have key : ∀ {t start : Text}, start.head? ≠ some carriageReturn → t ≠ [] ∨ start ≠ [] →
      (∀ c ∈ t, c ≠ lineFeed ∧ c ≠ carriageReturn) →
      linesAfter start t = [start.reverse ++ t] := by
    intro t
    induction t with
    | nil =>
      intro start _ hne _
      rw [linesAfter, if_neg (by simpa using hne), List.append_nil]
    | cons c t ih =>
      intro start hstart _ hall
      obtain ⟨⟨hfeed, hreturn⟩, hall⟩ := List.forall_mem_cons.mp hall
      have hhead : (c :: start).head? ≠ some carriageReturn := fun heq =>
        hreturn (Option.some.inj heq)
      rw [linesAfter, if_neg hfeed, if_neg hstart, ih hhead (.inr (List.cons_ne_nil c start)) hall]
      simp only [List.reverse_cons, List.append_assoc, List.singleton_append]
  exact key nofun (.inl hne) h

/-! ## Numbers -/

theorem ofChar_injective : Function.Injective CodePoint.ofChar := by
  intro c d h
  have hval : (CodePoint.ofChar c).val = (CodePoint.ofChar d).val := by rw [h]
  exact Char.toNat_inj.mp hval

theorem ofNat_inj {m n : Nat} : ofNat m = ofNat n ↔ m = n := by
  constructor
  · intro h
    have hdigits := List.map_injective_iff.mpr ofChar_injective h
    calc
      m = Nat.ofDigitChars 10 (Nat.toDigits 10 m) 0 := Nat.ofDigitChars_ten_toDigits.symm
      _ = Nat.ofDigitChars 10 (Nat.toDigits 10 n) 0 := by rw [hdigits]
      _ = n := Nat.ofDigitChars_ten_toDigits
  · rintro rfl
    rfl

theorem isDecimalDigit_of_mem_ofNat {n : Nat} (h : c ∈ ofNat n) : isDecimalDigit c = true := by
  obtain ⟨x, hx, rfl⟩ := List.mem_map.mp h
  obtain ⟨d, hd, rfl⟩ := exists_of_mem_toDigits (by decide) hx
  have key : ∀ d : Fin 10, isDecimalDigit (CodePoint.ofChar (Nat.digitChar d.val)) = true := by
    decide
  exact key ⟨d, hd⟩

theorem mem_ofInt {n : Int} (h : c ∈ ofInt n) : c = '-' ∨ isDecimalDigit c = true := by
  cases n with
  | ofNat n => exact .inr (isDecimalDigit_of_mem_ofNat h)
  | negSucc n =>
    rcases List.mem_cons.mp h with rfl | h
    · exact .inl rfl
    · exact .inr (isDecimalDigit_of_mem_ofNat h)

theorem ofInt_inj {m n : Int} : ofInt m = ofInt n ↔ m = n := by
  have hminus : ∀ {k : Nat} {t : Text}, ofNat k ≠ ('-' : CodePoint) :: t := by
    intro k t heq
    have hdigit := @isDecimalDigit_of_mem_ofNat '-' k (by rw [heq]; exact List.mem_cons_self)
    exact absurd hdigit (by decide)
  constructor
  · intro h
    cases m with
    | ofNat m =>
      cases n with
      | ofNat n => rw [ofNat_inj.mp h]
      | negSucc n => exact absurd h hminus
    | negSucc m =>
      cases n with
      | ofNat n => exact absurd h.symm hminus
      | negSucc n => rw [Nat.succ.inj (ofNat_inj.mp (List.cons.inj h).2)]
  · rintro rfl
    rfl

/-- A code point ends what stands in front of the first of its kind. -/
theorem append_cons_inj (ht : c ∉ t) (ht' : c ∉ t') {s s' : Text}
    (h : t ++ c :: s = t' ++ c :: s') : t = t' ∧ s = s' := by
  have hnil : ∀ {u r r' : Text}, c ∉ u → c :: r = u ++ c :: r' → u = [] := by
    intro u r r' hu heq
    by_contra hne
    obtain ⟨d, u, rfl⟩ := List.exists_cons_of_ne_nil hne
    rw [(List.cons.inj heq).1] at hu
    exact hu List.mem_cons_self
  have heq : t = t' := by
    obtain ⟨u, rfl, hu⟩ | ⟨u, rfl, hu⟩ := List.append_eq_append_iff.mp h
    · rw [hnil (fun hmem => ht' (List.mem_append_right t hmem)) hu, List.append_nil]
    · rw [hnil (fun hmem => ht (List.mem_append_right t' hmem)) hu, List.append_nil]
  subst heq
  exact ⟨rfl, (List.cons.inj (List.append_cancel_left h)).2⟩

end Text

/-! ## Complaints -/

namespace Request

def LineFault.all : List LineFault :=
  [.notUtf8 .badStart, .notUtf8 .badContinuation, .notUtf8 .endOfData, .notJson .byteOrderMark,
    .notJson .expectedValue, .notJson .expectedName, .notJson .expectedColon,
    .notJson .expectedComma, .notJson .unterminatedString, .notJson .controlCharacter,
    .notJson .badEscape, .notJson .badUnitEscape, .notJson .extraData, .missingKeys,
    .notString .url, .notString .type, .notString .context]

theorem LineFault.mem_all (fault : LineFault) : fault ∈ all := by
  cases fault with
  | notUtf8 fault => cases fault <;> decide
  | notJson fault => cases fault <;> decide
  | missingKeys => decide
  | notString key => cases key <;> decide

theorem LineFault.plain_message (fault : LineFault) : fault.message.Plain := by
  have key : ∀ fault ∈ all, (fault.message.all fun c => 0x20 ≤ c.val && c.val ≤ 0x7E) = true := by
    decide +kernel
  exact .of_all (key fault fault.mem_all)

/-- No fault is worded as the start of another one. -/
theorem LineFault.message_append_inj {fault fault' : LineFault} {t t' : Text}
    (h : fault.message ++ t = fault'.message ++ t') : fault = fault' ∧ t = t' := by
  have key : ∀ f ∈ all, ∀ g ∈ all, f.message <+: g.message → f = g := by decide +kernel
  have heq : fault = fault' := by
    rcases List.prefix_or_prefix_of_prefix (List.prefix_append fault.message t)
      (h ▸ List.prefix_append fault'.message t') with hprefix | hprefix
    · exact key _ fault.mem_all _ fault'.mem_all hprefix
    · exact (key _ fault'.mem_all _ fault.mem_all hprefix).symm
  subst heq
  exact ⟨rfl, List.append_cancel_left h⟩

variable {e e' : LineError}

theorem LineError.isPrintable_message (e : LineError) : ∀ c ∈ e.message, Text.isPrintable c = true := by
  have hplain : ∀ {t : Text}, t.Plain → ∀ c ∈ t, Text.isPrintable c = true := fun ht c hc =>
    Text.isPrintable_of_plain (ht c hc)
  have hnumber : (Text.ofInt e.number).Plain := by
    intro c hc
    rcases Text.mem_ofInt hc with rfl | hdigit
    · decide
    · simp only [Text.isDecimalDigit, Bool.and_eq_true, decide_eq_true_eq] at hdigit
      omega
  unfold LineError.message diagnostic
  simp only [List.forall_mem_append]
  exact ⟨⟨⟨⟨⟨hplain (.of_all (by decide)), hplain hnumber⟩, hplain (.of_all (by decide))⟩,
    hplain e.fault.plain_message⟩, hplain (.of_all (by decide))⟩, Text.isPrintable_quoted e.line⟩

/-- **The complaint** tells all that is wrong: its number ends at the first colon, its fault where the
wording does, and behind that the line stands between quotes. -/
theorem LineError.message_inj : e.message = e'.message ↔ e = e' := by
  constructor
  · intro h
    have hcolon : ∀ n : Int, (':' : CodePoint) ∉ Text.ofInt n := by
      intro n hmem
      rcases Text.mem_ofInt hmem with heq | hdigit
      · exact absurd heq (by decide)
      · exact absurd hdigit (by decide)
    have hsplit : ∀ e : LineError, e.message = "line " ++ (Text.ofInt e.number ++
        (':' : CodePoint) :: ((' ' : CodePoint) :: (e.fault.message ++ (": " ++ e.line.quoted)))) := by
      intro e
      unfold LineError.message diagnostic
      simp only [List.append_assoc]
      rfl
    rw [hsplit, hsplit] at h
    obtain ⟨hnumber, hbehind⟩ := Text.append_cons_inj (hcolon _) (hcolon _)
      (List.append_cancel_left h)
    obtain ⟨hfault, hline⟩ := LineFault.message_append_inj (List.cons.inj hbehind).2
    rw [LineError.mk.injEq]
    exact ⟨Text.ofInt_inj.mp hnumber, Text.quoted_inj.mp (List.append_cancel_left hline), hfault⟩
  · rintro rfl
    rfl

/-- The complaint about a line is one line. -/
theorem LineError.lines_message (e : LineError) : Text.lines e.message = [e.message] := by
  apply Text.lines_eq_singleton
  · unfold LineError.message diagnostic
    exact List.cons_ne_nil _ _
  · intro c hc
    have hmin := (Text.of_isPrintable (e.isPrintable_message c hc)).1
    constructor
    · rintro rfl
      exact absurd hmin (by decide)
    · rintro rfl
      exact absurd hmin (by decide)

/-- **Complaints**, about texts and about octets, can be read back. Each is one line of printable code
points: no control character, no surrogate, nothing for private use, and no white space but spaces. No
two are worded alike: the number, the line and the fault can be told from the wording. -/
theorem LineError.message_faithful :
    (∀ e : LineError, Text.lines e.message = [e.message] ∧ ∀ c ∈ e.message,
      Text.isPrintable c = true ∧ 0x20 ≤ c.val ∧ ¬ (0x7F ≤ c.val ∧ c.val ≤ 0x9F) ∧
        c.isSurrogate = false ∧ ¬ (0xE000 ≤ c.val ∧ c.val ≤ 0xF8FF) ∧ c.val < 0xF0000 ∧
        (Text.isBlank c = true → c = ' ')) ∧
    ∀ e e' : LineError, e.message = e'.message ↔
      e.number = e'.number ∧ e.line = e'.line ∧ e.fault = e'.fault := by
  constructor
  · intro e
    refine ⟨e.lines_message, fun c hc => ?_⟩
    have hprintable := e.isPrintable_message c hc
    exact ⟨hprintable, Text.of_isPrintable hprintable⟩
  · intro e e'
    rw [message_inj, LineError.mk.injEq]

end Request

end RequestCheck
