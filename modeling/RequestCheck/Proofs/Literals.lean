import RequestCheck.Json.Grammar

/-!
# Strings and numerals, as they are read and as they are written

The readers of strings and numerals take exactly what the grammar allows, up to where it ends. A string
ends at its closing quote. A numeral ends where no digit, point or exponent goes on with it, so what
stands behind it has to be none of these.

    Spells b s  →  readString none (b ++ '"' :: rest) = (s, rest)             (readString_of_spells)
    readString none t = (s, rest)  →  t = b ++ '"' :: rest  for a b that spells s
                                                                             (spells_of_readString)
    IsNumeral t  →  readAtom (t ++ rest) = (t, rest)  if rest stops it           (readAtom_numeral)
    readAtom t = (v, rest)  →  t = text ++ rest  for a text that writes v            (readAtom_spec)
-/

namespace RequestCheck.Json

/-! ## Pieces of strings -/

theorem pushFront_nil (result : Except Malformation (Text × Text)) :
    pushFront [] result = result := by
  cases result <;> rfl

theorem pushFront_pushFront (a b : Text) (result : Except Malformation (Text × Text)) :
    pushFront a (pushFront b result) = pushFront (a ++ b) result := by
  cases result with
  | error fault => rfl
  | ok r => simp only [pushFront, List.append_assoc]

theorem pushFront_eq_ok_iff {front s rest : Text} {result : Except Malformation (Text × Text)} :
    pushFront front result = .ok (s, rest) ↔
      ∃ s', result = .ok (s', rest) ∧ s = front ++ s' := by
  cases result with
  | error fault => simp [pushFront]
  | ok r =>
    obtain ⟨s', rest'⟩ := r
    simp only [pushFront, Except.ok.injEq, Prod.mk.injEq]
    constructor
    · rintro ⟨rfl, rfl⟩
      exact ⟨s', ⟨rfl, rfl⟩, rfl⟩
    · rintro ⟨_, ⟨rfl, rfl⟩, rfl⟩
      exact ⟨rfl, rfl⟩

variable {held : Option CodePoint} {c : CodePoint} {e t : Text}

/-- What the reader does with a code point that is behind the one it holds back: another high
surrogate is held back in its place, and anything else but a low one is pushed behind it. -/
def readPoint (held : Option CodePoint) (c : CodePoint) (t : Text) :
    Except Malformation (Text × Text) :=
  if c.isHighSurrogate then pushFront held.toList (readString (some c) t)
  else pushFront (held.toList ++ [c]) (readString none t)

/-- One escape of four digits: behind a high surrogate that is held back, a low one completes a
pair, and everything else is a code point of its own. -/
theorem readString_unit (he : IsUnitEscape e c) (ht : t ≠ []) :
    readString held (e ++ t) =
      match held with
      | none => readPoint none c t
      | some high =>
        if c.isLowSurrogate then pushFront [joinSurrogates high c] (readString none t)
        else readPoint (some high) c t := by
  obtain ⟨p, q, x, y, rfl, hunit⟩ := he
  obtain ⟨d, t, rfl⟩ := List.exists_cons_of_ne_nil ht
  have hslash : ¬ (('\\' : CodePoint) = ('"' : CodePoint)) := by decide
  rw [readString.eq_def]
  simp only [List.cons_append, List.nil_append, if_neg hslash, if_true, List.isEmpty_cons,
    Bool.false_eq_true, if_false, hunit, readPoint]
  cases held with
  | none => simp only [Option.toList_none, List.nil_append, pushFront_nil]
  | some high => rfl

theorem readString_unit_nil (he : IsUnitEscape e c) :
    readString held e = .error .badUnitEscape := by
  obtain ⟨p, q, x, y, rfl, -⟩ := he
  have hslash : ¬ (('\\' : CodePoint) = ('"' : CodePoint)) := by decide
  rw [readString.eq_def]
  simp only [if_neg hslash, if_true, List.isEmpty_nil]

/-- An escape of one letter. -/
theorem readString_simpleEscape {letter : CodePoint} (hletter : simpleEscape? letter = some c)
    (t : Text) :
    readString held ('\\' :: letter :: t) = pushFront (held.toList ++ [c]) (readString none t) := by
  have hslash : ¬ (('\\' : CodePoint) = ('"' : CodePoint)) := by decide
  have hu : letter ≠ 'u' := by
    rintro rfl
    have hnone : simpleEscape? 'u' = none := by decide
    rw [hnone] at hletter
    cases hletter
  rw [readString.eq_def]
  simp only [if_neg hslash, if_true, if_neg hu, hletter]

/-- A code point that needs no escape. -/
theorem readString_plain (hquote : c ≠ '"') (hslash : c ≠ '\\') (hc : 0x20 ≤ c.val) (t : Text) :
    readString held (c :: t) = pushFront (held.toList ++ [c]) (readString none t) := by
  rw [readString.eq_def]
  simp only [if_neg hquote, if_neg hslash, if_neg (show ¬ c.val ≤ 0x1F by omega)]

theorem readString_quote (t : Text) :
    readString held (('"' : CodePoint) :: t) = .ok (held.toList, t) := by
  rw [readString.eq_def]
  exact if_pos rfl

/-! ## Strings -/

/-- How a text begins for the reader of strings: with the closing quote, with a code point that stands
for itself, with an escape of a letter or of four digits, or in a way that is no string. -/
inductive Begins : Text → Prop where
  | quote (t : Text) : Begins (('"' : CodePoint) :: t)
  | plain {c : CodePoint} {t : Text} (hquote : c ≠ '"') (hslash : c ≠ '\\') (hmin : 0x20 ≤ c.val) :
      Begins (c :: t)
  | letter {letter c : CodePoint} {t : Text} (hletter : simpleEscape? letter = some c) :
      Begins ('\\' :: letter :: t)
  | unit {e t : Text} {c : CodePoint} (he : IsUnitEscape e c) (ht : t ≠ []) : Begins (e ++ t)
  | broken {t : Text} {fault : Malformation} (h : ∀ held, readString held t = .error fault) :
      Begins t

/-- An escape of four digits, or of something else. -/
theorem begins_unit (more : Text) : Begins ('\\' :: 'u' :: more) := by
  have hslash : ¬ (('\\' : CodePoint) = ('"' : CodePoint)) := by decide
  have hshort : (∀ held, readString held ('\\' :: 'u' :: more) = .error .badUnitEscape) →
      Begins ('\\' :: 'u' :: more) := .broken
  rcases more with _ | ⟨a, _ | ⟨b, _ | ⟨c, _ | ⟨d, tail⟩⟩⟩⟩
  case cons.cons.cons.cons =>
    cases tail with
    | nil =>
      refine hshort fun held => ?_
      rw [readString.eq_def]
      simp only [if_neg hslash, if_true, List.isEmpty_nil]
    | cons next tail =>
      cases hunit : unit? a b c d with
      | none =>
        refine hshort fun held => ?_
        rw [readString.eq_def]
        simp only [if_neg hslash, if_true, List.isEmpty_cons, Bool.false_eq_true, if_false, hunit]
      | some unit => exact @Begins.unit ['\\', 'u', a, b, c, d] _ unit ⟨a, b, c, d, rfl, hunit⟩ nofun
  -- fewer than four code points are left
  all_goals
    refine hshort fun held => ?_
    rw [readString.eq_def]
    simp only [if_neg hslash, if_true]

/-- **Every text** begins in one of these ways. -/
theorem begins (t : Text) : Begins t := by
  cases t with
  | nil => exact @Begins.broken _ .unterminatedString fun held => by rw [readString.eq_def]
  | cons c rest =>
    by_cases hquote : c = '"'
    · rw [hquote]
      exact .quote rest
    by_cases hslash : c = '\\'
    · subst hslash
      cases rest with
      | nil =>
        refine @Begins.broken _ .unterminatedString fun held => ?_
        rw [readString.eq_def]
        simp only [if_neg hquote, if_true]
      | cons letter more =>
        by_cases hu : letter = 'u'
        · rw [hu]
          exact begins_unit more
        · cases hletter : simpleEscape? letter with
          | some point => exact .letter hletter
          | none =>
            refine @Begins.broken _ .badEscape fun held => ?_
            rw [readString.eq_def]
            simp only [if_neg hquote, if_true, if_neg hu, hletter]
    · by_cases hmin : c.val ≤ 0x1F
      · refine @Begins.broken _ .controlCharacter fun held => ?_
        rw [readString.eq_def]
        simp only [if_neg hquote, if_neg hslash, if_pos hmin]
      · exact .plain hquote hslash (by omega)

/-- **A high surrogate** that is held back stands for itself, unless the escape of a low one follows. -/
theorem readString_held (high : CodePoint) (ht : ¬ StartsLow t) :
    readString (some high) t = pushFront [high] (readString none t) := by
  have key := begins t
  cases key with
  | quote t => rw [readString_quote, readString_quote]; rfl
  | plain hquote hslash hmin =>
    rw [readString_plain hquote hslash hmin, readString_plain hquote hslash hmin, pushFront_pushFront]
    rfl
  | letter hletter =>
    rw [readString_simpleEscape hletter, readString_simpleEscape hletter, pushFront_pushFront]
    rfl
  | @unit e t c he hne =>
    have hlow : ¬ c.isLowSurrogate = true := fun hlow => ht ⟨e, c, t, he, hlow, rfl⟩
    rw [readString_unit he hne, readString_unit he hne]
    simp only [if_neg hlow, readPoint]
    split
    · rw [Option.toList_none, pushFront_nil]; rfl
    · rw [pushFront_pushFront]; rfl
  | broken h => rw [h, h]; rfl

theorem readString_pairOf {e' : Text} {high low : CodePoint} (he : IsUnitEscape e high)
    (hhigh : high.isHighSurrogate = true) (he' : IsUnitEscape e' low)
    (hlow : low.isLowSurrogate = true) (ht : t ≠ []) :
    readString none (e ++ (e' ++ t)) =
      pushFront [joinSurrogates high low] (readString none t) := by
  rw [readString_unit he (by simp [ht])]
  simp only [readPoint, if_pos hhigh, Option.toList_none, pushFront_nil]
  rw [readString_unit he' ht]
  simp only [if_pos hlow]

theorem readString_single (he : IsUnitEscape e c) (ht : t ≠ [])
    (hsingle : c.isHighSurrogate = true → ¬ StartsLow t) :
    readString none (e ++ t) = pushFront [c] (readString none t) := by
  rw [readString_unit he ht]
  simp only [readPoint, Option.toList_none, List.nil_append, pushFront_nil]
  split
  · next hhigh => rw [readString_held c (hsingle hhigh)]
  · rfl

/-- A text without quotes, backslashes and control characters spells itself. -/
theorem spells_self (h : (t.all fun c => c ≠ '"' ∧ c ≠ '\\' ∧ 0x20 ≤ c.val) = true) :
    Spells t t := by
  induction t with
  | nil => exact .nil
  | cons c t ih =>
    rw [List.all_cons, Bool.and_eq_true, decide_eq_true_eq] at h
    obtain ⟨⟨hquote, hslash, hmin⟩, ht⟩ := h
    exact .plain hquote hslash hmin (ih ht)

theorem IsUnitEscape.ne_nil (he : IsUnitEscape e c) : e ≠ [] := by
  obtain ⟨_, _, _, _, rfl, -⟩ := he
  nofun

/-- A text starts with one escape of four digits at most. -/
theorem IsUnitEscape.append_inj {e' t' : Text} {c' : CodePoint} (he : IsUnitEscape e c)
    (he' : IsUnitEscape e' c') (h : e ++ t = e' ++ t') : c = c' ∧ t = t' := by
  obtain ⟨_, _, _, _, rfl, hunit⟩ := he
  obtain ⟨_, _, _, _, rfl, hunit'⟩ := he'
  simp only [List.cons_append, List.nil_append, List.cons.injEq, true_and] at h
  obtain ⟨rfl, rfl, rfl, rfl, rfl⟩ := h
  exact ⟨Option.some.inj (hunit.symm.trans hunit'), rfl⟩

/-- The closing quote does not go on with a spelling. -/
theorem Spells.startsLow {b s rest : Text} (h : Spells b s)
    (hlow : StartsLow (b ++ ('"' : CodePoint) :: rest)) : StartsLow b := by
  obtain ⟨e', low, t, he', hlow, heq⟩ := hlow
  cases h with
  | nil =>
    obtain ⟨_, _, _, _, rfl, -⟩ := he'
    exact absurd (List.cons.inj heq).1 (by decide)
  | plain hquote hslash =>
    obtain ⟨_, _, _, _, rfl, -⟩ := he'
    exact absurd (List.cons.inj heq).1 hslash
  | letter hletter =>
    obtain ⟨_, _, _, _, rfl, -⟩ := he'
    have hu : simpleEscape? 'u' = none := by decide
    rw [(List.cons.inj (List.cons.inj heq).2).1, hu] at hletter
    cases hletter
  | pair he _ _ _ _ =>
    rw [List.append_assoc] at heq
    exact ⟨_, _, _, he, (he.append_inj he' heq).1 ▸ hlow, rfl⟩
  | unit he hsingle _ =>
    rw [List.append_assoc] at heq
    exact ⟨_, _, _, he, (he.append_inj he' heq).1 ▸ hlow, rfl⟩

/-- **A spelling** is read as its string. -/
theorem readString_of_spells {b s : Text} (h : Spells b s) (rest : Text) :
    readString none (b ++ ('"' : CodePoint) :: rest) = .ok (s, rest) := by
  induction h with
  | nil => exact readString_quote rest
  | plain hquote hslash hmin _ ih =>
    rw [List.cons_append, readString_plain hquote hslash hmin, ih]
    rfl
  | letter hletter _ ih =>
    rw [List.cons_append, List.cons_append, readString_simpleEscape hletter, ih]
    rfl
  | pair he hhigh he' hlow _ ih =>
    rw [List.append_assoc, List.append_assoc, readString_pairOf he hhigh he' hlow (by simp), ih]
    rfl
  | unit he hsingle h ih =>
    rw [List.append_assoc, readString_single he (by simp) fun hhigh hlow =>
      hsingle hhigh (h.startsLow hlow), ih]
    rfl

/-- **What is read** is a spelling, and behind it stands a quote. -/
theorem spells_of_readString {s rest : Text} (h : readString none t = .ok (s, rest)) :
    ∃ b, t = b ++ ('"' : CodePoint) :: rest ∧ Spells b s := by
  -- a pair takes two escapes at once, so the induction is on the length
  induction hn : t.length using Nat.strongRecOn generalizing t s with
  | ind n ih =>
    have key := begins t
    cases key with
    | quote t =>
      rw [readString_quote] at h
      cases h
      exact ⟨[], rfl, .nil⟩
    | @plain c t hquote hslash hmin =>
      rw [readString_plain hquote hslash hmin, pushFront_eq_ok_iff] at h
      obtain ⟨s', hread, rfl⟩ := h
      obtain ⟨b, rfl, hb⟩ := ih t.length (by rw [← hn]; exact Nat.lt_succ_self _) hread rfl
      exact ⟨c :: b, rfl, .plain hquote hslash hmin hb⟩
    | @letter letter c t hletter =>
      rw [readString_simpleEscape hletter, pushFront_eq_ok_iff] at h
      obtain ⟨s', hread, rfl⟩ := h
      obtain ⟨b, rfl, hb⟩ := ih t.length (by rw [← hn, List.length_cons, List.length_cons]; omega)
        hread rfl
      exact ⟨'\\' :: letter :: b, rfl, .letter hletter hb⟩
    | @unit e t c he ht =>
      have he0 := List.length_pos_iff.mpr he.ne_nil
      rw [List.length_append] at hn
      by_cases hpair : c.isHighSurrogate = true ∧ StartsLow t
      · obtain ⟨hhigh, e', low, t', he', hlow, rfl⟩ := hpair
        have ht' : t' ≠ [] := by
          rintro rfl
          rw [readString_unit he ht, List.append_nil] at h
          simp only [readPoint, if_pos hhigh, readString_unit_nil he'] at h
          cases h
        rw [readString_pairOf he hhigh he' hlow ht', pushFront_eq_ok_iff] at h
        obtain ⟨s', hread, rfl⟩ := h
        rw [List.length_append] at hn
        obtain ⟨b, rfl, hb⟩ := ih t'.length (by omega) hread rfl
        exact ⟨e ++ (e' ++ b), by simp only [List.append_assoc], .pair he hhigh he' hlow hb⟩
      · have hsingle : c.isHighSurrogate = true → ¬ StartsLow t := fun hhigh hlow =>
          hpair ⟨hhigh, hlow⟩
        rw [readString_single he ht hsingle, pushFront_eq_ok_iff] at h
        obtain ⟨s', hread, rfl⟩ := h
        obtain ⟨b, rfl, hb⟩ := ih t.length (by omega) hread rfl
        refine ⟨e ++ b, by rw [List.append_assoc], .unit he (fun hhigh hlow => ?_) hb⟩
        obtain ⟨e', low, t', he', hlow, rfl⟩ := hlow
        exact hsingle hhigh ⟨e', low, t' ++ ('"' : CodePoint) :: rest, he', hlow,
          by rw [List.append_assoc]⟩
    | broken hbroken => rw [hbroken] at h; cases h

/-! ## Runs of digits -/

/-- What may stand behind a value: nothing, white space, a comma or a closing bracket. Anything else
might go on with a numeral. -/
def Ends (t : Text) : Prop := ∀ c ∈ t.head?, isSpace c = true ∨ c = ',' ∨ c = ']' ∨ c = '\x7d'

/-- A text does not go on with a digit, nor with a point or the mark of an exponent. -/
structure Stops (t : Text) : Prop where
  digit : startsWithDigit t = false
  point : t.head? ≠ some '.'
  mark : t.head? ≠ some 'e' ∧ t.head? ≠ some 'E'

theorem Ends.stops {t : Text} (h : Ends t) : Stops t := by
  cases t with
  | nil => exact ⟨rfl, nofun, nofun, nofun⟩
  | cons c t =>
    have hc : c.val = 0x20 ∨ c.val = 0x09 ∨ c.val = 0x0A ∨ c.val = 0x0D ∨ c.val = 0x2C ∨
        c.val = 0x5D ∨ c.val = 0x7D := by
      rcases h c rfl with hspace | rfl | rfl | rfl
      · simp only [isSpace, Bool.or_eq_true, beq_iff_eq] at hspace
        omega
      · exact .inr (.inr (.inr (.inr (.inl rfl))))
      · exact .inr (.inr (.inr (.inr (.inr (.inl rfl)))))
      · exact .inr (.inr (.inr (.inr (.inr (.inr rfl)))))
    have hne : ∀ d : CodePoint, c.val ≠ d.val → (c :: t).head? ≠ some d := by
      intro d hd heq
      exact hd (congrArg Fin.val (Option.some.inj heq))
    refine ⟨?_, hne '.' ?_, hne 'e' ?_, hne 'E' ?_⟩
    · show Text.isDecimalDigit c = false
      simp only [Text.isDecimalDigit, Bool.and_eq_false_iff, decide_eq_false_iff_not]
      omega
    · show c.val ≠ 46
      omega
    · show c.val ≠ 101
      omega
    · show c.val ≠ 69
      omega

theorem startsWithDigit_cons (c : CodePoint) (t : Text) :
    startsWithDigit (c :: t) = Text.isDecimalDigit c := rfl

/-- Digits are split off up to where they end. -/
theorem spanDigits_append {digits rest : Text} (hdigits : ∀ c ∈ digits, Text.isDecimalDigit c = true)
    (hrest : startsWithDigit rest = false) : spanDigits (digits ++ rest) = (digits, rest) := by
  have htake : rest.takeWhile Text.isDecimalDigit = [] := by
    cases rest with
    | nil => rfl
    | cons c rest =>
      exact List.takeWhile_cons_of_neg (by rw [← startsWithDigit_cons c rest, hrest]; simp)
  have hdrop : rest.dropWhile Text.isDecimalDigit = rest := by
    cases rest with
    | nil => rfl
    | cons c rest =>
      exact List.dropWhile_cons_of_neg (by rw [← startsWithDigit_cons c rest, hrest]; simp)
  unfold spanDigits
  rw [List.takeWhile_append_of_pos hdigits, List.dropWhile_append_of_pos hdigits, htake, hdrop,
    List.append_nil]

theorem spanDigits_spec (t : Text) :
    (spanDigits t).1 ++ (spanDigits t).2 = t ∧
      ∀ c ∈ (spanDigits t).1, Text.isDecimalDigit c = true :=
  ⟨List.takeWhile_append_dropWhile, List.all_eq_true.mp List.all_takeWhile⟩

theorem isDigits_spanDigits {t : Text} (h : startsWithDigit t = true) : IsDigits (spanDigits t).1 := by
  refine ⟨?_, (spanDigits_spec t).2⟩
  cases t with
  | nil => cases h
  | cons c t =>
    have hc : Text.isDecimalDigit c = true := h
    unfold spanDigits
    rw [List.takeWhile_cons_of_pos hc]
    nofun

theorem IsDigits.startsWithDigit {digits : Text} (h : IsDigits digits) (t : Text) :
    startsWithDigit (digits ++ t) = true := by
  cases digits with
  | nil => exact absurd rfl h.1
  | cons c digits => exact h.2 c List.mem_cons_self

theorem startsWithDigit_spanDigits (t : Text) : startsWithDigit (spanDigits t).2 = false := by
  have key := List.head?_dropWhile_not Text.isDecimalDigit t
  unfold startsWithDigit spanDigits
  cases hhead : (t.dropWhile Text.isDecimalDigit).head? with
  | none => rfl
  | some c =>
    rw [hhead] at key
    exact key

/-! ## Numerals -/

section

variable {digits fraction exponent rest : Text}

theorem readInteger?_append (h : IsInteger digits) (hrest : startsWithDigit rest = false) :
    readInteger? (digits ++ rest) = some (digits, rest) := by
  rcases h with rfl | ⟨⟨hne, hdigits⟩, hzero⟩
  · rfl
  · cases digits with
    | nil => exact absurd rfl hne
    | cons c digits =>
      have hc : c ≠ '0' := fun heq => hzero (congrArg some heq)
      rw [List.cons_append, readInteger?, if_neg hc, if_pos (hdigits c List.mem_cons_self),
        ← List.cons_append, spanDigits_append hdigits hrest]

theorem IsInteger.startsWithDigit (h : IsInteger digits) (t : Text) :
    startsWithDigit (digits ++ t) = true := by
  rcases h with rfl | ⟨hdigits, -⟩
  · rfl
  · exact hdigits.startsWithDigit t

theorem readInteger?_spec {t : Text} (h : readInteger? t = some (digits, rest)) :
    t = digits ++ rest ∧ IsInteger digits := by
  cases t with
  | nil => cases h
  | cons c t =>
    rw [readInteger?] at h
    split at h
    · next hc =>
      cases h
      exact ⟨rfl, .inl (by rw [hc]; rfl)⟩
    · next hc =>
      split at h
      · next hdigit =>
        have hspan := spanDigits_spec (c :: t)
        have hdigits := @isDigits_spanDigits (c :: t) hdigit
        rw [Option.some.inj h] at hspan hdigits
        refine ⟨hspan.1.symm, .inr ⟨hdigits, fun hzero => hc ?_⟩⟩
        cases digits with
        | nil => cases hzero
        | cons d digits =>
          rw [← (List.cons.inj hspan.1).1]
          exact Option.some.inj hzero
      · cases h

theorem readFraction_append (h : IsFraction fraction) (hdigit : startsWithDigit rest = false)
    (hpoint : rest.head? ≠ some '.') : readFraction (fraction ++ rest) = (fraction, rest) := by
  rcases h with rfl | ⟨digits, hdigits, rfl⟩
  · cases rest with
    | nil => rfl
    | cons c rest =>
      have hc : c ≠ '.' := fun heq => hpoint (congrArg some heq)
      rw [List.nil_append, readFraction, if_neg fun hboth => hc hboth.1]
  · show readFraction ('.' :: (digits ++ rest)) = _
    rw [readFraction, if_pos ⟨rfl, hdigits.startsWithDigit rest⟩,
      spanDigits_append hdigits.2 hdigit]
    rfl

theorem readFraction_spec (t : Text) :
    t = (readFraction t).1 ++ (readFraction t).2 ∧ IsFraction (readFraction t).1 := by
  cases t with
  | nil => exact ⟨rfl, .inl rfl⟩
  | cons c t =>
    rw [readFraction]
    split
    · next h =>
      refine ⟨?_, .inr ⟨(spanDigits t).1, isDigits_spanDigits h.2, by rw [h.1]; rfl⟩⟩
      rw [List.cons_append, (spanDigits_spec t).1]
    · exact ⟨rfl, .inl rfl⟩

/-- The mark of an exponent is one code point. -/
theorem exists_mark {letter : Text} (h : letter = "e" ∨ letter = "E") :
    ∃ mark : CodePoint, letter = [mark] ∧ (mark = 'e' ∨ mark = 'E') := by
  rcases h with rfl | rfl
  · exact ⟨'e', rfl, .inl rfl⟩
  · exact ⟨'E', rfl, .inr rfl⟩

theorem readExponent_unsigned {mark : CodePoint} (hmark : mark = 'e' ∨ mark = 'E')
    (hdigits : IsDigits digits) (hrest : startsWithDigit rest = false) :
    readExponent (mark :: (digits ++ rest)) = (mark :: digits, rest) := by
  have hspan := spanDigits_append hdigits.2 hrest
  cases digits with
  | nil => exact absurd rfl hdigits.1
  | cons c digits =>
    have hdigit := hdigits.2 c List.mem_cons_self
    have hsign : ¬ (c = '+' ∨ c = '-') := by
      rintro (rfl | rfl)
      · exact absurd hdigit (by decide)
      · exact absurd hdigit (by decide)
    rw [List.cons_append] at hspan ⊢
    rw [readExponent.eq_def]
    simp only [if_pos hmark, if_neg hsign, if_pos hdigit, hspan]

theorem readExponent_signed {mark sign : CodePoint} (hmark : mark = 'e' ∨ mark = 'E')
    (hsign : sign = '+' ∨ sign = '-') (hdigits : IsDigits digits)
    (hrest : startsWithDigit rest = false) :
    readExponent (mark :: sign :: (digits ++ rest)) = (mark :: sign :: digits, rest) := by
  rw [readExponent.eq_def]
  simp only [if_pos hmark, if_pos hsign, if_pos (hdigits.startsWithDigit rest),
    spanDigits_append hdigits.2 hrest]

theorem readExponent_append (h : IsExponent exponent) (hrest : Stops rest) :
    readExponent (exponent ++ rest) = (exponent, rest) := by
  rcases h with rfl | ⟨letter, sign, digits, hletter, hsign, hdigits, rfl⟩
  · cases rest with
    | nil => rfl
    | cons c rest =>
      have hc : ¬ (c = 'e' ∨ c = 'E') := by
        rintro (rfl | rfl)
        · exact hrest.mark.1 rfl
        · exact hrest.mark.2 rfl
      rw [List.nil_append, readExponent.eq_def]
      simp only [if_neg hc]
  · obtain ⟨mark, rfl, hmark⟩ := exists_mark hletter
    rcases hsign with rfl | rfl | rfl
    · exact readExponent_unsigned hmark hdigits hrest.digit
    · exact readExponent_signed hmark (.inl rfl) hdigits hrest.digit
    · exact readExponent_signed hmark (.inr rfl) hdigits hrest.digit

theorem readExponent_spec (t : Text) :
    t = (readExponent t).1 ++ (readExponent t).2 ∧ IsExponent (readExponent t).1 := by
  have hnothing : t = [] ++ t ∧ IsExponent [] := ⟨rfl, .inl rfl⟩
  cases t with
  | nil => exact hnothing
  | cons mark t =>
    have hmarkText : ∀ {mark : CodePoint}, mark = 'e' ∨ mark = 'E' →
        ([mark] : Text) = "e" ∨ ([mark] : Text) = "E" := by
      rintro mark (rfl | rfl)
      · exact .inl rfl
      · exact .inr rfl
    rw [readExponent.eq_def]
    simp only
    split
    · next hmark =>
      cases t with
      | nil => exact hnothing
      | cons sign t =>
        simp only
        split
        · next hsign =>
          split
          · next hdigit =>
            refine ⟨?_, .inr ⟨[mark], [sign], (spanDigits t).1, hmarkText hmark, .inr ?_,
              isDigits_spanDigits hdigit, rfl⟩⟩
            · rw [List.cons_append, List.cons_append, (spanDigits_spec t).1]
            · rcases hsign with rfl | rfl
              · exact .inl rfl
              · exact .inr rfl
          · exact hnothing
        · split
          · next hdigit =>
            refine ⟨?_, .inr ⟨[mark], [], (spanDigits (sign :: t)).1, hmarkText hmark, .inl rfl,
              isDigits_spanDigits hdigit, rfl⟩⟩
            rw [List.cons_append, (spanDigits_spec (sign :: t)).1]
          · exact hnothing
    · exact hnothing

/-- An exponent goes on with neither a digit nor a point. -/
theorem IsExponent.stops (h : IsExponent exponent) (hrest : Stops rest) :
    startsWithDigit (exponent ++ rest) = false ∧ (exponent ++ rest).head? ≠ some '.' := by
  rcases h with rfl | ⟨_, _, _, rfl | rfl, _, _, rfl⟩
  · exact ⟨hrest.digit, hrest.point⟩
  · exact ⟨rfl, by simp only [List.append_assoc]; exact nofun⟩
  · exact ⟨rfl, by simp only [List.append_assoc]; exact nofun⟩

theorem IsFraction.stops (h : IsFraction fraction) (hrest : startsWithDigit rest = false) :
    startsWithDigit (fraction ++ rest) = false := by
  rcases h with rfl | ⟨_, _, rfl⟩
  · exact hrest
  · rfl

/-- A numeral starts with a minus sign or a digit. -/
theorem IsNumeral.starts {t : Text} (h : IsNumeral t) :
    ∃ c t', t = c :: t' ∧ (c = '-' ∨ Text.isDecimalDigit c = true) := by
  obtain ⟨sign, digits, fraction, exponent, rfl | rfl, hdigits, -, -, -, rfl⟩ := h
  · have hstart := hdigits.startsWithDigit (fraction ++ exponent)
    rw [List.nil_append, List.append_assoc]
    cases hbody : digits ++ (fraction ++ exponent) with
    | nil => rw [hbody] at hstart; cases hstart
    | cons c body => exact ⟨c, body, rfl, .inr (by rw [hbody] at hstart; exact hstart)⟩
  · exact ⟨'-', digits ++ fraction ++ exponent, by simp only [List.append_assoc]; rfl, .inl rfl⟩

/-- **A numeral** is read up to where nothing goes on with it. -/
theorem readNumeral_append (hdigits : IsInteger digits) (hfraction : IsFraction fraction)
    (hexponent : IsExponent exponent)
    (hlimit : fraction = [] → exponent = [] → digits.length ≤ Text.maxIntegerDigits)
    (hrest : Stops rest) (sign : Text) :
    readNumeral sign (digits ++ fraction ++ exponent ++ rest) =
      .ok (.number (sign ++ digits ++ fraction ++ exponent), rest) := by
  obtain ⟨hdigit, hpoint⟩ := hexponent.stops hrest
  have hlong : ¬ (fraction.isEmpty && exponent.isEmpty &&
      decide (Text.maxIntegerDigits < digits.length)) = true := by
    simp only [Bool.and_eq_true, List.isEmpty_iff, decide_eq_true_eq]
    rintro ⟨⟨hf, he⟩, hlong⟩
    exact absurd (hlimit hf he) (Nat.not_le_of_lt hlong)
  unfold readNumeral
  rw [List.append_assoc, List.append_assoc, readInteger?_append hdigits (hfraction.stops hdigit)]
  simp only [readFraction_append hfraction hdigit hpoint, readExponent_append hexponent hrest,
    if_neg hlong]

theorem readNumeral_spec {sign t : Text} {v : Value} (hsign : sign = [] ∨ sign = "-")
    (h : readNumeral sign t = .ok (v, rest)) :
    ∃ numeral, IsNumeral numeral ∧ v = .number numeral ∧ sign ++ t = numeral ++ rest := by
  unfold readNumeral at h
  split at h
  · cases h
  · next digits more hinteger =>
    obtain ⟨rfl, hdigits⟩ := readInteger?_spec hinteger
    obtain ⟨hmore, hfraction⟩ := readFraction_spec more
    obtain ⟨hbehind, hexponent⟩ := readExponent_spec (readFraction more).2
    simp only at h
    split at h
    · cases h
    · next hlong =>
      simp only [Bool.and_eq_true, List.isEmpty_iff, decide_eq_true_eq, not_and, Nat.not_lt] at hlong
      cases h
      refine ⟨_, ⟨sign, digits, _, _, hsign, hdigits, hfraction, hexponent, ?_, rfl⟩, rfl, ?_⟩
      · exact fun hf he => hlong ⟨hf, he⟩
      · simp only [List.append_assoc]
        rw [← hbehind, ← hmore]

end

/-! ## Words -/

theorem behind?_eq_some {word t more : Text} (h : behind? word t = some more) :
    t = word ++ more := by
  unfold behind? at h
  split at h
  · next hprefix =>
    obtain ⟨rest, rfl⟩ := List.isPrefixOf_iff_prefix.mp hprefix
    rw [List.drop_left] at h
    rw [Option.some.inj h]
  · cases h

theorem readWord?_spec {t rest : Text} {v : Value} {table : List (Text × Value)}
    (h : readWord? t table = some (v, rest)) : ∃ word, (word, v) ∈ table ∧ t = word ++ rest := by
  induction table with
  | nil => cases h
  | cons entry table ih =>
    obtain ⟨word, value⟩ := entry
    rw [readWord?] at h
    split at h
    · next more hbehind =>
      cases h
      exact ⟨word, List.mem_cons_self, behind?_eq_some hbehind⟩
    · obtain ⟨word', hmem, heq⟩ := ih h
      exact ⟨word', List.mem_cons_of_mem _ hmem, heq⟩

/-- No word starts in the way of another one. -/
theorem readWord?_append {word rest : Text} {v : Value} (h : (word, v) ∈ words) :
    readWord? (word ++ rest) words = some (v, rest) := by
  simp only [words, List.mem_cons, Prod.mk.injEq, List.not_mem_nil, or_false] at h
  rcases h with ⟨rfl, rfl⟩ | ⟨rfl, rfl⟩ | ⟨rfl, rfl⟩ | ⟨rfl, rfl⟩ | ⟨rfl, rfl⟩ | ⟨rfl, rfl⟩ <;> rfl

/-- A word does not start with a digit, nor with a minus sign and a digit. -/
theorem readWord?_eq_none {t : Text} (h : startsWithDigit t = true) :
    readWord? t words = none ∧ readWord? (('-' : CodePoint) :: t) words = none := by
  have hwords : ∀ {t' : Text}, (∀ entry ∈ words, ∀ rest, t' ≠ entry.1 ++ rest) →
      readWord? t' words = none := by
    intro t' hne
    cases hread : readWord? t' words with
    | none => rfl
    | some found =>
      obtain ⟨v, rest⟩ := found
      obtain ⟨word, hmem, heq⟩ := readWord?_spec hread
      exact absurd heq (hne (word, v) hmem rest)
  constructor
  · refine hwords fun entry hentry rest heq => ?_
    rw [heq] at h
    simp only [words, List.mem_cons, List.not_mem_nil, or_false] at hentry
    rcases hentry with rfl | rfl | rfl | rfl | rfl | rfl <;> cases h
  · refine hwords fun entry hentry rest heq => ?_
    simp only [words, List.mem_cons, List.not_mem_nil, or_false] at hentry
    rcases hentry with rfl | rfl | rfl | rfl | rfl | rfl
    case inr.inr.inr.inr.inr =>
      rw [(List.cons.inj heq).2] at h
      cases h
    all_goals exact absurd (List.cons.inj heq).1 (by decide)

/-! ## Atoms -/

theorem readAtom_word {word rest : Text} {v : Value} (h : (word, v) ∈ words) :
    readAtom (word ++ rest) = .ok (v, rest) := by
  unfold readAtom
  rw [readWord?_append h]

/-- What starts with a digit, or with one behind a minus sign, is read as a numeral. -/
theorem readAtom_sign {sign t : Text} (hsign : sign = [] ∨ sign = "-")
    (h : startsWithDigit t = true) : readAtom (sign ++ t) = readNumeral sign t := by
  obtain ⟨hword, hminus⟩ := readWord?_eq_none h
  rcases hsign with rfl | rfl
  · unfold readAtom
    rw [List.nil_append, hword]
    cases t with
    | nil => cases h
    | cons c t =>
      have hc : c ≠ '-' := by
        rintro rfl
        cases h
      simp only [if_neg hc]
  · show readAtom (('-' : CodePoint) :: t) = _
    unfold readAtom
    rw [hminus]
    rfl

theorem readAtom_numeral {t rest : Text} (h : IsNumeral t) (hrest : Stops rest) :
    readAtom (t ++ rest) = .ok (.number t, rest) := by
  obtain ⟨sign, digits, fraction, exponent, hsign, hdigits, hfraction, hexponent, hlimit, rfl⟩ := h
  have hread := readNumeral_append hdigits hfraction hexponent hlimit hrest sign
  have hhead := hdigits.startsWithDigit (fraction ++ exponent ++ rest)
  simp only [List.append_assoc] at hread hhead ⊢
  rw [readAtom_sign hsign hhead, hread]

/-- **An atom** that is read is a word or a numeral. -/
theorem readAtom_spec {t rest : Text} {v : Value} (h : readAtom t = .ok (v, rest)) :
    ∃ text, Writes text v ∧ v.depth = 0 ∧ t = text ++ rest := by
  unfold readAtom at h
  split at h
  · next hword =>
    cases h
    obtain ⟨word, hmem, heq⟩ := readWord?_spec hword
    have hflat : ∀ entry ∈ words, entry.2.depth = 0 := by simp [words, Value.depth]
    exact ⟨word, .word hmem, hflat _ hmem, heq⟩
  · cases t with
    | nil => cases h
    | cons c t =>
      simp only at h
      split at h
      · next hc =>
        have hsign : ([c] : Text) = "-" := by rw [hc]; rfl
        obtain ⟨numeral, hnumeral, rfl, heq⟩ := readNumeral_spec (.inr hsign) h
        exact ⟨numeral, .numeral hnumeral, rfl, heq⟩
      · obtain ⟨numeral, hnumeral, rfl, heq⟩ := readNumeral_spec (.inl rfl) h
        exact ⟨numeral, .numeral hnumeral, rfl, heq⟩

end RequestCheck.Json
