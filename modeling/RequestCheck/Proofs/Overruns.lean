import RequestCheck.Proofs.Grammar

/-!
# Texts that are too much

The reader fails in two ways: the text is malformed, or it comes to something that is too much, an
integer with too many digits or an array or object for which there is no room. It does the latter if and
only if the text is the start of JSON up to there: in front of it stand complete items only, and nothing
behind it counts.

    EndsInteger t          nothing at the start of t goes on with an integer
    Overrunning bound      what is too much under the bound overruns                   (overrunning)
    Exhausts room t x      t is given up at x, whatever the bound
    read room t = excess x  ↔  IsOverrun room t x                              (read_eq_excess_iff)
-/

namespace RequestCheck.Json

/-! ## Numerals -/

section

variable {room : Nat} {t digits rest sign : Text} {what : Excess}

theorem EndsInteger.startsWithDigit (h : EndsInteger t) : startsWithDigit t = false := by
  cases t with
  | nil => rfl
  | cons c t => exact h.digit c rfl

theorem EndsInteger.readFraction_eq (h : EndsInteger t) : readFraction t = ([], t) := by
  obtain ⟨heq, hfraction⟩ := readFraction_spec t
  have hnil := h.fraction _ _ hfraction heq
  rw [hnil, List.nil_append] at heq
  exact Prod.ext hnil heq.symm

theorem EndsInteger.readExponent_eq (h : EndsInteger t) : readExponent t = ([], t) := by
  obtain ⟨heq, hexponent⟩ := readExponent_spec t
  have hnil := h.exponent _ _ hexponent heq
  rw [hnil, List.nil_append] at heq
  exact Prod.ext hnil heq.symm

/-- An exponent is taken, with all the digits that the text behind it goes on with. -/
theorem readExponent_ne_nil {letter : Text} (hletter : letter = "e" ∨ letter = "E")
    (hsign : sign = [] ∨ sign = "+" ∨ sign = "-") (hdigits : IsDigits digits) (rest : Text) :
    (readExponent (letter ++ sign ++ digits ++ rest)).1 ≠ [] := by
  have hstops := startsWithDigit_spanDigits (digits ++ rest)
  have hall := isDigits_spanDigits (hdigits.startsWithDigit rest)
  have hspan := (spanDigits_spec (digits ++ rest)).1
  obtain ⟨mark, rfl, hmark⟩ := exists_mark hletter
  have hunsigned := readExponent_unsigned hmark hall hstops
  have hsigned : ∀ {sign : CodePoint}, sign = '+' ∨ sign = '-' → _ := fun hsign =>
    readExponent_signed hmark hsign hall hstops
  rw [hspan] at hunsigned
  simp only [hspan] at hsigned
  simp only [List.append_assoc]
  intro hnil
  rcases hsign with rfl | rfl | rfl
  · exact absurd ((congrArg Prod.fst hunsigned).symm.trans hnil) (List.cons_ne_nil _ _)
  · exact absurd ((congrArg Prod.fst (hsigned (.inl rfl))).symm.trans hnil) (List.cons_ne_nil _ _)
  · exact absurd ((congrArg Prod.fst (hsigned (.inr rfl))).symm.trans hnil) (List.cons_ne_nil _ _)

/-- Where the reader takes neither a fraction nor an exponent, there is none. -/
theorem endsInteger_of_reads (hdigit : startsWithDigit t = false) (hfraction : (readFraction t).1 = [])
    (hexponent : (readExponent t).1 = []) : EndsInteger t where
  digit := by
    intro c hc
    cases t with
    | nil => cases hc
    | cons d t =>
      cases hc
      exact hdigit
  fraction := by
    rintro part rest (rfl | ⟨digits, hdigits, rfl⟩) rfl
    · rfl
    · change (readFraction ('.' :: (digits ++ rest))).1 = [] at hfraction
      rw [readFraction, if_pos ⟨rfl, hdigits.startsWithDigit rest⟩] at hfraction
      cases hfraction
  exponent := by
    rintro part rest (rfl | ⟨letter, sign, digits, hletter, hsign, hdigits, rfl⟩) rfl
    · rfl
    · exact absurd hexponent (readExponent_ne_nil hletter hsign hdigits rest)

/-- An integer of more than one digit is read up to where its digits end. -/
theorem readInteger?_stops (h : readInteger? t = some (digits, rest)) (hlength : 1 < digits.length) :
    startsWithDigit rest = false := by
  cases t with
  | nil => cases h
  | cons c t =>
    rw [readInteger?] at h
    split at h
    · cases h
      exact absurd hlength (Nat.lt_irrefl 1)
    split at h
    · have key := startsWithDigit_spanDigits (c :: t)
      rwa [Option.some.inj h] at key
    · cases h

theorem readNumeral_long (hdigits : IsDigits digits) (hzero : digits.head? ≠ some '0')
    (hlong : Text.maxIntegerDigits < digits.length) (hrest : EndsInteger rest) (sign : Text) :
    readNumeral sign (digits ++ rest) = .error (.excess (.integer digits.length)) := by
  unfold readNumeral
  rw [readInteger?_append (.inr ⟨hdigits, hzero⟩) hrest.startsWithDigit]
  simp only [hrest.readFraction_eq, hrest.readExponent_eq, List.isEmpty_nil, decide_eq_true hlong,
    Bool.and_self, if_true]

/-- **An integer is too long** only as a run of digits that nothing goes on with. -/
theorem overruns_of_readNumeral (hsign : sign = [] ∨ sign = "-")
    (h : readNumeral sign t = .error (.excess what)) : Overruns room (sign ++ t) what := by
  unfold readNumeral at h
  split at h
  · cases h
  next digits rest hinteger =>
  obtain ⟨rfl, hdigits⟩ := readInteger?_spec hinteger
  simp only at h
  split at h
  · next hlong =>
    simp only [Bool.and_eq_true, List.isEmpty_iff, decide_eq_true_eq] at hlong
    obtain ⟨⟨hfraction, hexponent⟩, hlong⟩ := hlong
    obtain rfl : what = .integer digits.length := by
      cases h
      rfl
    have hlength : 1 < digits.length := Nat.lt_of_le_of_lt (by decide) hlong
    have hrest := (readFraction_spec rest).1
    rw [hfraction, List.nil_append] at hrest
    rw [← hrest] at hexponent
    rcases hdigits with rfl | ⟨hdigits, hzero⟩
    · exact absurd hlength (by decide)
    rw [← List.append_assoc]
    exact .integer hsign hdigits hzero hlong
      (endsInteger_of_reads (readInteger?_stops hinteger hlength) hfraction hexponent)
  · cases h

theorem overruns_of_readAtom (h : readAtom t = .error (.excess what)) : Overruns room t what := by
  unfold readAtom at h
  split at h
  · cases h
  cases t with
  | nil => cases h
  | cons c t =>
    simp only at h
    split at h
    · next hc =>
      have hsign : ([c] : Text) = "-" := by rw [hc]; rfl
      exact overruns_of_readNumeral (.inr hsign) h
    · exact overruns_of_readNumeral (.inl rfl) h

end

/-! ## What is too much overruns -/

/-- Complete things with a comma behind each, and one that breaks off. -/
inductive BreaksOff {α : Type} (One : Text → α → Prop) (Last : Text → Prop) : Text → Prop where
  | last {t : Text} (h : Last t) : BreaksOff One Last t
  | cons {t rest : Text} {x : α} (h : One t x) (hrest : BreaksOff One Last rest) :
      BreaksOff One Last (t ++ "," ++ rest)

section

variable {α β : Type} {One : Text → α → Prop} {Last : Text → Prop} {P : β → Prop} {f : β → Text}

theorem withCommas_cons (t : Text) (texts : List Text) :
    withCommas (t :: texts) = t ++ "," ++ withCommas texts := List.flatMap_cons

theorem BreaksOff.eq_withCommas {t : Text} (h : BreaksOff One Last t)
    (hone : ∀ {t x}, One t x → ∃ b, P b ∧ t = f b) :
    ∃ (bs : List β) (last : Text), (∀ b ∈ bs, P b) ∧ Last last ∧
      t = withCommas (bs.map f) ++ last := by
  induction h with
  | last h => exact ⟨[], _, nofun, h, rfl⟩
  | cons h _ ih =>
    obtain ⟨b, hb, rfl⟩ := hone h
    obtain ⟨bs, last, hbs, hlast, rfl⟩ := ih
    refine ⟨b :: bs, last, List.forall_mem_cons.mpr ⟨hb, hbs⟩, hlast, ?_⟩
    rw [List.map_cons, withCommas_cons]
    simp only [List.append_assoc]

variable {closing : CodePoint} {missing : Malformation} {t : Text} {what : Excess}
variable {read : Text → Except Fault (List α × Text)} {wrap : List α → Value} {x : α}

theorem readBracketed_excess
    (h : readBracketed closing missing read wrap t = .error (.excess what)) :
    ∃ blank more, IsBlank blank ∧ t = blank ++ more ∧ read more = .error (.excess what) := by
  obtain ⟨blank, hblank, ht⟩ := skipSpace_spec t
  unfold readBracketed at h
  split at h
  · cases h
  next c more hskip =>
  split at h
  · cases h
  split at h
  · next fault hread =>
    cases h
    exact ⟨blank, c :: more, hblank, hskip ▸ ht, hread⟩
  · cases h

/-- An item stands in front of what breaks off, if what is read behind a comma breaks off. -/
theorem breaksOff_of_readOthers {item : Text}
    (hitem : ∀ {after}, IsBlank after → One (item ++ after) x)
    (hread : ∀ {t : Text}, read t = .error (.excess what) → ∀ {blank}, IsBlank blank →
      BreaksOff One Last (blank ++ t))
    (h : readOthers closing read x t = .error (.excess what)) :
    BreaksOff One Last (item ++ t) := by
  obtain ⟨after, hafter, ht⟩ := skipSpace_spec t
  unfold readOthers readSeparator at h
  cases hskip : skipSpace t with
  | nil => simp only [hskip] at h; cases h
  | cons c more =>
    rw [hskip] at ht
    simp only [hskip] at h
    by_cases hclosing : c = closing
    · simp only [if_pos hclosing] at h
      cases h
    by_cases hcomma : c = ','
    · simp only [if_neg hclosing, if_pos hcomma] at h
      split at h
      · next fault hothers =>
        cases h
        obtain ⟨before, hbefore, hmore⟩ := skipSpace_spec more
        have hrest := hread hothers hbefore
        rw [← hmore] at hrest
        have hsplit : item ++ t = item ++ after ++ "," ++ more := by
          rw [ht, hcomma]
          simp only [List.append_assoc]
          rfl
        rw [hsplit]
        exact .cons (hitem hafter) hrest
      · cases h
    · simp only [if_neg hclosing, if_neg hcomma] at h
      cases h

end

/-- The text of an item for which there is room. -/
def IsItem (room : Nat) (t : Text) (v : Value) : Prop := IsText t v ∧ v.depth ≤ room

/-- The text of a member for whose value there is room. -/
def IsEntry (room : Nat) (t : Text) (entry : Text × Value) : Prop :=
  IsMember t entry ∧ entry.2.depth ≤ room

/-- A name with its colon, and a text that overruns. -/
def IsLastMember (room : Nat) (what : Excess) (t : Text) : Prop :=
  ∃ label rest, IsLabel label ∧ Overruns room rest what ∧ t = label ++ rest

/-- What is too much under a bound overruns: values, and the lists of an array and of an object. -/
structure Overrunning (bound : Nat) : Prop where
  value : ∀ {room : Nat} {t : Text} {what : Excess},
    readValue room bound t = .error (.excess what) → Overruns room t what
  items : ∀ {room : Nat} {t : Text} {what : Excess},
    readItems room bound t = .error (.excess what) → ∀ {blank}, IsBlank blank →
      BreaksOff (IsItem room) (IsOverrun room · what) (blank ++ t)
  members : ∀ {room : Nat} {t : Text} {what : Excess},
    readMembers room bound t = .error (.excess what) → ∀ {blank}, IsBlank blank →
      BreaksOff (IsEntry room) (IsLastMember room what) (blank ++ t)

namespace Overrunning

theorem zero : Overrunning 0 where
  value := nofun
  items := nofun
  members := nofun

variable {room bound : Nat} {what : Excess} {t : Text}

theorem value_array (h : Overrunning bound)
    (hread : readValue room (bound + 1) (('[' : CodePoint) :: t) = .error (.excess what)) :
    Overruns room (('[' : CodePoint) :: t) what := by
  rw [readValue_array] at hread
  cases room with
  | zero =>
    cases hread
    exact .deepArray t
  | succ room =>
    obtain ⟨blank, more, hblank, rfl, hitems⟩ := readBracketed_excess hread
    obtain ⟨elements, _, hall, ⟨front, rest, hfront, hrest, rfl⟩, heq⟩ :=
      @BreaksOff.eq_withCommas _ Element _ _ (fun e => (e.IsSpaced ∧ Writes e.text e.value) ∧
        e.value.depth ≤ room) Element.written _ (h.items hitems hblank) (by
          rintro _ v ⟨⟨before, text, after, hbefore, htext, hafter, rfl⟩, hdepth⟩
          exact ⟨⟨before, text, after, v⟩, ⟨⟨⟨hbefore, hafter⟩, htext⟩, hdepth⟩, rfl⟩)
    rw [heq]
    exact .array (fun e he => (hall e he).1.1) (fun e he => (hall e he).1.2)
      (fun e he => (hall e he).2) hfront hrest

theorem value_object (h : Overrunning bound)
    (hread : readValue room (bound + 1) (('\x7b' : CodePoint) :: t) = .error (.excess what)) :
    Overruns room (('\x7b' : CodePoint) :: t) what := by
  rw [readValue_object] at hread
  cases room with
  | zero =>
    cases hread
    exact .deepObject t
  | succ room =>
    obtain ⟨blank, more, hblank, rfl, hmembers⟩ := readBracketed_excess hread
    obtain ⟨members, _, hall, ⟨label, rest, hlabel, hrest, rfl⟩, heq⟩ :=
      @BreaksOff.eq_withCommas _ Member _ _ (fun m => ((m.IsSpaced ∧ Spells m.spelling m.name) ∧
        Writes m.element.text m.element.value) ∧ m.element.value.depth ≤ room) Member.written _
        (h.members hmembers hblank) (by
          rintro _ ⟨name, v⟩ ⟨⟨before, spelling, after, _, hbefore, hspelling, hafter,
            ⟨before', text, after', hbefore', htext, hafter', rfl⟩, rfl⟩, hdepth⟩
          exact ⟨⟨before, spelling, after, name, ⟨before', text, after', v⟩⟩,
            ⟨⟨⟨⟨hbefore, hafter, hbefore', hafter'⟩, hspelling⟩, htext⟩, hdepth⟩, rfl⟩)
    rw [heq]
    exact .object (fun m hm => (hall m hm).1.1.1) (fun m hm => (hall m hm).1.1.2)
      (fun m hm => (hall m hm).1.2) (fun m hm => (hall m hm).2) hlabel hrest

theorem value_succ (h : Overrunning bound)
    (hread : readValue room (bound + 1) t = .error (.excess what)) : Overruns room t what := by
  cases t with
  | nil => cases hread
  | cons c t =>
    by_cases hquote : c = '"'
    · rw [readValue, if_pos hquote] at hread
      split at hread <;> cases hread
    by_cases hbracket : c = '['
    · exact hbracket ▸ h.value_array (hbracket ▸ hread)
    by_cases hbrace : c = '\x7b'
    · exact hbrace ▸ h.value_object (hbrace ▸ hread)
    · rw [readValue, if_neg hquote, if_neg hbracket, if_neg hbrace] at hread
      exact overruns_of_readAtom hread

theorem items_succ (h : Overrunning bound)
    (hread : readItems room (bound + 1) t = .error (.excess what)) {blank : Text}
    (hblank : IsBlank blank) : BreaksOff (IsItem room) (IsOverrun room · what) (blank ++ t) := by
  rw [readItems_succ] at hread
  split at hread
  · next fault hvalue =>
    cases hread
    exact .last ⟨blank, t, hblank, h.value hvalue, rfl⟩
  · next v more hvalue =>
    have hdepth := (shallow bound).value hvalue
    obtain ⟨text, htext, rfl⟩ := (sound bound).value hvalue
    rw [← List.append_assoc]
    exact breaksOff_of_readOthers
      (fun hafter => ⟨⟨blank, text, _, hblank, htext, hafter, rfl⟩, hdepth⟩) h.items hread

theorem members_succ (h : Overrunning bound)
    (hread : readMembers room (bound + 1) t = .error (.excess what)) {blank : Text}
    (hblank : IsBlank blank) :
    BreaksOff (IsEntry room) (IsLastMember room what) (blank ++ t) := by
  rw [readMembers_succ] at hread
  split at hread
  · next fault hname =>
    exfalso
    cases hread
    unfold readName at hname
    repeat' split at hname
    all_goals cases hname
  next name behind hname =>
  obtain ⟨spelling, after, hspelling, hafter, rfl⟩ := readName_spec hname
  obtain ⟨front, hfront, hbehind⟩ := skipSpace_spec behind
  have hlabel : ∀ rest, behind = front ++ rest → blank ++ ('"' : CodePoint) :: (spelling ++
      ('"' : CodePoint) :: (after ++ (':' : CodePoint) :: behind)) =
        blank ++ "\"" ++ spelling ++ "\"" ++ after ++ ":" ++ front ++ rest := by
    rintro rest rfl
    simp only [List.append_assoc]
    rfl
  split at hread
  · next fault hvalue =>
    cases hread
    rw [hlabel _ hbehind]
    exact .last ⟨_, _, ⟨blank, spelling, name, after, front, hblank, hspelling, hafter, hfront, rfl⟩,
      h.value hvalue, rfl⟩
  · next v more hvalue =>
    have hdepth := (shallow bound).value hvalue
    obtain ⟨text, htext, heq⟩ := (sound bound).value hvalue
    rw [heq, ← List.append_assoc] at hbehind
    rw [hlabel (text ++ more) (by rw [hbehind, List.append_assoc]), ← List.append_assoc]
    refine breaksOff_of_readOthers (fun {last} hlast => ⟨?_, hdepth⟩) h.members hread
    exact ⟨blank, spelling, after, front ++ text ++ last, hblank, hspelling, hafter,
      ⟨front, text, last, hfront, htext, hlast, rfl⟩, by simp only [List.append_assoc]⟩

theorem succ (h : Overrunning bound) : Overrunning (bound + 1) where
  value := h.value_succ
  items := h.items_succ
  members := h.members_succ

end Overrunning

/-- A text is given up at something that is too much, under twice its length. It starts with a code
point that is neither white space nor a closing bracket. -/
structure Exhausts (room : Nat) (text : Text) (what : Excess) : Prop where
  starts : ∃ c t, text = c :: t ∧ 0x20 < c.val ∧ c.val ≤ 0x7E ∧ c ≠ ']'
  reads : ∀ {bound : Nat}, 2 * text.length ≤ bound + 1 →
    readValue room bound text = .error (.excess what)

namespace Exhausts

variable {room : Nat} {text : Text} {what : Excess}

theorem skipSpace_append (h : Exhausts room text what) {blank : Text} (hblank : IsBlank blank) :
    skipSpace (blank ++ text) = text := by
  obtain ⟨c, t, rfl, hmin, -, -⟩ := h.starts
  exact skipSpace_append_cons hblank hmin t

theorem length_pos (h : Exhausts room text what) : 0 < text.length := by
  obtain ⟨c, t, rfl, -⟩ := h.starts
  exact Nat.succ_pos t.length

end Exhausts

section

variable {α β : Type} {read : Nat → Text → Except Fault (List α × Text)} {closing : CodePoint}
variable {f : β → Text} {g : β → α} {bs : List β} {last : Text} {fault : Fault}

/-- Behind items that are read, the reader fails as it does on what stands there. -/
theorem reads_withCommas (hclosing : closing = ']' ∨ closing = '\x7d')
    (h : ∀ b ∈ bs, ReadsOne read closing (f b) (g b))
    (hlast : ∀ {bound}, 2 * last.length ≤ bound → read bound (skipSpace last) = .error fault)
    {bound : Nat} (hbound : 2 * (withCommas (bs.map f) ++ last).length ≤ bound) :
    read bound (skipSpace (withCommas (bs.map f) ++ last)) = .error fault := by
  have hcomma : closing ≠ ',' := by rcases hclosing with rfl | rfl <;> decide
  induction bs generalizing bound with
  | nil => exact hlast hbound
  | cons b bs ih =>
    obtain ⟨hb, hbs⟩ := List.forall_mem_cons.mp h
    have hpos := hb.length_pos
    have hlength : (Text.ofString ",").length = 1 := rfl
    rw [List.map_cons, withCommas_cons] at hbound ⊢
    simp only [List.length_append] at hbound
    obtain ⟨bound, rfl⟩ : ∃ b, bound = b + 1 := ⟨bound - 1, by omega⟩
    have hsplit : f b ++ "," ++ withCommas (bs.map f) ++ last =
        f b ++ (',' : CodePoint) :: (withCommas (bs.map f) ++ last) := by
      simp only [List.append_assoc]
      rfl
    have hothers : 2 * (withCommas (bs.map f) ++ last).length ≤ bound := by
      rw [List.length_append]
      omega
    rw [hsplit, hb.reads (by omega) (ends_cons (.inl rfl) _)]
    unfold readOthers readSeparator
    rw [skipSpace_cons (by decide)]
    simp only [if_neg hcomma.symm, if_true, ih hbs hothers]

/-- Items in front of something start in no other way than items do. -/
theorem starts_withCommas (h : ∀ b ∈ bs, ReadsOne read closing (f b) (g b))
    (hlast : ∃ c more, skipSpace last = c :: more ∧ c ≠ closing) :
    ∃ c more, skipSpace (withCommas (bs.map f) ++ last) = c :: more ∧ c ≠ closing := by
  cases bs with
  | nil => exact hlast
  | cons b bs =>
    obtain ⟨c, more, heq, hc⟩ := (h b List.mem_cons_self).starts ("," ++ withCommas (bs.map f) ++ last)
    refine ⟨c, more, ?_, hc⟩
    rw [List.map_cons, withCommas_cons]
    simpa only [List.append_assoc] using heq

variable {missing : Malformation} {wrap : List α → Value}

/-- Behind an opening bracket as well. -/
theorem readBracketed_withCommas {bound : Nat} (hclosing : closing = ']' ∨ closing = '\x7d')
    (h : ∀ b ∈ bs, ReadsOne read closing (f b) (g b))
    (hstarts : ∃ c more, skipSpace last = c :: more ∧ c ≠ closing)
    (hlast : ∀ {bound}, 2 * last.length ≤ bound → read bound (skipSpace last) = .error fault)
    (hbound : 2 * (withCommas (bs.map f) ++ last).length ≤ bound) :
    readBracketed closing missing (read bound) wrap (withCommas (bs.map f) ++ last) =
      .error fault := by
  have hread := reads_withCommas hclosing h hlast hbound
  obtain ⟨c, more, hskip, hc⟩ := starts_withCommas h hstarts
  rw [hskip] at hread
  unfold readBracketed
  simp only [hskip, if_neg hc, hread]

end

namespace Exhausts

variable {room : Nat} {rest : Text} {what : Excess}

theorem integer {sign digits : Text} (hsign : sign = [] ∨ sign = "-") (hdigits : IsDigits digits)
    (hzero : digits.head? ≠ some '0') (hlong : Text.maxIntegerDigits < digits.length)
    (hrest : EndsInteger rest) :
    Exhausts room (sign ++ digits ++ rest) (.integer digits.length) := by
  have hhead := hdigits.startsWithDigit rest
  have hread := readAtom_sign hsign hhead
  rw [readNumeral_long hdigits hzero hlong hrest, ← List.append_assoc] at hread
  obtain ⟨c, t, heq, hc⟩ : ∃ c t, sign ++ digits ++ rest = c :: t ∧
      (c = '-' ∨ Text.isDecimalDigit c = true) := by
    rcases hsign with rfl | rfl
    · rw [List.nil_append]
      cases hbody : digits ++ rest with
      | nil => rw [hbody] at hhead; cases hhead
      | cons c t => exact ⟨c, t, rfl, .inr (by rw [hbody] at hhead; exact hhead)⟩
    · exact ⟨'-', digits ++ rest, rfl, .inl rfl⟩
  obtain ⟨hmin, hmax, hc⟩ := bounds_of_numeral hc
  refine ⟨⟨c, t, heq, hmin, hmax, fun heq => hc (by rw [heq]; decide)⟩, fun {bound} hbound => ?_⟩
  rw [heq] at hread hbound ⊢
  obtain ⟨bound, rfl⟩ : ∃ b, bound = b + 1 := ⟨bound - 1, by
    rw [List.length_cons] at hbound
    omega⟩
  rw [readValue_atom hc, hread]

/-- An opening bracket is given up at once, if there is no room behind it. -/
theorem bracket {opening : CodePoint} (hmin : 0x20 < opening.val) (hmax : opening.val ≤ 0x7E)
    (hopening : opening ≠ ']')
    (h : ∀ bound, readValue room (bound + 1) (opening :: rest) = .error (.excess what)) :
    Exhausts room (opening :: rest) what where
  starts := ⟨opening, rest, rfl, hmin, hmax, hopening⟩
  reads := by
    intro bound hbound
    obtain ⟨bound, rfl⟩ : ∃ b, bound = b + 1 := ⟨bound - 1, by
      rw [List.length_cons] at hbound
      omega⟩
    exact h bound

theorem array {elements : List Element} {blank : Text}
    (h : ∀ e ∈ elements, ReadsOne (readItems room) ']' e.written e.value) (hblank : IsBlank blank)
    (hrest : Exhausts room rest what) :
    Exhausts (room + 1) ("[" ++ (withCommas (elements.map Element.written) ++ (blank ++ rest)))
      what where
  starts := ⟨'[', _, rfl, by decide, by decide, by decide⟩
  reads := by
    intro bound hbound
    have hskip := hrest.skipSpace_append hblank
    rw [List.length_append, show (Text.ofString "[").length = 1 from rfl] at hbound
    obtain ⟨bound, rfl⟩ : ∃ b, bound = b + 1 := ⟨bound - 1, by omega⟩
    rw [show "[" ++ (withCommas (elements.map Element.written) ++ (blank ++ rest)) =
      ('[' : CodePoint) :: (withCommas (elements.map Element.written) ++ (blank ++ rest)) from rfl,
      readValue_array, if_neg room.succ_ne_zero, Nat.add_sub_cancel]
    refine readBracketed_withCommas (.inl rfl) h ?_ (fun {bound} hbound => ?_) (by omega)
    · obtain ⟨c, t, heq, -, -, hc⟩ := hrest.starts
      exact ⟨c, t, hskip.trans heq, hc⟩
    · have hpos := hrest.length_pos
      rw [List.length_append] at hbound
      obtain ⟨bound, rfl⟩ : ∃ b, bound = b + 1 := ⟨bound - 1, by omega⟩
      rw [hskip, readItems_succ, hrest.reads (by omega)]

theorem object {members : List Member} {label : Text}
    (h : ∀ m ∈ members, ReadsOne (readMembers room) '\x7d' m.written m.entry)
    (hlabel : IsLabel label) (hrest : Exhausts room rest what) :
    Exhausts (room + 1) ("\x7b" ++ (withCommas (members.map Member.written) ++ (label ++ rest)))
      what where
  starts := ⟨'\x7b', _, rfl, by decide, by decide, by decide⟩
  reads := by
    intro bound hbound
    obtain ⟨before, spelling, name, after, front, hbefore, hspelling, hafter, hfront, rfl⟩ := hlabel
    have hskip : skipSpace (before ++ "\"" ++ spelling ++ "\"" ++ after ++ ":" ++ front ++ rest) =
        ('"' : CodePoint) :: (spelling ++ ('"' : CodePoint) :: (after ++ (':' : CodePoint) ::
          (front ++ rest))) := by
      simp only [List.append_assoc, Json.skipSpace_append hbefore]
      rfl
    rw [List.length_append, show (Text.ofString "\x7b").length = 1 from rfl] at hbound
    obtain ⟨bound, rfl⟩ : ∃ b, bound = b + 1 := ⟨bound - 1, by omega⟩
    rw [show "\x7b" ++ (withCommas (members.map Member.written) ++ _) =
      ('\x7b' : CodePoint) :: (withCommas (members.map Member.written) ++ _) from rfl,
      readValue_object, if_neg room.succ_ne_zero, Nat.add_sub_cancel]
    refine readBracketed_withCommas (.inr rfl) h ⟨'"', _, hskip, by decide⟩
      (fun {bound} hbound => ?_) (by omega)
    have hpos := hrest.length_pos
    simp only [List.length_append] at hbound
    obtain ⟨bound, rfl⟩ : ∃ b, bound = b + 1 := ⟨bound - 1, by omega⟩
    rw [hskip, readMembers_succ, readName_append hspelling hafter]
    simp only [hrest.skipSpace_append hfront, hrest.reads (show _ ≤ bound + 1 by omega)]

end Exhausts

end RequestCheck.Json
