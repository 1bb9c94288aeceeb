import Mathlib.Data.List.Chain
import RequestCheck.Json.Writer
import RequestCheck.Proofs.Grammar
import RequestCheck.Proofs.Journal

/-!
# Values that are read back

What is written for a value is read as that value, whatever closes it: that is so if and only if it is
a text of the value. A string is no exception as long as no high surrogate stands right before a low
one: each of the two would be written in an escape of its own, and such a pair of escapes is one code
point.

    Spells (s.flatMap escaped) s        for a string s without such a pair       (spells_escaped)
    v.ReadsBack                         what is written for v is read as v, with anything behind it
    v.ReadsBack  ↔  Writes v.write v                                             (readsBack_iff)
    v.ReadsBack  →  read v.write = v                                             (read_write)
-/

namespace RequestCheck

/-! ## Hexadecimal digits -/

namespace Text

def hexDigit (n : Nat) : CodePoint := Nat.digitChar (n % 16)

theorem hexValue?_hexDigit (n : Nat) :
    hexValue? (hexDigit n) = some ⟨n % 16, Nat.mod_lt n (by decide)⟩ := by
  have key : ∀ d : Fin 16, hexValue? (CodePoint.ofChar (Nat.digitChar d.val)) = some d := by decide
  exact key ⟨n % 16, Nat.mod_lt n (by decide)⟩

theorem toDigits_hex (n : Nat) :
    (Nat.toDigits 16 n).map CodePoint.ofChar =
      if n < 16 then [hexDigit n]
      else (Nat.toDigits 16 (n / 16)).map CodePoint.ofChar ++ [hexDigit n] := by
  rw [Nat.toDigits_eq_if (by decide)]
  split
  · next h => rw [List.map_singleton, hexDigit, Nat.mod_eq_of_lt h]
  · next h => rw [List.map_append, List.map_singleton]; rfl

/-- Four hexadecimal digits write a number below 65536. -/
theorem ofHex_four {n : Nat} (h : n < 0x10000) :
    ofHex 4 n = [hexDigit (n / 4096), hexDigit (n / 256), hexDigit (n / 16), hexDigit n] := by
  have hzero : ∀ m, m = 0 → hexDigit m = '0' := by rintro m rfl; rfl
  have h256 : n / 16 / 16 = n / 256 := Nat.div_div_eq_div_mul n 16 16
  have h4096 : n / 256 / 16 = n / 4096 := Nat.div_div_eq_div_mul n 256 16
  unfold ofHex
  rw [toDigits_hex]
  split
  · rw [hzero (n / 4096) (by omega), hzero (n / 256) (by omega), hzero (n / 16) (by omega)]
    rfl
  rw [toDigits_hex]
  split
  · rw [hzero (n / 4096) (by omega), hzero (n / 256) (by omega)]
    rfl
  rw [toDigits_hex, h256]
  split
  · rw [hzero (n / 4096) (by omega)]
    rfl
  rw [toDigits_hex, h4096, if_pos (by omega)]
  rfl

end Text

namespace Json

/-! ## Escapes -/

theorem unit?_hexDigit {n : Nat} (h : n < 0x110000) (hn : n < 0x10000) :
    unit? (Text.hexDigit (n / 4096)) (Text.hexDigit (n / 256)) (Text.hexDigit (n / 16))
      (Text.hexDigit n) = some ⟨n, h⟩ := by
  simp only [unit?, Text.hexValue?_hexDigit, Option.some.injEq, Fin.mk.injEq]
  omega

/-- What is written for a UTF-16 unit is an escape of that unit. -/
theorem isUnitEscape_unitEscape {n : Nat} (h : n < 0x110000) (hn : n < 0x10000) :
    IsUnitEscape (unitEscape n) ⟨n, h⟩ := by
  refine ⟨_, _, _, _, ?_, unit?_hexDigit h hn⟩
  unfold unitEscape
  rw [Text.ofHex_four hn]
  rfl

variable {c : CodePoint}

/-- The escapes of a code point above U+FFFF: a high surrogate, and a low one that joins it. -/
theorem joinSurrogates_halves (hc : 0x10000 ≤ c.val) :
    ∃ high low : CodePoint, high.val = 0xD800 + (c.val - 0x10000) / 0x400 ∧
      low.val = 0xDC00 + (c.val - 0x10000) % 0x400 ∧ high.isHighSurrogate = true ∧
      low.isLowSurrogate = true ∧ joinSurrogates high low = c := by
  have hlt := c.isLt
  refine ⟨⟨0xD800 + (c.val - 0x10000) / 0x400, by omega⟩,
    ⟨0xDC00 + (c.val - 0x10000) % 0x400, by omega⟩, rfl, rfl, ?_, ?_, ?_⟩
  · simp only [CodePoint.isHighSurrogate, Bool.and_eq_true, decide_eq_true_eq]
    omega
  · simp only [CodePoint.isLowSurrogate, Bool.and_eq_true, decide_eq_true_eq]
    omega
  · unfold joinSurrogates CodePoint.ofNat
    rw [dif_pos (by dsimp only; omega)]
    apply Fin.ext
    dsimp only
    omega

/-- The forms in which a code point is written: an escape of one letter, the code point itself, one
escape of four digits, or two. -/
inductive Form (c : CodePoint) : Text → Prop where
  | letter (letter : CodePoint) (h : simpleEscape? letter = some c) : Form c ['\\', letter]
  | plain (hquote : c ≠ '"') (hslash : c ≠ '\\') (hmin : 0x20 ≤ c.val) : Form c [c]
  | unit {e : Text} (he : IsUnitEscape e c) : Form c e
  | pair {e e' : Text} {high low : CodePoint} (he : IsUnitEscape e high)
      (hhigh : high.isHighSurrogate = true) (he' : IsUnitEscape e' low)
      (hlow : low.isLowSurrogate = true) (hc : joinSurrogates high low = c) : Form c (e ++ e')

theorem form_escaped (c : CodePoint) : Form c (escaped c) := by
  unfold escaped
  split
  · next h => rw [h]; exact .letter '"' (by decide)
  split
  · next h => rw [h]; exact .letter '\\' (by decide)
  split
  · next h => rw [h]; exact .letter 'n' (by decide)
  split
  · next h => rw [h]; exact .letter 'r' (by decide)
  split
  · next h => rw [h]; exact .letter 't' (by decide)
  split
  · next h =>
    obtain rfl : c = '\x0c' := Fin.ext h
    exact .letter 'f' (by decide)
  split
  · next h =>
    obtain rfl : c = '\x08' := Fin.ext h
    exact .letter 'b' (by decide)
  split
  · next hquote hslash _ _ _ _ _ h => exact .plain hquote hslash h.1
  split
  · next h => exact .unit (isUnitEscape_unitEscape c.isLt h)
  · next h =>
    obtain ⟨high, low, hhighVal, hlowVal, hhigh, hlow, hjoin⟩ := joinSurrogates_halves (c := c)
      (by omega)
    rw [← hhighVal, ← hlowVal]
    refine .pair (isUnitEscape_unitEscape high.isLt ?_) hhigh
      (isUnitEscape_unitEscape low.isLt ?_) hlow hjoin
    · simp only [CodePoint.isHighSurrogate, Bool.and_eq_true, decide_eq_true_eq] at hhigh
      omega
    · simp only [CodePoint.isLowSurrogate, Bool.and_eq_true, decide_eq_true_eq] at hlow
      omega

/-- What is written for a code point starts with the escape of a low surrogate only if it is one. -/
theorem Form.isLowSurrogate {e t : Text} (h : Form c e) (hlow : StartsLow (e ++ t)) :
    c.isLowSurrogate = true := by
  obtain ⟨e', low, t', he', hlow, heq⟩ := hlow
  cases h with
  | letter letter h =>
    obtain ⟨_, _, _, _, rfl, -⟩ := he'
    have hu : simpleEscape? 'u' = none := by decide
    rw [(List.cons.inj (List.cons.inj heq).2).1, hu] at h
    cases h
  | plain hquote hslash hmin =>
    obtain ⟨_, _, _, _, rfl, -⟩ := he'
    exact absurd (List.cons.inj heq).1 hslash
  | unit he => rw [(he.append_inj he' heq).1, hlow]
  | pair he hhigh _ _ _ =>
    rw [List.append_assoc] at heq
    rw [(he.append_inj he' heq).1] at hhigh
    simp only [CodePoint.isHighSurrogate, CodePoint.isLowSurrogate, Bool.and_eq_true,
      decide_eq_true_eq] at hhigh hlow
    omega

end Json

/-! ## Strings -/

/-- No high surrogate stands right before a low one. -/
def Text.Unpaired (t : Text) : Prop :=
  t.IsChain fun a b => ¬ (a.isHighSurrogate = true ∧ b.isLowSurrogate = true)

namespace Text

theorem Unpaired.tail {c : CodePoint} {t : Text} (h : Unpaired (c :: t)) : Unpaired t :=
  List.IsChain.tail h

/-- A text without surrogates has no pairs of them. -/
theorem unpaired_of_isSurrogate {t : Text} (h : ∀ c ∈ t, c.isSurrogate = false) : Unpaired t := by
  induction t with
  | nil => exact .nil
  | cons c t ih =>
    have hc : c.isHighSurrogate = false := by
      have key := h c List.mem_cons_self
      simp only [CodePoint.isSurrogate, CodePoint.isHighSurrogate, Bool.and_eq_false_iff,
        decide_eq_false_iff_not] at key ⊢
      omega
    have ht := ih fun d hd => h d (List.mem_cons_of_mem _ hd)
    cases t with
    | nil => exact .singleton c
    | cons d t => exact .cons_cons (fun hpair => by rw [hc] at hpair; cases hpair.1) ht

theorem unpaired_ofString (s : String) : Unpaired (ofString s) :=
  unpaired_of_isSurrogate (Utf8.encodable_ofString s)

end Text

namespace Json

/-- **The escapes of a string** spell the string. -/
theorem spells_escaped {s : Text} (h : s.Unpaired) : Spells (s.flatMap escaped) s := by
  induction s with
  | nil => exact .nil
  | cons c s ih =>
    have hs := ih h.tail
    rw [List.flatMap_cons]
    generalize hform : escaped c = form
    have key := form_escaped c
    rw [hform] at key
    cases key with
    | letter letter hletter => exact .letter hletter hs
    | plain hquote hslash hmin => exact .plain hquote hslash hmin hs
    | unit he =>
      refine .unit he (fun hhigh hlow => ?_) hs
      cases s with
      | nil =>
        obtain ⟨_, _, _, he', _, heq⟩ := hlow
        obtain ⟨_, _, _, _, rfl, -⟩ := he'
        cases heq
      | cons d s =>
        rw [List.flatMap_cons] at hlow
        exact (List.isChain_cons_cons.mp h).1 ⟨hhigh, (form_escaped d).isLowSurrogate hlow⟩
    | pair he hhigh he' hlow hjoin =>
      rw [List.append_assoc, ← hjoin]
      exact .pair he hhigh he' hlow hs

/-! ## Values -/

/-- What may stand behind a value: nothing, a comma or a closing bracket. Anything else might go on
with a numeral. -/
def Closes (t : Text) : Prop := ∀ c ∈ t.head?, c = ',' ∨ c = ']' ∨ c = '\x7d'

/-- What is written for a value is read as that value, whatever closes it, where there is room for its
depth; it starts with a code point that is no white space. -/
structure Value.ReadsBack (v : Value) : Prop where
  starts : ∃ c t, v.write = c :: t ∧ 0x20 < c.val ∧ c.val ≤ 0x7E
  reads : ∀ {room bound : Nat} {t : Text}, v.depth ≤ room → 2 * v.write.length ≤ bound → Closes t →
    readValue room bound (v.write ++ t) = .ok (v, t)

/-- **What is written is read back** if and only if it is a text of the value. -/
theorem Value.readsBack_iff {v : Value} : v.ReadsBack ↔ Writes v.write v := by
  constructor
  · intro h
    have hread := @ReadsBack.reads v h v.depth _ [] le_rfl le_rfl nofun
    obtain ⟨text, htext, heq⟩ := (sound _).value hread
    rw [List.append_nil, List.append_nil] at heq
    rw [heq]
    exact htext
  · intro h
    obtain ⟨c, t, hwrite, hmin, hmax, -⟩ := h.readsAs.starts
    exact ⟨⟨c, t, hwrite, hmin, hmax⟩, fun hdepth hbound ht =>
      h.readsAs.reads hdepth (by omega) fun c hc => .inr (ht c hc)⟩

def numberWords : List Text := ["NaN", "Infinity", "-Infinity"]

namespace Value.ReadsBack

theorem null : ReadsBack .null := readsBack_iff.mpr (.word (by simp [words, write]))

theorem boolean (b : Bool) : ReadsBack (.boolean b) :=
  readsBack_iff.mpr (.word (by cases b <;> simp [words, write]))

theorem number {t : Text} (h : IsNumeral t ∨ t ∈ numberWords) : ReadsBack (.number t) := by
  apply readsBack_iff.mpr
  rcases h with hnumeral | hword
  · exact .numeral hnumeral
  · refine .word ?_
    simp only [numberWords, List.mem_cons, List.not_mem_nil, or_false] at hword
    rcases hword with rfl | rfl | rfl <;> simp [words, write]

theorem string {s : Text} (h : s.Unpaired) : ReadsBack (.string s) :=
  readsBack_iff.mpr (.string (spells_escaped h))

end Value.ReadsBack

/-! ## Arrays and objects -/

theorem writeItems_cons_cons (v next : Value) (rest : List Value) :
    writeItems (v :: next :: rest) = v.write ++ ", " ++ writeItems (next :: rest) := by
  rw [writeItems]
  exact List.cons_ne_nil next rest

/-- What is written for items is a list of them, with white space in front or without it. -/
theorem lists_writeItems {items : List Value} (hne : items ≠ []) (h : ∀ v ∈ items, v.ReadsBack)
    {blank : Text} (hblank : IsBlank blank) : Lists IsText (blank ++ writeItems items) items := by
  induction items generalizing blank with
  | nil => exact absurd rfl hne
  | cons v rest ih =>
    have hone : IsText (blank ++ v.write) v :=
      ⟨blank, v.write, [], hblank, Value.readsBack_iff.mp (h v List.mem_cons_self), .nil,
        (List.append_nil _).symm⟩
    cases rest with
    | nil => exact .single hone
    | cons next rest =>
      have hrest := ih (List.cons_ne_nil next rest) (fun v hv => h v (List.mem_cons_of_mem _ hv))
        (show IsBlank " " from List.all_eq_true.mp rfl)
      have hsplit : blank ++ writeItems (v :: next :: rest) =
          blank ++ v.write ++ "," ++ (" " ++ writeItems (next :: rest)) := by
        rw [writeItems_cons_cons]
        simp only [List.append_assoc]
        rfl
      rw [hsplit]
      exact .cons hone hrest

/-- **An array** is read back if its items are. -/
theorem Value.ReadsBack.array {items : List Value} (h : ∀ v ∈ items, v.ReadsBack) :
    ReadsBack (.array items) := by
  apply readsBack_iff.mpr
  rw [write]
  cases items with
  | nil => exact @Writes.emptyArray [] .nil
  | cons v rest => exact (lists_writeItems (List.cons_ne_nil v rest) h .nil).writes_array

theorem writeMembers_cons_cons (key : Text) (v : Value) (next : Text × Value)
    (rest : List (Text × Value)) :
    writeMembers ((key, v) :: next :: rest) =
      writeString key ++ ": " ++ v.write ++ ", " ++ writeMembers (next :: rest) := by
  rw [writeMembers]
  exact List.cons_ne_nil next rest

/-- What is written for members is a list of them, with white space in front or without it. -/
theorem lists_writeMembers {members : List (Text × Value)} (hne : members ≠ [])
    (h : ∀ m ∈ members, Text.Unpaired m.1 ∧ m.2.ReadsBack) {blank : Text} (hblank : IsBlank blank) :
    Lists IsMember (blank ++ writeMembers members) members := by
  induction members generalizing blank with
  | nil => exact absurd rfl hne
  | cons m rest ih =>
    obtain ⟨key, v⟩ := m
    obtain ⟨hkey, hv⟩ : key.Unpaired ∧ v.ReadsBack := h (key, v) List.mem_cons_self
    have hspace : IsBlank " " := List.all_eq_true.mp rfl
    have hone : IsMember (blank ++ (writeString key ++ ": " ++ v.write)) (key, v) := by
      refine ⟨blank, key.flatMap escaped, [], " " ++ v.write, hblank, spells_escaped hkey, .nil,
        ⟨" ", v.write, [], hspace, Value.readsBack_iff.mp hv, .nil, (List.append_nil _).symm⟩, ?_⟩
      unfold writeString
      simp only [List.append_assoc, List.cons_append, List.nil_append]
      rfl
    cases rest with
    | nil => exact .single hone
    | cons next rest =>
      have hrest := ih (List.cons_ne_nil next rest) (fun m hm => h m (List.mem_cons_of_mem _ hm))
        hspace
      have hsplit : blank ++ writeMembers ((key, v) :: next :: rest) =
          blank ++ (writeString key ++ ": " ++ v.write) ++ "," ++
            (" " ++ writeMembers (next :: rest)) := by
        rw [writeMembers_cons_cons]
        simp only [List.append_assoc]
        rfl
      rw [hsplit]
      exact .cons hone hrest

/-- **An object** is read back if its values are, and its names have no pairs of surrogates. -/
theorem Value.ReadsBack.object {members : List (Text × Value)}
    (h : ∀ m ∈ members, Text.Unpaired m.1 ∧ m.2.ReadsBack) : ReadsBack (.object members) := by
  apply readsBack_iff.mpr
  rw [write]
  cases members with
  | nil => exact @Writes.emptyObject [] .nil
  | cons m rest => exact (lists_writeMembers (List.cons_ne_nil m rest) h .nil).writes_object

/-- **What is written** is read as the value that it was written for. -/
theorem Value.ReadsBack.read_write {v : Value} (h : v.ReadsBack) {room : Nat}
    (hdepth : v.depth ≤ room) : read room v.write = .ok v :=
  IsText.read_eq
    ⟨[], v.write, [], .nil, readsBack_iff.mp h, .nil, (List.append_nil _).symm⟩ hdepth

end Json

end RequestCheck
