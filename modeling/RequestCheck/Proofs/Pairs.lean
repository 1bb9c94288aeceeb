import Mathlib.Data.List.Forall2
import RequestCheck.Proofs.ReadBack

/-!
# Pairs of surrogates

A high surrogate right before a low one is written in the same two escapes as the code point that
the two stand for, and it is that code point which is read. So what is written for a value is read as
the value with all such pairs joined, and no line without surrogates of its own spells a pair.

    t.joinPairs                    t with its pairs of surrogates joined, written as t is
    v.joinPairs                    v with the pairs in all its texts joined, written as v is
    v.IsSound                      all that stands for a number in v is a numeral
    v.IsSound  →  read v.write = v.joinPairs                             (IsSound.read_write)
    Spells b s  →  s.Unpaired  if b is without surrogates                (Spells.unpaired)
-/

namespace RequestCheck

/-! ## Texts -/

namespace Json

theorem val_joinSurrogates {high low : CodePoint} (hhigh : high.isHighSurrogate = true)
    (hlow : low.isLowSurrogate = true) :
    (joinSurrogates high low).val =
      0x10000 + (high.val - 0xD800) * 0x400 + (low.val - 0xDC00) := by
  simp only [CodePoint.isHighSurrogate, CodePoint.isLowSurrogate, Bool.and_eq_true,
    decide_eq_true_eq] at hhigh hlow
  unfold joinSurrogates CodePoint.ofNat
  rw [dif_pos (by omega)]

/-- Beyond ASCII a code point is written in one escape or in two. -/
theorem escaped_of_le {c : CodePoint} (h : 0x7F ≤ c.val) :
    escaped c =
      if c.val < 0x10000 then unitEscape c.val
      else unitEscape (0xD800 + (c.val - 0x10000) / 0x400) ++
        unitEscape (0xDC00 + (c.val - 0x10000) % 0x400) := by
  have hne : ∀ x : CodePoint, x.val < 0x7F → c ≠ x := by
    rintro x hx rfl
    omega
  unfold escaped
  rw [if_neg (hne '"' (by decide)), if_neg (hne '\\' (by decide)), if_neg (hne '\n' (by decide)),
    if_neg (hne '\r' (by decide)), if_neg (hne '\t' (by decide)), if_neg (by omega),
    if_neg (by omega), if_neg (by omega)]

/-- A pair of surrogates is written as the code point that it stands for. -/
theorem escaped_joinSurrogates {high low : CodePoint} (hhigh : high.isHighSurrogate = true)
    (hlow : low.isLowSurrogate = true) :
    escaped (joinSurrogates high low) = escaped high ++ escaped low := by
  have hval := val_joinSurrogates hhigh hlow
  simp only [CodePoint.isHighSurrogate, CodePoint.isLowSurrogate, Bool.and_eq_true,
    decide_eq_true_eq] at hhigh hlow
  have hfirst : 0xD800 + ((joinSurrogates high low).val - 0x10000) / 0x400 = high.val := by omega
  have hsecond : 0xDC00 + ((joinSurrogates high low).val - 0x10000) % 0x400 = low.val := by omega
  rw [escaped_of_le (by omega), if_neg (by omega), hfirst, hsecond, escaped_of_le (by omega),
    if_pos (by omega), escaped_of_le (by omega), if_pos (by omega)]

end Json

namespace Text

/-- The text with each high surrogate that stands right before a low one joined with it. -/
def joinPairs : Text → Text
  | [] => []
  | c :: t =>
    match joinPairs t with
    | [] => [c]
    | d :: rest =>
      if c.isHighSurrogate && d.isLowSurrogate then Json.joinSurrogates c d :: rest
      else c :: d :: rest

theorem unpaired_joinPairs (t : Text) : t.joinPairs.Unpaired := by
  induction t with
  | nil => exact .nil
  | cons c t ih =>
    rw [joinPairs]
    cases hrest : joinPairs t with
    | nil => exact .singleton c
    | cons d rest =>
      rw [hrest] at ih
      simp only
      split
      · next hpair =>
        rw [Bool.and_eq_true] at hpair
        have hval := Json.val_joinSurrogates hpair.1 hpair.2
        -- what is joined is no surrogate itself
        have hhigh : (Json.joinSurrogates c d).isHighSurrogate = false := by
          simp only [CodePoint.isHighSurrogate, Bool.and_eq_false_iff, decide_eq_false_iff_not]
          omega
        cases rest with
        | nil => exact .singleton _
        | cons e rest => exact .cons_cons (fun h => by rw [hhigh] at h; cases h.1) ih.tail
      · next hpair => exact .cons_cons (fun h => hpair (by rw [h.1, h.2]; rfl)) ih

/-- The escapes do not tell a pair from the code point that it stands for. -/
theorem escaped_joinPairs (t : Text) :
    t.joinPairs.flatMap Json.escaped = t.flatMap Json.escaped := by
  induction t with
  | nil => rfl
  | cons c t ih =>
    rw [joinPairs, List.flatMap_cons, ← ih]
    cases joinPairs t with
    | nil => rfl
    | cons d rest =>
      simp only
      split
      · next hpair =>
        rw [Bool.and_eq_true] at hpair
        rw [List.flatMap_cons, List.flatMap_cons, Json.escaped_joinSurrogates hpair.1 hpair.2,
          List.append_assoc]
      · rfl

/-- A text without pairs stays as it is. -/
theorem Unpaired.joinPairs_eq {t : Text} (h : t.Unpaired) : t.joinPairs = t := by
  induction t with
  | nil => rfl
  | cons c t ih =>
    rw [joinPairs, ih h.tail]
    cases t with
    | nil => rfl
    | cons d t =>
      have hpair := (List.isChain_cons_cons.mp h).1
      rw [← Bool.and_eq_true] at hpair
      simp only [if_neg hpair]

/-- What is joined lies above U+FFFF, so nothing else becomes a text below. -/
theorem eq_of_joinPairs_eq {t s : Text} (hs : ∀ c ∈ s, c.val < 0x10000) (h : t.joinPairs = s) :
    t = s := by
  induction t generalizing s with
  | nil => exact h
  | cons c t ih =>
    rw [joinPairs] at h
    cases hrest : joinPairs t with
    | nil =>
      rw [hrest] at h
      rw [ih (s := []) nofun hrest]
      exact h
    | cons d rest =>
      rw [hrest] at h
      simp only at h
      split at h
      · next hpair =>
        rw [Bool.and_eq_true] at hpair
        have hval := Json.val_joinSurrogates hpair.1 hpair.2
        have hlt := hs (Json.joinSurrogates c d) (by rw [← h]; exact List.mem_cons_self)
        omega
      · rw [← h] at hs
        rw [ih (s := d :: rest) (fun x hx => hs x (List.mem_cons_of_mem c hx)) hrest]
        exact h

end Text

/-! ## Values -/

namespace Json

mutual

/-- The value with the pairs of surrogates in all its texts joined. -/
def Value.joinPairs : Value → Value
  | .null => .null
  | .boolean b => .boolean b
  | .number numeral => .number numeral
  | .string s => .string s.joinPairs
  | .array items => .array (joinItems items)
  | .object members => .object (joinMembers members)

def joinItems : List Value → List Value
  | [] => []
  | v :: rest => v.joinPairs :: joinItems rest

/-- The members with the pairs of surrogates in their names and values joined. -/
def joinMembers : List (Text × Value) → List (Text × Value)
  | [] => []
  | (name, v) :: rest => (name.joinPairs, v.joinPairs) :: joinMembers rest

end

theorem joinItems_eq_map (items : List Value) : joinItems items = items.map Value.joinPairs := by
  induction items with
  | nil => rfl
  | cons v rest ih => rw [joinItems, ih, List.map_cons]

theorem joinMembers_eq_map (members : List (Text × Value)) :
    joinMembers members = members.map fun m => (m.1.joinPairs, m.2.joinPairs) := by
  induction members with
  | nil => rfl
  | cons m rest ih => rw [joinMembers, ih, List.map_cons]

/-- Whatever stands for a number in the value is a numeral, or a word that counts as a number. -/
inductive Value.IsSound : Value → Prop where
  | null : IsSound .null
  | boolean (b : Bool) : IsSound (.boolean b)
  | number {t : Text} (h : IsNumeral t ∨ t ∈ numberWords) : IsSound (.number t)
  | string (s : Text) : IsSound (.string s)
  | array {items : List Value} (h : ∀ v ∈ items, IsSound v) : IsSound (.array items)
  | object {members : List (Text × Value)} (h : ∀ m ∈ members, IsSound m.2) :
      IsSound (.object members)

theorem writeString_joinPairs (s : Text) : writeString s.joinPairs = writeString s := by
  unfold writeString
  rw [s.escaped_joinPairs]

/-- Items that are written alike are written alike together. -/
theorem writeItems_congr {items items' : List Value}
    (h : List.Forall₂ (fun v v' => v'.write = v.write) items items') :
    writeItems items' = writeItems items := by
  induction h with
  | nil => rfl
  | @cons v v' rest rest' hv hrest ih =>
    cases hrest with
    | nil => rw [writeItems, writeItems, hv]
    | cons hnext hrest => rw [writeItems_cons_cons, writeItems_cons_cons, hv, ih]

/-- Members whose names and values are written alike are written alike. -/
theorem writeMembers_congr {members members' : List (Text × Value)}
    (h : List.Forall₂ (fun m m' => writeString m'.1 = writeString m.1 ∧ m'.2.write = m.2.write)
      members members') :
    writeMembers members' = writeMembers members := by
  induction h with
  | nil => rfl
  | @cons m m' rest rest' hm hrest ih =>
    obtain ⟨name, v⟩ := m
    obtain ⟨name', v'⟩ := m'
    obtain ⟨hname, hwrite⟩ : writeString name' = writeString name ∧ v'.write = v.write := hm
    cases hrest with
    | nil => rw [writeMembers, writeMembers, hname, hwrite]
    | cons hnext hrest =>
      rw [writeMembers_cons_cons, writeMembers_cons_cons, hname, hwrite, ih]

namespace Value.IsSound

variable {v : Value}

/-- **The pairs of surrogates** in a value are written as what they stand for. -/
theorem write_joinPairs (h : v.IsSound) : v.joinPairs.write = v.write := by
  induction h with
  | null => rfl
  | boolean b => rfl
  | number h => rfl
  | string s => exact writeString_joinPairs s
  | @array items _ ih =>
    rw [joinPairs, write, write, joinItems_eq_map, writeItems_congr]
    exact List.forall₂_map_right_iff.mpr (List.forall₂_same.mpr ih)
  | @object members _ ih =>
    rw [joinPairs, write, write, joinMembers_eq_map, writeMembers_congr]
    exact List.forall₂_map_right_iff.mpr (List.forall₂_same.mpr fun m hm =>
      ⟨writeString_joinPairs m.1, ih m hm⟩)

theorem readsBack_joinPairs (h : v.IsSound) : v.joinPairs.ReadsBack := by
  induction h with
  | null => exact .null
  | boolean b => exact .boolean b
  | number h => exact .number h
  | string s => exact .string s.unpaired_joinPairs
  | @array items _ ih =>
    rw [joinPairs, joinItems_eq_map]
    exact .array (List.forall_mem_map.mpr ih)
  | @object members _ ih =>
    rw [joinPairs, joinMembers_eq_map]
    exact .object (List.forall_mem_map.mpr fun m hm => ⟨m.1.unpaired_joinPairs, ih m hm⟩)

/-- Nothing is nested deeper once pairs of surrogates are joined. -/
theorem depth_joinPairs_le (h : v.IsSound) {n : Nat} (hdepth : v.depth ≤ n) :
    v.joinPairs.depth ≤ n := by
  induction h generalizing n with
  | null | boolean | number | string => exact Nat.zero_le n
  | @array items _ ih =>
    obtain ⟨hn, hitems⟩ := depth_array_le_iff.mp hdepth
    rw [joinPairs, joinItems_eq_map]
    exact depth_array_le_iff.mpr
      ⟨hn, List.forall_mem_map.mpr fun v hv => ih v hv (hitems v hv)⟩
  | @object members _ ih =>
    obtain ⟨hn, hmembers⟩ := depth_object_le_iff.mp hdepth
    rw [joinPairs, joinMembers_eq_map]
    exact depth_object_le_iff.mpr
      ⟨hn, List.forall_mem_map.mpr fun m hm => ih m hm (hmembers m hm)⟩

/-- **What is written** for a value is read as the value with its pairs of surrogates joined. -/
theorem read_write (h : v.IsSound) {room : Nat} (hdepth : v.depth ≤ room) :
    read room v.write = .ok v.joinPairs := by
  rw [← h.write_joinPairs]
  exact h.readsBack_joinPairs.read_write (h.depth_joinPairs_le hdepth)

end Value.IsSound

/-! ## Spellings without surrogates -/

theorem simpleEscape?_val_lt {letter c : CodePoint} (h : simpleEscape? letter = some c) :
    c.val < 0x80 := by
  unfold simpleEscape? at h
  repeat' split at h
  all_goals cases h
  all_goals decide

/-- A low surrogate is spelled by an escape of its own. -/
theorem Spells.startsLow_of_head {b s : Text} {d : CodePoint} (h : Spells b s)
    (hb : ∀ c ∈ b, c.isSurrogate = false) (hhead : s.head? = some d)
    (hd : d.isLowSurrogate = true) : StartsLow b := by
  have hmin : 0xDC00 ≤ d.val ∧ d.val ≤ 0xDFFF := by
    simpa only [CodePoint.isLowSurrogate, Bool.and_eq_true, decide_eq_true_eq] using hd
  cases h with
  | nil => cases hhead
  | @plain c b s _ _ _ _ =>
    have hplain := hb c List.mem_cons_self
    rw [Option.some.inj hhead] at hplain
    simp only [CodePoint.isSurrogate, Bool.and_eq_false_iff, decide_eq_false_iff_not] at hplain
    omega
  | letter hletter =>
    have hlt := simpleEscape?_val_lt hletter
    rw [Option.some.inj hhead] at hlt
    omega
  | pair he hhigh he' hlow =>
    have hval := val_joinSurrogates hhigh hlow
    rw [Option.some.inj hhead] at hval
    omega
  | @unit e c b s he hsingle =>
    rw [Option.some.inj hhead] at he
    exact ⟨e, d, b, he, hd, rfl⟩

/-- **A spelling without surrogates** of its own spells no pair of them: two escapes that would be one
are one code point. -/
theorem Spells.unpaired {b s : Text} (h : Spells b s) (hb : ∀ c ∈ b, c.isSurrogate = false) :
    s.Unpaired := by
  have hcons : ∀ {c : CodePoint} {s : Text}, c.isHighSurrogate = false → s.Unpaired →
      Text.Unpaired (c :: s) := by
    intro c s hc hs
    refine List.isChain_cons.mpr ⟨fun d _ hpair => ?_, hs⟩
    rw [hc] at hpair
    cases hpair.1
  induction h with
  | nil => exact .nil
  | @plain c b s _ _ _ _ ih =>
    obtain ⟨hc, hb⟩ := List.forall_mem_cons.mp hb
    refine hcons ?_ (ih hb)
    simp only [CodePoint.isSurrogate, CodePoint.isHighSurrogate, Bool.and_eq_false_iff,
      decide_eq_false_iff_not] at hc ⊢
    omega
  | @letter letter c b s hletter _ ih =>
    have hlt := simpleEscape?_val_lt hletter
    refine hcons ?_ (ih fun x hx => hb x (by simp [hx]))
    simp only [CodePoint.isHighSurrogate, Bool.and_eq_false_iff, decide_eq_false_iff_not]
    omega
  | pair _ hhigh _ hlow _ ih =>
    have hval := val_joinSurrogates hhigh hlow
    refine hcons ?_ (ih fun x hx => hb x (by simp [hx]))
    simp only [CodePoint.isHighSurrogate, Bool.and_eq_false_iff, decide_eq_false_iff_not]
    omega
  | unit _ hsingle hs ih =>
    have hbehind := fun x hx => hb x (List.mem_append_right _ hx)
    refine List.isChain_cons.mpr ⟨fun d hd hpair => ?_, ih hbehind⟩
    exact hsingle hpair.1 (hs.startsLow_of_head hbehind hd hpair.2)

end Json

end RequestCheck
