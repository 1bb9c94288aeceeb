import RequestCheck.Proofs.Extension
import RequestCheck.Request
import RequestCheck.Utf8.WellFormed

/-!
# Decoding is repairing

The machine reads octets by their forms: behind the octets it has taken within a code point, the state
holds the ranges that are left of the form. So it completes what is well-formed, gives up a bad part
exactly where no form goes on, and starts anew behind it.

    IsSequence s  ↔  s = encodePoint c for a c that is no surrogate          (isSequence_iff)
    IsBad part rest  →  scan (part ++ rest) = .bad .. :: scan rest           (scan_bad)
    Repairs b t  ↔  t = decodeLossy b                                        (repairs_iff)
-/

namespace RequestCheck

namespace Utf8

/-! ## Forms and states -/

/-- The ranges of the octets that are missing. -/
def State.left : State → Form
  | .between => []
  | .within missing low high _ _ => ⟨low, high⟩ :: List.replicate (missing - 1) continuation

/-- What a form goes on with behind its first octet. -/
def behindLead? (b : UInt8) : Form → Option Form
  | [] => none
  | range :: form => if range.low ≤ b ∧ b ≤ range.high then some form else none

/-- At most one form starts with an octet, and it goes on as the state behind the octet says. -/
theorem forms_behindLead (b : UInt8) :
    forms.filterMap (behindLead? b) =
      if b < 0x80 then [[]] else ((lead? b).map State.left).toList := by
  have key : ∀ n, n < 256 → forms.filterMap (behindLead? n.toUInt8) =
      if n.toUInt8 < 0x80 then [[]] else ((lead? n.toUInt8).map State.left).toList := by
    decide +kernel
  have hb : b.toNat.toUInt8 = b := UInt8.ofNat_toNat
  have h := key b.toNat b.toNat_lt
  rwa [hb] at h

variable {b : UInt8} {s part rest tail : Octets} {state : State} {c : CodePoint} {t : Text}

theorem isSequence_cons :
    IsSequence (b :: tail) ↔ ∃ form ∈ forms.filterMap (behindLead? b), Fits form tail := by
  constructor
  · rintro ⟨form, hform, h⟩
    cases form with
    | nil => exact h.elim
    | cons range form =>
      exact ⟨form, List.mem_filterMap.mpr ⟨_, hform, if_pos h.1⟩, h.2⟩
  · rintro ⟨form, hform, h⟩
    obtain ⟨whole, hwhole, hbehind⟩ := List.mem_filterMap.mp hform
    cases whole with
    | nil => cases hbehind
    | cons range whole =>
      rw [behindLead?, Option.ite_none_right_eq_some] at hbehind
      obtain ⟨hrange, hbehind⟩ := hbehind
      cases hbehind
      exact ⟨_, hwhole, hrange, h⟩

/-- An ASCII octet is a sequence alone. -/
theorem isSequence_ascii (hb : b < 0x80) : IsSequence (b :: tail) ↔ tail = [] := by
  rw [isSequence_cons, forms_behindLead, if_pos hb]
  cases tail with
  | nil => exact ⟨fun _ => rfl, fun _ => ⟨[], List.mem_singleton_self _, trivial⟩⟩
  | cons x tail =>
    constructor
    · rintro ⟨form, hform, h⟩
      rw [List.mem_singleton.mp hform] at h
      exact h.elim
    · exact nofun

/-- Behind any other octet stands what the state is left with. -/
theorem isSequence_lead (hb : ¬ b < 0x80) :
    IsSequence (b :: tail) ↔ ∃ state, lead? b = some state ∧ Fits state.left tail := by
  rw [isSequence_cons, forms_behindLead, if_neg hb]
  cases lead? b with
  | none => exact ⟨fun ⟨_, h, _⟩ => (by cases h), fun ⟨_, h, _⟩ => (by cases h)⟩
  | some state =>
    constructor
    · rintro ⟨form, hform, h⟩
      rw [List.mem_singleton.mp hform] at h
      exact ⟨state, rfl, h⟩
    · rintro ⟨state', hstate, h⟩
      cases hstate
      exact ⟨_, List.mem_singleton_self _, h⟩

theorem isSequence_ne_nil (h : IsSequence s) : s ≠ [] := by
  rintro rfl
  obtain ⟨form, hform, h⟩ := h
  simp only [forms, List.mem_cons, List.not_mem_nil, or_false] at hform
  rcases hform with rfl | rfl | rfl | rfl | rfl | rfl | rfl | rfl | rfl <;> exact h

/-! ## Code points -/

/-- An octet, by its number. -/
theorem eq_toUInt8 {n : Nat} (h : b.toNat = n) : n.toUInt8 = b := by
  rw [← h]
  exact UInt8.ofNat_toNat

theorem isSurrogate_ofNat {n : Nat} (h : n < 0x110000) (hn : n < 0xD800 ∨ 0xDFFF < n) :
    (CodePoint.ofNat n).isSurrogate = false := by
  simp only [CodePoint.isSurrogate, val_ofNat h, Bool.and_eq_false_iff, decide_eq_false_iff_not]
  omega

section

variable {x y z : UInt8}

theorem exists_point_one (hb : b.toNat ≤ 0x7F) :
    ∃ c : CodePoint, c.isSurrogate = false ∧ [b] = encodePoint c := by
  have hn : b.toNat < 0x110000 := by omega
  refine ⟨CodePoint.ofNat b.toNat, isSurrogate_ofNat hn (by omega), ?_⟩
  unfold encodePoint
  rw [val_ofNat hn, if_pos (by omega), eq_toUInt8 rfl]

theorem exists_point_two (hb : 0xC2 ≤ b.toNat ∧ b.toNat ≤ 0xDF)
    (hx : 0x80 ≤ x.toNat ∧ x.toNat ≤ 0xBF) :
    ∃ c : CodePoint, c.isSurrogate = false ∧ [b, x] = encodePoint c := by
  let n := (b.toNat - 0xC0) * 64 + (x.toNat - 0x80)
  have hn : n < 0x110000 := by omega
  refine ⟨CodePoint.ofNat n, isSurrogate_ofNat hn (by omega), ?_⟩
  unfold encodePoint
  rw [val_ofNat hn, if_neg (by omega), if_pos (by omega),
    @eq_toUInt8 b (0xC0 + n / 64) (by omega), @eq_toUInt8 x (0x80 + n % 64) (by omega)]

theorem exists_point_three (hb : 0xE0 ≤ b.toNat ∧ b.toNat ≤ 0xEF)
    (hx : 0x80 ≤ x.toNat ∧ x.toNat ≤ 0xBF) (hy : 0x80 ≤ y.toNat ∧ y.toNat ≤ 0xBF)
    (hlow : b.toNat = 0xE0 → 0xA0 ≤ x.toNat) (hhigh : b.toNat = 0xED → x.toNat ≤ 0x9F) :
    ∃ c : CodePoint, c.isSurrogate = false ∧ [b, x, y] = encodePoint c := by
  let n := ((b.toNat - 0xE0) * 64 + (x.toNat - 0x80)) * 64 + (y.toNat - 0x80)
  have hn : n < 0x110000 := by omega
  refine ⟨CodePoint.ofNat n, isSurrogate_ofNat hn (by omega), ?_⟩
  unfold encodePoint
  rw [val_ofNat hn, if_neg (by omega), if_neg (by omega), if_pos (by omega),
    @eq_toUInt8 b (0xE0 + n / 4096) (by omega), @eq_toUInt8 x (0x80 + n / 64 % 64) (by omega),
    @eq_toUInt8 y (0x80 + n % 64) (by omega)]

theorem exists_point_four (hb : 0xF0 ≤ b.toNat ∧ b.toNat ≤ 0xF4)
    (hx : 0x80 ≤ x.toNat ∧ x.toNat ≤ 0xBF) (hy : 0x80 ≤ y.toNat ∧ y.toNat ≤ 0xBF)
    (hz : 0x80 ≤ z.toNat ∧ z.toNat ≤ 0xBF) (hlow : b.toNat = 0xF0 → 0x90 ≤ x.toNat)
    (hhigh : b.toNat = 0xF4 → x.toNat ≤ 0x8F) :
    ∃ c : CodePoint, c.isSurrogate = false ∧ [b, x, y, z] = encodePoint c := by
  let n := (((b.toNat - 0xF0) * 64 + (x.toNat - 0x80)) * 64 + (y.toNat - 0x80)) * 64 +
    (z.toNat - 0x80)
  have hn : n < 0x110000 := by omega
  refine ⟨CodePoint.ofNat n, isSurrogate_ofNat hn (by omega), ?_⟩
  unfold encodePoint
  rw [val_ofNat hn, if_neg (by omega), if_neg (by omega), if_neg (by omega),
    @eq_toUInt8 b (0xF0 + n / 262144) (by omega),
    @eq_toUInt8 x (0x80 + n / 4096 % 64) (by omega),
    @eq_toUInt8 y (0x80 + n / 64 % 64) (by omega), @eq_toUInt8 z (0x80 + n % 64) (by omega)]

end

/-- An octet lies in a range, by their numbers. -/
theorem holds_iff {range : Range} :
    range.low ≤ b ∧ b ≤ range.high ↔
      range.low.toNat ≤ b.toNat ∧ b.toNat ≤ range.high.toNat := by
  rw [UInt8.le_iff_toNat_le, UInt8.le_iff_toNat_le]

theorem fits_nil : Fits [] s ↔ s = [] := by
  cases s with
  | nil => exact ⟨fun _ => rfl, fun _ => trivial⟩
  | cons b rest => exact ⟨False.elim, nofun⟩

theorem fits_cons {range : Range} {form : Form} :
    Fits (range :: form) s ↔ ∃ b rest, s = b :: rest ∧
      (range.low.toNat ≤ b.toNat ∧ b.toNat ≤ range.high.toNat) ∧ Fits form rest := by
  cases s with
  | nil => exact ⟨False.elim, nofun⟩
  | cons b rest =>
    rw [Fits, holds_iff]
    exact ⟨fun h => ⟨b, rest, rfl, h⟩, fun ⟨_, _, heq, h⟩ => by cases heq; exact h⟩

theorem exists_point (h : IsSequence s) :
    ∃ c : CodePoint, c.isSurrogate = false ∧ s = encodePoint c := by
  obtain ⟨form, hform, h⟩ := h
  simp only [forms, List.mem_cons, List.not_mem_nil, or_false] at hform
  rcases hform with rfl | rfl | rfl | rfl | rfl | rfl | rfl | rfl | rfl
  all_goals
    simp only [fits_cons, fits_nil, continuation, UInt8.reduceToNat] at h
  · obtain ⟨b, _, rfl, hb, rfl⟩ := h
    exact exists_point_one hb.2
  · obtain ⟨b, _, rfl, hb, x, _, rfl, hx, rfl⟩ := h
    exact exists_point_two hb hx
  · obtain ⟨b, _, rfl, hb, x, _, rfl, hx, y, _, rfl, hy, rfl⟩ := h
    exact exists_point_three (by omega) (by omega) hy (by omega) (by omega)
  · obtain ⟨b, _, rfl, hb, x, _, rfl, hx, y, _, rfl, hy, rfl⟩ := h
    exact exists_point_three (by omega) hx hy (by omega) (by omega)
  · obtain ⟨b, _, rfl, hb, x, _, rfl, hx, y, _, rfl, hy, rfl⟩ := h
    exact exists_point_three (by omega) (by omega) hy (by omega) (by omega)
  · obtain ⟨b, _, rfl, hb, x, _, rfl, hx, y, _, rfl, hy, rfl⟩ := h
    exact exists_point_three (by omega) hx hy (by omega) (by omega)
  · obtain ⟨b, _, rfl, hb, x, _, rfl, hx, y, _, rfl, hy, z, _, rfl, hz, rfl⟩ := h
    exact exists_point_four (by omega) (by omega) hy hz (by omega) (by omega)
  · obtain ⟨b, _, rfl, hb, x, _, rfl, hx, y, _, rfl, hy, z, _, rfl, hz, rfl⟩ := h
    exact exists_point_four (by omega) hx hy hz (by omega) (by omega)
  · obtain ⟨b, _, rfl, hb, x, _, rfl, hx, y, _, rfl, hy, z, _, rfl, hz, rfl⟩ := h
    exact exists_point_four (by omega) (by omega) hy hz (by omega) (by omega)

/-- An octet that continues a code point. -/
theorem continuation_holds {n : Nat} (h : n < 64) :
    0x80 ≤ (0x80 + n).toUInt8 ∧ (0x80 + n).toUInt8 ≤ 0xBF := by
  rw [UInt8.le_iff_toNat_le, UInt8.le_iff_toNat_le, toNat_toUInt8 (by omega)]
  simp only [UInt8.reduceToNat]
  omega

theorem lead_not_ascii {n : Nat} (hmin : 0x80 ≤ n) (hmax : n < 256) : ¬ n.toUInt8 < 0x80 := by
  rw [UInt8.lt_iff_toNat_lt, toNat_toUInt8 hmax]
  show ¬ n < 128
  omega

theorem isSequence_encodePoint (h : c.isSurrogate = false) : IsSequence (encodePoint c) := by
  have hlt := c.isLt
  simp only [CodePoint.isSurrogate, Bool.and_eq_false_iff, decide_eq_false_iff_not] at h
  unfold encodePoint
  split
  · next h1 =>
    refine (isSequence_ascii ?_).mpr rfl
    rw [UInt8.lt_iff_toNat_lt, toNat_toUInt8 (by omega)]
    exact h1
  split
  · next h1 h2 =>
    exact (isSequence_lead (lead_not_ascii (by omega) (by omega))).mpr
      ⟨_, lead?_two ⟨c.val / 64, by omega⟩ (by show 2 ≤ c.val / 64; omega),
        continuation_holds (by omega), trivial⟩
  split
  · next h1 h2 h3 =>
    refine (isSequence_lead (lead_not_ascii (by omega) (by omega))).mpr
      ⟨_, lead?_three ⟨c.val / 4096, by omega⟩, ?_, continuation_holds (by omega), trivial⟩
    rw [UInt8.le_iff_toNat_le, UInt8.le_iff_toNat_le, toNat_toUInt8 (by omega)]
    dsimp only
    split <;> split <;> simp only [UInt8.reduceToNat] <;> omega
  · next h1 h2 h3 =>
    refine (isSequence_lead (lead_not_ascii (by omega) (by omega))).mpr
      ⟨_, lead?_four ⟨c.val / 262144, by omega⟩, ?_, continuation_holds (by omega),
        continuation_holds (by omega), trivial⟩
    rw [UInt8.le_iff_toNat_le, UInt8.le_iff_toNat_le, toNat_toUInt8 (by omega)]
    dsimp only
    split <;> split <;> simp only [UInt8.reduceToNat] <;> omega

/-- **The forms** are those of the octets of code points that are no surrogates. -/
theorem isSequence_iff :
    IsSequence s ↔ ∃ c : CodePoint, c.isSurrogate = false ∧ s = encodePoint c :=
  ⟨exists_point, fun ⟨_, hc, hs⟩ => hs ▸ isSequence_encodePoint hc⟩

/-! ## Within a code point -/

/-- An octet in the next range is taken; if it is not the last one, the other ranges are left. -/
theorem step_open {missing bits taken : Nat} {low high : UInt8} (hmissing : 2 ≤ missing)
    (hb : low ≤ b ∧ b ≤ high) :
    ∃ bits', step (.within missing low high bits taken) b =
      (.within (missing - 1) 0x80 0xBF bits' (taken + 1), []) := by
  refine ⟨bits * 64 + (b.toNat - 0x80), ?_⟩
  simp only [step]
  rw [if_pos hb, if_neg (by omega)]

theorem left_open {missing bits taken : Nat} (h : 1 ≤ missing) :
    (State.within missing 0x80 0xBF bits taken).left = List.replicate missing continuation := by
  obtain ⟨n, rfl⟩ : ∃ n, missing = n + 1 := ⟨missing - 1, by omega⟩
  rfl

/-- Behind a part of the missing octets the machine is still within the code point, and what is left
are the ranges behind the part. -/
theorem run_open {missing bits taken : Nat} {low high : UInt8}
    (hfits : Fits (State.within missing low high bits taken).left (part ++ tail)) (htail : tail ≠ []) :
    ∃ missing' low' high' bits',
      (∀ done, run (.within missing low high bits taken) done part =
        (.within missing' low' high' bits' (taken + part.length), done)) ∧
      ∀ tail', Fits (State.within missing low high bits taken).left (part ++ tail') ↔
        Fits (State.within missing' low' high' bits' (taken + part.length)).left tail' := by
  induction part generalizing missing low high bits taken with
  | nil => exact ⟨missing, low, high, bits, fun done => rfl, fun tail' => Iff.rfl⟩
  | cons x part ih =>
    obtain ⟨hx, hrest⟩ := hfits
    have hmissing : 2 ≤ missing := by
      apply Classical.byContradiction
      intro hlt
      rw [show missing - 1 = 0 by omega] at hrest
      exact htail (List.append_eq_nil_iff.mp (fits_nil.mp hrest)).2
    obtain ⟨bits', hstep⟩ := @step_open x missing bits taken low high hmissing hx
    have hleft := @left_open (missing - 1) bits' (taken + 1) (by omega)
    obtain ⟨missing', low', high', bits'', hrun, hiff⟩ := ih (hleft ▸ hrest)
    have htaken : taken + (x :: part).length = taken + 1 + part.length := by
      rw [List.length_cons]
      omega
    rw [htaken]
    refine ⟨missing', low', high', bits'', fun done => ?_, fun tail' => ?_⟩
    · rw [run_cons, hstep]
      exact hrun done
    · rw [← hiff, hleft]
      exact ⟨fun h => h.2, fun h => ⟨hx, h⟩⟩

/-- Ranges that are not empty have octets in them. -/
theorem exists_fits {form : Form} (h : ∀ range ∈ form, range.low ≤ range.high) :
    ∃ s, Fits form s := by
  induction form with
  | nil => exact ⟨[], trivial⟩
  | cons range form ih =>
    obtain ⟨s, hs⟩ := ih fun r hr => h r (List.mem_cons_of_mem _ hr)
    have hrange := h range List.mem_cons_self
    exact ⟨range.low :: s, ⟨UInt8.le_refl _, hrange⟩, hs⟩

theorem exists_fits_open {missing bits taken : Nat} {low high x : UInt8} (h : low ≤ x ∧ x ≤ high) :
    ∃ tail, Fits (State.within missing low high bits taken).left (x :: tail) := by
  obtain ⟨tail, htail⟩ := @exists_fits (List.replicate (missing - 1) continuation) fun range hr => by
    rw [List.eq_of_mem_replicate hr]
    decide
  exact ⟨tail, h, htail⟩

/-- A lead octet is one that starts a sequence. -/
theorem isStart_lead (hb : ¬ b < 0x80) (h : lead? b = some state) : IsStart [b] := by
  have key : ∀ n, n < 256 → ((lead? n.toUInt8).all fun state =>
      state.left.all fun range => decide (range.low ≤ range.high)) = true := by decide +kernel
  have hall := key b.toNat b.toNat_lt
  rw [eq_toUInt8 rfl, h, Option.all_some, List.all_eq_true] at hall
  obtain ⟨tail, htail⟩ := @exists_fits state.left fun range hr => of_decide_eq_true (hall range hr)
  exact ⟨List.cons_ne_nil b [], tail, (isSequence_lead hb).mpr ⟨state, h, htail⟩⟩

/-- **Within a code point.** Behind the start of a sequence the machine waits for just those octets
that go on with it. -/
theorem run_start (h : IsStart part) (hs : ¬ IsSequence part) :
    ∃ missing low high bits,
      (∀ done, run .between done part = (.within missing low high bits part.length, done)) ∧
      ∀ x, low ≤ x ∧ x ≤ high ↔ IsStart (part ++ [x]) := by
  obtain ⟨hne, tail, hsequence⟩ := h
  have htail : tail ≠ [] := by
    rintro rfl
    rw [List.append_nil] at hsequence
    exact hs hsequence
  cases part with
  | nil => exact absurd rfl hne
  | cons b part =>
    have hb : ¬ b < 0x80 := by
      intro hb
      rw [List.cons_append, isSequence_ascii hb] at hsequence
      exact htail (List.append_eq_nil_iff.mp hsequence).2
    obtain ⟨state, hlead, hfits⟩ := (isSequence_lead hb).mp hsequence
    obtain ⟨-, htaken⟩ := lead?_legal hlead
    have hstart : start b = (state, []) := start_lead (Nat.not_lt.mp hb) hlead
    cases state with
    | between => cases htaken
    | within missing low high bits taken =>
      obtain rfl : taken = 1 := htaken
      obtain ⟨missing', low', high', bits', hrun, hiff⟩ := run_open hfits htail
      have hlength : (b :: part).length = 1 + part.length := by rw [List.length_cons, Nat.add_comm]
      rw [hlength]
      have hleft : ∀ tail', IsSequence (b :: part ++ tail') ↔
          Fits (State.within missing' low' high' bits' (1 + part.length)).left tail' := by
        intro tail'
        rw [List.cons_append, isSequence_lead hb, ← hiff]
        exact ⟨fun ⟨state, hstate, h⟩ => by cases hlead.symm.trans hstate; exact h,
          fun h => ⟨_, hlead, h⟩⟩
      refine ⟨missing', low', high', bits', fun done => ?_, fun x => ⟨fun hx => ?_, ?_⟩⟩
      · rw [run_cons, step, hstart]
        exact hrun done
      · obtain ⟨tail', htail'⟩ := exists_fits_open hx
        refine ⟨List.append_ne_nil_of_left_ne_nil (List.cons_ne_nil b part) _, tail', ?_⟩
        rw [List.append_assoc, hleft]
        exact htail'
      · rintro ⟨-, tail', htail'⟩
        rw [List.append_assoc, hleft] at htail'
        exact htail'.1

/-! ## Bad parts -/

/-- **A bad part** is given up as one piece, and the machine starts anew behind it. -/
theorem scan_bad (h : IsBad part rest) :
    ∃ fault : Fault, fault.Tells part rest ∧
      scan (part ++ rest) = .bad part.length fault :: scan rest := by
  by_cases hstart : IsStart part
  · have hs : ¬ IsSequence part := fun hs => h.noSequence part hs (List.prefix_append part rest)
    obtain ⟨missing, low, high, bits, hrun, hgoes⟩ := run_start hstart hs
    cases rest with
    | nil =>
      refine ⟨.endOfData, ⟨hstart, rfl⟩, ?_⟩
      rw [List.append_nil, scan_eq_run, hrun]
      rfl
    | cons x rest =>
      have hx : ¬ (low ≤ x ∧ x ≤ high) := by
        intro hx
        refine h.longest (part ++ [x]) ⟨rest, by simp⟩ (by simp) ((hgoes x).mp hx)
      refine ⟨.badContinuation, ⟨hstart, nofun⟩, ?_⟩
      have hstep : step (.within missing low high bits part.length) x =
          ((start x).1, (start x).2 ++ [.bad part.length .badContinuation]) := by
        simp only [step]
        rw [if_neg hx]
      rw [scan_eq_run, scan_eq_run, run_append, hrun, run_cons, hstep, run_cons, List.append_nil,
        run_done, run_done _ ((step .between x).2 ++ [])]
      simp [step]
  · obtain ⟨b, rfl⟩ := h.isStart.resolve_left hstart
    have hb : ¬ b < 0x80 := fun hb =>
      hstart ⟨List.cons_ne_nil b [], [], (isSequence_ascii hb).mpr rfl⟩
    have hlead : lead? b = none := by
      cases hlead : lead? b with
      | none => rfl
      | some state => exact absurd (isStart_lead hb hlead) hstart
    refine ⟨.badStart, hstart, ?_⟩
    have hstep : step .between b = (.between, [.bad 1 .badStart]) := by
      show start b = _
      unfold start
      rw [if_neg hb, hlead]
    rw [List.singleton_append, scan_eq_run, scan_eq_run, run_cons, hstep, run_done]
    simp

/-- The octets of a code point are completed as one piece. -/
theorem scan_point (h : c.isSurrogate = false) (rest : Octets) :
    scan (encodePoint c ++ rest) = .point c :: scan rest := by
  rw [scan_eq_run, scan_eq_run, run_append, run_encodePoint h, run_done]
  simp

/-! ## Cutting octets up -/

theorem IsBad.ne_nil (h : IsBad part rest) : part ≠ [] := by
  rcases h.isStart with hstart | ⟨b, rfl⟩
  · exact hstart.1
  · exact List.cons_ne_nil b []

/-- Where no sequence stands, a bad part does: the longest start of one, or else a single octet. -/
theorem exists_bad {b : Octets} (hne : b ≠ []) (h : ∀ s, IsSequence s → ¬ s <+: b) :
    ∃ part rest, b = part ++ rest ∧ IsBad part rest := by
  classical
  have hsplit : ∀ {n : Nat}, (IsStart (b.take n) ∨ ∃ x, b.take n = [x]) →
      (∀ m, n < m → m ≤ b.length → ¬ IsStart (b.take m)) →
      ∃ part rest, b = part ++ rest ∧ IsBad part rest := by
    intro n hstart hlongest
    have htake := List.take_append_drop n b
    refine ⟨b.take n, b.drop n, htake.symm, ⟨?_, hstart, ?_⟩⟩
    · rw [htake]
      exact h
    · intro longer hprefix hlength
      rw [htake] at hprefix
      rw [List.prefix_iff_eq_take.mp hprefix]
      have hle := hprefix.length_le
      rw [List.length_take] at hlength
      exact hlongest _ (by omega) hle
  by_cases hsome : ∃ n, n ≤ b.length ∧ IsStart (b.take n)
  · obtain ⟨n, hn, hstart⟩ := hsome
    have hgreatest := Nat.findGreatest_spec (P := fun n => IsStart (b.take n)) hn hstart
    exact hsplit (.inl hgreatest) fun m hm hle hm' => Nat.findGreatest_is_greatest hm hle hm'
  · cases b with
    | nil => exact absurd rfl hne
    | cons x b =>
      exact @hsplit 1 (.inr ⟨x, by rw [List.take_succ_cons, List.take_zero]⟩) fun m _ hle hm =>
        hsome ⟨m, hle, hm⟩

/-- Octets start with those of a code point, or with a bad part. -/
theorem exists_first {b : Octets} (hne : b ≠ []) :
    (∃ (c : CodePoint) (rest : Octets), c.isSurrogate = false ∧ b = encodePoint c ++ rest) ∨
      ∃ part rest, b = part ++ rest ∧ IsBad part rest := by
  by_cases h : ∃ s, IsSequence s ∧ s <+: b
  · obtain ⟨s, hs, rest, rfl⟩ := h
    obtain ⟨c, hc, rfl⟩ := isSequence_iff.mp hs
    exact .inl ⟨c, rest, hc, rfl⟩
  · exact .inr (exists_bad hne fun s hs hprefix => h ⟨s, hs, hprefix⟩)

theorem encodePoint_ne_nil (hc : c.isSurrogate = false) : encodePoint c ≠ [] :=
  isSequence_ne_nil (isSequence_encodePoint hc)

/-- Octets are cut up into those of code points and bad parts, each in front of the rest. -/
@[elab_as_elim]
theorem cut_induction {motive : Octets → Prop} (b : Octets) (nil : motive [])
    (point : ∀ (c : CodePoint) (rest : Octets), c.isSurrogate = false → motive rest →
      motive (encodePoint c ++ rest))
    (bad : ∀ part rest, IsBad part rest → motive rest → motive (part ++ rest)) : motive b := by
  -- what is cut off is never empty, so the induction is on the length
  induction hn : b.length using Nat.strongRecOn generalizing b with
  | ind n ih =>
    by_cases hne : b = []
    · rw [hne]
      exact nil
    rcases exists_first hne with ⟨c, rest, hc, rfl⟩ | ⟨part, rest, rfl, hpart⟩
    · have hpos := List.length_pos_iff.mpr (encodePoint_ne_nil hc)
      rw [List.length_append] at hn
      exact point c rest hc (ih rest.length (by omega) rest rfl)
    · have hpos := List.length_pos_iff.mpr hpart.ne_nil
      rw [List.length_append] at hn
      exact bad part rest hpart (ih rest.length (by omega) rest rfl)

theorem repairs_decodeLossy (b : Octets) : Repairs b (decodeLossy b) := by
  induction b using cut_induction with
  | nil => exact .nil
  | point c rest hc ih =>
    unfold decodeLossy
    rw [scan_point hc]
    exact .point hc ih
  | bad part rest hpart ih =>
    obtain ⟨fault, -, hscan⟩ := scan_bad hpart
    unfold decodeLossy
    rw [hscan]
    exact .bad hpart ih

/-- **Decoding with replacement characters** is repairing. -/
theorem repairs_iff {b : Octets} : Repairs b t ↔ t = decodeLossy b := by
  constructor
  · intro h
    induction h with
    | nil => rfl
    | point hc _ ih =>
      unfold decodeLossy
      rw [scan_point hc, ih]
      rfl
    | bad hpart _ ih =>
      obtain ⟨fault, -, hscan⟩ := scan_bad hpart
      unfold decodeLossy
      rw [hscan, ih]
      rfl
  · rintro rfl
    exact repairs_decodeLossy b

/-- A start that is cut off is one bad part, whatever cuts it off; the octets of a surrogate are
three. -/
example : decodeLossy [0x61, 0xE2, 0x82, 0x62, 0xED, 0xA0, 0x80, 0xF0, 0x9F] =
    "a\uFFFDb\uFFFD\uFFFD\uFFFD\uFFFD" := by decide

/-! ## Well-formed octets -/

/-- **Well-formed octets** are those that a text without surrogates is encoded in. -/
theorem wellFormed_iff {b : Octets} : WellFormed b ↔ ∃ t, encode t = .ok b := by
  constructor
  · intro h
    induction h with
    | nil => exact ⟨[], rfl⟩
    | append hs _ ih =>
      obtain ⟨t, ht⟩ := ih
      obtain ⟨c, hc, rfl⟩ := isSequence_iff.mp hs
      obtain ⟨hencodable, rfl⟩ := encode_eq_ok_iff.mp ht
      exact ⟨c :: t, encode_eq_ok_iff.mpr ⟨List.forall_mem_cons.mpr ⟨hc, hencodable⟩, rfl⟩⟩
  · rintro ⟨t, ht⟩
    obtain ⟨hencodable, rfl⟩ := encode_eq_ok_iff.mp ht
    clear ht
    induction t with
    | nil => exact .nil
    | cons c t ih =>
      obtain ⟨hc, ht⟩ := List.forall_mem_cons.mp hencodable
      exact .append (isSequence_encodePoint hc) (ih ht)

/-- Octets that are not well-formed have a bad part behind the octets of a text. -/
theorem exists_front {b : Octets} (h : ¬ WellFormed b) :
    ∃ (t : Text) (part rest : Octets), Encodable t ∧
      b = t.flatMap encodePoint ++ (part ++ rest) ∧ IsBad part rest := by
  induction b using cut_induction with
  | nil => exact absurd .nil h
  | point c rest hc ih =>
    obtain ⟨t, part, rest', ht, rfl, hpart⟩ := ih fun hrest =>
      h (.append (isSequence_encodePoint hc) hrest)
    refine ⟨c :: t, part, rest', List.forall_mem_cons.mpr ⟨hc, ht⟩, ?_, hpart⟩
    rw [List.flatMap_cons, List.append_assoc]
  | bad part rest hpart _ => exact ⟨[], part, rest, nofun, rfl, hpart⟩

/-- No octets of a code point go on with those of another one. -/
theorem eq_of_prefix {c' : CodePoint} (hc : c.isSurrogate = false) (hc' : c'.isSurrogate = false)
    {a b : Octets} (h : encodePoint c ++ a = encodePoint c' ++ b) : c = c' := by
  have hscan := scan_point hc a
  rw [h, scan_point hc'] at hscan
  exact (Piece.point.inj (List.cons.inj hscan).1).symm

/-- A well-formed start of the octets ends before their first bad part. -/
theorem WellFormed.prefix_front {b : Octets} (h : WellFormed b) (ht : Encodable t)
    (hpart : IsBad part rest) (hb : b <+: t.flatMap encodePoint ++ (part ++ rest)) :
    b <+: t.flatMap encodePoint := by
  induction h generalizing t with
  | nil => exact List.nil_prefix
  | @append s b hs _ ih =>
    obtain ⟨c, hc, rfl⟩ := isSequence_iff.mp hs
    obtain ⟨more, hmore⟩ := hb
    cases t with
    | nil =>
      rw [List.append_assoc] at hmore
      exact absurd ⟨b ++ more, hmore⟩ (hpart.noSequence _ hs)
    | cons c' t =>
      obtain ⟨hc', ht'⟩ := List.forall_mem_cons.mp ht
      simp only [List.flatMap_cons, List.append_assoc] at hmore ⊢
      obtain rfl := eq_of_prefix hc hc' hmore
      rw [List.prefix_append_right_inj]
      exact ih ht' ⟨more, List.append_cancel_left hmore⟩

/-! ## Errors -/

theorem firstBad_points_append (position : Nat) (t : Text) (pieces : List Piece) :
    firstBad position (t.map .point ++ pieces) =
      firstBad (position + (t.flatMap encodePoint).length) pieces := by
  induction t generalizing position with
  | nil => rfl
  | cons c t ih =>
    rw [List.flatMap_cons, List.length_append, ← Nat.add_assoc]
    exact ih _

/-- Behind the octets of a text the first bad part is where the decoder stops. -/
theorem decode_front (ht : Encodable t) (hpart : IsBad part rest) :
    ∃ fault : Fault, fault.Tells part rest ∧
      decode (t.flatMap encodePoint ++ (part ++ rest)) =
        .error { position := (t.flatMap encodePoint).length, part, fault } ∧
      decodeLossy (t.flatMap encodePoint ++ (part ++ rest)) =
        t ++ CodePoint.replacement :: decodeLossy rest := by
  obtain ⟨fault, hfault, hscan⟩ := scan_bad hpart
  have hall : scan (t.flatMap encodePoint ++ (part ++ rest)) =
      t.map .point ++ .bad part.length fault :: scan rest := by
    have hends : EndsBetween (t.flatMap encodePoint) := by
      unfold EndsBetween
      rw [run_encodePoints ht]
    rw [scan_append hends, scan_encodePoints ht, hscan]
  refine ⟨fault, hfault, ?_, ?_⟩
  · unfold decode errorIn
    rw [hall, firstBad_points_append, Nat.zero_add]
    simp only [firstBad, Option.map_some, List.drop_left, List.take_left]
  · unfold decodeLossy
    rw [hall, List.map_append, List.map_map]
    exact congrArg (· ++ _) (List.map_id t)

/-- **Decoding** inverts encoding, and decodes nothing else. -/
theorem decode_eq_ok_iff {b : Octets} : decode b = .ok t ↔ encode t = .ok b := by
  refine ⟨fun h => ?_, decode_of_encode⟩
  by_cases hb : WellFormed b
  · obtain ⟨t', ht'⟩ := wellFormed_iff.mp hb
    rw [decode_of_encode ht'] at h
    cases h
    exact ht'
  · obtain ⟨front, part, rest, hfront, rfl, hpart⟩ := exists_front hb
    obtain ⟨fault, -, herror, -⟩ := decode_front hfront hpart
    rw [herror] at h
    cases h

end Utf8

/-! ## Lines -/

namespace Request

open Utf8

/-- **The text of a line.** Octets that are well-formed are decoded, into the text that is encoded in
them. The complaint about any others carries their number, and the line with a replacement character
for each bad part, behind the text of the longest well-formed octets in front; its reason is that of the
first bad part. -/
theorem decodeLine_repaired (number : Int) (b : Octets) :
    (WellFormed b ∧ ∃ t, decodeLine number b = .ok t ∧ encode t = .ok b) ∨
      (¬ WellFormed b ∧ ∃ (t repaired : Text) (front part rest : Octets) (fault : Utf8.Fault),
        b = front ++ (part ++ rest) ∧
        encode t = .ok front ∧ (∀ p, WellFormed p → p <+: b → p <+: front) ∧
        IsBad part rest ∧ fault.Tells part rest ∧ Repairs rest repaired ∧
        decodeLine number b = .error
          { number, line := t ++ CodePoint.replacement :: repaired, fault := .notUtf8 fault }) := by
  by_cases h : WellFormed b
  · obtain ⟨t, ht⟩ := wellFormed_iff.mp h
    refine .inl ⟨h, t, ?_, ht⟩
    unfold decodeLine
    rw [decode_of_encode ht]
  · obtain ⟨t, part, rest, ht, rfl, hpart⟩ := exists_front h
    obtain ⟨fault, hfault, herror, hlossy⟩ := decode_front ht hpart
    refine .inr ⟨h, t, decodeLossy rest, _, part, rest, fault, rfl,
      encode_eq_ok_iff.mpr ⟨ht, rfl⟩, fun p hp hprefix => hp.prefix_front ht hpart hprefix, hpart,
      hfault, repairs_iff.mpr rfl, ?_⟩
    unfold decodeLine
    rw [herror]
    simp only [hlossy]

end Request

end RequestCheck
