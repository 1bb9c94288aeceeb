import Mathlib.Data.List.TakeWhile
import RequestCheck.Utf8

/-!
# Octets and code points

The octets of a text are decoded into the text again. The machine goes through the octets of one
code point from between to between, and what it completes on the way is that code point; a text
follows by induction.

    run between done (encodePoint c) = (between, c :: done)      (run_encodePoint)
    encode t = b  →  decode b = t                                (decode_of_encode)
-/

namespace RequestCheck.Utf8

/-! ## Lead octets -/

theorem lead?_two : ∀ n : Fin 32, 2 ≤ n.val →
    lead? (0xC0 + n.val).toUInt8 = some (.within 1 0x80 0xBF n.val 1) := by
  decide

theorem lead?_three : ∀ n : Fin 16,
    lead? (0xE0 + n.val).toUInt8 =
      some (.within 2 (if n.val = 0 then 0xA0 else 0x80) (if n.val = 13 then 0x9F else 0xBF)
        n.val 1) := by
  decide

theorem lead?_four : ∀ n : Fin 5,
    lead? (0xF0 + n.val).toUInt8 =
      some (.within 3 (if n.val = 0 then 0x90 else 0x80) (if n.val = 4 then 0x8F else 0xBF)
        n.val 1) := by
  decide

/-! ## Steps -/

theorem toNat_toUInt8 {n : Nat} (h : n < 256) : n.toUInt8.toNat = n := by
  show n % 2 ^ 8 = n
  omega

theorem start_ascii {b : UInt8} (h : b.toNat < 0x80) :
    start b = (.between, [.point (CodePoint.ofNat b.toNat)]) := by
  unfold start
  rw [if_pos (UInt8.lt_iff_toNat_lt.mpr h)]

theorem start_lead {b : UInt8} {state : State} (h : 0x80 ≤ b.toNat) (hlead : lead? b = some state) :
    start b = (state, []) := by
  have hlt : ¬ b < 0x80 := by
    rw [UInt8.lt_iff_toNat_lt]
    show ¬ b.toNat < 128
    omega
  unfold start
  rw [if_neg hlt, hlead]

variable {missing bits taken n : Nat} {low high : UInt8}

/-- An octet in the range gives its low six bits. -/
theorem step_within (hlow : low.toNat ≤ 0x80 + n) (hhigh : 0x80 + n ≤ high.toNat) :
    step (.within missing low high bits taken) (0x80 + n).toUInt8 =
      if missing ≤ 1 then (.between, [.point (CodePoint.ofNat (bits * 64 + n))])
      else (.within (missing - 1) 0x80 0xBF (bits * 64 + n) (taken + 1), []) := by
  have hlt : 0x80 + n < 256 := by
    have := high.toNat_lt
    omega
  have hrange : low ≤ (0x80 + n).toUInt8 ∧ (0x80 + n).toUInt8 ≤ high := by
    rw [UInt8.le_iff_toNat_le, UInt8.le_iff_toNat_le, toNat_toUInt8 hlt]
    exact ⟨hlow, hhigh⟩
  simp only [step]
  rw [if_pos hrange, toNat_toUInt8 hlt, Nat.add_sub_cancel_left]

/-- The octets behind the first two of a code point may be any that continue one. -/
theorem step_last (h : n < 64) :
    step (.within 1 0x80 0xBF bits taken) (0x80 + n).toUInt8 =
      (.between, [.point (CodePoint.ofNat (bits * 64 + n))]) := by
  rw [step_within (show 128 ≤ 128 + n by omega) (show 128 + n ≤ 191 by omega), if_pos (by omega)]

theorem step_middle (h : n < 64) :
    step (.within 2 0x80 0xBF bits taken) (0x80 + n).toUInt8 =
      (.within 1 0x80 0xBF (bits * 64 + n) (taken + 1), []) := by
  rw [step_within (show 128 ≤ 128 + n by omega) (show 128 + n ≤ 191 by omega), if_neg (by omega)]

/-! ## The machine on code points -/

theorem run_cons (state : State) (done : List Piece) (b : UInt8) (rest : Octets) :
    run state done (b :: rest) = run (step state b).1 ((step state b).2 ++ done) rest := rfl

theorem run_append (state : State) (done : List Piece) (a b : Octets) :
    run state done (a ++ b) = run (run state done a).1 (run state done a).2 b := by
  induction a generalizing state done with
  | nil => rfl
  | cons x a ih => rw [List.cons_append, run_cons, run_cons, ih]

theorem run_two {n : Nat} (hmin : 0x80 ≤ n) (hmax : n < 0x800) (done : List Piece) :
    run .between done [(0xC0 + n / 64).toUInt8, (0x80 + n % 64).toUInt8] =
      (.between, .point (CodePoint.ofNat n) :: done) := by
  have hlead : lead? (0xC0 + n / 64).toUInt8 = some (.within 1 0x80 0xBF (n / 64) 1) :=
    lead?_two ⟨n / 64, by omega⟩ (by show 2 ≤ n / 64; omega)
  have hb : (0xC0 + n / 64).toUInt8.toNat = 0xC0 + n / 64 := toNat_toUInt8 (by omega)
  have hbits : n / 64 * 64 + n % 64 = n := by omega
  rw [run_cons, step, start_lead (by omega) hlead, run_cons, step_last (by omega), hbits]
  rfl

theorem run_three {n : Nat} (hmin : 0x800 ≤ n) (hmax : n < 0x10000)
    (hsurrogate : ¬ (0xD800 ≤ n ∧ n ≤ 0xDFFF)) (done : List Piece) :
    run .between done
        [(0xE0 + n / 4096).toUInt8, (0x80 + n / 64 % 64).toUInt8, (0x80 + n % 64).toUInt8] =
      (.between, .point (CodePoint.ofNat n) :: done) := by
  have hlead : lead? (0xE0 + n / 4096).toUInt8 =
      some (.within 2 (if n / 4096 = 0 then 0xA0 else 0x80) (if n / 4096 = 13 then 0x9F else 0xBF)
        (n / 4096) 1) :=
    lead?_three ⟨n / 4096, by omega⟩
  have hb : (0xE0 + n / 4096).toUInt8.toNat = 0xE0 + n / 4096 := toNat_toUInt8 (by omega)
  have hlow : (if n / 4096 = 0 then 0xA0 else 0x80 : UInt8).toNat ≤ 0x80 + n / 64 % 64 := by
    split
    · show 160 ≤ 128 + n / 64 % 64; omega
    · show 128 ≤ 128 + n / 64 % 64; omega
  have hhigh : 0x80 + n / 64 % 64 ≤ (if n / 4096 = 13 then 0x9F else 0xBF : UInt8).toNat := by
    split
    · show 128 + n / 64 % 64 ≤ 159; omega
    · show 128 + n / 64 % 64 ≤ 191; omega
  have hbits : (n / 4096 * 64 + n / 64 % 64) * 64 + n % 64 = n := by omega
  rw [run_cons, step, start_lead (by omega) hlead, run_cons, step_within hlow hhigh,
    if_neg (by omega), run_cons, step_last (by omega), hbits]
  rfl

theorem run_four {n : Nat} (hmin : 0x10000 ≤ n) (hmax : n < 0x110000) (done : List Piece) :
    run .between done
        [(0xF0 + n / 262144).toUInt8, (0x80 + n / 4096 % 64).toUInt8,
          (0x80 + n / 64 % 64).toUInt8, (0x80 + n % 64).toUInt8] =
      (.between, .point (CodePoint.ofNat n) :: done) := by
  have hlead : lead? (0xF0 + n / 262144).toUInt8 =
      some (.within 3 (if n / 262144 = 0 then 0x90 else 0x80)
        (if n / 262144 = 4 then 0x8F else 0xBF) (n / 262144) 1) :=
    lead?_four ⟨n / 262144, by omega⟩
  have hb : (0xF0 + n / 262144).toUInt8.toNat = 0xF0 + n / 262144 := toNat_toUInt8 (by omega)
  have hlow : (if n / 262144 = 0 then 0x90 else 0x80 : UInt8).toNat ≤ 0x80 + n / 4096 % 64 := by
    split
    · show 144 ≤ 128 + n / 4096 % 64; omega
    · show 128 ≤ 128 + n / 4096 % 64; omega
  have hhigh : 0x80 + n / 4096 % 64 ≤ (if n / 262144 = 4 then 0x8F else 0xBF : UInt8).toNat := by
    split
    · show 128 + n / 4096 % 64 ≤ 143; omega
    · show 128 + n / 4096 % 64 ≤ 191; omega
  have hbits : ((n / 262144 * 64 + n / 4096 % 64) * 64 + n / 64 % 64) * 64 + n % 64 = n := by omega
  rw [run_cons, step, start_lead (by omega) hlead, run_cons, step_within hlow hhigh,
    if_neg (by omega), run_cons, step_middle (by omega), run_cons, step_last (by omega), hbits]
  rfl

/-- **The octets of a code point** complete it, and nothing else. -/
theorem run_encodePoint {c : CodePoint} (h : c.isSurrogate = false) (done : List Piece) :
    run .between done (encodePoint c) = (.between, .point c :: done) := by
  have hsurrogate : ¬ (0xD800 ≤ c.val ∧ c.val ≤ 0xDFFF) := by
    unfold CodePoint.isSurrogate at h
    simpa using h
  have hc : CodePoint.ofNat c.val = c := by
    unfold CodePoint.ofNat
    rw [dif_pos c.isLt]
  unfold encodePoint
  split
  · next h1 =>
    have hb : c.val.toUInt8.toNat = c.val := toNat_toUInt8 (by omega)
    rw [run_cons, step, start_ascii (by omega), hb, hc]
    rfl
  split
  · next h1 h2 => rw [run_two (by omega) h2, hc]
  split
  · next h1 h2 h3 => rw [run_three (by omega) h3 hsurrogate, hc]
  · next h1 h2 h3 => rw [run_four (by omega) c.isLt, hc]

def Encodable (t : Text) : Prop := ∀ c ∈ t, c.isSurrogate = false

instance (t : Text) : Decidable (Encodable t) :=
  decidable_of_iff ((t.all fun c => !c.isSurrogate) = true)
    (by simp only [Encodable, List.all_eq_true, Bool.not_eq_true'])

theorem run_encodePoints {t : Text} (h : Encodable t) (done : List Piece) :
    run .between done (t.flatMap encodePoint) =
      (.between, (t.map Piece.point).reverse ++ done) := by
  induction t generalizing done with
  | nil => rfl
  | cons c t ih =>
    rw [List.flatMap_cons, run_append, run_encodePoint (h c List.mem_cons_self),
      ih fun c' hc' => h c' (List.mem_cons_of_mem _ hc'), List.map_cons, List.reverse_cons,
      List.append_assoc]
    rfl

theorem scan_encodePoints {t : Text} (h : Encodable t) :
    scan (t.flatMap encodePoint) = t.map Piece.point := by
  unfold scan
  rw [run_encodePoints h, List.append_nil]
  show ([] ++ (t.map Piece.point).reverse).reverse = _
  rw [List.nil_append, List.reverse_reverse]

/-! ## Texts -/

theorem firstBad_points (position : Nat) (t : Text) :
    firstBad position (t.map Piece.point) = none := by
  induction t generalizing position with
  | nil => rfl
  | cons c t ih => exact ih _

theorem decode_encodePoints {t : Text} (h : Encodable t) :
    decode (t.flatMap encodePoint) = .ok t := by
  unfold decode errorIn
  rw [scan_encodePoints h, firstBad_points, Option.map_none]
  simp only [List.map_map]
  congr 1
  exact List.map_id t

theorem firstBadSurrogates_eq_none_iff (bad : CodePoint → Bool) (t : Text) :
    firstBadSurrogates bad t = none ↔ ∀ c ∈ t, bad c = false := by
  have key : (t.dropWhile fun c => !bad c) = [] ↔ ∀ c ∈ t, bad c = false := by
    rw [List.dropWhile_eq_nil_iff]
    exact forall₂_congr fun c _ => by rw [Bool.not_eq_true']
  unfold firstBadSurrogates
  rw [← key]
  split
  · next h => exact ⟨fun _ => h, fun _ => rfl⟩
  · next c rest h =>
    rw [h]
    exact ⟨fun h => (by cases h), fun h => (by cases h)⟩

theorem firstSurrogates_eq_none_iff (t : Text) : firstSurrogates t = none ↔ Encodable t :=
  firstBadSurrogates_eq_none_iff CodePoint.isSurrogate t

theorem encode_eq_ok_iff {t : Text} {b : Octets} :
    encode t = .ok b ↔ Encodable t ∧ b = t.flatMap encodePoint := by
  rw [← firstSurrogates_eq_none_iff]
  unfold encode
  split
  · next error h => rw [h]; exact ⟨fun h => (by cases h), fun h => (by cases h.1)⟩
  · next h =>
    rw [h]
    exact ⟨fun h => (by cases h; exact ⟨rfl, rfl⟩), fun h => (by rw [h.2])⟩

theorem Encodable.append {a b : Text} (ha : Encodable a) (hb : Encodable b) :
    Encodable (a ++ b) := by
  intro c hc
  rcases List.mem_append.mp hc with hc | hc
  · exact ha c hc
  · exact hb c hc

/-- **Octets of texts** are decoded into the texts again. -/
theorem decode_of_encode {t : Text} {b : Octets} (h : encode t = .ok b) : decode b = .ok t := by
  obtain ⟨hencodable, rfl⟩ := encode_eq_ok_iff.mp h
  exact decode_encodePoints hencodable

/-- Octets that are well-formed are decoded whole, whatever the size of the chunks. -/
theorem decodeChunks_of_decode {b : Octets} {t : Text} (size : Nat) (h : decode b = .ok t) :
    decodeChunks size b = (t, none) := by
  unfold decode at h
  unfold decodeChunks
  cases herror : errorIn b (scan b) with
  | some error => rw [herror] at h; cases h
  | none => rw [herror] at h; cases h; rfl

end RequestCheck.Utf8
