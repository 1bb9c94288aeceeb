import Mathlib
import RequestCheck.Proofs.Csv
import RequestCheck.Proofs.Utf8

/-!
# What stands behind a complete row

A text that ends in the line end of a row is read as its rows, and then as the rows of whatever
stands behind it. The octets of such a text end between two code points, so what they hold does not
depend on what follows them, not even where they are bad.

    rows (t ++ u) = rows t ++ rows u                     (Csv.Closed.rows_append)
    scan (a ++ b) = scan a ++ scan b                     (Utf8.scan_append)
    decodeChunks n (a ++ b) stops where decodeChunks n a does    (Utf8.decodeChunks_append_of_error)

A text without a line end at its end goes on with what follows it, and so does one with an open
quote.
-/

namespace RequestCheck

/-! ## Lines -/

namespace Text

/-- Behind a line end a new line starts, unless a line feed belongs to the same end. -/
theorem linesAfter_append_lines {start t u : Text} (hstart : start.head? ≠ some lineFeed)
    (h : ∀ c ∈ t.getLast?.or start.head?, c = lineFeed ∨ c = carriageReturn)
    (hu : u.head? ≠ some lineFeed) :
    linesAfter start (t ++ u) = linesAfter start t ++ lines u := by
  induction t generalizing start with
  | nil =>
    cases start with
    | nil => rfl
    | cons d start =>
      have hd : d = carriageReturn :=
        (h d rfl).resolve_left fun hlf => hstart (congrArg some hlf)
      cases u with
      | nil => rfl
      | cons c u =>
        have hc : c ≠ lineFeed := fun hlf => hu (congrArg some hlf)
        have hcut : lines (c :: u) = linesAfter [c] u := by
          rw [lines, linesAfter, if_neg hc, if_neg (by simp)]
        rw [List.nil_append, hcut, linesAfter.eq_def _ (c :: u)]
        simp only [if_neg hc, List.head?_cons, hd, if_true]
        rfl
  | cons c t ih =>
    have hlast : ∀ d ∈ t.getLast?.or (some c), d = lineFeed ∨ d = carriageReturn := by
      have heq : (c :: t).getLast?.or start.head? = t.getLast?.or (some c) := by
        rw [List.getLast?_cons]
        cases t.getLast? <;> rfl
      rwa [heq] at h
    rw [List.cons_append, linesAfter, linesAfter.eq_def start (c :: t)]
    simp only
    split
    · refine congrArg _ (ih (by simp) fun d hd => hlast d ?_)
      rw [Option.mem_def, List.head?_nil, Option.or_none] at hd
      rw [Option.mem_def, hd, Option.some_or]
    · next hc =>
      have hne : (some c : Option CodePoint) ≠ some lineFeed := fun heq => hc (Option.some.inj heq)
      split
      · exact congrArg _ (ih hne hlast)
      · exact ih hne hlast

end Text

/-! ## Rows -/

namespace Csv

/-- The reader behind some lines; it starts anew behind each row. -/
def readerBehind (r : Reader) : List Text → Reader
  | [] => r
  | t :: rest =>
    match (r.line t).state with
    | .rowStart => readerBehind {} rest
    | _ => readerBehind (r.line t) rest

/-- A text ends in the line end of a row: in a line end, with no quote open. -/
structure Closed (t : Text) : Prop where
  last : t.getLast? = some Text.lineFeed ∨ t.getLast? = some Text.carriageReturn
  reader_eq : readerBehind {} (Text.lines t) = {}

variable {r : Reader} {t u : Text} {row : Row}

theorem Closed.lines_append (h : Closed t) (hu : u.head? ≠ some Text.lineFeed) :
    Text.lines (t ++ u) = Text.lines t ++ Text.lines u := by
  refine Text.linesAfter_append_lines (by simp) (fun c hc => ?_) hu
  rw [List.head?_nil, Option.or_none] at hc
  rcases h.last with hlast | hlast <;> rw [hlast] at hc <;> cases hc
  · exact .inl rfl
  · exact .inr rfl

theorem rowsAfter_append_of_complete {lines : List Text} (more : List Text)
    (h : readerBehind r lines = {}) :
    rowsAfter r (lines ++ more) = rowsAfter r lines ++ rowsAfter {} more := by
  induction lines generalizing r with
  | nil =>
    obtain rfl : r = {} := h
    rfl
  | cons t lines ih =>
    rw [List.cons_append, rowsAfter_line, rowsAfter_line]
    unfold readerBehind at h
    split at h
    · next hstate => rw [if_pos hstate, if_pos hstate, ih h, List.cons_append]
    · next hstate => rw [if_neg hstate, if_neg hstate, ih h]

/-- **Behind a complete row** other rows are read as if they stood alone. -/
theorem Closed.rows_append (h : Closed t) (hu : u.head? ≠ some Text.lineFeed) :
    rows (t ++ u) = rows t ++ rows u := by
  unfold rows
  rw [h.lines_append hu]
  exact rowsAfter_append_of_complete _ h.reader_eq

/-- What is written for a row does not start with a line feed. -/
theorem head_writeRow_append (row : Row) (t : Text) :
    (writeRow row ++ t).head? ≠ some Text.lineFeed := by
  have hcomma : comma ≠ Text.lineFeed := by decide
  have hreturn : Text.carriageReturn ≠ Text.lineFeed := by decide
  have hfield : ∀ (field rest : Text), rest.head? ≠ some Text.lineFeed →
      (writeField field ++ rest).head? ≠ some Text.lineFeed := by
    intro field rest hrest
    unfold writeField
    split
    · show some quote ≠ _
      decide
    · next hspecial =>
      cases field with
      | nil => exact hrest
      | cons c field =>
        intro hc
        obtain rfl : c = Text.lineFeed := Option.some.inj hc
        exact hspecial rfl
  cases row with
  | nil => exact fun h => hreturn (Option.some.inj h)
  | cons field row =>
    cases row with
    | nil =>
      show ((writeField field ++ _) ++ t).head? ≠ _
      rw [List.append_assoc]
      exact hfield field _ fun h => hreturn (Option.some.inj h)
    | cons next row =>
      rw [writeRow_cons]
      exact hfield field _ fun h => hcomma (Option.some.inj h)

theorem head_flatMap_writeRow (all : List Row) :
    (all.flatMap writeRow).head? ≠ some Text.lineFeed := by
  cases all with
  | nil => simp
  | cons row all => exact head_writeRow_append row _

/-! ## The first row -/

/-- A first row that is complete stays the first. -/
theorem firstRow_append {lines : List Text} (more : List Text)
    (h : firstRow r lines = .complete row) : firstRow r (lines ++ more) = .complete row := by
  induction lines generalizing r with
  | nil => cases h
  | cons t lines ih =>
    simp only [List.cons_append, firstRow] at h ⊢
    split at h
    · cases h
    · next hfull =>
      rw [if_neg hfull]
      split at h
      · exact h
      · exact ih h

theorem readerBehind_of_ne (h : (r.line t).state ≠ .rowStart) (lines : List Text) :
    readerBehind r (t :: lines) = readerBehind (r.line t) lines := by
  rw [readerBehind]
  split
  · next hrow => exact absurd hrow h
  · rfl

theorem reader_eq_of_firstRow {r' : Reader} {lines : List Text}
    (h : firstRow r lines = .unfinished r') : r' = readerBehind r lines := by
  induction lines generalizing r with
  | nil => cases h; rfl
  | cons t lines ih =>
    simp only [firstRow] at h
    split at h
    · cases h
    · split at h
      · cases h
      · next hstate => rw [readerBehind_of_ne hstate, ih h]

/-- Reading the first row alone gives the first of all rows, if no field is too long. -/
theorem head_rowsAfter (r : Reader) (lines : List Text) :
    match firstRow r lines with
    | .complete row => (rowsAfter r lines).head? = some row
    | .fieldTooLong => True
    | .unfinished r' => (rowsAfter r lines).head? = r'.lastRow? := by
  induction lines generalizing r with
  | nil =>
    simp only [firstRow, rowsAfter]
    cases r.lastRow? <;> rfl
  | cons t lines ih =>
    rw [firstRow]
    by_cases hfull : (r.line t).isOverfull = true
    · simp only [if_pos hfull]
    · have hrest := ih (r.line t)
      simp only [if_neg hfull, rowsAfter]
      cases (r.line t).state with
      | rowStart => rfl
      | _ => exact hrest

end Csv

/-! ## Octets -/

namespace Utf8

def Piece.size : Piece → Nat
  | .point c => (encodePoint c).length
  | .bad size _ => size

def totalSize (pieces : List Piece) : Nat := (pieces.map Piece.size).sum

theorem totalSize_append (a b : List Piece) : totalSize (a ++ b) = totalSize a + totalSize b := by
  unfold totalSize
  rw [List.map_append, List.sum_append]

theorem totalSize_singleton (piece : Piece) : totalSize [piece] = piece.size := Nat.add_zero _

/-- The bits so far are no more than the octets that were taken can hold. -/
def State.Legal : State → Prop
  | .between => True
  | .within missing _ high bits taken =>
    high.toNat ≤ 0xBF ∧
      ((missing = 1 ∧ taken = 1 ∧ bits < 0x20) ∨ (missing = 2 ∧ taken = 1 ∧ bits < 0x10) ∨
        (missing = 1 ∧ taken = 2 ∧ bits < 0x400) ∨ (missing + taken = 4 ∧ 1 ≤ missing))

/-- A step leads to a legal state, completes pieces for no more octets than there were, and finds no
end of data. -/
structure Step (taken : Nat) (next : State) (done : List Piece) : Prop where
  legal : next.Legal
  size_le : totalSize done + next.taken ≤ taken
  goes_on : ∀ piece ∈ done, ∀ size, piece ≠ .bad size .endOfData

theorem length_encodePoint_le (c : CodePoint) :
    (encodePoint c).length ≤ 4 ∧ (c.val < 0x10000 → (encodePoint c).length ≤ 3) ∧
      (c.val < 0x800 → (encodePoint c).length ≤ 2) ∧
      (c.val < 0x80 → (encodePoint c).length ≤ 1) := by
  unfold encodePoint
  split
  · simp
  split
  · simp only [List.length_cons, List.length_nil]
    omega
  split
  · simp only [List.length_cons, List.length_nil]
    omega
  · simp only [List.length_cons, List.length_nil]
    omega

theorem val_ofNat {n : Nat} (h : n < 0x110000) : (CodePoint.ofNat n).val = n := by
  unfold CodePoint.ofNat
  rw [dif_pos h]

theorem lead?_legal {b : UInt8} {state : State} (h : lead? b = some state) :
    state.Legal ∧ state.taken = 1 := by
  unfold lead? at h
  simp only [UInt8.le_iff_toNat_le, UInt8.reduceToNat] at h
  split at h
  · next hb => cases h; exact ⟨⟨by decide, .inl ⟨rfl, rfl, by omega⟩⟩, rfl⟩
  split at h
  · cases h; exact ⟨⟨by decide, .inr (.inl ⟨rfl, rfl, by decide⟩)⟩, rfl⟩
  split at h
  · cases h; exact ⟨⟨by decide, .inr (.inl ⟨rfl, rfl, by decide⟩)⟩, rfl⟩
  split at h
  · next hb => cases h; exact ⟨⟨by decide, .inr (.inl ⟨rfl, rfl, by omega⟩)⟩, rfl⟩
  split at h
  · cases h; exact ⟨⟨by decide, .inr (.inr (.inr ⟨rfl, by decide⟩))⟩, rfl⟩
  split at h
  · cases h; exact ⟨⟨by decide, .inr (.inr (.inr ⟨rfl, by decide⟩))⟩, rfl⟩
  split at h
  · cases h; exact ⟨⟨by decide, .inr (.inr (.inr ⟨rfl, by decide⟩))⟩, rfl⟩
  · cases h

theorem start_step (b : UInt8) : Step 1 (start b).1 (start b).2 := by
  unfold start
  split
  · next hb =>
    have hlt : b.toNat < 0x80 := UInt8.lt_iff_toNat_lt.mp hb
    have hsize := (length_encodePoint_le (CodePoint.ofNat b.toNat)).2.2.2
      (by rw [val_ofNat (by omega)]; exact hlt)
    exact ⟨trivial, hsize, fun piece hpiece size heq => by
      rw [List.mem_singleton.mp hpiece] at heq; cases heq⟩
  split
  · next state hlead =>
    obtain ⟨hlegal, htaken⟩ := lead?_legal hlead
    exact ⟨hlegal, by rw [htaken]; exact Nat.le_refl 1, fun piece hpiece => by cases hpiece⟩
  · exact ⟨trivial, Nat.le_refl 1, fun piece hpiece size heq => by
      rw [List.mem_singleton.mp hpiece] at heq; cases heq⟩

/-- **One octet** is accounted for once. -/
theorem step_step {state : State} (b : UInt8) (h : state.Legal) :
    Step (state.taken + 1) (step state b).1 (step state b).2 := by
  cases state with
  | between => exact start_step b
  | within missing low high bits taken =>
    obtain ⟨hhigh, hbits⟩ := h
    unfold step
    simp only
    split
    · next hb =>
      have hb := UInt8.le_iff_toNat_le.mp hb.2
      have hsize := length_encodePoint_le (CodePoint.ofNat (bits * 64 + (b.toNat - 0x80)))
      split
      · next hmissing =>
        refine ⟨trivial, ?_, fun piece hpiece size heq => ?_⟩
        · rw [totalSize_singleton]
          simp only [Piece.size, State.taken]
          rcases hbits with hbits | hbits | hbits | hbits
          · rw [val_ofNat (by omega)] at hsize
            have := hsize.2.2.1 (by omega)
            omega
          · omega
          · rw [val_ofNat (by omega)] at hsize
            have := hsize.2.1 (by omega)
            omega
          · have := hsize.1
            omega
        · rw [List.mem_singleton.mp hpiece] at heq
          cases heq
      · next hmissing =>
        refine ⟨⟨by decide, ?_⟩, ?_, fun piece hpiece => by cases hpiece⟩
        · omega
        · exact Nat.le_of_eq (Nat.zero_add _)
    · have key := start_step b
      refine ⟨key.legal, ?_, fun piece hpiece size heq => ?_⟩
      · have hsize := key.size_le
        have hbad : (Piece.bad taken .badContinuation).size = taken := rfl
        show totalSize ((start b).2 ++ [.bad taken .badContinuation]) + (start b).1.taken ≤
          taken + 1
        rw [totalSize_append, totalSize_singleton, hbad]
        omega
      · rcases List.mem_append.mp hpiece with hpiece | hpiece
        · exact key.goes_on piece hpiece size heq
        · rw [List.mem_singleton.mp hpiece] at heq
          cases heq

theorem run_done (state : State) (done : List Piece) (b : Octets) :
    run state done b = ((run state [] b).1, (run state [] b).2 ++ done) := by
  induction b generalizing state done with
  | nil => rfl
  | cons x b ih =>
    rw [run_cons, run_cons, ih, ih _ ((step state x).2 ++ []), List.append_nil, List.append_assoc]

/-- **All octets** are accounted for once. -/
theorem run_step {state : State} (b : Octets) (h : state.Legal) :
    Step (state.taken + b.length) (run state [] b).1 (run state [] b).2 := by
  induction b generalizing state with
  | nil => exact ⟨h, Nat.le_of_eq (Nat.zero_add _), fun piece hpiece => by cases hpiece⟩
  | cons x b ih =>
    have hstep := step_step x h
    have hrun := ih hstep.legal
    rw [run_cons, run_done, List.append_nil]
    refine ⟨hrun.legal, ?_, fun piece hpiece => ?_⟩
    · have h1 := hstep.size_le
      have h2 := hrun.size_le
      simp only [totalSize_append, List.length_cons]
      omega
    · rcases List.mem_append.mp hpiece with hpiece | hpiece
      · exact hrun.goes_on piece hpiece
      · exact hstep.goes_on piece hpiece

/-! ## Octets behind others -/

/-- The octets end between two code points. -/
def EndsBetween (a : Octets) : Prop := (run .between [] a).1 = .between

variable {a b : Octets} {u : Text}

theorem scan_eq_run (a : Octets) :
    scan a = (cutOff (run .between [] a).1 ++ (run .between [] a).2).reverse := rfl

theorem scan_eq (h : EndsBetween a) : scan a = (run .between [] a).2.reverse := by
  rw [scan_eq_run, h]
  rfl

/-- **What is bad is bad whatever follows.** -/
theorem scan_append (h : EndsBetween a) (b : Octets) : scan (a ++ b) = scan a ++ scan b := by
  rw [scan_eq h, scan_eq_run, scan_eq_run, run_append, h, run_done]
  simp only [List.reverse_append, List.append_assoc]

theorem decodeLossy_encodePoints (hu : Encodable u) : decodeLossy (u.flatMap encodePoint) = u := by
  unfold decodeLossy
  rw [scan_encodePoints hu, List.map_map]
  exact List.map_id u

theorem decodeLossy_append (h : EndsBetween a) (hu : Encodable u) :
    decodeLossy (a ++ u.flatMap encodePoint) = decodeLossy a ++ u := by
  have key := decodeLossy_encodePoints hu
  unfold decodeLossy at key ⊢
  rw [scan_append h, List.map_append, key]

/-- Octets whose text ends in anything but a replacement character end between two code points. -/
theorem endsBetween_of_getLast {c : CodePoint} (h : (decodeLossy a).getLast? = some c)
    (hc : c ≠ .replacement) : EndsBetween a := by
  unfold EndsBetween
  unfold decodeLossy at h
  rw [scan_eq_run] at h
  cases hstate : (run .between [] a).1 with
  | between => rfl
  | within missing low high bits taken =>
    rw [hstate] at h
    simp only [cutOff, List.singleton_append, List.reverse_cons, List.map_append,
      List.map_singleton, List.getLast?_append, List.getLast?_singleton, Option.some_or,
      Piece.shown, Option.some.injEq] at h
    exact absurd h.symm hc

theorem endsBetween_of_closed (h : Csv.Closed (decodeLossy a)) : EndsBetween a := by
  rcases h.last with hlast | hlast
  · exact endsBetween_of_getLast hlast (by decide)
  · exact endsBetween_of_getLast hlast (by decide)

/-! ## Errors -/

theorem firstBad_append_points (position : Nat) (pieces : List Piece) (t : Text) :
    firstBad position (pieces ++ t.map .point) = firstBad position pieces := by
  induction pieces generalizing position with
  | nil => exact firstBad_points position t
  | cons piece pieces ih =>
    cases piece with
    | point c => exact ih _
    | bad size fault => rfl

theorem firstBad_within {position at' size : Nat} {fault : Fault} {pieces : List Piece}
    (h : firstBad position pieces = some (at', size, fault)) :
    at' + size ≤ position + totalSize pieces ∧ .bad size fault ∈ pieces := by
  induction pieces generalizing position with
  | nil => cases h
  | cons piece pieces ih =>
    have hsum : totalSize (piece :: pieces) = piece.size + totalSize pieces := by
      unfold totalSize
      rw [List.map_cons, List.sum_cons]
    cases piece with
    | point c =>
      obtain ⟨hle, hmem⟩ := ih h
      have hsize : (Piece.point c).size = (encodePoint c).length := rfl
      exact ⟨by omega, List.mem_cons_of_mem _ hmem⟩
    | bad size' fault' =>
      cases h
      have hsize : (Piece.bad size fault).size = size := rfl
      exact ⟨by omega, List.mem_cons_self⟩

/-- The first bad part of octets that end between two code points lies within them. -/
theorem firstBad_of_endsBetween {at' size : Nat} {fault : Fault} (h : EndsBetween a)
    (hbad : firstBad 0 (scan a) = some (at', size, fault)) :
    at' + size ≤ a.length ∧ fault ≠ .endOfData := by
  have key := run_step a (show State.Legal .between from trivial)
  obtain ⟨hle, hmem⟩ := firstBad_within hbad
  rw [scan_eq h] at hle hmem
  have hsum : totalSize (run .between [] a).2.reverse = totalSize (run .between [] a).2 := by
    unfold totalSize
    rw [List.map_reverse, List.sum_reverse]
  have hsize := key.size_le
  have htaken : State.taken .between = 0 := rfl
  refine ⟨by omega, ?_⟩
  rintro rfl
  exact key.goes_on _ (List.mem_reverse.mp hmem) size rfl

theorem errorIn_append (h : EndsBetween a) (hu : Encodable u) :
    errorIn (a ++ u.flatMap encodePoint) (scan (a ++ u.flatMap encodePoint)) =
      errorIn a (scan a) := by
  unfold errorIn
  rw [scan_append h, scan_encodePoints hu, firstBad_append_points]
  cases hbad : firstBad 0 (scan a) with
  | none => rfl
  | some found =>
    obtain ⟨at', size, fault⟩ := found
    have hle := (firstBad_of_endsBetween h hbad).1
    simp only [Option.map_some]
    rw [List.drop_append_of_le_length (by omega),
      List.take_append_of_le_length (by rw [List.length_drop]; omega)]

/-- Octets that were decoded whole still are, with the text of what follows them. -/
theorem decode_append {t : Text} (h : EndsBetween a) (hu : Encodable u) (ht : decode a = .ok t) :
    decode (a ++ u.flatMap encodePoint) = .ok (t ++ u) := by
  unfold decode at ht ⊢
  rw [errorIn_append h hu]
  cases herror : errorIn a (scan a) with
  | some error => rw [herror] at ht; cases ht
  | none =>
    rw [herror] at ht
    cases ht
    exact congrArg _ (decodeLossy_append h hu)

theorem text_of_decodeChunks {t : Text} {size : Nat} (h : decodeChunks size a = (t, none)) :
    t = decodeLossy a := by
  unfold decodeChunks at h
  split at h
  · cases h; rfl
  · cases h

/-- **In chunks**, too, what is bad is bad whatever follows, and what is not is read further. -/
theorem decodeChunks_append (size : Nat) (h : EndsBetween a) (hu : Encodable u) :
    decodeChunks size (a ++ u.flatMap encodePoint) =
      match decodeChunks size a with
      | (_, none) => (decodeLossy a ++ u, none)
      | (t, some error) => (t, some error) := by
  unfold decodeChunks
  rw [errorIn_append h hu]
  cases herror : errorIn a (scan a) with
  | none => simp only [← decodeLossy_append h hu]; rfl
  | some e =>
    obtain ⟨⟨at', length, fault⟩, hbad, he⟩ := Option.map_eq_some_iff.mp herror
    obtain ⟨hle, hfault⟩ := firstBad_of_endsBetween h hbad
    obtain ⟨hposition, hpart, hkind⟩ :
        e.position = at' ∧ e.part.length ≤ length ∧ e.fault = fault := by
      rw [← he]
      exact ⟨rfl, List.length_take_le _ _, rfl⟩
    have hboundary : ∀ total, e.boundary size total ≤ a.length ∧
        e.boundary size total = e.boundary size a.length := by
      intro total
      unfold DecodeError.boundary
      split
      · exact ⟨(Nat.div_mul_le_self _ _).trans (by omega), rfl⟩
      · exact ⟨(Nat.div_mul_le_self _ _).trans (by omega), rfl⟩
      · next hend => exact absurd (hkind.symm.trans hend) hfault
    obtain ⟨hwithin, hsame⟩ := hboundary (a ++ u.flatMap encodePoint).length
    simp only [hsame, List.take_append_of_le_length (hsame ▸ hwithin)]

end Utf8

end RequestCheck
