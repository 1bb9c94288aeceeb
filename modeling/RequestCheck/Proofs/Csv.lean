import RequestCheck.Csv

/-!
# Rows that are read as they were written

A text is read a line at a time, but where its lines are cut does not matter: a code point can be
given to the reader before the rest of the text is cut, unless it might end a row. So a field in
quotes is read as if it had no line ends, and every row is read back as it was written, whatever its
fields hold.

    rowsBehind r (c :: t) = rowsBehind (r.step c) t              (rowsBehind_cons)
    rows (writeRow row ++ t) = row :: rows t                     (rows_writeRow)

A row of one empty field is the exception: what is written for it is read as a row of no fields.
-/

namespace RequestCheck

/-! ## Lines -/

namespace Text

/-- The start of a line that is put in front of another start is in front of the first line. -/
theorem linesAfter_append {mid : Text} (start t : Text) (h : mid ≠ []) :
    ∃ first rest, linesAfter mid t = first :: rest ∧
      linesAfter (mid ++ start) t = (start.reverse ++ first) :: rest := by
  induction t generalizing mid with
  | nil =>
    cases mid with
    | nil => exact absurd rfl h
    | cons d mid =>
      refine ⟨(d :: mid).reverse, [], rfl, ?_⟩
      rw [← List.reverse_append]
      rfl
  | cons c t ih =>
    obtain ⟨d, mid, rfl⟩ := List.exists_cons_of_ne_nil h
    unfold linesAfter
    split
    · refine ⟨(c :: d :: mid).reverse, linesAfter [] t, rfl, ?_⟩
      rw [← List.cons_append, List.reverse_append]
    · have hhead : (d :: mid ++ start).head? = (d :: mid).head? := rfl
      rw [hhead]
      split
      · refine ⟨(d :: mid).reverse, linesAfter [c] t, rfl, ?_⟩
        rw [List.reverse_append]
      · exact ih (List.cons_ne_nil c (d :: mid))

/-- A text with no line end in it, and then a line end, is a line. -/
theorem linesAfter_of_line {start line : Text} (t : Text) (hstart : start.head? ≠ some carriageReturn)
    (hline : ∀ c ∈ line, c ≠ carriageReturn ∧ c ≠ lineFeed) :
    linesAfter start (line ++ carriageReturn :: lineFeed :: t) =
      (start.reverse ++ line ++ [carriageReturn, lineFeed]) :: lines t := by
  induction line generalizing start with
  | nil =>
    have hne : carriageReturn ≠ lineFeed := by decide
    rw [List.nil_append, linesAfter, if_neg hne, if_neg hstart, linesAfter, if_pos rfl,
      List.append_nil, List.reverse_cons, List.reverse_cons, List.append_assoc]
    rfl
  | cons c line ih =>
    obtain ⟨hcr, hlf⟩ := hline c List.mem_cons_self
    have hhead : (c :: start).head? ≠ some carriageReturn := by
      rw [List.head?_cons]
      exact fun h => hcr (Option.some.inj h)
    rw [List.cons_append, linesAfter, if_neg hlf, if_neg hstart,
      ih hhead fun c' hc' => hline c' (List.mem_cons_of_mem _ hc'), List.reverse_cons]
    simp only [List.append_assoc, List.cons_append, List.nil_append]

end Text

namespace Csv

/-! ## Reading code point by code point -/

/-- The rows of a text behind a reader. -/
def rowsBehind (r : Reader) (t : Text) : List Row := rowsAfter r (Text.lines t)

theorem Reader.line_append (r : Reader) (a b : Text) : r.line (a ++ b) = (a.foldl step r).line b := by
  unfold line
  rw [List.foldl_append]

/-- What is in front of the first line can be read before it. -/
theorem rowsAfter_append (r : Reader) (a first : Text) (rest : List Text) :
    rowsAfter r ((a ++ first) :: rest) = rowsAfter (a.foldl Reader.step r) (first :: rest) := by
  unfold rowsAfter
  rw [Reader.line_append]

theorem rowsAfter_line (r : Reader) (t : Text) (rest : List Text) :
    rowsAfter r (t :: rest) =
      if (r.line t).state = .rowStart then (r.line t).row :: rowsAfter {} rest
      else rowsAfter (r.line t) rest := by
  rw [rowsAfter]
  split
  · next h => rw [if_pos h]
  · next h => rw [if_neg h]

theorem endLine_inQuotes {r : Reader} (h : r.state = .inQuotes) : r.endLine = r := by
  unfold Reader.endLine
  rw [h]

/-- A line that leaves a quote open is no more than its code points. -/
theorem rowsAfter_inQuotes {r : Reader} {t : Text} (rest : List Text)
    (h : (t.foldl Reader.step r).state = .inQuotes) :
    rowsAfter r (t :: rest) = rowsAfter (t.foldl Reader.step r) rest := by
  have hline : r.line t = t.foldl Reader.step r := endLine_inQuotes h
  rw [rowsAfter_line, hline, h, if_neg (by decide)]

/-- **One code point** can be read before the rest is cut into lines, if a quote is open behind it,
or if it is no line end and not the last one. -/
theorem rowsBehind_cons {r : Reader} {c : CodePoint} {t : Text}
    (h : (r.step c).state = .inQuotes ∨ (Reader.isLineEnd c = false ∧ t ≠ [])) :
    rowsBehind r (c :: t) = rowsBehind (r.step c) t := by
  unfold rowsBehind Text.lines
  by_cases hlf : c = Text.lineFeed
  · rcases h with h | ⟨h, -⟩
    · rw [Text.linesAfter, if_pos hlf]
      exact rowsAfter_inQuotes _ h
    · rw [hlf] at h
      exact absurd h (by decide)
  · have hcut : Text.linesAfter [] (c :: t) = Text.linesAfter [c] t := by
      rw [Text.linesAfter, if_neg hlf, if_neg (by simp)]
    rw [hcut]
    cases t with
    | nil =>
      rcases h with h | ⟨-, h⟩
      · exact rowsAfter_inQuotes [] h
      · exact absurd rfl h
    | cons d t =>
      rw [Text.linesAfter, Text.linesAfter]
      split
      · exact rowsAfter_append r [c] [d] _
      · next hd =>
        rw [if_neg (show ¬ ([] : Text).head? = some Text.carriageReturn by simp)]
        split
        · next hcr =>
          rcases h with h | ⟨h, -⟩
          · exact rowsAfter_inQuotes _ h
          · rw [Option.some.inj hcr] at h
            exact absurd h (by decide)
        · obtain ⟨first, rest, hmid, hboth⟩ :=
            Text.linesAfter_append [c] t (List.cons_ne_nil d [])
          rw [hmid, show [d, c] = [d] ++ [c] from rfl, hboth]
          exact rowsAfter_append r [c] first rest

/-! ## Fields -/

def Reader.between (state : State) (fields : List Text) : Reader := { state, field := [], fields }

theorem quote_ne_lineEnd : Reader.isLineEnd quote = false := by decide

/-- A code point for which a field need not be quoted has no part in how rows are told apart. -/
theorem ordinary_of_isSpecial {c : CodePoint} (h : isSpecial c = false) :
    Reader.isLineEnd c = false ∧ c ≠ comma ∧ c ≠ quote := by
  unfold isSpecial at h
  simp only [Bool.or_eq_false_iff, beq_eq_false_iff_ne] at h
  obtain ⟨⟨⟨hcomma, hquote⟩, hcr⟩, hlf⟩ := h
  refine ⟨?_, hcomma, hquote⟩
  simp only [Reader.isLineEnd, Bool.or_eq_false_iff, beq_eq_false_iff_ne]
  exact ⟨hcr, hlf⟩

/-- What is ordinary in a field stands for itself. -/
theorem rowsBehind_plain {field : Text} {t : Text} (before : Text) (fields : List Text)
    (h : field.any isSpecial = false) (ht : t ≠ []) :
    rowsBehind { state := .inField, field := before, fields } (field ++ t) =
      rowsBehind { state := .inField, field := field.reverse ++ before, fields } t := by
  induction field generalizing before with
  | nil => rfl
  | cons c field ih =>
    rw [List.any_cons, Bool.or_eq_false_iff] at h
    obtain ⟨hc, hfield⟩ := h
    obtain ⟨hend, hcomma, -⟩ := ordinary_of_isSpecial hc
    have hstep : Reader.step { state := .inField, field := before, fields } c =
        { state := .inField, field := c :: before, fields } := by
      simp only [Reader.step, hend, Bool.false_eq_true, if_false, if_neg hcomma]
      rfl
    rw [List.cons_append, rowsBehind_cons (.inr ⟨hend, by simp [ht]⟩), hstep, ih _ hfield,
      List.reverse_cons, List.append_assoc]
    rfl

/-- What is between quotes stands for itself, except that quotes are doubled. -/
theorem rowsBehind_quoted (field t before : Text) (fields : List Text) :
    rowsBehind { state := .inQuotes, field := before, fields } (doubleQuotes field ++ t) =
      rowsBehind { state := .inQuotes, field := field.reverse ++ before, fields } t := by
  induction field generalizing before with
  | nil => rfl
  | cons c field ih =>
    have hcons : doubleQuotes (c :: field) =
        (if c = quote then [quote, quote] else [c]) ++ doubleQuotes field := List.flatMap_cons
    rw [hcons, List.append_assoc]
    split
    · next hc =>
      -- the first of the two quotes seems to close the field, the second takes that back
      rw [List.cons_append, rowsBehind_cons (.inr ⟨quote_ne_lineEnd, by simp⟩), List.cons_append,
        rowsBehind_cons (.inl rfl)]
      show rowsBehind { state := .inQuotes, field := quote :: before, fields } _ = _
      rw [List.nil_append, ih, ← hc, List.reverse_cons, List.append_assoc]
      rfl
    · next hc =>
      have hstep : Reader.step { state := .inQuotes, field := before, fields } c =
          { state := .inQuotes, field := c :: before, fields } := by
        simp only [Reader.step, if_neg hc]
        rfl
      rw [List.cons_append, rowsBehind_cons (.inl (by rw [hstep])), hstep, List.nil_append, ih,
        List.reverse_cons, List.append_assoc]
      rfl

/-- The state of a reader behind a field, before it is known that the field ends there. -/
def Reader.IsBehind (field : Text) (fields : List Text) (state : State) (r : Reader) : Prop :=
  r.field = field.reverse ∧ r.fields = fields ∧
    (r.state = .inField ∨ r.state = .afterQuote ∨ (field = [] ∧ r.state = state))

/-- **A field** is read as it was written. -/
theorem rowsBehind_writeField {state : State} (field : Text) (fields : List Text) {t : Text}
    (hstate : state = .rowStart ∨ state = .fieldStart) (ht : t ≠ []) :
    ∃ r : Reader, r.IsBehind field fields state ∧
      rowsBehind (.between state fields) (writeField field ++ t) = rowsBehind r t := by
  have hstart : ∀ c, Reader.isLineEnd c = false →
      (Reader.between state fields).step c = (Reader.between state fields).startField c := by
    intro c hc
    rcases hstate with rfl | rfl
    · simp only [Reader.between, Reader.step, hc, Bool.false_eq_true, if_false]
    · rfl
  unfold writeField
  split
  · refine ⟨{ state := .afterQuote, field := field.reverse, fields }, ⟨rfl, rfl, .inr (.inl rfl)⟩, ?_⟩
    have hquote : (Reader.between state fields).step quote =
        { state := .inQuotes, field := [], fields } := by
      rw [hstart quote quote_ne_lineEnd]
      rfl
    rw [List.cons_append, rowsBehind_cons (.inl (by rw [hquote])), hquote, List.append_assoc,
      rowsBehind_quoted, List.append_nil, List.cons_append,
      rowsBehind_cons (.inr ⟨quote_ne_lineEnd, by simp [ht]⟩)]
    rfl
  · next hspecial =>
    have hplain : field.any isSpecial = false := by simpa using hspecial
    cases field with
    | nil => exact ⟨.between state fields, ⟨rfl, rfl, .inr (.inr ⟨rfl, rfl⟩)⟩, rfl⟩
    | cons c field =>
      refine ⟨{ state := .inField, field := (c :: field).reverse, fields },
        ⟨rfl, rfl, .inl rfl⟩, ?_⟩
      rw [List.any_cons, Bool.or_eq_false_iff] at hplain
      obtain ⟨hc, hfield⟩ := hplain
      obtain ⟨hend, hcomma, hquote⟩ := ordinary_of_isSpecial hc
      have hstep : (Reader.between state fields).step c =
          { state := .inField, field := [c], fields } := by
        rw [hstart c hend]
        simp only [Reader.startField, hend, Bool.false_eq_true, if_false, if_neg hquote,
          if_neg hcomma]
        rfl
      rw [List.cons_append, rowsBehind_cons (.inr ⟨hend, by simp [ht]⟩), hstep,
        rowsBehind_plain [c] fields hfield ht, List.reverse_cons]

/-- A comma ends a field. -/
theorem rowsBehind_comma {state : State} (field : Text) (fields : List Text) {t : Text}
    (hstate : state = .rowStart ∨ state = .fieldStart) (ht : t ≠ []) :
    rowsBehind (.between state fields) (writeField field ++ comma :: t) =
      rowsBehind (.between .fieldStart (field :: fields)) t := by
  obtain ⟨r, ⟨hfield, hfields, hr⟩, hrows⟩ :=
    rowsBehind_writeField field fields hstate (List.cons_ne_nil comma t)
  have hclose : r.step comma = r.closeField .fieldStart := by
    have hcomma : Reader.isLineEnd comma = false := by decide
    have hquote : comma ≠ quote := by decide
    unfold Reader.step
    rcases hr with hr | hr | ⟨-, hr⟩
    · rw [hr]; simp only [hcomma, Bool.false_eq_true, if_false, if_true]
    · rw [hr]; simp only [if_neg hquote, if_true]
    · rw [hr]
      rcases hstate with rfl | rfl
      · simp only [hcomma, Bool.false_eq_true, if_false, Reader.startField, if_neg hquote, if_true]
      · simp only [hcomma, Bool.false_eq_true, if_false, Reader.startField, if_neg hquote, if_true]
  rw [hrows, rowsBehind_cons (.inr ⟨by decide, ht⟩), hclose]
  unfold Reader.closeField Reader.between
  rw [hfield, hfields, List.reverse_reverse]

/-- A line end behind the last of several fields ends the row. -/
theorem rowsBehind_lineEnd (field : Text) (fields : List Text) (t : Text) :
    rowsBehind (.between .fieldStart fields)
        (writeField field ++ Text.carriageReturn :: Text.lineFeed :: t) =
      (fields.reverse ++ [field]) :: rows t := by
  obtain ⟨r, ⟨hfield, hfields, hr⟩, hrows⟩ :=
    rowsBehind_writeField field fields (.inr rfl)
      (List.cons_ne_nil Text.carriageReturn (Text.lineFeed :: t))
  have hclose : r.step Text.carriageReturn = r.closeField .lineEnd := by
    have hend : Reader.isLineEnd Text.carriageReturn = true := by decide
    have hquote : Text.carriageReturn ≠ quote := by decide
    have hcomma : Text.carriageReturn ≠ comma := by decide
    unfold Reader.step
    rcases hr with hr | hr | ⟨-, hr⟩
    · rw [hr]; simp only [hend, if_true]
    · rw [hr]; simp only [hend, if_neg hquote, if_neg hcomma, if_true]
    · rw [hr]; simp only [hend, Reader.startField, if_true]
  have hlines : Text.lines (Text.carriageReturn :: Text.lineFeed :: t) =
      [Text.carriageReturn, Text.lineFeed] :: Text.lines t :=
    @Text.linesAfter_of_line [] [] t (by simp) (by simp)
  have hline : r.line [Text.carriageReturn, Text.lineFeed] = r.closeField .rowStart := by
    show ((r.step Text.carriageReturn).step Text.lineFeed).endLine = _
    rw [hclose]
    rfl
  rw [hrows]
  unfold rowsBehind rows
  have hstate : (r.closeField .rowStart).state = .rowStart := rfl
  rw [hlines, rowsAfter_line, hline, if_pos hstate]
  unfold Reader.row Reader.closeField
  simp only [hfield, hfields, List.reverse_cons, List.reverse_reverse]

/-! ## Rows -/

theorem writeRow_cons (field next : Text) (row : Row) (t : Text) :
    writeRow (field :: next :: row) ++ t =
      writeField field ++ comma :: (writeRow (next :: row) ++ t) := by
  unfold writeRow
  simp only [List.map_cons, Text.joinWith, List.append_assoc, List.cons_append, List.nil_append]

theorem writeRow_append_ne_nil (row : Row) (t : Text) : writeRow row ++ t ≠ [] := by
  unfold writeRow
  simp

theorem rowsBehind_writeRow (field : Text) (row : Row) (fields : List Text) (t : Text) :
    rowsBehind (.between .fieldStart fields) (writeRow (field :: row) ++ t) =
      (fields.reverse ++ field :: row) :: rows t := by
  induction row generalizing field fields with
  | nil =>
    show rowsBehind _ ((writeField field ++ _) ++ t) = _
    rw [List.append_assoc]
    exact rowsBehind_lineEnd field fields t
  | cons next row ih =>
    rw [writeRow_cons, rowsBehind_comma field fields (.inr rfl) (writeRow_append_ne_nil _ t), ih,
      List.reverse_cons, List.append_assoc]
    rfl

/-- **A row** of several fields is read as it was written. -/
theorem rows_writeRow {row : Row} (h : 2 ≤ row.length) (t : Text) :
    rows (writeRow row ++ t) = row :: rows t := by
  obtain ⟨field, next, row, rfl⟩ : ∃ field next rest, row = field :: next :: rest := by
    cases row with
    | nil => cases h
    | cons field row =>
      cases row with
      | nil => exact absurd h (by simp)
      | cons next row => exact ⟨field, next, row, rfl⟩
  show rowsBehind (.between .rowStart []) _ = _
  rw [writeRow_cons, rowsBehind_comma field [] (.inl rfl) (writeRow_append_ne_nil _ t),
    rowsBehind_writeRow]
  rfl

theorem rows_flatMap_writeRow {all : List Row} (h : ∀ row ∈ all, 2 ≤ row.length) :
    rows (all.flatMap writeRow) = all := by
  induction all with
  | nil => rfl
  | cons row all ih =>
    rw [List.flatMap_cons, rows_writeRow (h row List.mem_cons_self),
      ih fun row' hrow' => h row' (List.mem_cons_of_mem _ hrow')]

end Csv

end RequestCheck
