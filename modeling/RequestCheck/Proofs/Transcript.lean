import RequestCheck.Proofs.Journal
import RequestCheck.Proofs.ReadBack
import RequestCheck.Proofs.Reports
import RequestCheck.Proofs.Splitting

/-!
# Reports that are read back

The reports of some verdicts are one line each, and each line is read back as the JSON that stands
for its verdict. So the detailed reports tell verdicts apart wherever they differ in more than the
words of a failure.

    (text detailed vs).splitAt lineFeed = lines ++ [[]]
    lines.map (read room) = vs.map (value detailed)                      (read_text)
    text true vs = text true ws  if and only if  vs and ws agree         (read_text)
-/

namespace RequestCheck

/-! ## Lines -/

namespace Text

variable {separator : CodePoint}

/-- Lines with their ends are split into the lines, and nothing is left behind the last end. -/
theorem splitAt_flatMap {lines : List Text} (h : ∀ line ∈ lines, separator ∉ line) :
    splitAt separator (lines.flatMap (· ++ [separator])) = lines ++ [[]] := by
  induction lines with
  | nil => rfl
  | cons line lines ih =>
    rw [List.flatMap_cons, List.append_assoc, List.singleton_append,
      splitAt_append_cons _ (h line List.mem_cons_self),
      ih fun l hl => h l (List.mem_cons_of_mem _ hl), List.cons_append]

/-- There are as many ends as lines. -/
theorem count_flatMap {lines : List Text} (h : ∀ line ∈ lines, separator ∉ line) :
    (lines.flatMap (· ++ [separator])).count separator = lines.length := by
  induction lines with
  | nil => rfl
  | cons line lines ih =>
    rw [List.flatMap_cons, List.count_append, List.count_append,
      List.count_eq_zero.mpr (h line List.mem_cons_self), List.count_singleton_self,
      ih fun l hl => h l (List.mem_cons_of_mem _ hl), List.length_cons]
    omega

end Text

/-! ## Verdicts -/

namespace Verdict

/-- The fields of a verdict that are not truth values are nothing, or texts in which no high
surrogate stands right before a low one. -/
def HasUnpairedTexts (v : Verdict) : Prop :=
  ∀ field ∈ [v.redirect, v.rewrittenUrl, v.exception, v.filter],
    field = .null ∨ ∃ t : Text, field = .string t ∧ t.Unpaired

/-- Two verdicts are both failed, or neither is and all their fields are equal. -/
structure Agree (v w : Verdict) : Prop where
  failed_eq : v.failed = w.failed
  fields_eq : v.failed = false → v.matched = w.matched ∧ v.important = w.important ∧
    v.redirect = w.redirect ∧ v.rewrittenUrl = w.rewrittenUrl ∧ v.exception = w.exception ∧
    v.filter = w.filter

variable {v w : Verdict}

theorem HasUnpairedTexts.hasTexts (h : v.HasUnpairedTexts) : v.HasTexts := by
  intro field hfield
  rcases h field hfield with hnull | ⟨t, ht, -⟩
  · exact .inl hnull
  · exact .inr ⟨t, ht⟩

theorem HasUnpairedTexts.readsBack (h : v.HasUnpairedTexts) {field : Json.Value}
    (hfield : field ∈ [v.redirect, v.rewrittenUrl, v.exception, v.filter]) : field.ReadsBack := by
  rcases h field hfield with rfl | ⟨t, rfl, ht⟩
  · exact .null
  · exact .string ht

end Verdict

/-! ## Reports -/

namespace Report

variable {v w : Verdict}

/-- **A report** is read back as the JSON that stands for its verdict. -/
theorem readsBack_value (detailed : Bool) (h : v.HasUnpairedTexts) :
    (value detailed v).ReadsBack := by
  unfold value
  split
  · exact .null
  split
  · apply Json.Value.ReadsBack.object
    intro m hm
    simp only [List.mem_cons, List.not_mem_nil, or_false] at hm
    rcases hm with rfl | rfl | rfl | rfl | rfl | rfl
    · exact ⟨Text.unpaired_ofString _, .boolean v.matched⟩
    · exact ⟨Text.unpaired_ofString _, .boolean v.important⟩
    · exact ⟨Text.unpaired_ofString _, h.readsBack (by simp)⟩
    · exact ⟨Text.unpaired_ofString _, h.readsBack (by simp)⟩
    · exact ⟨Text.unpaired_ofString _, h.readsBack (by simp)⟩
    · exact ⟨Text.unpaired_ofString _, h.readsBack (by simp)⟩
  · exact .boolean v.matched

/-- The fields of a verdict stand in one object, with nothing nested in it. -/
theorem depth_value (detailed : Bool) (h : v.HasUnpairedTexts) : (value detailed v).depth ≤ 1 := by
  have hfield : ∀ field ∈ [v.redirect, v.rewrittenUrl, v.exception, v.filter],
      field.depth ≤ 0 := by
    intro field hfield
    rcases h field hfield with rfl | ⟨t, rfl, -⟩ <;> exact le_rfl
  unfold value
  split
  · exact Nat.zero_le 1
  split
  · refine Json.Value.depth_object_le_iff.mpr ⟨Nat.one_ne_zero, fun m hm => ?_⟩
    simp only [List.mem_cons, List.not_mem_nil, or_false] at hm
    rcases hm with rfl | rfl | rfl | rfl | rfl | rfl
    · exact le_rfl
    · exact le_rfl
    · exact hfield _ (by simp)
    · exact hfield _ (by simp)
    · exact hfield _ (by simp)
    · exact hfield _ (by simp)
  · exact Nat.zero_le 1

/-- Detailed reports stand for the same JSON if and only if their verdicts agree. -/
theorem value_eq_iff_agree : value true v = value true w ↔ v.Agree w := by
  unfold value
  cases hv : v.failed <;> cases hw : w.failed
  · simp only [Bool.false_eq_true, if_false, if_true, Verdict.fields, Json.Value.object.injEq,
      List.cons.injEq, Prod.mk.injEq, Json.Value.boolean.injEq, true_and, and_true]
    exact ⟨fun h => ⟨by rw [hv, hw], fun _ => h⟩, fun h => h.fields_eq hv⟩
  · simp only [Bool.false_eq_true, if_false, if_true, Verdict.fields]
    refine ⟨fun h => (by cases h), fun h => ?_⟩
    rw [h.failed_eq, hw] at hv
    cases hv
  · simp only [Bool.false_eq_true, if_false, if_true, Verdict.fields]
    refine ⟨fun h => (by cases h), fun h => ?_⟩
    rw [h.failed_eq, hw] at hv
    cases hv
  · exact ⟨fun _ => ⟨by rw [hv, hw], fun h => by rw [hv] at h; cases h⟩, fun _ => rfl⟩

/-- **The lines of a text of reports** are read back one by one. -/
theorem splitAt_text (detailed : Bool) {vs : List Verdict} (h : ∀ v ∈ vs, v.HasUnpairedTexts) :
    ∃ lines : List Text, text detailed vs = lines.flatMap (· ++ [Text.lineFeed]) ∧
      (∀ line ∈ lines, Text.Plain line) ∧
      (text detailed vs).splitAt Text.lineFeed = lines ++ [[]] ∧
      ∀ room ≠ 0, lines.map (Json.Value.read room) = (vs.map (value detailed)).map .ok := by
  have hplain : ∀ line ∈ vs.map fun v => (value detailed v).write, Text.Plain line := by
    intro line hline
    obtain ⟨v, hv, rfl⟩ := List.mem_map.mp hline
    exact plain_value detailed (h v hv).hasTexts
  refine ⟨_, text_eq_flatMap detailed vs, hplain, ?_, ?_⟩
  · rw [text_eq_flatMap, Text.splitAt_flatMap fun line hline => (hplain line hline).lineFeed_notMem]
  · intro room hroom
    rw [List.map_map, List.map_map]
    refine List.map_congr_left fun v hv => (readsBack_value detailed (h v hv)).read_write ?_
    exact (depth_value detailed (h v hv)).trans (Nat.one_le_iff_ne_zero.mpr hroom)

theorem map_value_eq_iff_agree {vs ws : List Verdict} :
    vs.map (value true) = ws.map (value true) ↔ List.Forall₂ Verdict.Agree vs ws := by
  rw [← List.forall₂_eq_eq_eq, List.forall₂_map_left_iff, List.forall₂_map_right_iff]
  constructor
  · exact List.Forall₂.imp fun v w => value_eq_iff_agree.mp
  · exact List.Forall₂.imp fun v w => value_eq_iff_agree.mpr

/-- Detailed reports are the same text if and only if their verdicts agree one by one. -/
theorem text_eq_iff_agree {vs ws : List Verdict} (hvs : ∀ v ∈ vs, v.HasUnpairedTexts)
    (hws : ∀ w ∈ ws, w.HasUnpairedTexts) :
    text true vs = text true ws ↔ List.Forall₂ Verdict.Agree vs ws := by
  rw [← map_value_eq_iff_agree]
  constructor
  · intro htext
    obtain ⟨lines, -, -, hsplit, hread⟩ := splitAt_text true hvs
    obtain ⟨lines', -, -, hsplit', hread'⟩ := splitAt_text true hws
    rw [htext, hsplit'] at hsplit
    obtain rfl := List.append_cancel_right hsplit
    have hsame := (hread 1 Nat.one_ne_zero).symm.trans (hread' 1 Nat.one_ne_zero)
    exact List.map_injective_iff.mpr (fun _ _ => Except.ok.inj) hsame
  · intro hvalues
    have hwritten := congrArg (List.map Json.Value.write) hvalues
    rw [List.map_map, List.map_map] at hwritten
    rw [text_eq_flatMap, text_eq_flatMap]
    exact congrArg (List.flatMap (· ++ [Text.lineFeed])) hwritten

/-- **Reports are read back.** The reports of verdicts are printable ASCII but for the line ends, of
which there is one behind each report. Each line is read back as JSON, as soon as one object may be
read: `null` for a failure, else the fields of the verdict in a detailed report and whether the request
matched in a brief one.
Detailed reports are the same text only for verdicts that agree. -/
theorem read_text (detailed : Bool) (vs : List Verdict) (h : ∀ v ∈ vs, v.HasUnpairedTexts) :
    (∀ c ∈ text detailed vs, c = Text.lineFeed ∨ 0x20 ≤ c.val ∧ c.val ≤ 0x7F) ∧
    (∃ lines : List Text, text detailed vs = lines.flatMap (· ++ [Text.lineFeed]) ∧
      lines.length = vs.length ∧
      (text detailed vs).count Text.lineFeed = vs.length ∧
      (text detailed vs).splitAt Text.lineFeed = lines ++ [[]] ∧
      ∀ room ≠ 0, lines.map (Json.Value.read room) =
        vs.map fun v => .ok (if v.failed then .null
          else if detailed then
            .object [("matched", .boolean v.matched), ("important", .boolean v.important),
              ("redirect", v.redirect), ("rewritten_url", v.rewrittenUrl),
              ("exception", v.exception), ("filter", v.filter)]
          else .boolean v.matched)) ∧
    ∀ ws : List Verdict, (∀ w ∈ ws, w.HasUnpairedTexts) →
      (text true vs = text true ws ↔ List.Forall₂ Verdict.Agree vs ws) := by
  obtain ⟨lines, htext, hplain, hsplit, hread⟩ := splitAt_text detailed h
  have hlength : lines.length = vs.length := by
    have key := congrArg List.length (hread 1 Nat.one_ne_zero)
    rwa [List.length_map, List.length_map, List.length_map] at key
  refine ⟨?_, ⟨lines, htext, hlength, ?_, hsplit, ?_⟩, fun ws => text_eq_iff_agree h⟩
  · intro c hc
    rw [htext] at hc
    obtain ⟨line, hline, hc⟩ := List.mem_flatMap.mp hc
    rcases List.mem_append.mp hc with hc | hc
    · have key := hplain line hline c hc
      exact .inr ⟨key.1, by omega⟩
    · exact .inl (List.mem_singleton.mp hc)
  · rw [htext, Text.count_flatMap fun line hline => (hplain line hline).lineFeed_notMem, hlength]
  · intro room hroom
    rw [hread room hroom, List.map_map]
    rfl

/-- A verdict whose redirect has a low surrogate before a high one, a code point above U+FFFF, a
quote, a backslash, a line feed and U+007F. -/
def strangeVerdict : Verdict where
  matched := true
  redirect := .string [⟨0xDC00, by decide⟩, ⟨0xD800, by decide⟩, ⟨0x1F600, by decide⟩,
    '"', '\\', '\n', '\x7f']

theorem strangeVerdict_unpaired : strangeVerdict.HasUnpairedTexts := by
  have hredirect : Text.Unpaired [⟨0xDC00, by decide⟩, ⟨0xD800, by decide⟩, ⟨0x1F600, by decide⟩,
      '"', '\\', '\n', '\x7f'] := by
    unfold Text.Unpaired
    decide
  intro field hfield
  simp only [strangeVerdict, List.mem_cons, List.not_mem_nil, or_false] at hfield
  rcases hfield with rfl | rfl | rfl | rfl
  · exact .inr ⟨_, rfl, hredirect⟩
  · exact .inl rfl
  · exact .inl rfl
  · exact .inl rfl

/-- A strange verdict and a failure without words are read back from their detailed reports. -/
theorem read_text_strange :
    (∀ v ∈ [strangeVerdict, Verdict.failure []], v.HasUnpairedTexts) ∧
    ∃ lines : List Text,
      (text true [strangeVerdict, .failure []]).splitAt Text.lineFeed = lines ++ [[]] ∧
      lines.map (Json.Value.read 1) = [.ok strangeVerdict.fields, .ok .null] := by
  have h : ∀ v ∈ [strangeVerdict, Verdict.failure []], v.HasUnpairedTexts := by
    intro v hv
    simp only [List.mem_cons, List.not_mem_nil, or_false] at hv
    rcases hv with rfl | rfl
    · exact strangeVerdict_unpaired
    · intro field hfield
      simp only [Verdict.failure, List.mem_cons, List.not_mem_nil, or_false, or_self] at hfield
      exact .inl hfield
  obtain ⟨lines, -, -, -, hsplit, hread⟩ := (read_text true _ h).2.1
  exact ⟨h, lines, hsplit, hread 1 Nat.one_ne_zero⟩

end Report

end RequestCheck
