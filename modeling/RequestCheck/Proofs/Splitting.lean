import RequestCheck.Text.Basic

/-!
# Texts that are split and joined

A text is split at its separators; parts without separators that are joined with one are what their
text is split into.

    splitAt s (part ++ s :: t) = part :: splitAt s t                (splitAt_append_cons)
    splitAt s (t ++ s :: u) = splitAt s t ++ splitAt s u            (splitAt_append_separator)
    splitAt s (joinWith [s] parts) = parts                             (splitAt_joinWith)
-/

namespace RequestCheck

namespace Text

variable {separator : CodePoint}

theorem splitAt_ne_nil (t : Text) : splitAt separator t ≠ [] := by
  cases t with
  | nil => exact List.cons_ne_nil _ _
  | cons c t =>
    rw [splitAt]
    split
    · exact List.cons_ne_nil _ _
    · split <;> exact List.cons_ne_nil _ _

theorem splitAt_append_cons {line : Text} (t : Text) (h : separator ∉ line) :
    splitAt separator (line ++ separator :: t) = line :: splitAt separator t := by
  induction line with
  | nil => rw [List.nil_append, splitAt, if_pos rfl]
  | cons c line ih =>
    obtain ⟨hc, hline⟩ := not_or.mp (mt List.mem_cons.mpr h)
    rw [List.cons_append, splitAt, if_neg (Ne.symm hc), ih hline]

theorem splitAt_of_notMem {part : Text} (h : separator ∉ part) :
    splitAt separator part = [part] := by
  induction part with
  | nil => rfl
  | cons c part ih =>
    obtain ⟨hc, hpart⟩ := not_or.mp (mt List.mem_cons.mpr h)
    rw [splitAt, if_neg (Ne.symm hc), ih hpart]

/-- A separator splits a text whatever stands on either side of it. -/
theorem splitAt_append_separator (t u : Text) :
    splitAt separator (t ++ separator :: u) = splitAt separator t ++ splitAt separator u := by
  induction t with
  | nil => exact splitAt_append_cons u List.not_mem_nil
  | cons c t ih =>
    rw [List.cons_append, splitAt, splitAt, ih]
    split
    · rfl
    · cases hsplit : splitAt separator t with
      | nil => exact absurd hsplit (splitAt_ne_nil t)
      | cons part parts => rfl

/-- Parts without separators are what their text is split into. -/
theorem splitAt_joinWith {parts : List Text} (hne : parts ≠ [])
    (h : ∀ part ∈ parts, separator ∉ part) :
    splitAt separator (joinWith [separator] parts) = parts := by
  induction parts with
  | nil => exact absurd rfl hne
  | cons part rest ih =>
    have hpart := h part List.mem_cons_self
    cases rest with
    | nil => exact splitAt_of_notMem hpart
    | cons next rest =>
      have hrest := ih (List.cons_ne_nil _ _) fun part hmem => h part (List.mem_cons_of_mem _ hmem)
      show splitAt separator (part ++ [separator] ++ joinWith [separator] (next :: rest)) = _
      rw [List.append_assoc, List.singleton_append, splitAt_append_cons _ hpart, hrest]

theorem notMem_of_mem_splitAt {t part : Text} (h : part ∈ splitAt separator t) :
    separator ∉ part := by
  induction t generalizing part with
  | nil => rw [List.mem_singleton.mp h]; exact List.not_mem_nil
  | cons c t ih =>
    rw [splitAt] at h
    split at h
    · rcases List.mem_cons.mp h with rfl | h
      · exact List.not_mem_nil
      · exact ih h
    · next hc =>
      split at h
      · rw [List.mem_singleton.mp h]
        exact mt List.mem_singleton.mp (Ne.symm hc)
      · next first parts hsplit =>
        rw [hsplit] at ih
        rcases List.mem_cons.mp h with rfl | h
        · exact fun hmem => (List.mem_cons.mp hmem).elim (Ne.symm hc) (ih List.mem_cons_self)
        · exact ih (List.mem_cons_of_mem _ h)

theorem mem_of_mem_splitAt {t part : Text} {c : CodePoint} (h : part ∈ splitAt separator t)
    (hc : c ∈ part) : c ∈ t := by
  induction t generalizing part with
  | nil => rw [List.mem_singleton.mp h] at hc; cases hc
  | cons x t ih =>
    rw [splitAt] at h
    split at h
    · rcases List.mem_cons.mp h with rfl | h
      · cases hc
      · exact List.mem_cons_of_mem _ (ih h hc)
    · split at h
      · rw [List.mem_singleton.mp h, List.mem_singleton] at hc
        rw [hc]
        exact List.mem_cons_self
      · next first parts hsplit =>
        rw [hsplit] at ih
        rcases List.mem_cons.mp h with rfl | h
        · rcases List.mem_cons.mp hc with rfl | hc
          · exact List.mem_cons_self
          · exact List.mem_cons_of_mem _ (ih List.mem_cons_self hc)
        · exact List.mem_cons_of_mem _ (ih (List.mem_cons_of_mem _ h) hc)

/-- One more part stands behind a separator. -/
theorem joinWith_concat (separator : Text) {parts : List Text} (hne : parts ≠ []) (part : Text) :
    joinWith separator (parts ++ [part]) = joinWith separator parts ++ separator ++ part := by
  induction parts with
  | nil => exact absurd rfl hne
  | cons first rest ih =>
    cases rest with
    | nil => rfl
    | cons next rest =>
      have hrest := ih (List.cons_ne_nil _ _)
      show first ++ separator ++ joinWith separator (next :: rest ++ [part]) =
        first ++ separator ++ joinWith separator (next :: rest) ++ separator ++ part
      rw [hrest]
      simp only [List.append_assoc]

theorem joinWith_dropLast (separator : Text) (parts : List Text) :
    joinWith separator parts.dropLast <+: joinWith separator parts := by
  induction parts with
  | nil => exact List.prefix_refl _
  | cons part rest ih =>
    cases rest with
    | nil => exact List.nil_prefix
    | cons next rest =>
      cases hrest : (next :: rest).dropLast with
      | nil =>
        rw [List.dropLast_cons_cons, hrest]
        exact (List.prefix_append part separator).trans (List.prefix_append _ _)
      | cons other others =>
        rw [List.dropLast_cons_cons, hrest]
        show part ++ separator ++ joinWith separator (other :: others) <+:
          part ++ separator ++ joinWith separator (next :: rest)
        rw [hrest] at ih
        exact (List.prefix_append_right_inj _).mpr ih

theorem mem_of_mem_joinWith {separator : Text} {ts : List Text} {c : CodePoint}
    (h : c ∈ joinWith separator ts) : c ∈ separator ∨ ∃ t ∈ ts, c ∈ t := by
  induction ts with
  | nil => cases h
  | cons t rest ih =>
    cases rest with
    | nil => exact .inr ⟨t, List.mem_cons_self, h⟩
    | cons next rest =>
      rw [joinWith, List.append_assoc] at h
      · rcases List.mem_append.mp h with h | h
        · exact .inr ⟨t, List.mem_cons_self, h⟩
        · rcases List.mem_append.mp h with h | h
          · exact .inl h
          · rcases ih h with h | ⟨t', ht', h⟩
            · exact .inl h
            · exact .inr ⟨t', List.mem_cons_of_mem _ ht', h⟩
      · exact List.cons_ne_nil _ _

theorem mem_joinWith {separator t : Text} {ts : List Text} {c : CodePoint} (ht : t ∈ ts)
    (hc : c ∈ t) : c ∈ joinWith separator ts := by
  induction ts with
  | nil => cases ht
  | cons first rest ih =>
    cases rest with
    | nil => rwa [List.mem_singleton.mp ht] at hc
    | cons next rest =>
      rw [joinWith]
      · rcases List.mem_cons.mp ht with rfl | ht
        · exact List.mem_append_left _ (List.mem_append_left _ hc)
        · exact List.mem_append_right _ (ih ht)
      · exact List.cons_ne_nil _ _

end Text

end RequestCheck
