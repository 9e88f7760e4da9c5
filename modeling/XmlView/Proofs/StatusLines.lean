import XmlView.Proofs.Escaping

/-! What status lines show of their message. Besides dropping backslashes, the writer replaces
emoji codes in the text between tags. A replaced code takes its two colons out of the text and
puts none back, so the shown text has as many colons as the read text only when nothing was
replaced (`replaceEmoji_eq_or_colons`). -/

namespace XmlView.Command

/-! ### Emoji codes -/

theorem emojiCodes_colonFree : emojiCodes.all (fun e => !e.2.contains 0x3A) = true := by
  decide +kernel

theorem colon_not_mem_of_emojiOf {name e : List Char} (h : emojiOf name = some e) : ':' ∉ e := by
  unfold emojiOf at h
  obtain ⟨entry, hfind, rfl⟩ := Option.map_eq_some_iff.mp h
  have hfree := List.all_eq_true.mp emojiCodes_colonFree entry (List.mem_of_find?_eq_some hfind)
  simp only [Bool.not_eq_eq_eq_not, Bool.not_true, List.contains_eq_mem,
    decide_eq_false_iff_not] at hfree
  simp only [List.mem_map, not_exists, not_and]
  intro n hn hcolon
  -- only the code point of the colon names the colon
  have hcode := congrArg Char.toNat hcolon
  rw [Char.toNat_ofNat] at hcode
  split at hcode
  · have h58 : n = 58 := by simpa using hcode
    exact hfree (h58 ▸ hn)
  · simp at hcode

theorem emojiText_cases (body : List Char) :
    emojiText body = ':' :: body ++ [':'] ∨ ':' ∉ emojiText body := by
  unfold emojiText
  split
  · next e he =>
    refine .inr ?_
    rw [List.mem_append, not_or]
    refine ⟨colon_not_mem_of_emojiOf he, ?_⟩
    unfold splitVariant
    split_ifs <;> simp
  · exact .inl rfl

theorem codeName_colon (s : List (Option Char)) : codeName (some ':' :: s) = some ([], s) := by
  simp [codeName]

theorem codeName_space {c : Char} (hc : ¬(c == ':') = true)
    (hs : Text.isSpacePoint c.toNat = true) (s : List (Option Char)) :
    codeName (some c :: s) = none := by
  simp [codeName, hc, hs]

theorem codeName_char {c : Char} (hc : ¬(c == ':') = true)
    (hs : ¬Text.isSpacePoint c.toNat = true) (s : List (Option Char)) :
    codeName (some c :: s) = (codeName s).map fun (name, after) => (c :: name, after) := by
  simp [codeName, hc, hs]

theorem codeName_of_not_some {t : List (Option Char)} (ht : ∀ c rest, t = some c :: rest → False) :
    codeName t = none := by
  match t, ht with
  | [], _ => rfl
  | none :: _, _ => rfl
  | some c :: rest, ht => exact (ht c rest rfl).elim

theorem codeName_eq_some {s after : List (Option Char)} {name : List Char}
    (h : codeName s = some (name, after)) : s = name.map some ++ some ':' :: after ∧ ':' ∉ name := by
  induction s using codeName.induct generalizing name with
  | case1 c rest hc =>
    obtain rfl := beq_iff_eq.mp hc
    rw [codeName_colon, Option.some.injEq, Prod.mk.injEq] at h
    obtain ⟨rfl, rfl⟩ := h
    simp
  | case2 c rest hc hs =>
    rw [codeName_space hc hs] at h
    cases h
  | case3 c rest hc hs ih =>
    rw [codeName_char hc hs] at h
    obtain ⟨⟨name', after'⟩, hcs, heq⟩ := Option.map_eq_some_iff.mp h
    cases heq
    obtain ⟨hsplit, hname⟩ := ih hcs
    refine ⟨by simp [hsplit], ?_⟩
    simp only [List.mem_cons, not_or]
    exact ⟨fun h => hc (beq_iff_eq.mpr h.symm), hname⟩
  | case4 t ht =>
    rw [codeName_of_not_some ht] at h
    cases h

theorem codeName_append_of_some {s after : List (Option Char)} {name : List Char}
    (h : codeName s = some (name, after)) (t : List (Option Char)) :
    codeName (s ++ t) = some (name, after ++ t) := by
  induction s using codeName.induct generalizing name with
  | case1 c rest hc =>
    obtain rfl := beq_iff_eq.mp hc
    rw [codeName_colon, Option.some.injEq, Prod.mk.injEq] at h
    obtain ⟨rfl, rfl⟩ := h
    rw [List.cons_append, codeName_colon]
  | case2 c rest hc hs =>
    rw [codeName_space hc hs] at h
    cases h
  | case3 c rest hc hs ih =>
    rw [codeName_char hc hs] at h
    obtain ⟨⟨name', after'⟩, hcs, heq⟩ := Option.map_eq_some_iff.mp h
    cases heq
    rw [List.cons_append, codeName_char hc hs, ih hcs, Option.map_some]
  | case4 t' ht =>
    rw [codeName_of_not_some ht] at h
    cases h

theorem codeName_of_colonFree {t : List (Option Char)} (ht : some ':' ∉ t) : codeName t = none := by
  induction t using codeName.induct with
  | case1 c rest hc => exact absurd (by simp [beq_iff_eq.mp hc]) ht
  | case2 c rest hc hs => exact codeName_space hc hs rest
  | case3 c rest hc hs ih =>
    rw [codeName_char hc hs, ih (fun h => ht (List.mem_cons_of_mem _ h)), Option.map_none]
  | case4 t ht' => exact codeName_of_not_some ht'

theorem codeName_append_of_none {s : List (Option Char)} (h : codeName s = none)
    {t : List (Option Char)} (ht : some ':' ∉ t) : codeName (s ++ t) = none := by
  induction s using codeName.induct with
  | case1 c rest hc =>
    obtain rfl := beq_iff_eq.mp hc
    rw [codeName_colon] at h
    cases h
  | case2 c rest hc hs => rw [List.cons_append, codeName_space hc hs]
  | case3 c rest hc hs ih =>
    rw [codeName_char hc hs, Option.map_eq_none_iff] at h
    rw [List.cons_append, codeName_char hc hs, ih h, Option.map_none]
  | case4 s' hs =>
    -- no name starts here, so the scan is that of `t`, or stops at the cut in front
    match s', hs with
    | [], _ => exact codeName_of_colonFree ht
    | none :: _, _ => rfl
    | some c :: rest, hs => exact (hs c rest rfl).elim

/-! ### Replacing emoji codes -/

@[simp] theorem replaceEmoji_nil : replaceEmoji [] = [] := by
  rw [replaceEmoji]

@[simp] theorem replaceEmoji_cut (s : List (Option Char)) :
    replaceEmoji (none :: s) = replaceEmoji s := by
  rw [replaceEmoji]

theorem replaceEmoji_char {c : Char} (hc : c ≠ ':') (s : List (Option Char)) :
    replaceEmoji (some c :: s) = c :: replaceEmoji s := by
  rw [replaceEmoji]
  simp [hc]

theorem replaceEmoji_code {s after : List (Option Char)} {body : List Char}
    (h : codeName s = some (body, after)) :
    replaceEmoji (some ':' :: s) = emojiText body ++ replaceEmoji after := by
  rw [replaceEmoji.eq_def]
  dsimp only
  rw [if_pos (beq_self_eq_true _)]
  split
  · next body' after' h' =>
    rw [h] at h'
    cases h'
    rfl
  · next h' =>
    rw [h] at h'
    cases h'

theorem replaceEmoji_colon {s : List (Option Char)} (h : codeName s = none) :
    replaceEmoji (some ':' :: s) = ':' :: replaceEmoji s := by
  rw [replaceEmoji.eq_def]
  dsimp only
  rw [if_pos (beq_self_eq_true _)]
  split
  · next body' after' h' =>
    rw [h] at h'
    cases h'
  · rfl

theorem replaceEmoji_plain {x : List Char} (hx : ':' ∉ x) (s : List (Option Char)) :
    replaceEmoji (x.map some ++ s) = x ++ replaceEmoji s := by
  induction x with
  | nil => rfl
  | cons c x ih =>
    rw [List.mem_cons, not_or] at hx
    rw [List.map_cons, List.cons_append, replaceEmoji_char (Ne.symm hx.1), ih hx.2,
      List.cons_append]

theorem replaceEmoji_of_colonFree {t : List (Option Char)} (ht : some ':' ∉ t) :
    replaceEmoji t = t.filterMap id := by
  induction t with
  | nil => simp
  | cons x t ih =>
    have ht' : some ':' ∉ t := fun h => ht (List.mem_cons_of_mem _ h)
    cases x with
    | none => simp [ih ht']
    | some c =>
      have hc : c ≠ ':' := fun hc => ht (by simp [hc])
      simp [replaceEmoji_char hc, ih ht']

/-- Replacing emoji codes changes nothing, or takes at least two colons out of the text. -/
theorem replaceEmoji_eq_or_colons (s : List (Option Char)) :
    replaceEmoji s = s.filterMap id ∨
      (replaceEmoji s).count ':' + 2 ≤ (s.filterMap id).count ':' := by
  induction s using replaceEmoji.induct with
  | case1 => exact .inl (by simp)
  | case2 rest ih => simpa using ih
  | case3 c rest hc body after hcode ih =>
    obtain rfl := beq_iff_eq.mp hc
    obtain ⟨hrest, hbody⟩ := codeName_eq_some hcode
    have htext : (some ':' :: rest).filterMap id = ':' :: body ++ ':' :: after.filterMap id := by
      simp [hrest, List.filterMap_append, List.filterMap_map]
    have hbody0 : body.count ':' = 0 := List.count_eq_zero.mpr hbody
    rw [replaceEmoji_code hcode, htext]
    -- the code shows as itself, or as an emoji without colons
    rcases emojiText_cases body with hsame | hfree
    · rw [hsame]
      rcases ih with heq | hlt
      · exact .inl (by rw [heq]; simp)
      · exact .inr (by simp [List.count_append] at hlt ⊢; omega)
    · have h0 : (emojiText body).count ':' = 0 := List.count_eq_zero.mpr hfree
      refine .inr ?_
      rcases ih with heq | hlt
      · simp [List.count_append, h0, hbody0, heq]
      · simp [List.count_append, h0, hbody0] at hlt ⊢
        omega
  | case4 c rest hc hcode ih =>
    obtain rfl := beq_iff_eq.mp hc
    rw [replaceEmoji_colon hcode]
    rcases ih with heq | hlt
    · exact .inl (by simp [heq])
    · exact .inr (by simp at hlt ⊢; omega)
  | case5 c rest hc ih =>
    have hc' : c ≠ ':' := fun h => hc (beq_iff_eq.mpr h)
    rw [replaceEmoji_char hc']
    rcases ih with heq | hlt
    · exact .inl (by simp [heq])
    · exact .inr (by simp [hc'] at hlt ⊢; omega)

theorem replaceEmoji_append (s : List (Option Char)) {t : List (Option Char)}
    (ht : some ':' ∉ t) : replaceEmoji (s ++ t) = replaceEmoji s ++ t.filterMap id := by
  induction s using replaceEmoji.induct with
  | case1 => simpa using replaceEmoji_of_colonFree ht
  | case2 rest ih => rw [List.cons_append, replaceEmoji_cut, replaceEmoji_cut, ih]
  | case3 c rest hc body after hcode ih =>
    obtain rfl := beq_iff_eq.mp hc
    rw [List.cons_append, replaceEmoji_code hcode,
      replaceEmoji_code (codeName_append_of_some hcode t), ih, List.append_assoc]
  | case4 c rest hc hcode ih =>
    obtain rfl := beq_iff_eq.mp hc
    rw [List.cons_append, replaceEmoji_colon hcode,
      replaceEmoji_colon (codeName_append_of_none hcode ht), ih, List.cons_append]
  | case5 c rest hc ih =>
    have hc' : c ≠ ':' := fun h => hc (beq_iff_eq.mpr h)
    rw [List.cons_append, replaceEmoji_char hc', replaceEmoji_char hc', ih, List.cons_append]

/-! ### Markup as the writer shows it -/

theorem renderMarkup_true (cs : List Char) :
    renderMarkup true cs = replaceEmoji (markupStream cs) := rfl

theorem renderMarkup_false (cs : List Char) : renderMarkup false cs = markupText cs := rfl

theorem renderMarkup_true_of_colons {x : List Char} (h : (markupText x).count ':' ≤ 1) :
    renderMarkup true x = markupText x := by
  rcases replaceEmoji_eq_or_colons (markupStream x) with heq | hlt
  · exact heq
  · exact absurd h (by unfold markupText; omega)

/-- The writer shows markup as a text with as many colons as the markup reads as exactly when
it replaces no emoji code and shows that text. -/
theorem renderMarkup_eq_iff {x y : List Char} (hy : y.count ':' = (markupText x).count ':') :
    renderMarkup true x = y ↔ renderMarkup true x = markupText x ∧ markupText x = y := by
  constructor
  · intro h
    rcases replaceEmoji_eq_or_colons (markupStream x) with heq | hlt
    · rw [← renderMarkup_true] at heq
      exact ⟨heq, heq.symm.trans h⟩
    · rw [← renderMarkup_true, h, hy] at hlt
      exact absurd hlt (by unfold markupText; omega)
  · rintro ⟨h1, h2⟩
    rw [h1, h2]

theorem renderMarkup_markedMarkup (e : Bool) {style mark : String}
    (hopen : IsTag ("[" ++ style ++ "]").toList) (hclose : IsTag ("[/" ++ style ++ "]").toList)
    (hmark : ∀ c ∈ mark.toList, c ≠ '\\' ∧ c ≠ '[' ∧ c ≠ ':') (m : String) :
    renderMarkup e (markedMarkup style mark m) =
      (mark ++ " ").toList ++ renderMarkup e (escapeMarkup m.toList) := by
  have hsplit : markedMarkup style mark m = ("[" ++ style ++ "]").toList ++ (mark.toList ++
      (("[/" ++ style ++ "]").toList ++ ' ' :: escapeMarkup m.toList)) := by
    simp [markedMarkup]
  have hstream : markupStream (markedMarkup style mark m) = none :: none ::
      (mark.toList.map some ++ none :: none :: some ' ' :: markupStream (escapeMarkup m.toList)) := by
    rw [hsplit, markupStream_tag_append hopen,
      markupStream_plain (fun c hc => ⟨(hmark c hc).1, (hmark c hc).2.1⟩),
      markupStream_tag_append hclose,
      markupStream_char (by decide) (tagLength_of_head_ne (by decide) _)]
  have hcolon : ':' ∉ mark.toList := fun h => (hmark ':' h).2.2 rfl
  cases e with
  | true =>
    rw [renderMarkup_true, renderMarkup_true, hstream, replaceEmoji_cut, replaceEmoji_cut,
      replaceEmoji_plain hcolon, replaceEmoji_cut, replaceEmoji_cut,
      replaceEmoji_char (by decide)]
    simp
  | false =>
    rw [renderMarkup_false, renderMarkup_false, markupText, markupText, hstream]
    simp [List.filterMap_append, List.filterMap_map]

theorem renderMarkup_status (e : Bool) (m : String) :
    renderMarkup e (markedMarkup "green" "✓" m) =
      "✓ ".toList ++ renderMarkup e (escapeMarkup m.toList) ∧
    renderMarkup e (markedMarkup "red" "✗" m) =
      "✗ ".toList ++ renderMarkup e (escapeMarkup m.toList) ∧
    renderMarkup e (markedMarkup "yellow" "⚠" m) =
      "⚠ ".toList ++ renderMarkup e (escapeMarkup m.toList) :=
  ⟨renderMarkup_markedMarkup e ⟨'g', ['r', 'e', 'e', 'n'], by decide, rfl, by simp [isBracket]⟩
      ⟨'/', ['g', 'r', 'e', 'e', 'n'], by decide, rfl, by simp [isBracket]⟩ (by simp) m,
    renderMarkup_markedMarkup e ⟨'r', ['e', 'd'], by decide, rfl, by simp [isBracket]⟩
      ⟨'/', ['r', 'e', 'd'], by decide, rfl, by simp [isBracket]⟩ (by simp) m,
    renderMarkup_markedMarkup e ⟨'y', ['e', 'l', 'l', 'o', 'w'], by decide, rfl, by simp [isBracket]⟩
      ⟨'/', ['y', 'e', 'l', 'l', 'o', 'w'], by decide, rfl, by simp [isBracket]⟩ (by simp) m⟩

theorem shown_error (e : Bool) (m : String) :
    shown e (markedMarkup "red" "✗" m) = statusLine e "✗ " m := by
  unfold shown statusLine
  rw [(renderMarkup_status e m).2.1]

theorem Console.stderr_error (c : Console) (m : String) :
    (c.error m).stderr = c.stderr ++ statusLine c.emoji "✗ " m ++ "\n" := by
  rw [Console.error, Console.line, shown_error]

/-! ### What a message shows -/

/-- The writer replaces an emoji code of a message: the escaped message shows otherwise with
emoji codes read than with them left alone. -/
def ReplacesEmoji (cs : List Char) : Prop :=
  renderMarkup true (escapeMarkup cs) ≠ markupText (escapeMarkup cs)

theorem count_dropStray (cs : List Char) : (dropStray cs).count ':' = cs.count ':' := by
  induction cs using dropStray.induct with
  | case1 => rfl
  | case2 rest ih =>
    rw [dropStray]
    split <;> simp [ih]
  | case3 c rest hne ih =>
    rw [dropStray.eq_3 c rest hne]
    simp [List.count_cons, ih]

theorem count_markupText_escapeMarkup (cs : List Char) :
    (markupText (escapeMarkup cs)).count ':' = cs.count ':' := by
  rw [markupText_escapeMarkup, List.count_append, count_dropStray]
  split <;> simp

/-- A debug line replaces an emoji code exactly when the escaped message alone does: the
backslashes and the closing tag after the message hold no colon. -/
theorem dimMarkup_emoji_iff (m : String) :
    renderMarkup true (dimMarkup m) = markupText (dimMarkup m) ↔ ¬ReplacesEmoji m.toList := by
  obtain ⟨q, j, hm, hq⟩ := exists_trailing m.toList
  set j' := if j = 1 then 2 else j
  have hq' : (escapeTags q).getLast? ≠ some '\\' := by rwa [getLast?_escapeTags]
  have hrun : some ':' ∉ (backslashes j').map some := by
    simp only [List.mem_map, Option.some.injEq, not_exists, not_and]
    intro c hc h
    rw [mem_backslashes hc] at h
    cases h
  have hend : markupStream (backslashes j' ++ "[/dim]".toList) =
      none :: (backslashes (j' / 2)).map some ++ none ::
        (if j' % 2 = 1 then "[/dim]".toList.map some ++ [none] else []) := by
    simpa using markupStream_tag j' isTag_dim_close []
  have hclose : some ':' ∉ markupStream (backslashes j' ++ "[/dim]".toList) := by
    rw [hend]
    simp only [List.mem_cons, List.mem_append, List.mem_map, reduceCtorEq, false_or, not_or]
    refine ⟨fun ⟨c, hc, h⟩ => ?_, ?_⟩
    · rw [mem_backslashes hc] at h
      cases h
    · split <;> simp
  have hesc : markupStream (escapeMarkup m.toList) =
      markupStream (escapeTags q) ++ (backslashes j').map some := by
    rw [hm, escapeMarkup_append hq, markupStream_append hq' (closesNoTag_run _),
      markupStream_backslashes]
  have hdim : markupStream (dimMarkup m) =
      none :: none :: (markupStream (escapeTags q) ++ markupStream (backslashes j' ++ "[/dim]".toList)) := by
    unfold dimMarkup
    rw [hm, escapeMarkup_append hq, List.append_assoc, markupStream_tag_append isTag_dim,
      List.append_assoc, markupStream_append hq' (closesNoTag_backslashes _ _ (.inl rfl))]
  unfold ReplacesEmoji
  rw [not_not, renderMarkup_true, renderMarkup_true, markupText, markupText, hdim, hesc,
    replaceEmoji_cut, replaceEmoji_cut, replaceEmoji_append _ hclose, replaceEmoji_append _ hrun]
  simp [List.filterMap_append]

/-- What the success, error, warning, info and debug lines show of a message: the message
itself exactly when no backslash of it stands before a `[` that opens no tag, it does not end in
one backslash (for a debug line, in more than one), and the writer replaces none of its emoji
codes. -/
theorem status_lines_show_message_iff (m : String) :
    (renderMarkup true (markedMarkup "green" "✓" m) = "✓ ".toList ++ m.toList ↔
      ¬HasStrayEscape m.toList ∧ trailingBackslashes m.toList ≠ 1 ∧ ¬ReplacesEmoji m.toList) ∧
    (renderMarkup true (markedMarkup "red" "✗" m) = "✗ ".toList ++ m.toList ↔
      ¬HasStrayEscape m.toList ∧ trailingBackslashes m.toList ≠ 1 ∧ ¬ReplacesEmoji m.toList) ∧
    (renderMarkup true (markedMarkup "yellow" "⚠" m) = "⚠ ".toList ++ m.toList ↔
      ¬HasStrayEscape m.toList ∧ trailingBackslashes m.toList ≠ 1 ∧ ¬ReplacesEmoji m.toList) ∧
    (renderMarkup true (escapeMarkup m.toList) = m.toList ↔
      ¬HasStrayEscape m.toList ∧ trailingBackslashes m.toList ≠ 1 ∧ ¬ReplacesEmoji m.toList) ∧
    (renderMarkup true (dimMarkup m) = m.toList ↔
      ¬HasStrayEscape m.toList ∧ trailingBackslashes m.toList ≤ 1 ∧ ¬ReplacesEmoji m.toList) := by
  -- the escaped message shows as itself exactly when no code is replaced and its text is itself
  have hplain : renderMarkup true (escapeMarkup m.toList) = m.toList ↔
      ¬HasStrayEscape m.toList ∧ trailingBackslashes m.toList ≠ 1 ∧ ¬ReplacesEmoji m.toList := by
    rw [renderMarkup_eq_iff (count_markupText_escapeMarkup _).symm, markupText_escapeMarkup,
      shown_eq_self_iff, ReplacesEmoji, not_not, markupText_escapeMarkup]
    tauto
  have hdim : renderMarkup true (dimMarkup m) = m.toList ↔
      ¬HasStrayEscape m.toList ∧ trailingBackslashes m.toList ≤ 1 ∧ ¬ReplacesEmoji m.toList := by
    obtain ⟨q, j, hm, hq⟩ := exists_trailing m.toList
    have hcount : m.toList.count ':' = (markupText (dimMarkup m)).count ':' := by
      rw [markupText_dimMarkup hm hq, hm, List.count_append, List.count_append, count_dropStray]
      have hbs (e : Nat) : (backslashes e).count ':' = 0 :=
        List.count_eq_zero.mpr fun h => absurd (mem_backslashes h) (by decide)
      split
      · simp [hbs]
      · split <;> simp [hbs]
    rw [renderMarkup_eq_iff hcount, markupText_dimMarkup_eq_self_iff, dimMarkup_emoji_iff]
    tauto
  obtain ⟨hgreen, hred, hyellow⟩ := renderMarkup_status true m
  rw [hgreen, hred, hyellow, List.append_cancel_left_eq, List.append_cancel_left_eq,
    List.append_cancel_left_eq]
  exact ⟨hplain, hplain, hplain, hplain, hdim⟩

/-- A success line for a path with a backslash before a bracket that opens no tag shows the
path without that backslash. -/
theorem success_line_drops_backslash_before_bracket :
    renderMarkup true (markedMarkup "green" "✓" "Wrote element tree to o\\[1].json") =
        "✓ Wrote element tree to o[1].json".toList ∧
      renderMarkup true (markedMarkup "green" "✓" "Wrote element tree to o\\[1].json") ≠
        "✓ ".toList ++ "Wrote element tree to o\\[1].json".toList := by
  have h : renderMarkup true (markedMarkup "green" "✓" "Wrote element tree to o\\[1].json") =
      "✓ Wrote element tree to o[1].json".toList := by
    rw [(renderMarkup_status true _).1,
      renderMarkup_true_of_colons (by rw [markupText_escapeMarkup]; decide),
      markupText_escapeMarkup]
    decide
  exact ⟨h, by rw [h]; decide⟩

end XmlView.Command
