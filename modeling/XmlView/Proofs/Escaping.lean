import Mathlib
import XmlView.Command.Console

/-! How the styled writer shows escaped text. Escaping puts one backslash before each tag and
doubles those already there; the writer shows an escaped tag as itself with half the backslashes
before it, and drops a backslash before a `[` that opens no tag (`markupText_escapeTags_append`).
A message ending in one backslash gets a second one, which shows unless a tag follows. -/

namespace XmlView.Command

/-! ### Runs of backslashes -/

@[simp] theorem backslashes_zero : backslashes 0 = [] := rfl

theorem backslashes_succ (n : Nat) : backslashes (n + 1) = '\\' :: backslashes n := rfl

theorem backslashes_succ' (n : Nat) : backslashes (n + 1) = backslashes n ++ ['\\'] :=
  List.replicate_succ' ..

@[simp] theorem length_backslashes (n : Nat) : (backslashes n).length = n :=
  List.length_replicate

@[simp] theorem drop_backslashes (k : Nat) (rest : List Char) :
    (backslashes k ++ rest).drop k = rest :=
  List.drop_left' (length_backslashes k)

theorem mem_backslashes {c : Char} {n : Nat} (h : c ∈ backslashes n) : c = '\\' :=
  List.eq_of_mem_replicate h

theorem takeWhile_backslashes (k : Nat) {rest : List Char} (h : rest.head? ≠ some '\\') :
    (backslashes k ++ rest).takeWhile (· == '\\') = backslashes k := by
  induction k with
  | zero =>
    cases rest with
    | nil => rfl
    | cons c r =>
      have hc : c ≠ '\\' := fun hc => h (by simp [hc])
      simp [backslashes, hc]
  | succ k ih => simp [backslashes_succ, ih]

theorem exists_run (cs : List Char) :
    ∃ k rest, cs = backslashes k ++ rest ∧ rest.head? ≠ some '\\' := by
  induction cs with
  | nil => exact ⟨0, [], rfl, by simp⟩
  | cons c cs ih =>
    by_cases hc : c = '\\'
    · obtain ⟨k, rest, rfl, hrest⟩ := ih
      exact ⟨k + 1, rest, by rw [hc]; rfl, hrest⟩
    · exact ⟨0, c :: cs, rfl, by simpa using hc⟩

theorem run_view (k : Nat) {rest : List Char} (hrest : rest.head? ≠ some '\\') {c : Char}
    {more : List Char} (hcm : backslashes k ++ rest = c :: more) :
    (c :: more).drop ((c :: more).takeWhile (· == '\\')).length = rest ∧
      ((c :: more).takeWhile (· == '\\')).length = k := by
  rw [← hcm, takeWhile_backslashes k hrest, length_backslashes, drop_backslashes]
  exact ⟨rfl, rfl⟩

/-! ### Tags -/

def isBracket (c : Char) : Bool := c == ']' || c == '['

/-- A style tag: `[`, a character that starts tags, a body without brackets, and `]`. -/
def IsTag (T : List Char) : Prop :=
  ∃ c body, T = '[' :: c :: body ++ [']'] ∧ isTagStart c = true ∧
    ∀ x ∈ body, isBracket x = false

theorem isTagStart_ne {c : Char} (hc : isTagStart c = true) :
    c ≠ '\\' ∧ c ≠ '[' ∧ isBracket c = false := by
  refine ⟨?_, ?_, ?_⟩
  · rintro rfl
    simp [isTagStart] at hc
  · rintro rfl
    simp [isTagStart] at hc
  · revert hc
    unfold isTagStart isBracket
    by_cases h1 : c = '['
    · subst h1; decide
    · by_cases h2 : c = ']'
      · subst h2; decide
      · simp [h1, h2]

theorem tagLength_of_head_ne {c : Char} (hc : c ≠ '[') (rest : List Char) :
    tagLength (c :: rest) = none := by
  unfold tagLength
  split
  · simp_all
  · rfl

theorem drop_takeWhile_length (p : Char → Bool) (l : List Char) :
    l.drop (l.takeWhile p).length = l.dropWhile p :=
  calc l.drop (l.takeWhile p).length
      = (l.takeWhile p ++ l.dropWhile p).drop (l.takeWhile p).length := by
        rw [List.takeWhile_append_dropWhile]
    _ = l.dropWhile p := List.drop_left

theorem not_bracket_eq : (fun x : Char => x != ']' && x != '[') = fun x => !isBracket x := by
  funext x
  simp [isBracket, bne]

theorem isBracket_eq : isBracket = fun x : Char => !(x != ']' && x != '[') := by
  funext x
  simp [isBracket, bne]

theorem tagLength_eq_none_iff (c : Char) (rest : List Char) :
    tagLength ('[' :: c :: rest) = none ↔
      isTagStart c = false ∨ rest.find? isBracket ≠ some ']' := by
  have hfind : rest.find? isBracket =
      (rest.drop (rest.takeWhile fun x => x != ']' && x != '[').length).head? := by
    rw [drop_takeWhile_length, ← List.find?_not_eq_head?_dropWhile, isBracket_eq]
  unfold tagLength
  by_cases hc : isTagStart c = true
  · simp only [hc, if_true, Bool.true_eq_false, false_or, hfind]
    split
    · next tail heq => simp [heq]
    · next hne =>
      refine ⟨fun _ => ?_, fun _ => rfl⟩
      cases hd : (rest.drop (rest.takeWhile fun x => x != ']' && x != '[').length) with
      | nil => simp
      | cons d tail =>
        intro h
        simp only [List.head?_cons, Option.some.injEq] at h
        subst h
        exact hne tail hd
  · simp [hc]

theorem tagLength_tag {T : List Char} (hT : IsTag T) (after : List Char) :
    tagLength (T ++ after) = some T.length := by
  obtain ⟨c, body, rfl, hc, hbody⟩ := hT
  have htake : (body ++ ']' :: after).takeWhile (fun x => x != ']' && x != '[') = body := by
    rw [not_bracket_eq, List.takeWhile_append_of_pos]
    · simp [isBracket]
    · intro x hx
      simp [hbody x hx]
  simp [tagLength, hc, htake]

theorem exists_tag_of_tagLength {rest : List Char} {n : Nat} (h : tagLength rest = some n) :
    ∃ T after, IsTag T ∧ rest = T ++ after ∧ n = T.length := by
  unfold tagLength at h
  split at h
  · next c r =>
    split at h
    · next hc =>
      dsimp only at h
      split at h
      · next tail heq =>
        cases h
        set body := r.takeWhile fun x => x != ']' && x != '['
        have hr : r = body ++ ']' :: tail := by
          rw [← heq, drop_takeWhile_length, List.takeWhile_append_dropWhile]
        refine ⟨'[' :: c :: body ++ [']'], tail, ⟨c, body, rfl, hc, fun x hx => ?_⟩, ?_, ?_⟩
        · have := List.mem_takeWhile_imp hx
          simpa [isBracket] using this
        · rw [hr]
          simp
        · simp
      · cases h
    · cases h
  · cases h

theorem isTag_ne_nil {T : List Char} (hT : IsTag T) : T ≠ [] := by
  obtain ⟨c, body, rfl, -, -⟩ := hT
  simp

theorem IsTag.getLast? {T : List Char} (hT : IsTag T) : T.getLast? = some ']' := by
  obtain ⟨c, body, rfl, -, -⟩ := hT
  rw [show '[' :: c :: body ++ [']'] = ('[' :: c :: body) ++ [']'] from rfl, List.getLast?_concat]

/-- Text closes no tag opened before it: its first bracket, if it has one, is `[`. -/
def ClosesNoTag (t : List Char) : Prop := t.find? isBracket ≠ some ']'

theorem closesNoTag_backslashes (j : Nat) (u : List Char) (hu : u.head? = some '[' ∨ u = []) :
    ClosesNoTag (backslashes j ++ u) := by
  have hj : (backslashes j).find? isBracket = none := by
    rw [List.find?_eq_none]
    intro x hx
    rw [mem_backslashes hx]
    decide
  unfold ClosesNoTag
  rw [List.find?_append, hj, Option.none_or]
  rcases hu with hu | rfl
  · obtain ⟨u', rfl⟩ : ∃ u', u = '[' :: u' := by
      cases u with
      | nil => cases hu
      | cons x u' => simp only [List.head?_cons, Option.some.injEq] at hu; exact ⟨u', by rw [hu]⟩
    simp [isBracket]
  · simp

theorem closesNoTag_run (j : Nat) : ClosesNoTag (backslashes j) := by
  simpa using closesNoTag_backslashes j [] (.inr rfl)

theorem closesNoTag_append {x : List Char} (hx : x.find? isBracket ≠ some ']') {t : List Char}
    (ht : ClosesNoTag t) : ClosesNoTag (x ++ t) := by
  unfold ClosesNoTag
  rw [List.find?_append]
  cases hf : x.find? isBracket with
  | none => simpa [ClosesNoTag] using ht
  | some b => simpa [hf] using hx

theorem tagLength_append_of_none {x : List Char} (hx : tagLength x = none) (hne : x ≠ [])
    {t : List Char} (ht : ClosesNoTag t) : tagLength (x ++ t) = none := by
  obtain ⟨a, x', rfl⟩ := List.exists_cons_of_ne_nil hne
  by_cases ha : a = '['
  · subst ha
    cases x' with
    | nil =>
      cases t with
      | nil => rfl
      | cons d t' =>
        rw [List.singleton_append, tagLength_eq_none_iff]
        by_cases hd : isTagStart d = true
        · refine .inr fun h => ht ?_
          simp [(isTagStart_ne hd).2.2, h]
        · simp_all
    | cons d x'' =>
      rw [tagLength_eq_none_iff] at hx
      rw [List.cons_append, List.cons_append, tagLength_eq_none_iff]
      exact hx.imp_right fun hx => closesNoTag_append hx ht
  · exact tagLength_of_head_ne ha _

/-! ### Escaping, read run by run -/

/-- Text read as the writer reads it: a run of backslashes and a tag, a run of backslashes
that no tag follows, or a character that is neither a backslash nor the start of a tag. -/
theorem markup_induction {motive : List Char → Prop} (nil : motive [])
    (tag : ∀ k T after, IsTag T → motive after → motive (backslashes k ++ (T ++ after)))
    (run : ∀ k rest, 0 < k → rest.head? ≠ some '\\' → tagLength rest = none → motive rest →
      motive (backslashes k ++ rest))
    (char : ∀ c more, c ≠ '\\' → tagLength (c :: more) = none → motive more →
      motive (c :: more))
    (cs : List Char) : motive cs := by
  induction hn : cs.length using Nat.strong_induction_on generalizing cs with
  | _ n ih =>
    obtain ⟨k, rest, rfl, hrest⟩ := exists_run cs
    cases htag : tagLength rest with
    | some m =>
      obtain ⟨T, after, hT, rfl, -⟩ := exists_tag_of_tagLength htag
      have hlen : 0 < T.length := List.length_pos_of_ne_nil (isTag_ne_nil hT)
      exact tag k T after hT (ih after.length (by simp at hn; omega) after rfl)
    | none =>
      rcases Nat.eq_zero_or_pos k with rfl | hk
      · cases rest with
        | nil => exact nil
        | cons c more =>
          have hc : c ≠ '\\' := fun h => hrest (by simp [h])
          exact char c more hc htag (ih more.length (by simp at hn; omega) more rfl)
      · exact run k rest hk hrest htag (ih rest.length (by simp at hn; omega) rest rfl)

theorem escapeTags_tag (k : Nat) {T : List Char} (hT : IsTag T) (after : List Char) :
    escapeTags (backslashes k ++ (T ++ after)) =
      backslashes (2 * k + 1) ++ T ++ escapeTags after := by
  obtain ⟨c, more, hcm⟩ := List.exists_cons_of_ne_nil (l := backslashes k ++ (T ++ after))
    (by simp [isTag_ne_nil hT])
  have hhead : (T ++ after).head? ≠ some '\\' := by
    obtain ⟨c', body, rfl, -, -⟩ := hT
    simp
  obtain ⟨hrest, hk⟩ := run_view k hhead hcm
  rw [hcm, escapeTags.eq_def]
  dsimp only
  split
  · next n h =>
    rw [hrest, tagLength_tag hT] at h
    cases h
    rw [hrest, hk, List.take_left', List.drop_left'] <;> rfl
  · next h =>
    rw [hrest, tagLength_tag hT] at h
    cases h

theorem escapeTags_run {k : Nat} (hk : 0 < k) {rest : List Char} (hrest : rest.head? ≠ some '\\')
    (h : tagLength rest = none) : escapeTags (backslashes k ++ rest) = backslashes k ++ escapeTags rest := by
  obtain ⟨k, rfl⟩ := Nat.exists_eq_add_of_lt hk
  have hcm : backslashes (0 + k + 1) ++ rest = '\\' :: (backslashes k ++ rest) := by
    rw [Nat.zero_add]
    rfl
  obtain ⟨hr, hkk⟩ := run_view _ hrest hcm
  rw [hcm, escapeTags.eq_def]
  dsimp only
  split
  · next n h' =>
    rw [hr, h] at h'
    cases h'
  · rw [dif_pos (by rw [hkk]; omega), hr, hkk]

theorem escapeTags_char {c : Char} (hc : c ≠ '\\') {more : List Char}
    (h : tagLength (c :: more) = none) : escapeTags (c :: more) = c :: escapeTags more := by
  have hcm : backslashes 0 ++ c :: more = c :: more := rfl
  obtain ⟨hr, hk⟩ := run_view 0 (by simpa using hc) hcm
  rw [escapeTags.eq_def]
  dsimp only
  split
  · next n h' =>
    rw [hr, h] at h'
    cases h'
  · rw [dif_neg (by rw [hk]; omega)]

@[simp] theorem escapeTags_nil : escapeTags [] = [] := by
  rw [escapeTags]

@[simp] theorem markupStream_nil : markupStream [] = [] := by
  rw [markupStream]

@[simp] theorem markupText_nil : markupText [] = [] := by
  simp [markupText]

theorem escapeTags_backslashes (j : Nat) : escapeTags (backslashes j) = backslashes j := by
  rcases Nat.eq_zero_or_pos j with rfl | hj
  · simp
  · have := escapeTags_run hj (by simp : ([] : List Char).head? ≠ some '\\') rfl
    simpa using this

theorem getLast?_ne_of_append {x y : List Char} (h : (x ++ y).getLast? ≠ some '\\') :
    y.getLast? ≠ some '\\' := by
  intro hy
  rw [List.getLast?_append, hy] at h
  exact h rfl

theorem ne_nil_of_run {k : Nat} (hk : 0 < k) {rest : List Char}
    (h : (backslashes k ++ rest).getLast? ≠ some '\\') : rest ≠ [] := by
  rintro rfl
  obtain ⟨k, rfl⟩ := Nat.exists_eq_add_of_lt hk
  simp [backslashes_succ'] at h

theorem filter_escapeTags (cs : List Char) :
    (escapeTags cs).filter (· != '\\') = cs.filter (· != '\\') := by
  induction cs using markup_induction with
  | nil => simp
  | tag k T after hT ih =>
    have hbs : ∀ j, (backslashes j).filter (· != '\\') = [] := fun j => by
      rw [List.filter_eq_nil_iff]
      intro x hx
      simp [mem_backslashes hx]
    rw [escapeTags_tag k hT]
    simp only [List.filter_append, hbs, ih, List.nil_append]
  | run k rest hk hrest h ih => rw [escapeTags_run hk hrest h, List.filter_append, ih,
      List.filter_append]
  | char c more hc h ih => simp [escapeTags_char hc h, ih, hc]

theorem find?_escapeTags (cs : List Char) :
    (escapeTags cs).find? isBracket = cs.find? isBracket := by
  have hfilter : ∀ l : List Char, (l.filter (· != '\\')).find? isBracket = l.find? isBracket := by
    intro l
    rw [List.find?_filter]
    congr 1
    funext x
    by_cases hx : x = '\\'
    · subst hx
      decide
    · simp [hx]
  rw [← hfilter, filter_escapeTags, hfilter]

theorem getLast?_escapeTags (cs : List Char) : (escapeTags cs).getLast? = cs.getLast? := by
  induction cs using markup_induction with
  | nil => simp
  | tag k T after hT ih =>
    rw [escapeTags_tag k hT]
    cases h : after.getLast? <;> simp [List.getLast?_append, ih, hT.getLast?, h]
  | run k rest hk hrest h ih => rw [escapeTags_run hk hrest h, List.getLast?_append, ih,
      List.getLast?_append]
  | char c more hc h ih => rw [escapeTags_char hc h, List.getLast?_cons, ih, List.getLast?_cons]

theorem escapeTags_cons (c : Char) (more : List Char) :
    ∃ e rest, escapeTags (c :: more) = e :: rest ∧ (e = c ∨ e = '\\') := by
  obtain ⟨k, rest, hcm, hrest⟩ := exists_run (c :: more)
  cases htag : tagLength rest with
  | some n =>
    obtain ⟨T, after, hT, rfl, -⟩ := exists_tag_of_tagLength htag
    rw [hcm, escapeTags_tag k hT]
    exact ⟨'\\', _, rfl, .inr rfl⟩
  | none =>
    rcases Nat.eq_zero_or_pos k with rfl | hk
    · rw [backslashes_zero, List.nil_append] at hcm
      subst hcm
      have hc : c ≠ '\\' := by simpa using hrest
      rw [escapeTags_char hc htag]
      exact ⟨c, _, rfl, .inl rfl⟩
    · obtain ⟨k, rfl⟩ := Nat.exists_eq_add_of_lt hk
      rw [hcm, escapeTags_run hk hrest htag]
      exact ⟨'\\', _, rfl, .inr rfl⟩

theorem tagLength_escapeTags_append {y : List Char} (hy : tagLength ('[' :: y) = none)
    {t : List Char} (ht : ClosesNoTag t) : tagLength ('[' :: (escapeTags y ++ t)) = none := by
  cases y with
  | nil =>
    rw [escapeTags_nil]
    exact tagLength_append_of_none (x := ['[']) rfl (by simp) ht
  | cons d y' =>
    rw [tagLength_eq_none_iff] at hy
    by_cases hd : isTagStart d = true
    · obtain ⟨hd1, hd2, -⟩ := isTagStart_ne hd
      rw [escapeTags_char hd1 (tagLength_of_head_ne hd2 _), List.cons_append,
        tagLength_eq_none_iff]
      refine .inr (closesNoTag_append ?_ ht)
      rw [find?_escapeTags]
      exact hy.resolve_left (by simp [hd])
    · obtain ⟨e, rest, he, hed⟩ := escapeTags_cons d y'
      rw [he, List.cons_append, tagLength_eq_none_iff]
      refine .inl ?_
      rcases hed with rfl | rfl
      · simpa using hd
      · decide

theorem tagLength_cons_escapeTags_append {c : Char} {more : List Char}
    (h : tagLength (c :: more) = none) {t : List Char} (ht : ClosesNoTag t) :
    tagLength (c :: (escapeTags more ++ t)) = none := by
  by_cases hc : c = '['
  · subst hc
    exact tagLength_escapeTags_append h ht
  · exact tagLength_of_head_ne hc _

theorem escapeTags_append {x : List Char} (hx : x.getLast? ≠ some '\\') {y : List Char}
    (hy : ClosesNoTag y) : escapeTags (x ++ y) = escapeTags x ++ escapeTags y := by
  induction x using markup_induction with
  | nil => simp
  | tag k T after hT ih =>
    rw [List.append_assoc, List.append_assoc, escapeTags_tag k hT, escapeTags_tag k hT,
      ih (getLast?_ne_of_append (getLast?_ne_of_append hx))]
    simp
  | run k rest hk hrest h ih =>
    have hne := ne_nil_of_run hk hx
    have hrest' : (rest ++ y).head? ≠ some '\\' := by
      rwa [List.head?_append_of_ne_nil _ hne]
    rw [List.append_assoc, escapeTags_run hk hrest' (tagLength_append_of_none h hne hy),
      escapeTags_run hk hrest h, ih (getLast?_ne_of_append hx), List.append_assoc]
  | char c more hc h ih =>
    have h' := tagLength_append_of_none h (List.cons_ne_nil _ _) hy
    rw [List.cons_append] at h'
    rw [List.cons_append, escapeTags_char hc h', escapeTags_char hc h,
      ih (getLast?_ne_of_append (x := [c]) hx), List.cons_append]

theorem tagLength_append_of_some {x : List Char} {n : Nat} (h : tagLength x = some n)
    (y : List Char) : tagLength (x ++ y) = some n := by
  obtain ⟨T, after, hT, rfl, rfl⟩ := exists_tag_of_tagLength h
  rw [List.append_assoc, tagLength_tag hT]

/-! ### What the writer reads

Each lemma is stated for the stream the writer reads, cuts included, and then for the text it
shows. -/

theorem markupStream_tag (k : Nat) {T : List Char} (hT : IsTag T) (after : List Char) :
    markupStream (backslashes k ++ (T ++ after)) =
      none :: (backslashes (k / 2)).map some ++ none ::
        ((if k % 2 = 1 then T.map some ++ [none] else []) ++ markupStream after) := by
  obtain ⟨c, more, hcm⟩ := List.exists_cons_of_ne_nil (l := backslashes k ++ (T ++ after))
    (by simp [isTag_ne_nil hT])
  have hhead : (T ++ after).head? ≠ some '\\' := by
    obtain ⟨c', body, rfl, -, -⟩ := hT
    simp
  obtain ⟨hrest, hk⟩ := run_view k hhead hcm
  rw [hcm, markupStream.eq_def]
  dsimp only
  split
  · next n h =>
    rw [hrest, tagLength_tag hT] at h
    cases h
    rw [hrest, hk, List.take_left', List.drop_left']
    · simp
    · rfl
    · rfl
  · next h =>
    rw [hrest, tagLength_tag hT] at h
    cases h

theorem markupText_tag (k : Nat) {T : List Char} (hT : IsTag T) (after : List Char) :
    markupText (backslashes k ++ (T ++ after)) =
      backslashes (k / 2) ++ (if k % 2 = 1 then T else []) ++ markupText after := by
  rw [markupText, markupStream_tag k hT after]
  split <;> simp [markupText, List.filterMap_append]

theorem markupStream_tag_append {T : List Char} (hT : IsTag T) (after : List Char) :
    markupStream (T ++ after) = none :: none :: markupStream after := by
  simpa using markupStream_tag 0 hT after

theorem markupText_tag_append {T : List Char} (hT : IsTag T) (after : List Char) :
    markupText (T ++ after) = markupText after := by
  simp [markupText, markupStream_tag_append hT]

theorem markupStream_char {c : Char} (hc : c ≠ '\\') {more : List Char}
    (h : tagLength (c :: more) = none) : markupStream (c :: more) = some c :: markupStream more := by
  have hcm : backslashes 0 ++ c :: more = c :: more := rfl
  obtain ⟨hr, -⟩ := run_view 0 (by simpa using hc) hcm
  rw [markupStream.eq_def]
  dsimp only
  split
  · next n h' =>
    rw [hr, h] at h'
    cases h'
  · split
    · next more' => exact absurd rfl hc
    · rfl

theorem markupText_char {c : Char} (hc : c ≠ '\\') {more : List Char}
    (h : tagLength (c :: more) = none) : markupText (c :: more) = c :: markupText more := by
  simp [markupText, markupStream_char hc h]

theorem markupStream_backslash (k : Nat) {rest : List Char} (hrest : rest.head? ≠ some '\\')
    (h : tagLength rest = none) (hb : 0 < k ∨ rest.head? ≠ some '[') :
    markupStream ('\\' :: (backslashes k ++ rest)) =
      some '\\' :: markupStream (backslashes k ++ rest) := by
  have hcm : backslashes (k + 1) ++ rest = '\\' :: (backslashes k ++ rest) := rfl
  obtain ⟨hr, -⟩ := run_view (k + 1) hrest hcm
  rw [markupStream.eq_def]
  dsimp only
  split
  · next n h' =>
    rw [hr, h] at h'
    cases h'
  · split
    · next more' heq =>
      exfalso
      rcases hb with hk | hb
      · obtain ⟨k, rfl⟩ := Nat.exists_eq_add_of_lt hk
        simp [backslashes_succ] at heq
      · cases k with
        | zero => simp_all
        | succ k => simp [backslashes_succ] at heq
    · rfl

theorem markupStream_stray {r : List Char} (h : tagLength ('[' :: r) = none) :
    markupStream ('\\' :: '[' :: r) = some '[' :: markupStream r := by
  have hcm : backslashes 1 ++ '[' :: r = '\\' :: '[' :: r := rfl
  obtain ⟨hr, -⟩ := run_view 1 (by simp) hcm
  rw [markupStream.eq_def]
  dsimp only
  split
  · next n h' =>
    rw [hr, h] at h'
    cases h'
  · rfl

theorem markupStream_run (k : Nat) {rest : List Char} (hrest : rest.head? ≠ some '\\')
    (hopen : rest.head? ≠ some '[') :
    markupStream (backslashes k ++ rest) = (backslashes k).map some ++ markupStream rest := by
  have h : tagLength rest = none := by
    cases rest with
    | nil => rfl
    | cons c r => exact tagLength_of_head_ne (by simpa using hopen) r
  induction k with
  | zero => simp
  | succ k ih =>
    rw [backslashes_succ, List.cons_append, markupStream_backslash k hrest h (.inr hopen), ih]
    rfl

theorem markupText_run (k : Nat) {rest : List Char} (hrest : rest.head? ≠ some '\\')
    (hopen : rest.head? ≠ some '[') :
    markupText (backslashes k ++ rest) = backslashes k ++ markupText rest := by
  simp [markupText, markupStream_run k hrest hopen, List.filterMap_append]

theorem markupStream_run_stray (k : Nat) {r : List Char} (h : tagLength ('[' :: r) = none) :
    markupStream (backslashes (k + 1) ++ '[' :: r) =
      (backslashes k).map some ++ some '[' :: markupStream r := by
  induction k with
  | zero => exact markupStream_stray h
  | succ k ih =>
    rw [backslashes_succ, List.cons_append,
      markupStream_backslash (k + 1) (by simp) h (.inl (Nat.succ_pos k)), ih]
    rfl

theorem markupText_run_stray (k : Nat) {r : List Char} (h : tagLength ('[' :: r) = none) :
    markupText (backslashes (k + 1) ++ '[' :: r) = backslashes k ++ '[' :: markupText r := by
  simp [markupText, markupStream_run_stray k h, List.filterMap_append]

theorem markupStream_backslashes (j : Nat) :
    markupStream (backslashes j) = (backslashes j).map some := by
  simpa using markupStream_run j (by simp : ([] : List Char).head? ≠ some '\\') (by simp)

theorem markupText_backslashes (j : Nat) : markupText (backslashes j) = backslashes j := by
  simp [markupText, markupStream_backslashes, List.filterMap_map]

theorem markupStream_plain {x : List Char} (hx : ∀ c ∈ x, c ≠ '\\' ∧ c ≠ '[') (y : List Char) :
    markupStream (x ++ y) = x.map some ++ markupStream y := by
  induction x with
  | nil => rfl
  | cons c x ih =>
    have hc := hx c (by simp)
    rw [List.cons_append, markupStream_char hc.1 (tagLength_of_head_ne hc.2 _),
      ih fun a ha => hx a (by simp [ha]), List.map_cons, List.cons_append]

/-- Markup read in two parts: the first does not end in a backslash and the second closes no
tag, so no run, tag or escaped `[` is cut between them. -/
theorem markupStream_append {x : List Char} (hx : x.getLast? ≠ some '\\') {t : List Char}
    (ht : ClosesNoTag t) : markupStream (x ++ t) = markupStream x ++ markupStream t := by
  induction x using markup_induction with
  | nil => simp
  | tag k T after hT ih =>
    rw [List.append_assoc, List.append_assoc, markupStream_tag k hT,
      markupStream_tag k hT, ih (getLast?_ne_of_append (getLast?_ne_of_append hx))]
    simp
  | run k rest hk hrest h ih =>
    obtain ⟨c, more, rfl⟩ := List.exists_cons_of_ne_nil (ne_nil_of_run hk hx)
    have hnext := tagLength_append_of_none h (List.cons_ne_nil _ _) ht
    rw [List.cons_append] at hnext
    have ih' := ih (getLast?_ne_of_append hx)
    rw [List.append_assoc, List.cons_append]
    by_cases hc : c = '['
    · -- the run ends before a `[` that opens no tag, which takes its last backslash
      subst hc
      obtain ⟨k, rfl⟩ := Nat.exists_eq_add_of_lt hk
      rw [Nat.zero_add, markupStream_run_stray k hnext, markupStream_run_stray k h]
      rw [List.cons_append, markupStream_char (by decide) hnext, markupStream_char (by decide) h,
        List.cons_append, List.cons.injEq] at ih'
      rw [ih'.2]
      simp
    · have hc' : c ≠ '\\' := by simpa using hrest
      rw [markupStream_run k (by simpa using hc') (by simpa using hc),
        markupStream_run k (by simpa using hc') (by simpa using hc), ← List.cons_append, ih',
        List.append_assoc]
  | char c more hc h ih =>
    have hnext := tagLength_append_of_none h (List.cons_ne_nil _ _) ht
    rw [List.cons_append] at hnext
    rw [List.cons_append, markupStream_char hc hnext, markupStream_char hc h,
      ih (getLast?_ne_of_append (x := [c]) hx), List.cons_append]

/-! ### Backslashes the writer drops -/

/-- Text as the writer shows it when it holds no style: the backslash before each `[` that
opens no tag is taken out. -/
def dropStray : List Char → List Char
  | [] => []
  | '\\' :: '[' :: rest =>
    (if (tagLength ('[' :: rest)).isSome then ['\\', '['] else ['[']) ++ dropStray rest
  | c :: rest => c :: dropStray rest

/-- A backslash of the text stands right before a `[` that opens no tag. -/
def HasStrayEscape (cs : List Char) : Prop :=
  ∃ a r, cs = a ++ '\\' :: '[' :: r ∧ tagLength ('[' :: r) = none

def trailingBackslashes (cs : List Char) : Nat := (cs.reverse.takeWhile (· == '\\')).length

theorem dropStray_cons {c : Char} (hc : c ≠ '\\') (r : List Char) :
    dropStray (c :: r) = c :: dropStray r :=
  dropStray.eq_3 c r fun _ h _ => hc h

theorem dropStray_backslash {r : List Char} (hr : r.head? ≠ some '[') :
    dropStray ('\\' :: r) = '\\' :: dropStray r :=
  dropStray.eq_3 _ r fun r' _ h => hr (by simp [h])

theorem dropStray_stray {r : List Char} (h : tagLength ('[' :: r) = none) :
    dropStray ('\\' :: '[' :: r) = '[' :: dropStray r := by
  simp [dropStray, h]

theorem dropStray_escaped {r : List Char} (h : (tagLength ('[' :: r)).isSome) :
    dropStray ('\\' :: '[' :: r) = '\\' :: '[' :: dropStray r := by
  simp [dropStray, h]

theorem dropStray_run (k : Nat) {y : List Char}
    (hy : y.head? ≠ some '[' ∨ (tagLength y).isSome) :
    dropStray (backslashes k ++ y) = backslashes k ++ dropStray y := by
  induction k with
  | zero => simp
  | succ k ih =>
    rw [backslashes_succ, List.cons_append, List.cons_append]
    rcases Nat.eq_zero_or_pos k with rfl | hk
    · simp only [backslashes_zero, List.nil_append]
      rcases hy with hy | hy
      · exact dropStray_backslash hy
      · obtain ⟨n, hn⟩ := Option.isSome_iff_exists.mp hy
        obtain ⟨T, after, ⟨c, body, rfl, -, -⟩, rfl, -⟩ := exists_tag_of_tagLength hn
        simp only [List.cons_append] at hy ⊢
        rw [dropStray_escaped hy, dropStray_cons (by decide : '[' ≠ '\\')]
    · obtain ⟨k, rfl⟩ := Nat.exists_eq_add_of_lt hk
      rw [dropStray_backslash (by simp [backslashes_succ]), ih]

theorem dropStray_run_stray (k : Nat) {r : List Char} (h : tagLength ('[' :: r) = none) :
    dropStray (backslashes (k + 1) ++ '[' :: r) = backslashes k ++ '[' :: dropStray r := by
  rw [backslashes_succ', List.append_assoc, List.singleton_append,
    dropStray_run k (.inl (by simp)), dropStray_stray h]

theorem dropStray_backslashes (j : Nat) : dropStray (backslashes j) = backslashes j := by
  simpa [dropStray] using dropStray_run j (y := []) (.inl (by simp))

theorem dropStray_plain {x : List Char} (hx : ∀ c ∈ x, c ≠ '[') {y : List Char}
    (hy : y.head? ≠ some '[') : dropStray (x ++ y) = x ++ dropStray y := by
  induction x with
  | nil => rfl
  | cons a x ih =>
    have hnext : (x ++ y).head? ≠ some '[' := by
      cases x with
      | nil => simpa using hy
      | cons b x' => simpa using hx b (by simp)
    rw [List.cons_append, List.cons_append, ← ih fun c hc => hx c (by simp [hc])]
    by_cases ha : a = '\\'
    · rw [ha, dropStray_backslash hnext]
    · rw [dropStray_cons ha]

theorem dropStray_tag (k : Nat) {T : List Char} (hT : IsTag T) (after : List Char) :
    dropStray (backslashes k ++ (T ++ after)) = backslashes k ++ T ++ dropStray after := by
  rw [dropStray_run k (.inr (by rw [tagLength_tag hT]; rfl)), List.append_assoc]
  congr 1
  obtain ⟨c, body, rfl, hc, hbody⟩ := hT
  have hplain : ∀ x ∈ c :: body, x ≠ '[' := by
    intro x hx
    rcases List.mem_cons.mp hx with rfl | hx
    · exact (isTagStart_ne hc).2.1
    · intro h
      have := hbody x hx
      simp [h, isBracket] at this
  have := dropStray_plain hplain (y := ']' :: after) (by simp)
  rw [dropStray_cons (by decide : ']' ≠ '\\')] at this
  simp only [List.cons_append, List.append_assoc, List.nil_append] at this ⊢
  rw [dropStray_cons (by decide : '[' ≠ '\\'), this]

theorem dropStray_append {x : List Char} (hx : x.getLast? ≠ some '\\') {y : List Char}
    (hy : ClosesNoTag y) : dropStray (x ++ y) = dropStray x ++ dropStray y := by
  induction x using dropStray.induct with
  | case1 => rfl
  | case2 rest ih =>
    have hsome : (tagLength ('[' :: (rest ++ y))).isSome = (tagLength ('[' :: rest)).isSome := by
      cases h : tagLength ('[' :: rest) with
      | none =>
        have := tagLength_append_of_none h (List.cons_ne_nil _ _) hy
        rw [List.cons_append] at this
        rw [this]
      | some n =>
        have := tagLength_append_of_some h y
        rw [List.cons_append] at this
        rw [this]
    simp only [List.cons_append, dropStray, hsome, List.append_assoc]
    rw [ih (getLast?_ne_of_append (x := ['\\', '[']) hx)]
  | case3 c rest hne ih =>
    have hnext : ∀ r', c = '\\' → rest ++ y = '[' :: r' → False := by
      intro r' hc h
      cases rest with
      | nil =>
        subst hc
        simp at hx
      | cons b rest' =>
        simp only [List.cons_append, List.cons.injEq] at h
        exact hne _ hc (by rw [h.1])
    rw [List.cons_append, dropStray.eq_3 c _ hnext, dropStray.eq_3 c rest hne,
      ih (getLast?_ne_of_append (x := [c]) hx), List.cons_append]

theorem getLast?_dropStray (cs : List Char) : (dropStray cs).getLast? = cs.getLast? := by
  induction cs using dropStray.induct with
  | case1 => rfl
  | case2 rest ih =>
    cases h : (tagLength ('[' :: rest)).isSome <;>
      simp [dropStray, h, ih, List.getLast?_cons]
  | case3 c rest hne ih => rw [dropStray.eq_3 c rest hne, List.getLast?_cons, ih, List.getLast?_cons]

theorem length_dropStray_le (cs : List Char) : (dropStray cs).length ≤ cs.length := by
  induction cs using dropStray.induct with
  | case1 => rfl
  | case2 rest ih =>
    simp only [dropStray, List.length_append, List.length_cons]
    split <;> simp <;> omega
  | case3 c rest hne ih =>
    rw [dropStray.eq_3 c rest hne, List.length_cons, List.length_cons]
    omega

theorem hasStrayEscape_cons (c : Char) (r : List Char) :
    HasStrayEscape (c :: r) ↔
      (c = '\\' ∧ ∃ r', r = '[' :: r' ∧ tagLength ('[' :: r') = none) ∨ HasStrayEscape r := by
  constructor
  · rintro ⟨a, r', h, hr'⟩
    cases a with
    | nil =>
      simp only [List.nil_append, List.cons.injEq] at h
      exact .inl ⟨h.1, r', h.2, hr'⟩
    | cons a0 a =>
      simp only [List.cons_append, List.cons.injEq] at h
      exact .inr ⟨a, r', h.2, hr'⟩
  · rintro (⟨rfl, r', rfl, hr'⟩ | ⟨a, r', rfl, hr'⟩)
    · exact ⟨[], r', rfl, hr'⟩
    · exact ⟨c :: a, r', rfl, hr'⟩

theorem not_hasStrayEscape_nil : ¬HasStrayEscape [] := by
  rintro ⟨a, r, h, -⟩
  cases a <;> simp at h

theorem dropStray_eq_self_iff (cs : List Char) : dropStray cs = cs ↔ ¬HasStrayEscape cs := by
  induction cs using dropStray.induct with
  | case1 => simp [dropStray, not_hasStrayEscape_nil]
  | case2 rest ih =>
    rw [hasStrayEscape_cons, hasStrayEscape_cons]
    by_cases h : (tagLength ('[' :: rest)).isSome
    · have hnone : tagLength ('[' :: rest) ≠ none := by simpa [Option.isSome_iff_ne_none] using h
      simp [dropStray_escaped h, ih, hnone]
    · have hnone : tagLength ('[' :: rest) = none := by simpa using h
      simp [dropStray_stray hnone, hnone]
  | case3 c rest hne ih =>
    rw [dropStray.eq_3 c rest hne, List.cons.injEq, ih, hasStrayEscape_cons]
    constructor
    · rintro ⟨-, hr⟩ (⟨hc, r', hr', -⟩ | hs)
      · exact hne r' hc hr'
      · exact hr hs
    · intro h
      exact ⟨rfl, fun hs => h (.inr hs)⟩

theorem trailingBackslashes_append {x : List Char} (hx : x.getLast? ≠ some '\\') (j : Nat) :
    trailingBackslashes (x ++ backslashes j) = j := by
  have hrev : (backslashes j).reverse = backslashes j := List.reverse_replicate ..
  unfold trailingBackslashes
  rw [List.reverse_append, hrev, takeWhile_backslashes j (by rwa [List.head?_reverse]),
    length_backslashes]

theorem exists_trailing (cs : List Char) :
    ∃ q j, cs = q ++ backslashes j ∧ q.getLast? ≠ some '\\' := by
  obtain ⟨j, r, hr, hhead⟩ := exists_run cs.reverse
  refine ⟨r.reverse, j, ?_, by rwa [List.getLast?_reverse]⟩
  rw [← List.reverse_reverse cs, hr, List.reverse_append]
  congr 1
  exact List.reverse_replicate ..

/-! ### Escaped text as the writer shows it -/

/-- Escaped text that does not end in a backslash, followed by text that closes no tag,
shows as the text without the backslashes before a `[` that opens no tag, then as the
text that follows. -/
theorem markupText_escapeTags_append {p : List Char} (hp : p.getLast? ≠ some '\\')
    {t : List Char} (ht : ClosesNoTag t) :
    markupText (escapeTags p ++ t) = dropStray p ++ markupText t := by
  induction p using markup_induction with
  | nil => simp [dropStray]
  | tag k T after hT ih =>
    -- an escaped tag has an odd run before it, so it shows as itself with the run halved
    have hodd : (2 * k + 1) / 2 = k ∧ (2 * k + 1) % 2 = 1 := by omega
    rw [escapeTags_tag k hT, dropStray_tag k hT, List.append_assoc, List.append_assoc,
      markupText_tag (2 * k + 1) hT, hodd.1, if_pos hodd.2,
      ih (getLast?_ne_of_append (getLast?_ne_of_append hp))]
    simp
  | run k rest hk hrest h ih =>
    -- the run is followed by a character, since the text does not end in a backslash
    obtain ⟨c, more, rfl⟩ := List.exists_cons_of_ne_nil (ne_nil_of_run hk hp)
    have hc : c ≠ '\\' := by simpa using hrest
    have hnext := tagLength_cons_escapeTags_append h ht
    have ih' := ih (getLast?_ne_of_append hp)
    rw [escapeTags_char hc h, List.cons_append] at ih'
    rw [escapeTags_run hk hrest h, escapeTags_char hc h, List.append_assoc, List.cons_append]
    by_cases hc' : c = '['
    · -- the last backslash of the run stands before a `[` that opens no tag
      subst hc'
      obtain ⟨k, rfl⟩ := Nat.exists_eq_add_of_lt hk
      rw [markupText_char (by decide) hnext, dropStray_cons (by decide), List.cons_append,
        List.cons.injEq] at ih'
      rw [Nat.zero_add, markupText_run_stray k hnext, ih'.2, dropStray_run_stray k h]
      simp
    · rw [markupText_run k (by simpa using hc) (by simpa using hc'), ih',
        dropStray_run k (.inl (by simpa using hc')), List.append_assoc]
  | char c more hc h ih =>
    have hnext := tagLength_cons_escapeTags_append h ht
    rw [escapeTags_char hc h, List.cons_append, markupText_char hc hnext,
      ih (getLast?_ne_of_append (x := [c]) hp), dropStray_cons hc, List.cons_append]

theorem escapeMarkup_append {q : List Char} (hq : q.getLast? ≠ some '\\') (j : Nat) :
    escapeMarkup (q ++ backslashes j) = escapeTags q ++ backslashes (if j = 1 then 2 else j) := by
  have hj := closesNoTag_run j
  have htail := trailingBackslashes_append (x := escapeTags q) (by rwa [getLast?_escapeTags]) j
  unfold trailingBackslashes at htail
  unfold escapeMarkup
  rw [escapeTags_append hq hj, escapeTags_backslashes]
  dsimp only
  rw [htail]
  by_cases h : j = 1
  · subst h
    simp [backslashes_succ']
  · simp [h]

/-- Escaped text shows as the text without the backslashes before a `[` that opens no tag,
and with one backslash more when it ends in exactly one. -/
theorem markupText_escapeMarkup (cs : List Char) :
    markupText (escapeMarkup cs) =
      dropStray cs ++ (if trailingBackslashes cs = 1 then ['\\'] else []) := by
  obtain ⟨q, j, rfl, hq⟩ := exists_trailing cs
  have hj := closesNoTag_run (if j = 1 then 2 else j)
  rw [escapeMarkup_append hq, markupText_escapeTags_append hq hj, markupText_backslashes,
    trailingBackslashes_append hq, dropStray_append hq (closesNoTag_run j), dropStray_backslashes]
  by_cases h : j = 1
  · subst h
    simp [backslashes_succ']
  · simp [h]

theorem isTag_dim : IsTag "[dim]".toList := ⟨'d', ['i', 'm'], by decide, rfl, by simp [isBracket]⟩

theorem isTag_dim_close : IsTag "[/dim]".toList := ⟨'/', ['d', 'i', 'm'], by decide, rfl, by simp [isBracket]⟩

theorem markupText_dimMarkup {m : String} {q : List Char} {j : Nat}
    (hm : m.toList = q ++ backslashes j) (hq : q.getLast? ≠ some '\\') :
    markupText (dimMarkup m) = dropStray q ++
      if j = 1 then backslashes 1
      else backslashes (j / 2) ++ (if j % 2 = 1 then "[/dim]".toList else []) := by
  have hclose (e : Nat) : ClosesNoTag (backslashes e ++ "[/dim]".toList) :=
    closesNoTag_backslashes e _ (.inl rfl)
  unfold dimMarkup
  rw [hm, escapeMarkup_append hq, List.append_assoc, markupText_tag_append isTag_dim,
    List.append_assoc, markupText_escapeTags_append hq (hclose _)]
  have hend := markupText_tag (if j = 1 then 2 else j) isTag_dim_close []
  rw [List.append_nil, markupText_nil, List.append_nil] at hend
  rw [hend]
  by_cases h : j = 1
  · simp [h]
  · simp [h]

/-- Escaped text shows as itself exactly when no backslash stands before a `[` that opens no
tag and it does not end in exactly one backslash. -/
theorem shown_eq_self_iff (cs : List Char) :
    dropStray cs ++ (if trailingBackslashes cs = 1 then ['\\'] else []) = cs ↔
      ¬HasStrayEscape cs ∧ trailingBackslashes cs ≠ 1 := by
  obtain ⟨q, j, rfl, hq⟩ := exists_trailing cs
  have hj := closesNoTag_run j
  rw [trailingBackslashes_append hq, ← dropStray_eq_self_iff, dropStray_append hq hj,
    dropStray_backslashes]
  by_cases h : j = 1
  · -- the shown text ends in two backslashes where the text ends in one
    subst h
    refine iff_of_false (fun heq => ?_) (fun h => h.2 rfl)
    have hq' : (dropStray q).getLast? ≠ some '\\' := by rwa [getLast?_dropStray]
    have := congrArg trailingBackslashes heq
    rw [if_pos rfl, List.append_assoc, ← backslashes_succ', trailingBackslashes_append hq',
      trailingBackslashes_append hq] at this
    omega
  · simp [h]

theorem markupText_dimMarkup_eq_self_iff (m : String) :
    markupText (dimMarkup m) = m.toList ↔
      ¬HasStrayEscape m.toList ∧ trailingBackslashes m.toList ≤ 1 := by
  obtain ⟨q, j, hm, hq⟩ := exists_trailing m.toList
  have hj := closesNoTag_run j
  rw [markupText_dimMarkup hm hq, hm, trailingBackslashes_append hq, ← dropStray_eq_self_iff,
    dropStray_append hq hj, dropStray_backslashes]
  rcases (show j = 0 ∨ j = 1 ∨ 2 ≤ j by omega) with rfl | rfl | hj2
  · simp
  · simp
  · refine iff_of_false (fun heq => ?_) (by omega)
    rw [if_neg (by omega)] at heq
    by_cases hodd : j % 2 = 1
    · -- an odd run of two or more shows the closing tag last
      rw [if_pos hodd] at heq
      have hlast := congrArg List.getLast? heq
      obtain ⟨j', rfl⟩ := Nat.exists_eq_add_of_le' (show 1 ≤ j by omega)
      rw [List.getLast?_append, List.getLast?_append, isTag_dim_close.getLast?, backslashes_succ',
        ← List.append_assoc, List.getLast?_concat] at hlast
      simp at hlast
    · -- an even run of two or more shows half of it
      have hlen := congrArg List.length heq
      rw [if_neg hodd] at hlen
      simp only [List.length_append, length_backslashes, List.length_nil] at hlen
      have := length_dropStray_le q
      omega

end XmlView.Command
