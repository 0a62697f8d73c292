import Widgetry.Proofs.ChartHeaders
import Widgetry.Proofs.FirstTokens

/-!
# Blank lines

What a form, a quiz or a chart says stands on its first line and on the lines below it that are not
blank, the lines of ink (`inkedLines`). The settings of a quiz and of a chart are the same without the
blank lines among them, the questions and the table begin at the same line of ink, and the numbers
that lines and rows have are told in errors only. So a block that is accepted is accepted, as the same
widget, with other blank lines between its lines (`readBlock_of_sameInk`). A chart whose id stands on
its first line is the exception: its table begins on the next line, blank or not.

A blank line that comes between the lines of a block is taken into a token if a span is open there,
but the first token stays, and with it the grammar that reads the block
(`parseBlock_insert_blank_line`).
-/

namespace Widgetry

open Text Scan Outcome

namespace Grammar

/-! ## Lines of ink -/

/-- The lines that are not blank, as they stand. -/
def inkedLines (ls : List Text) : List Text := ls.filter (trim · ≠ [])

theorem inkedLines_cons_of_blank {line : Text} (h : trim line = []) (ls : List Text) :
    inkedLines (line :: ls) = inkedLines ls :=
  List.filter_cons_of_neg (by simp [h])

theorem inkedLines_cons_of_ink {line : Text} (h : trim line ≠ []) (ls : List Text) :
    inkedLines (line :: ls) = line :: inkedLines ls :=
  List.filter_cons_of_pos (by simp [h])

theorem inkedLines_insert {b : Text} (hb : Blank b) (before after : List Text) :
    inkedLines (before ++ b :: after) = inkedLines (before ++ after) := by
  have hline := inkedLines_cons_of_blank (trim_eq_nil_iff.mpr hb) after
  unfold inkedLines at hline ⊢
  rw [List.filter_append, hline, List.filter_append]

theorem inked_eq (ls : List Text) : inked ls = (inkedLines ls).map trim := by
  rw [inked, inkedLines, List.filter_map]
  rfl

/-- A loop that ends at a line of ink ends at the same line without the blank ones. -/
theorem inkedLines_dropWhile {p : Text → Bool} (hp : ∀ {line}, trim line = [] → p line = false)
    (ls : List Text) :
    inkedLines (ls.dropWhile (!p ·)) = (inkedLines ls).dropWhile (!p ·) := by
  induction ls with
  | nil => rfl
  | cons line ls ih =>
    by_cases hnil : trim line = []
    · rw [List.dropWhile_cons_of_pos (by simp [hp hnil]), inkedLines_cons_of_blank hnil, ih]
    · rw [inkedLines_cons_of_ink hnil]
      cases hline : p line with
      | true =>
        rw [List.dropWhile_cons_of_neg (by simp [hline]),
          List.dropWhile_cons_of_neg (by simp [hline]), inkedLines_cons_of_ink hnil]
      | false =>
        rw [List.dropWhile_cons_of_pos (by simp [hline]),
          List.dropWhile_cons_of_pos (by simp [hline]), ih]

/-! ## Forms -/

theorem filterMap_lineField?_inkedLines (ls : List Text) :
    (inkedLines ls).filterMap lineField? = ls.filterMap lineField? := by
  induction ls with
  | nil => rfl
  | cons line ls ih =>
    by_cases hnil : trim line = []
    · rw [inkedLines_cons_of_blank hnil, ih, List.filterMap_cons,
        lineField?_of_blank (trim_eq_nil_iff.mp hnil)]
    · rw [inkedLines_cons_of_ink hnil, List.filterMap_cons, List.filterMap_cons, ih]

/-! ## Quizzes -/

theorem questionLine?_of_blank {line : Text} (h : trim line = []) (number : Nat) :
    questionLine? line number = none := by
  rw [questionLine?, h]
  rfl

theorem readQuizSettings_inkedLines (s : QuizSettings) (n m : Nat) (ls : List Text) :
    (readQuizSettings s n ls).map Prod.fst = (readQuizSettings s m (inkedLines ls)).map Prod.fst := by
  induction ls generalizing s n m with
  | nil => rfl
  | cons line ls ih =>
    by_cases hnil : trim line = []
    · rw [inkedLines_cons_of_blank hnil, ← ih s (n + 1) m]
      simp only [readQuizSettings, hnil]
    · rw [inkedLines_cons_of_ink hnil]
      cases hsetting : readSetting? (trim line) with
      | none =>
        have hends := endsSettings_of_readSetting hnil hsetting
        rw [readQuizSettings_of_ends hends, readQuizSettings_of_ends hends]
        rfl
      | some setting =>
        obtain ⟨key, value⟩ := setting
        cases hset : s.set key value with
        | ok s' =>
          rw [readQuizSettings_of_setting hsetting hset, readQuizSettings_of_setting hsetting hset]
          exact ih s' (n + 1) (m + 1)
        | error e => simp [readQuizSettings, hsetting, hset]

/-- The same settings are read, if the lines of ink are the same. -/
theorem readQuizSettings_of_inkedLines {s s' : QuizSettings} {n read : Nat} {ls ls' : List Text}
    (h : inkedLines ls = inkedLines ls') (hread : readQuizSettings s n ls = .ok (s', read)) :
    ∃ read', readQuizSettings s n ls' = .ok (s', read') := by
  apply exists_of_map_fst_eq _ hread
  rw [readQuizSettings_inkedLines s n n ls, h, ← readQuizSettings_inkedLines s n n ls']

/-- The number of a line does not matter for the question on it, if there is one. -/
theorem readQuestion_eq_ok_iff_renumbered (n m : Int) {word : Text} {parts : List Text}
    {q : Question} : readQuestion n word parts = .ok q ↔ readQuestion m word parts = .ok q := by
  simp only [readQuestion_eq_ok_iff, readChoiceQuestion_eq_ok_iff, readWrittenQuestion_eq_ok_iff,
    readPoints_eq_ok_iff]

/-- The lines below the settings of a quiz. -/
theorem inkedLines_drop {s s' : QuizSettings} {ls : List Text} {read : Nat}
    (h : readQuizSettings s 0 ls = .ok (s', read)) :
    inkedLines (ls.drop read) = (inkedLines ls).dropWhile (!endsSettings ·) := by
  rw [← inkedLines_dropWhile endsSettings_of_blank, List.dropWhile_eq_drop_findIdx_not,
    read_of_readQuizSettings h]
  simp

/-- **The questions are those of the lines of ink**, whatever the numbers of the lines. -/
theorem questions_inkedLines {ls : List Text} {questions : List Question} (n m : Nat) :
    ((ls.zipIdx n).filterMap fun x => questionLine? x.1 x.2).mapM
        (fun l => readQuestion l.number l.word l.parts) = .ok questions ↔
      (((inkedLines ls).zipIdx m).filterMap fun x => questionLine? x.1 x.2).mapM
        (fun l => readQuestion l.number l.word l.parts) = .ok questions := by
  induction ls generalizing n m questions with
  | nil => rfl
  | cons line ls ih =>
    rw [List.zipIdx_cons]
    by_cases hnil : trim line = []
    · rw [inkedLines_cons_of_blank hnil, List.filterMap_cons, questionLine?_of_blank hnil]
      exact ih (n + 1) m
    · rw [inkedLines_cons_of_ink hnil, List.zipIdx_cons]
      cases htokens : tokenize (trim line) with
      | nil =>
        have hline : ∀ number, questionLine? line number = none := by
          intro number
          rw [questionLine?, htokens]
        simp only [List.filterMap_cons, hline]
        exact ih (n + 1) (m + 1)
      | cons word parts =>
        have hline : ∀ number, questionLine? line number = some ⟨number, word, parts⟩ := by
          intro number
          rw [questionLine?, htokens]
        simp only [List.filterMap_cons, hline, List.mapM_cons, bind_eq_ok_iff,
          readQuestion_eq_ok_iff_renumbered n m, ih (n + 1) (m + 1)]

/-! ## Charts -/

/-- A line that begins the table of a chart: it is not blank and no setting. -/
def beginsTable (line : Text) : Bool := trim line != [] && (readChartSetting? (trim line)).isNone

theorem beginsTable_of_blank {line : Text} (h : trim line = []) : beginsTable line = false := by
  simp [beginsTable, h]

theorem readChartHeader_inkedLines (h : ChartHeader) (table table' ls : List Text) :
    (readChartHeader h table ls).map Prod.fst =
      (readChartHeader h table' (inkedLines ls)).map Prod.fst := by
  induction ls generalizing h table table' with
  | nil => rfl
  | cons line ls ih =>
    by_cases hnil : trim line = []
    · rw [inkedLines_cons_of_blank hnil, ← ih h table table']
      simp only [readChartHeader, hnil]
    · rw [inkedLines_cons_of_ink hnil]
      cases hsetting : readChartSetting? (trim line) with
      | none => simp [readChartHeader, hsetting, Except.map]
      | some setting =>
        obtain ⟨key, value⟩ := setting
        cases hset : h.set key value with
        | ok h' => simp only [readChartHeader, hsetting, hset, ih h' ls (inkedLines ls)]
        | error e => simp [readChartHeader, hsetting, hset, Except.map]

/-- **Where the table of a chart begins**: at the first line that begins one, or else nothing but
blank lines is left for a table. -/
theorem table_of_readChartHeader {h header : ChartHeader} {before ls table : List Text}
    (hbefore : ∀ line ∈ before, trim line = [])
    (hread : readChartHeader h (before ++ ls) ls = .ok (header, table)) :
    (ls.dropWhile (!beginsTable ·) ≠ [] ∧ table = ls.dropWhile (!beginsTable ·)) ∨
      (ls.dropWhile (!beginsTable ·) = [] ∧ ∀ line ∈ table, trim line = []) := by
  induction ls generalizing h before with
  | nil =>
    cases hread
    exact Or.inr ⟨rfl, by simpa using hbefore⟩
  | cons line ls ih =>
    by_cases hnil : trim line = []
    · -- the blank line may still be in front of the table
      have hbefore' : ∀ l ∈ before ++ [line], trim l = [] := by
        intro l hl
        rcases List.mem_append.mp hl with hl | hl
        · exact hbefore l hl
        · rw [List.mem_singleton.mp hl, hnil]
      have hrest : readChartHeader h ((before ++ [line]) ++ ls) ls = .ok (header, table) := by
        rw [List.append_assoc, List.singleton_append, ← hread]
        simp only [readChartHeader, hnil]
      rw [List.dropWhile_cons_of_pos (by simp [beginsTable_of_blank hnil])]
      exact ih hbefore' hrest
    · cases hsetting : readChartSetting? (trim line) with
      | none =>
        have hbegins : beginsTable line = true := by simp [beginsTable, hnil, hsetting]
        have htable : table = line :: ls := by
          simp only [readChartHeader, hsetting] at hread
          cases hread
          rfl
        rw [List.dropWhile_cons_of_neg (by simp [hbegins])]
        exact Or.inl ⟨by simp, htable⟩
      | some setting =>
        obtain ⟨key, value⟩ := setting
        have hbegins : beginsTable line = false := by simp [beginsTable, hsetting]
        rw [List.dropWhile_cons_of_pos (by simp [hbegins])]
        cases hset : h.set key value with
        | ok h' =>
          simp only [readChartHeader, hsetting, hset] at hread
          exact ih (List.forall_mem_nil _) hread
        | error e =>
          simp only [readChartHeader, hsetting, hset] at hread
          exact absurd hread (by simp)

/-- The first line of the table stays its first line when blank lines go. -/
theorem dropWhile_inkedLines {ls rest : List Text} {first : Text}
    (h : ls.dropWhile (!beginsTable ·) = first :: rest) :
    (inkedLines ls).dropWhile (!beginsTable ·) = first :: inkedLines rest := by
  have hbegins := List.head?_dropWhile_not (!beginsTable ·) ls
  rw [h] at hbegins
  have hink : trim first ≠ [] := by
    intro hnil
    simp [beginsTable_of_blank hnil] at hbegins
  rw [← inkedLines_dropWhile beginsTable_of_blank, h, inkedLines_cons_of_ink hink]

theorem readTable_of_inkedLines {rest rest' : List Text} (h : inkedLines rest = inkedLines rest')
    (first : Text) : readTable (first :: rest) = readTable (first :: rest') := by
  simp only [readTable, inked_eq, h]

theorem readTable_ne_ok_of_blank {ls : List Text} (h : ∀ line ∈ ls, trim line = [])
    (table : Table) : readTable ls ≠ .ok table := by
  intro hread
  cases ls with
  | nil => exact absurd hread (by simp [readTable])
  | cons first rest =>
    have hcomma := comma_of_readTable hread
    exact absurd (trim_eq_nil_iff.mp (h first List.mem_cons_self) ',' hcomma) (by decide)

/-- The same header is read and the same table, if the lines of ink are the same. -/
theorem chart_of_inkedLines {h header : ChartHeader} {body body' ls : List Text} {table : Table}
    (hbody : inkedLines body = inkedLines body')
    (hread : readChartHeader h body body = .ok (header, ls)) (htable : readTable ls = .ok table) :
    ∃ ls', readChartHeader h body' body' = .ok (header, ls') ∧ readTable ls' = .ok table := by
  obtain ⟨ls', hread'⟩ : ∃ ls', readChartHeader h body' body' = .ok (header, ls') := by
    apply exists_of_map_fst_eq _ hread
    rw [readChartHeader_inkedLines h body [] body, hbody,
      ← readChartHeader_inkedLines h body' [] body']
  refine ⟨ls', hread', ?_⟩
  rcases table_of_readChartHeader (List.forall_mem_nil _) hread with ⟨hne, rfl⟩ | ⟨-, hblank⟩
  · obtain ⟨first, rest, hls⟩ := List.exists_cons_of_ne_nil hne
    have hdrop := dropWhile_inkedLines hls
    rw [hbody] at hdrop
    rcases table_of_readChartHeader (List.forall_mem_nil _) hread' with ⟨hne', rfl⟩ | ⟨hnil', -⟩
    · obtain ⟨first', rest', hls'⟩ := List.exists_cons_of_ne_nil hne'
      rw [dropWhile_inkedLines hls'] at hdrop
      obtain ⟨rfl, hrest⟩ := List.cons.inj hdrop
      rw [hls', readTable_of_inkedLines hrest, ← hls]
      exact htable
    · have hnone := inkedLines_dropWhile beginsTable_of_blank body'
      rw [hnil', hdrop] at hnone
      exact absurd hnone (by simp [inkedLines])
  · exact absurd htable (readTable_ne_ok_of_blank hblank table)

/-! ## Blocks -/

/-- The texts have first lines with the same tokens, and below them the same lines of ink. -/
structure SameInk (s s' : Text) : Prop where
  first : tokenize (lines s).1 = tokenize (lines s').1
  body : inkedLines (lines s).2 = inkedLines (lines s').2

section Blocks

variable {s s' : Text} (h : SameInk s s')
include h

theorem readForm_of_sameInk : readForm parseLine s = readForm parseLine s' := by
  have hfields : (lines s).2.filterMap lineField? = (lines s').2.filterMap lineField? := by
    rw [← filterMap_lineField?_inkedLines, h.body, filterMap_lineField?_inkedLines]
  exact readForm_of_lineFields h.first hfields

theorem readQuiz_of_sameInk {q : Quiz} (hq : readQuiz s = .ok q) : readQuiz s' = .ok q := by
  obtain ⟨id, title, rest, settings, read, questions, hheader, hsettings, hquestions, hne, hquiz⟩ :=
    readQuiz_eq_ok_iff.mp hq
  obtain ⟨read', hsettings'⟩ := readQuizSettings_of_inkedLines h.body hsettings
  have hquestions' : (questionLines s' read').mapM
      (fun l => readQuestion l.number l.word l.parts) = .ok questions := by
    rw [questionLines, questions_inkedLines _ 0] at hquestions ⊢
    rw [inkedLines_drop hsettings', ← h.body, ← inkedLines_drop hsettings]
    exact hquestions
  exact readQuiz_eq_ok_iff.mpr ⟨id, title, rest, settings, read', questions, h.first ▸ hheader,
    hsettings', hquestions', hne, hquiz⟩

theorem readChart_of_sameInk {kind : ChartKind} {c : Chart}
    (hbare : (tokenize (lines s).1).length ≤ 1) (hc : readChart kind s = .ok c) :
    readChart kind s' = .ok c := by
  have hfirst : (tokenize (lines s).1).tail = [] := by
    apply List.length_eq_zero_iff.mp
    rw [List.length_tail]
    omega
  obtain ⟨-, header, ls, table, hhead, htable, hchart⟩ := readChart_eq_ok_iff.mp hc
  rcases hhead with ⟨id, rest, hid, -⟩ | ⟨-, hread⟩
  · rw [hfirst] at hid
    exact absurd hid (by simp)
  · obtain ⟨ls', hread', htable'⟩ := chart_of_inkedLines h.body hread htable
    have hbody' : (lines s').2 ≠ [] := by
      intro hnil
      rw [hnil] at hread'
      cases hread'
      exact absurd htable' (by simp [readTable])
    exact readChart_eq_ok_iff.mpr
      ⟨hbody', header, ls', table, Or.inr ⟨h.first ▸ hfirst, hread'⟩, htable', hchart⟩

/-- **A block that is accepted is its first line and its lines of ink**, if it has several lines and,
being a chart, has its settings on lines of their own. -/
theorem readBlock_of_sameInk {k : Keyword} {parts : List Text} {w : Widget}
    (hk : k.hasOneLine = false)
    (hchart : ∀ kind, k = .chart kind → (tokenize (lines s).1).length ≤ 1)
    (hw : readBlock parseLine k parts s = .ok w) (parts' : List Text) :
    readBlock parseLine k parts' s' = .ok w := by
  cases k with
  | form => exact (readForm_of_sameInk h).symm.trans hw
  | chart kind =>
    obtain ⟨c, hc, rfl⟩ := map_eq_ok_iff.mp hw
    exact map_eq_ok_iff.mpr ⟨c, readChart_of_sameInk h (hchart kind rfl) hc, rfl⟩
  | quiz =>
    obtain ⟨q, hq, rfl⟩ := map_eq_ok_iff.mp hw
    exact map_eq_ok_iff.mpr ⟨q, readQuiz_of_sameInk h hq, rfl⟩
  | _ => exact absurd hk (by decide)

theorem parse_of_sameInk {w : Widget} (hs : Trimmed s) (hs' : Trimmed s')
    (hhead : (tokenize s').head? = some w.keyword.text) (hk : w.keyword.hasOneLine = false)
    (hchart : ∀ kind, w.keyword = .chart kind → (tokenize (lines s).1).length ≤ 1)
    (hw : parse s = .ok w) : parse s' = .ok w := by
  obtain ⟨parts, hparse⟩ := parse_of_head (head_tokenize_of_parse hw)
  obtain ⟨parts', hparse'⟩ := parse_of_head (t := s') (by rw [trim_eq_self hs', hhead])
  rw [trim_eq_self hs, hw] at hparse
  rw [hparse', trim_eq_self hs']
  exact readBlock_of_sameInk h hk hchart hparse.symm parts'

end Blocks

end Grammar

open Grammar Writer

/-! ## One more line -/

theorem trimmed_insert {a rest : Text} (h : Trimmed (a ++ '\n' :: rest)) (b : Text) :
    Trimmed (a ++ '\n' :: (b ++ '\n' :: rest)) := by
  constructor
  · intro c hc
    cases a with
    | nil => exact absurd (h.front '\n' rfl) (by decide)
    | cons d a => exact h.front c hc
  · intro c hc
    apply h.back c
    have hassoc : a ++ '\n' :: (b ++ '\n' :: rest) = (a ++ '\n' :: b) ++ '\n' :: rest := by simp
    rw [hassoc, List.getLast?_append_of_ne_nil _ (by simp)] at hc
    rwa [List.getLast?_append_of_ne_nil _ (by simp)]

section Insertion

variable {t first b : Text} {before after : List Text}
  (hlines : lines t = (first, before ++ after)) (hb : Blank b) (hline : '\n' ∉ b)
include hlines hb hline

theorem sameInk_insert : SameInk t (unlines (first :: (before ++ b :: after))) := by
  have hnew : lines (unlines (first :: (before ++ b :: after))) =
      (first, before ++ b :: after) := by
    apply lines_unlines
    intro line hmem
    by_cases hlineb : line = b
    · rw [hlineb]
      exact hline
    · apply not_mem_line (t := t)
      rw [hlines]
      simpa [hlineb] using hmem
  constructor
  · rw [hlines, hnew]
  · rw [hlines, hnew, inkedLines_insert hb]

theorem parse_insert {w : Widget} (ht : Trimmed t) (hk : w.keyword.hasOneLine = false)
    (hchart : ∀ kind, w.keyword = .chart kind → (tokenize first).length ≤ 1)
    (hw : parse t = .ok w) : parse (unlines (first :: (before ++ b :: after))) = .ok w := by
  have htext : unlines (first :: (before ++ after)) = t := by
    have hall := unlines_lines t
    rwa [hlines] at hall
  cases after with
  | nil =>
    have hend : Blank ('\n' :: b) := blank_append (a := ['\n']) (by decide) hb
    rw [unlines_append_singleton, ← List.append_nil before, htext, parse_append_of_blank hend, hw]
  | cons next after =>
    have hold : unlines (first :: before) ++ '\n' :: unlines (next :: after) = t := by
      rw [← htext, unlines_append_cons]
    have hnew : unlines (first :: (before ++ b :: next :: after)) =
        unlines (first :: before) ++ '\n' :: (b ++ '\n' :: unlines (next :: after)) := by
      rw [unlines_append_cons]
      simp [unlines, List.intercalate_cons_cons]
    have htrim : Trimmed (unlines (first :: (before ++ b :: next :: after))) := by
      rw [hnew]
      exact trimmed_insert (hold ▸ ht) b
    -- the keyword is a word, so it is still the first token
    have hhead : (tokenize (unlines (first :: (before ++ b :: next :: after)))).head? =
        some w.keyword.text := by
      have hkeyword := head_tokenize_of_parse hw
      rw [trim_eq_self ht, ← hold] at hkeyword
      rw [hnew]
      exact head_tokenize_insert hb (Keyword.isPlain_of_mem_text w.keyword) hkeyword
    apply parse_of_sameInk (sameInk_insert hlines hb hline) ht htrim hhead hk _ hw
    rw [hlines]
    exact hchart

end Insertion

/-- **Blank lines do not matter** to a form, a quiz, or a chart that has its settings on lines of
their own: with a blank line behind the first line, anywhere, the same widget is read. -/
theorem parseBlock_insert_blank_line {t first b : Text} {before after : List Text} {w : Widget}
    (ht : Trimmed t) (hlines : lines t = (first, before ++ after)) (hb : Blank b)
    (hline : '\n' ∉ b) (hw : parseBlock t = ⟨true, some w, none⟩)
    (hk : w.keyword.hasOneLine = false)
    (hchart : ∀ kind, w.keyword = .chart kind → (tokenize first).length ≤ 1) :
    parseBlock (unlines (first :: (before ++ b :: after))) = ⟨true, some w, none⟩ := by
  have hparse : parse t = .ok w := by
    cases houtcome : parse t with
    | ok w' =>
      rw [Streaming.parseBlock_eq houtcome] at hw
      cases hw
      rfl
    | error e =>
      rw [parseBlock, houtcome] at hw
      exact absurd hw (by simp [ParseResult.ofOutcome])
  exact Streaming.parseBlock_eq (parse_insert hlines hb hline ht hk hchart hparse)

/-- A quote in the title of a chart is still open at the table, and the line with a tab comes
between the two. -/
theorem parseBlock_insert_blank_line_open_quote :
    let first := "chart-bar".toList
    let before := ["title: 3.5\" disks".toList]
    let after := ["Day,Count".toList, [], "Mon,12".toList]
    let t := unlines (first :: (before ++ after))
    let w : Widget := .chart ⟨.bar, none, some "3.5\" disks".toList, none, ["Mon".toList],
      [⟨"Count".toList, [.int 12]⟩], none⟩
    Trimmed t ∧ lines t = (first, before ++ after) ∧ parseBlock t = ⟨true, some w, none⟩ ∧
      parseBlock (unlines (first :: (before ++ " \t".toList :: after))) = ⟨true, some w, none⟩ := by
  intro first before after t w
  have ht : Trimmed t := by decide
  have hw : parseBlock t = ⟨true, some w, none⟩ := rfl
  exact ⟨ht, rfl, hw, parseBlock_insert_blank_line ht rfl (by decide) (by decide) hw rfl
    fun _ _ => by decide⟩

end Widgetry
