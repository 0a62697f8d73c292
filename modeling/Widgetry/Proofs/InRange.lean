import Widgetry.Proofs.Positions
import Widgetry.Proofs.Dispatch
import Widgetry.Proofs.LineGrammar
import Widgetry.Proofs.Lines

/-!
# No position is out of range

A reading by position ends with the outcome of the reading by pattern, so it never ends at a position
where there is nothing. For the tokens of a line this is a matter of counting them first. A table is
filled row by row, each row below the columns (`fillTable_eq`), and the settings of a chart or a quiz
are read in a loop over the positions of the lines (`chartHeader_eq`, `quizSettings_eq`): the
inductions are on the lines that are left. The fields of a form are read by the same grammars
(`parseWith_eq`).
-/

namespace Widgetry.Positions

open Text Grammar Outcome

section Positions

variable {α β : Type}

theorem lift_bind (x : Except ParseError α) (f : α → Except ParseError β) :
    lift (x >>= f) = lift x >>= fun a => lift (f a) := by
  cases x <;> rfl

theorem lift_map (f : α → β) (x : Except ParseError α) : lift (x.map f) = (lift x).map f := by
  cases x <;> rfl

theorem member_bind {xs : List α} {i : Nat} {x : α} (h : member xs i = .ok x)
    (f : α → Except Fault β) : (member xs i >>= f) = f x := by
  rw [h]
  rfl

@[simp] theorem guarded_eq (tokens : List Text) (i : Nat) : guarded tokens i = .ok tokens[i]? := by
  unfold guarded
  split
  · rename_i h
    rw [member, List.getElem?_eq_getElem h]
    rfl
  · rename_i h
    rw [List.getElem?_eq_none (by omega)]

end Positions

/-! ## Widgets of one line -/

theorem answersAt_eq (place : ArrayPlace) (tokens : List Text) (i : Nat) :
    answersAt place tokens i = lift (readAnswers place tokens[i]?) := by
  rw [answersAt, guarded_eq]
  cases tokens[i]? with
  | none => rfl
  | some answer =>
    show (if opensArray answer = true then _ else _) = _
    rw [readAnswers]
    split
    · cases readArray place answer <;> rfl
    · rfl

section Lines

variable (word : Text) (parts : List Text)

theorem textInput_eq : textInput (word :: parts) = lift (readTextInput parts) := by
  cases parts with
  | nil => rfl
  | cons id rest =>
    rw [textInput, if_neg (by simp)]
    rfl

theorem choiceInput_eq (k : Keyword) :
    choiceInput k (word :: parts) = lift (readChoiceInput k parts) := by
  rcases parts with _ | ⟨id, _ | ⟨array, rest⟩⟩
  · rfl
  · rfl
  · rw [choiceInput, if_neg (by simp), readChoiceInput, lift_bind]
    rfl

theorem multiSelect_eq : multiSelect (word :: parts) = lift (readMultiSelect parts) := by
  rcases parts with _ | ⟨id, _ | ⟨array, rest⟩⟩
  · rfl
  · rfl
  · rw [multiSelect, if_neg (by simp), readMultiSelect, lift_bind]
    simp only [guarded_eq]
    cases rest with
    | nil => rfl
    | cons initial rest =>
      simp only [lift_bind]
      rfl

theorem slider_eq : slider (word :: parts) = lift (readSlider parts) := by
  rcases parts with _ | ⟨id, _ | ⟨a, _ | ⟨b, _ | ⟨c, rest⟩⟩⟩⟩
  · rfl
  · rfl
  · rfl
  · rfl
  · have hbounds : (((word :: id :: a :: b :: c :: rest).drop 2).take 3).map Number.read? =
        [Number.read? a, Number.read? b, Number.read? c] := rfl
    rw [slider, if_neg (by simp), hbounds]
    -- the first bound that is no number is refused
    cases ha : Number.read? a with
    | none => simp [readSlider, ha, refuse, lift, Except.mapError]
    | some min =>
      cases hb : Number.read? b with
      | none => simp [readSlider, ha, hb, refuse, lift, Except.mapError]
      | some max =>
        cases hc : Number.read? c with
        | none => simp [readSlider, ha, hb, hc, refuse, lift, Except.mapError]
        | some step =>
          rw [if_neg (by simp), readSlider, ha, hb, hc]
          simp only [guarded_eq]
          rfl

theorem multipleChoice_eq : multipleChoice (word :: parts) = lift (readMultipleChoice parts) := by
  rcases parts with _ | ⟨id, _ | ⟨question, _ | ⟨array, rest⟩⟩⟩
  · rfl
  · rfl
  · rfl
  · rw [multipleChoice, if_neg (by simp), readMultipleChoice, lift_bind]
    simp only [guarded_eq]
    rfl

theorem shortAnswer_eq : shortAnswer (word :: parts) = lift (readShortAnswer parts) := by
  rcases parts with _ | ⟨id, _ | ⟨question, rest⟩⟩
  · rfl
  · rfl
  · have hfourth : (word :: id :: question :: rest)[4]? = rest[1]? := rfl
    rw [shortAnswer, if_neg (by simp), readShortAnswer_cons_cons]
    simp only [answersAt_eq, guarded_eq, hfourth]
    cases readAnswers .answers rest[1]? <;> rfl

end Lines

/-! ## Forms -/

theorem pieces_eq_lines (source : Text) :
    pieces (· == '\n') source = (lines source).1 :: (lines source).2 := rfl

theorem form_eq {child : Text → Except Fault Widget} {child' : Text → Except ParseError Widget}
    (hchild : ∀ t, child t = lift (child' t)) (source : Text) :
    form child source = lift (readForm child' source) := by
  have hoption : ∀ t, (child t).toOption = (child' t).toOption := by
    intro t
    rw [hchild]
    cases child' t <;> rfl
  simp only [form, readForm, hoption, pieces_eq_lines]
  rw [member_bind rfl]
  rcases tokenize (lines source).1 with _ | ⟨word, _ | ⟨id, rest⟩⟩
  · rfl
  · rfl
  · rw [if_neg (by simp)]
    rfl

/-! ## Tables -/

theorem columns_nil_rows (names : List Text) : columns names [] = names.map (⟨·, []⟩) := by
  induction names with
  | nil => rfl
  | cons name names ih => simpa [columns] using ih

/-- A row is put below the columns, one number each. -/
theorem columns_append {names : List Text} {numbers : List Number} (rows : List (List Number))
    (h : numbers.length = names.length) :
    columns names (rows ++ [numbers]) = List.zipWith push (columns names rows) numbers := by
  induction names generalizing numbers rows with
  | nil => rfl
  | cons name names ih =>
    obtain ⟨n, numbers, rfl⟩ : ∃ n more, numbers = n :: more := List.exists_cons_of_length_eq_add_one h
    rw [columns, columns, List.map_append, List.filterMap_append, List.zipWith_cons_cons]
    refine congrArg₂ List.cons rfl ?_
    exact ih _ (Nat.succ.inj h)

theorem length_columns (names : List Text) (rows : List (List Number)) :
    (columns names rows).length = names.length := by
  induction names generalizing rows with
  | nil => rfl
  | cons name names ih => rw [columns, List.length_cons, ih, List.length_cons]

theorem pushAt_append (done : List Dataset) (d : Dataset) (more : List Dataset) (n : Number) :
    pushAt (done ++ d :: more) done.length n = .ok (done ++ push d n :: more) := by
  have hmember : member (done ++ d :: more) done.length = .ok d := by simp [member]
  rw [pushAt, member_bind hmember]
  simp [pure, Except.pure]

/-- The cells of a row go into the data sets behind those that are done. -/
theorem fillRow_eq (row : Nat) {cells : List Text} (done : List Dataset) {more : List Dataset}
    (h : more.length = cells.length) :
    fillRow row (done ++ more) (cells.zipIdx (done.length + 1)) =
      lift (((cells.zipIdx (done.length + 2)).mapM fun x => readCell row x.1 x.2).map
        fun numbers => done ++ List.zipWith push more numbers) := by
  -- each cell moves one data set to those that are done, so the column stays their number
  induction cells generalizing done more with
  | nil =>
    obtain rfl := List.eq_nil_of_length_eq_zero h
    rfl
  | cons cell cells ih =>
    obtain ⟨d, more, rfl⟩ : ∃ d rest, more = d :: rest := List.exists_cons_of_length_eq_add_one h
    have hmore : more.length = cells.length := Nat.succ.inj h
    rw [List.zipIdx_cons, List.zipIdx_cons, List.mapM_cons, fillRow, readCell]
    cases Number.read? cell with
    | none => rfl
    | some n =>
      have hnext := ih (done ++ [push d n]) hmore
      simp only [List.length_append, List.length_singleton, List.append_assoc,
        List.singleton_append] at hnext
      simp only [Nat.add_sub_cancel, pushAt_append]
      show fillRow row (done ++ push d n :: more) _ = _
      rw [hnext]
      show lift (Except.map _ (List.mapM _ _)) = lift (Except.map _ (List.mapM _ _ >>= _))
      cases List.mapM (fun x => readCell row x.1 x.2) (cells.zipIdx (done.length + 1 + 2)) with
      | error e => rfl
      | ok numbers => rfl

/-- The table with the given rows. -/
def tableOf (names : List Text) (rows : List Row) : Table :=
  ⟨rows.map Row.label, columns names (rows.map Row.numbers)⟩

theorem fillLine_eq (names : List Text) (rows : List Row) (number : Nat) (line : Text) :
    fillLine (names.length + 1) number (tableOf names rows) line =
      lift ((readRow names.length line number).map fun row => tableOf names (rows ++ [row])) := by
  have hvalues : (pieces (· == ',') line).map trim = (cells line).1 :: (cells line).2 := rfl
  simp only [fillLine, hvalues, List.length_cons, readRow]
  by_cases hwidth : (cells line).2.length = names.length
  · rw [if_neg (by omega), if_pos hwidth]
    have hcolumns : (columns names (rows.map Row.numbers)).length = (cells line).2.length := by
      rw [length_columns, hwidth]
    have hfill := fillRow_eq number [] hcolumns
    simp only [List.length_nil, List.nil_append, Nat.zero_add] at hfill
    show (fillRow number (columns names (rows.map Row.numbers)) ((cells line).2.zipIdx 1) >>= _) = _
    rw [hfill]
    cases hnumbers : ((cells line).2.zipIdx 2).mapM fun x => readCell number x.1 x.2 with
    | error e => rfl
    | ok numbers =>
      have hlength : numbers.length = names.length := by
        rw [← (forall₂_of_mapM_eq_ok hnumbers).length_eq, List.length_zipIdx, hwidth]
      show Except.ok _ = Except.ok (tableOf names (rows ++ [⟨(cells line).1, numbers⟩]))
      simp only [tableOf, List.map_append, List.map_singleton, columns_append _ hlength]
  · rw [if_pos (by omega), if_neg hwidth]
    rfl

theorem inked_cons (line : Text) (ls : List Text) :
    inked (line :: ls) = if trim line = [] then inked ls else trim line :: inked ls := by
  unfold inked
  by_cases h : trim line = []
  · simp [h]
  · simp [h]

theorem fillTable_eq (names : List Text) (rows : List Row) (number : Nat) (ls : List Text) :
    fillTable (names.length + 1) number (tableOf names rows) ls =
      lift ((((inked ls).zipIdx (number + 1)).mapM fun x => readRow names.length x.1 x.2).map
        fun more => tableOf names (rows ++ more)) := by
  induction ls generalizing rows number with
  | nil =>
    show Except.ok (tableOf names rows) = Except.ok (tableOf names (rows ++ []))
    rw [List.append_nil]
  | cons line ls ih =>
    rw [inked_cons, fillTable]
    split
    · rename_i hnil
      rw [if_pos hnil, ih]
    · rename_i hink
      rw [if_neg hink, fillLine_eq, List.zipIdx_cons, List.mapM_cons]
      cases readRow names.length (trim line) (number + 1) with
      | error e => rfl
      | ok row =>
        show fillTable _ _ (tableOf names (rows ++ [row])) ls = _
        rw [ih]
        cases List.mapM (fun x => readRow names.length x.1 x.2) ((inked ls).zipIdx (number + 2)) with
        | error e => rfl
        | ok more =>
          show Except.ok (tableOf names (rows ++ [row] ++ more)) =
            Except.ok (tableOf names (rows ++ row :: more))
          rw [List.append_assoc, List.singleton_append]

theorem table_eq (ls : List Text) : table ls = lift (readTable ls) := by
  cases ls with
  | nil => rfl
  | cons header rest =>
    have hvalues : ∀ line, (pieces (· == ',') line).map trim = (cells line).1 :: (cells line).2 :=
      fun _ => rfl
    rw [table, if_neg (by simp), readTable]
    show (if trim header = [] then _ else _) = _
    cases hheader : trim header with
    | nil => rfl
    | cons c header' =>
      rw [if_neg (by simp)]
      simp only [hvalues]
      rcases hcells : cells (c :: header') with ⟨first, _ | ⟨name, names⟩⟩
      · rfl
      · have hfill := fillTable_eq (name :: names) [] 1 rest
        rw [tableOf, List.map_nil, List.map_nil, columns_nil_rows] at hfill
        simp only [List.nil_append] at hfill
        rw [if_neg (by simp)]
        show fillTable ((name :: names).length + 1) 1 ⟨[], (name :: names).map (⟨·, []⟩)⟩ rest = _
        rw [hfill]
        show lift (Except.map _ (List.mapM _ _)) = lift (List.mapM _ _ >>= _)
        cases List.mapM (fun x => readRow (name :: names).length x.1 x.2)
          ((inked rest).zipIdx 2) with
        | error e => rfl
        | ok rows => rfl

/-! ## Charts -/

theorem member_of_drop {α : Type} {xs rest : List α} {x : α} {i : Nat}
    (h : xs.drop i = x :: rest) : member xs i = .ok x ∧ xs.drop (i + 1) = rest := by
  constructor
  · have hget : xs[i]? = some x := by
      have hhead := List.head?_drop (l := xs) (i := i)
      rw [h] at hhead
      exact hhead.symm
    rw [member, hget]
  · rw [← List.tail_drop, h, List.tail_cons]

/-- The lines above the table, from a position on. -/
theorem chartHeader_eq (lines : List Text) (h : ChartHeader) (start index : Nat) {n : Nat}
    (hn : (lines.drop index).length = n) :
    (chartHeader lines h start (List.range' index n)).map (fun x => (x.1, lines.drop x.2)) =
      lift ((readChartHeader h (lines.drop start) (lines.drop index)).mapError .oversized) := by
  -- the induction is on the lines that are left; the table starts behind the last setting
  induction n generalizing h start index with
  | zero =>
    rw [List.eq_nil_of_length_eq_zero hn]
    rfl
  | succ n ih =>
    obtain ⟨line, rest, hline⟩ := List.exists_cons_of_length_eq_add_one hn
    obtain ⟨hmember, hrest⟩ := member_of_drop hline
    have hn' : (lines.drop (index + 1)).length = n := by
      rw [hrest]
      rw [hline] at hn
      exact Nat.succ.inj hn
    rw [List.range'_succ, chartHeader, member_bind hmember, hline, readChartHeader]
    cases trim line with
    | nil => rw [← hrest]; exact ih h start (index + 1) hn'
    | cons c line' =>
      dsimp only
      rcases readChartSetting? (c :: line') with _ | ⟨key, value⟩
      · show Except.ok (h, lines.drop index) = Except.ok (h, line :: rest)
        rw [hline]
      · dsimp only
        cases h.set key value with
        | error e => rfl
        | ok h' => rw [← hrest]; exact ih h' (index + 1) (index + 1) hn'

theorem chart_eq (kind : ChartKind) (source : Text) :
    chart kind source = lift (readChart kind source) := by
  by_cases hbody : (lines source).2 = []
  · simp only [chart, readChart, pieces_eq_lines, hbody]
    rfl
  · have hlength : ¬ ((lines source).1 :: (lines source).2).length < 2 := by
      have := List.length_pos_iff.mpr hbody
      simp only [List.length_cons]
      omega
    have hheader : (chartHeader ((lines source).1 :: (lines source).2) ⟨none, none, none⟩ 1
          (List.range' 1 (lines source).2.length)).map
          (fun x => (x.1, ((lines source).1 :: (lines source).2).drop x.2)) =
        lift ((readChartHeader ⟨none, none, none⟩ (lines source).2 (lines source).2).mapError
          .oversized) :=
      chartHeader_eq ((lines source).1 :: (lines source).2) _ 1 1 rfl
    simp only [chart, readChart, pieces_eq_lines, if_neg hbody, if_neg hlength, table_eq]
    show (if 1 < (tokenize (lines source).1).length then _ else _) = _
    -- without an id on the first line there may be settings above the table
    have hsettings : (tokenize (lines source).1).tail = [] →
        ¬ 1 < (tokenize (lines source).1).length := by
      intro htail
      have := congrArg List.length htail
      rw [List.length_tail, List.length_nil] at this
      omega
    cases htail : (tokenize (lines source).1).tail with
    | nil =>
      rw [if_neg (hsettings htail), lift_bind, ← hheader]
      show (chartHeader _ _ 1 (List.range' 1 (lines source).2.length) >>= _) = _
      rcases chartHeader _ _ _ _ with e | ⟨h, start⟩
      · rfl
      · show (lift (readTable _) >>= _) = lift (readTable _ >>= _)
        rw [lift_bind]
        rfl
    | cons id rest =>
      obtain ⟨word, htokens⟩ : ∃ word, tokenize (lines source).1 = word :: id :: rest := by
        cases htokens : tokenize (lines source).1 with
        | nil => exact absurd (htokens ▸ htail) (by simp)
        | cons word parts =>
          rw [htokens, List.tail_cons] at htail
          exact ⟨word, by rw [htail]⟩
      rw [htokens, if_pos (by simp)]
      show (lift (readTable (lines source).2) >>= _) = lift (readTable (lines source).2 >>= _)
      rw [lift_bind]
      rfl

/-! ## Questions -/

section Questions

variable (word : Text) (parts : List Text) (line : Int)

theorem choiceQuestion_eq :
    choiceQuestion line (word :: parts) = lift (readChoiceQuestion line parts) := by
  rcases parts with _ | ⟨id, _ | ⟨question, _ | ⟨token, _ | ⟨array, rest⟩⟩⟩⟩
  · rfl
  · rfl
  · rfl
  · rfl
  · rw [choiceQuestion, if_neg (by simp), readChoiceQuestion, lift_bind]
    simp only [lift_bind]
    rfl

theorem writtenQuestion_eq :
    writtenQuestion line (word :: parts) = lift (readWrittenQuestion line parts) := by
  rcases parts with _ | ⟨id, _ | ⟨question, _ | ⟨token, rest⟩⟩⟩
  · rfl
  · rfl
  · rfl
  · have hfifth : (word :: id :: question :: token :: rest)[5]? = rest[1]? := rfl
    rw [writtenQuestion, if_neg (by simp), readWrittenQuestion_cons, lift_bind]
    simp only [answersAt_eq, hfifth]
    show (lift (readPoints line token) >>= _) = _
    refine congrArg (lift (readPoints line token) >>= ·) (funext fun points => ?_)
    cases readAnswers (.questionAnswers line) rest[1]? <;> rfl

theorem question_eq : question line (word :: parts) = lift (readQuestion line word parts) := by
  rw [question, member_bind rfl, readQuestion]
  cases QuestionKind.ofText? word with
  | none => rfl
  | some kind =>
    cases kind with
    | choice =>
      dsimp only
      rw [choiceQuestion_eq, lift_map]
    | written =>
      dsimp only
      rw [writtenQuestion_eq, lift_map]

end Questions

/-! ## Quizzes -/

/-- The lines above the questions, from a position on. -/
theorem quizSettings_eq (lines : List Text) (s : QuizSettings) {read n : Nat}
    (hread : read + 1 ≤ lines.length) (hn : (lines.drop (read + 1)).length = n) :
    quizSettings lines s (List.range' (read + 1) n) =
      lift (((readQuizSettings s read (lines.drop (read + 1))).mapError .oversized).map
        fun x => (x.1, x.2 + 1)) := by
  -- the loop counts from line 1 where the reading by pattern counts from 0
  induction n generalizing s read with
  | zero =>
    have hlength : lines.length = read + 1 := by
      rw [List.length_drop] at hn
      omega
    rw [List.eq_nil_of_length_eq_zero hn]
    show Except.ok (s, lines.length) = Except.ok (s, read + 1)
    rw [hlength]
  | succ n ih =>
    obtain ⟨line, rest, hline⟩ := List.exists_cons_of_length_eq_add_one hn
    obtain ⟨hmember, hrest⟩ := member_of_drop hline
    have hread' : read + 1 + 1 ≤ lines.length := by
      rw [List.length_drop] at hn
      omega
    have hn' : (lines.drop (read + 1 + 1)).length = n := by
      rw [List.length_drop] at hn ⊢
      omega
    rw [List.range'_succ, quizSettings, member_bind hmember, hline, readQuizSettings]
    cases trim line with
    | nil => rw [← hrest]; exact ih s hread' hn'
    | cons c line' =>
      dsimp only
      rcases readSetting? (c :: line') with _ | ⟨key, value⟩
      · rfl
      · dsimp only
        cases s.set key value with
        | error e => rfl
        | ok s' => rw [← hrest]; exact ih s' hread' hn'

theorem questionAt_eq {lines : List Text} {line : Text} {index : Nat}
    (h : member lines index = .ok line) :
    questionAt lines index =
      match questionLine? line (index + 1) with
      | none => .ok none
      | some l => (lift (readQuestion l.number l.word l.parts)).map some := by
  rw [questionAt, member_bind h, questionLine?]
  cases tokenize (trim line) with
  | nil => rfl
  | cons word parts =>
    rw [if_neg (by simp), question_eq]
    dsimp only
    cases readQuestion ((index + 1 : Nat) : Int) word parts <;> rfl

/-- The questions on the lines from a position on. -/
theorem questionsAt_eq (lines : List Text) (start : Nat) {n : Nat} (hn : (lines.drop start).length = n) :
    ((List.range' start n).mapM (questionAt lines)).map List.reduceOption =
      lift ((((lines.drop start).zipIdx (start + 1)).filterMap fun x => questionLine? x.1 x.2).mapM
        fun l => readQuestion l.number l.word l.parts) := by
  induction n generalizing start with
  | zero =>
    rw [List.eq_nil_of_length_eq_zero hn]
    rfl
  | succ n ih =>
    obtain ⟨line, rest, hline⟩ := List.exists_cons_of_length_eq_add_one hn
    obtain ⟨hmember, hrest⟩ := member_of_drop hline
    have hn' : (lines.drop (start + 1)).length = n := by
      rw [List.length_drop] at hn ⊢
      omega
    have hmore := ih (start + 1) hn'
    rw [hrest] at hmore
    rw [List.range'_succ, List.mapM_cons, hline, List.zipIdx_cons, List.filterMap_cons,
      questionAt_eq hmember]
    cases questionLine? line (start + 1) with
    | none =>
      -- a line without tokens is dropped on both sides
      dsimp only
      rw [← hmore]
      cases (List.range' (start + 1) n).mapM (questionAt lines) <;> rfl
    | some l =>
      dsimp only
      rw [List.mapM_cons, lift_bind]
      cases readQuestion l.number l.word l.parts with
      | error e => rfl
      | ok q =>
        show _ = lift (List.mapM _ _ >>= _)
        rw [lift_bind, ← hmore]
        cases (List.range' (start + 1) n).mapM (questionAt lines) <;> rfl

theorem quiz_eq (source : Text) : quiz source = lift (readQuiz source) := by
  simp only [quiz, readQuiz, pieces_eq_lines]
  rw [member_bind rfl]
  rcases tokenize (lines source).1 with _ | ⟨word, _ | ⟨id, _ | ⟨title, rest⟩⟩⟩
  · rfl
  · rfl
  · rfl
  · have hsettings : quizSettings ((lines source).1 :: (lines source).2) .unstated
          (List.range' 1 (lines source).2.length) =
        lift (((readQuizSettings .unstated 0 (lines source).2).mapError .oversized).map
          fun x => (x.1, x.2 + 1)) :=
      quizSettings_eq ((lines source).1 :: (lines source).2) .unstated (by simp) rfl
    rw [if_neg (by simp)]
    show (quizSettings _ _ (List.range' 1 (lines source).2.length) >>= _) = lift (_ >>= _)
    rw [hsettings, lift_bind]
    rcases readQuizSettings .unstated 0 (lines source).2 with e | ⟨settings, read⟩
    · rfl
    · -- both readings go on with the lines behind the settings
      have hquestions := questionsAt_eq ((lines source).1 :: (lines source).2) (read + 1)
        (List.length_drop ..)
      show (List.mapM (questionAt _) _ >>= _) = lift (List.mapM _ _ >>= _)
      rw [lift_bind]
      show _ = lift (List.mapM _ ((((lines source).2.drop read).zipIdx (read + 2)).filterMap
        fun x => questionLine? x.1 x.2)) >>= _
      rw [List.drop_succ_cons] at hquestions
      rw [← hquestions]
      cases (List.range' (read + 1) (((lines source).1 :: (lines source).2).length -
          (read + 1))).mapM (questionAt ((lines source).1 :: (lines source).2)) with
      | error e => rfl
      | ok questions =>
        show (if questions.reduceOption = [] then _ else _) =
          lift (if questions.reduceOption = [] then _ else _)
        split
        · rfl
        · rfl

/-! ## All blocks -/

theorem block_eq {child : Text → Except Fault Widget} {child' : Text → Except ParseError Widget}
    (hchild : ∀ t, child t = lift (child' t)) (k : Keyword) (word : Text) (parts : List Text)
    (source : Text) :
    block child k (word :: parts) source = lift (readBlock child' k parts source) := by
  cases k with
  | textInput => rw [block, readBlock, textInput_eq, lift_map]
  | buttonGroup => rw [block, readBlock, choiceInput_eq, lift_map]
  | select => rw [block, readBlock, choiceInput_eq, lift_map]
  | selectMulti => rw [block, readBlock, multiSelect_eq, lift_map]
  | slider => rw [block, readBlock, slider_eq, lift_map]
  | form => exact form_eq hchild source
  | chart kind => rw [block, readBlock, chart_eq, lift_map]
  | multipleChoice => rw [block, readBlock, multipleChoice_eq, lift_map]
  | shortAnswer => rw [block, readBlock, shortAnswer_eq, lift_map]
  | quiz => rw [block, readBlock, quiz_eq, lift_map]

theorem parseWith_eq {child : Text → Except Fault Widget}
    {child' : Text → Except ParseError Widget} (hchild : ∀ t, child t = lift (child' t)) (t : Text) :
    parseWith child t = lift (Grammar.parseWith child' t) := by
  simp only [parseWith, Grammar.parseWith]
  cases tokenize (trim t) with
  | nil => rfl
  | cons word parts =>
    rw [if_neg (by simp), member_bind rfl]
    dsimp only
    cases Keyword.ofText? word with
    | none => rfl
    | some k => exact block_eq hchild k word parts (trim t)

theorem parseLine_eq (t : Text) : parseLine t = lift (Grammar.parseLine t) := by
  have hchild : ∀ s : Text, (refuse .emptyInput : Except Fault Widget) =
      lift ((fun _ => .error .emptyInput : Text → Except ParseError Widget) s) := fun _ => rfl
  rw [parseLine, Grammar.parseLine, parseWith_eq hchild]

/-- **Reading by position and reading by pattern agree**, so no position is out of range. -/
theorem parse_eq (t : Text) : parse t = lift (Grammar.parse t) := parseWith_eq parseLine_eq t

end Widgetry.Positions
