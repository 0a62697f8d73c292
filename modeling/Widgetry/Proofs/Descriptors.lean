import Widgetry.Proofs.FiniteNumbers
import Widgetry.Proofs.Guards
import Widgetry.Proofs.Members

/-!
# Descriptors that are read back

A widget, a question, a result or a preview that has been written is read back as what it was, if no
number among its options is infinite or not a number. Each kind of object is matched with the reader
of its fields; the type that it names chooses that reader again (`gives_tagged`).

When nesting is too deep is up to the guard. All that is relied on is that the guard lets pass what
is nested less deep than some limit, and that forms are read from as deep as they are written
(`DepthGuard.Lawful`), for the reader counts the forms around a widget (`gives_widgetWithin`).
-/

namespace Widgetry

open Descriptor

/-! ## Numbers among the options -/

mutual

/-- The binary64 numbers among the options of the charts of a widget. -/
def Widget.optionFloats : Widget → List Binary64
  | .form _ _ fields => Widget.listOptionFloats fields
  | .chart w => Json.membersFloats (w.options.getD [])
  | _ => []

def Widget.listOptionFloats : List Widget → List Binary64
  | [] => []
  | w :: rest => w.optionFloats ++ Widget.listOptionFloats rest

end

/-! ## Objects that name their type -/

/-- The object names its type, and a reader of its members makes `a` of it. -/
def Restored {α : Type} (j : Json) (tag : Text) (read : Schema.Members → Checked α) (a : α) :
    Prop :=
  ∃ ms, j = .obj ms ∧ Field.type.Finds ms (some (.str tag)) ∧ (read ms).Gives a

/-- A type has one spelling only, so finding it is looking it up. -/
theorem lookup_type_of_finds {ms : Schema.Members} {tag : Text}
    (h : Field.type.Finds ms (some (.str tag))) :
    ms.lookup Field.type.key = some (.str tag) := by
  rw [Field.Finds, Field.find?] at h
  cases hkey : ms.lookup Field.type.key with
  | some v =>
    rw [hkey] at h
    cases h
    rfl
  | none =>
    have hname : ms.lookup Field.type.name = none := hkey
    rw [hkey, hname] at h
    exact absurd h (by simp)

/-- **The type that an object names chooses its reader.** -/
theorem gives_tagged {α : Type} {ms : Schema.Members} {tag : Text}
    {reader? : Text → Option (Checked α)} {c : Checked α} {a : α}
    (htype : Field.type.Finds ms (some (.str tag))) (hreader : reader? tag = some c)
    (hread : c.Gives a) : (Schema.tagged reader? ms).Gives a := by
  rw [Schema.tagged, lookup_type_of_finds htype]
  dsimp only
  rw [hreader]
  exact hread.under _

/-! ## Inputs -/

theorem restored_textInput (w : TextInput) :
    Restored w.toJson Keyword.textInput.text Schema.textInput w := by
  obtain ⟨id, label, placeholder, initial⟩ := w
  have h : Describes (TextInput.toJson ⟨id, label, placeholder, initial⟩)
      [.type, .id, .label, .placeholder, .initial]
      [some (.str Keyword.textInput.text), id.map .str, label.map .str, placeholder.map .str,
        initial.map .str] := ⟨rfl, rfl, by decide⟩
  exact ⟨_, h.object, h.type, h.type.fixedType.map
    |>.seq (h.finds (by simp)).optionalText |>.seq (h.finds (by simp)).optionalText
    |>.seq (h.finds (by simp)).optionalText |>.seq (h.finds (by simp)).optionalText⟩

theorem restored_choiceInput (k : Keyword) (w : ChoiceInput) :
    Restored (w.toJson k) k.text (Schema.choiceInput k) w := by
  obtain ⟨id, label, choices, initial⟩ := w
  have h : Describes (ChoiceInput.toJson k ⟨id, label, choices, initial⟩)
      [.type, .id, .label, .choices, .initial]
      [some (.str k.text), id.map .str, label.map .str, some (.ofTexts choices),
        initial.map .str] := ⟨rfl, rfl, by decide⟩
  exact ⟨_, h.object, h.type, h.type.fixedType.map
    |>.seq (h.finds (by simp)).optionalText |>.seq (h.finds (by simp)).optionalText
    |>.seq (h.finds (by simp)).textList |>.seq (h.finds (by simp)).optionalText⟩

theorem gives_selection (s : Selection) : (Schema.selection s.toJson).Gives s := by
  cases s with
  | one choice => rfl
  | many choices =>
    have hlist := Json.gives_ofTexts choices
    show (Schema.selection (.arr (choices.map .str))).Gives (.many choices)
    rw [Schema.selection]
    · cases hread : Json.toList Json.toText (.arr (choices.map .str)) with
      | valid ts used =>
        rw [Json.ofTexts, hread] at hlist
        obtain rfl := Option.some.inj hlist
        rfl
      | invalid issues =>
        rw [Json.ofTexts, hread] at hlist
        exact absurd hlist (by simp [Checked.Gives, Checked.value?])
    · simp

theorem restored_multiSelect (w : MultiSelect) :
    Restored w.toJson Keyword.selectMulti.text Schema.multiSelect w := by
  obtain ⟨id, label, choices, initial⟩ := w
  have h : Describes (MultiSelect.toJson ⟨id, label, choices, initial⟩)
      [.type, .id, .label, .choices, .initial]
      [some (.str Keyword.selectMulti.text), id.map .str, label.map .str, some (.ofTexts choices),
        initial.map Selection.toJson] := ⟨rfl, rfl, by decide⟩
  have hselection : ∀ s ∈ initial,
      s.toJson ≠ .null ∧ (Schema.selection s.toJson).Gives s := by
    intro s _
    refine ⟨?_, gives_selection s⟩
    cases s <;> simp [Selection.toJson, Json.ofTexts]
  exact ⟨_, h.object, h.type, h.type.fixedType.map
    |>.seq (h.finds (by simp)).optionalText |>.seq (h.finds (by simp)).optionalText
    |>.seq (h.finds (by simp)).textList |>.seq ((h.finds (by simp)).optional hselection)⟩

theorem restored_slider (w : Slider) :
    Restored w.toJson Keyword.slider.text Schema.slider w := by
  obtain ⟨id, label, min, max, step, initial⟩ := w
  have h : Describes (Slider.toJson ⟨id, label, min, max, step, initial⟩)
      [.type, .id, .label, .min, .max, .step, .initial]
      [some (.str Keyword.slider.text), id.map .str, label.map .str, some (.ofNumber min),
        some (.ofNumber max), some (.ofNumber step), initial.map .ofNumber] :=
    ⟨rfl, rfl, by decide⟩
  exact ⟨_, h.object, h.type, h.type.fixedType.map
    |>.seq (h.finds (by simp)).optionalText |>.seq (h.finds (by simp)).optionalText
    |>.seq ((h.finds (by simp)).required (Json.gives_ofNumber min))
    |>.seq ((h.finds (by simp)).required (Json.gives_ofNumber max))
    |>.seq ((h.finds (by simp)).required (Json.gives_ofNumber step))
    |>.seq (h.finds (by simp)).optionalNumber⟩

/-! ## Charts -/

theorem gives_dataset (d : Dataset) :
    (Json.toObject .notAnObject Schema.dataset d.toJson).Gives d := by
  obtain ⟨label, data⟩ := d
  have h : Describes (Dataset.toJson ⟨label, data⟩) [.label, .data]
      [some (.str label), some (.arr (data.map .ofNumber))] := ⟨rfl, rfl, by decide⟩
  have hlabel : (Json.toText (.str label)).Gives label := rfl
  rw [h.object]
  exact ((h.finds (by simp)).required hlabel).map
    |>.seq ((h.finds (by simp)).list fun n _ => Json.gives_ofNumber n)

theorem chartKind_ofText?_text (kind : ChartKind) :
    ChartKind.ofText? (Keyword.chart kind).text = some kind := by
  rw [ChartKind.ofText?, Keyword.ofText?_text]

theorem gives_chartKind (kind : ChartKind) :
    (Schema.chartKind (.str (Keyword.chart kind).text)).Gives kind := by
  rw [Schema.chartKind, chartKind_ofText?_text]
  rfl

theorem restored_chart {w : Chart} (hfinite : AllFinite (Json.membersFloats (w.options.getD []))) :
    Restored w.toJson (Keyword.chart w.kind).text Schema.chart w := by
  obtain ⟨kind, id, title, height, labels, datasets, options⟩ := w
  have h : Describes (Chart.toJson ⟨kind, id, title, height, labels, datasets, options⟩)
      [.type, .id, .title, .height, .labels, .datasets, .options]
      [some (.str (Keyword.chart kind).text), id.map .str, title.map .str, height.map .int,
        some (.ofTexts labels), some (.arr (datasets.map Dataset.toJson)),
        options.map fun ms => .obj (Json.writableMembers ms)] := ⟨rfl, rfl, by decide⟩
  have hoptions : ∀ ms ∈ options, Json.obj (Json.writableMembers ms) ≠ .null ∧
      (Json.toMembers (.obj (Json.writableMembers ms))).Gives ms := by
    intro ms hms
    obtain rfl := Option.mem_def.mp hms
    rw [Json.writableMembers_eq_self ms hfinite]
    exact ⟨by simp, rfl⟩
  exact ⟨_, h.object, h.type, (h.type.required (gives_chartKind kind)).map
    |>.seq (h.finds (by simp)).optionalText |>.seq (h.finds (by simp)).optionalText
    |>.seq (h.finds (by simp)).optionalInt |>.seq (h.finds (by simp)).textList
    |>.seq ((h.finds (by simp)).list fun d _ => gives_dataset d)
    |>.seq ((h.finds (by simp)).optional hoptions)⟩

/-! ## Questions -/

theorem restored_multipleChoice (w : MultipleChoice) :
    Restored w.toJson Keyword.multipleChoice.text Schema.multipleChoice w := by
  obtain ⟨id, question, choices, answer, feedback⟩ := w
  have h : Describes (MultipleChoice.toJson ⟨id, question, choices, answer, feedback⟩)
      [.type, .id, .question, .choices, .correctAnswer, .showFeedback]
      [some (.str Keyword.multipleChoice.text), id.map .str, some (.str question),
        some (.ofTexts choices), answer.map .str, feedback.map .bool] := ⟨rfl, rfl, by decide⟩
  have hquestion : (Json.toText (.str question)).Gives question := rfl
  exact ⟨_, h.object, h.type, h.type.fixedType.map
    |>.seq (h.finds (by simp)).optionalText |>.seq ((h.finds (by simp)).required hquestion)
    |>.seq (h.finds (by simp)).textList |>.seq (h.finds (by simp)).optionalText
    |>.seq (h.finds (by simp)).optionalFlag⟩

theorem restored_shortAnswer (w : ShortAnswer) :
    Restored w.toJson Keyword.shortAnswer.text Schema.shortAnswer w := by
  obtain ⟨id, question, placeholder, answer, answers, feedback⟩ := w
  have h : Describes (ShortAnswer.toJson ⟨id, question, placeholder, answer, answers, feedback⟩)
      [.type, .id, .question, .placeholder, .correctAnswer, .correctAnswers, .showFeedback]
      [some (.str Keyword.shortAnswer.text), id.map .str, some (.str question),
        placeholder.map .str, answer.map .str, answers.map .ofTexts, feedback.map .bool] :=
    ⟨rfl, rfl, by decide⟩
  have hquestion : (Json.toText (.str question)).Gives question := rfl
  exact ⟨_, h.object, h.type, h.type.fixedType.map
    |>.seq (h.finds (by simp)).optionalText |>.seq ((h.finds (by simp)).required hquestion)
    |>.seq (h.finds (by simp)).optionalText |>.seq (h.finds (by simp)).optionalText
    |>.seq (h.finds (by simp)).optionalTexts |>.seq (h.finds (by simp)).optionalFlag⟩

theorem restored_choiceQuestion (q : ChoiceQuestion) :
    Restored q.toJson QuestionKind.choice.text Schema.choiceQuestion q := by
  obtain ⟨id, question, points, choices, answer, streaming⟩ := q
  have h : Describes (ChoiceQuestion.toJson ⟨id, question, points, choices, answer, streaming⟩)
      [.type, .id, .question, .points, .choices, .correctAnswer, .streaming]
      [some (.str QuestionKind.choice.text), some (.str id), some (.str question),
        some (.int points), some (.ofTexts choices), answer.map .str, streaming.map .bool] :=
    ⟨rfl, rfl, by decide⟩
  have htext : ∀ t : Text, (Json.toText (.str t)).Gives t := fun _ => rfl
  have hpoints : (Json.toInt (.int points)).Gives points := rfl
  exact ⟨_, h.object, h.type, h.type.fixedType.map
    |>.seq ((h.finds (by simp)).required (htext id))
    |>.seq ((h.finds (by simp)).required (htext question))
    |>.seq ((h.finds (by simp)).withDefault hpoints)
    |>.seq (h.finds (by simp)).textList |>.seq (h.finds (by simp)).optionalText
    |>.seq (h.finds (by simp)).optionalFlag⟩

theorem restored_writtenQuestion (q : WrittenQuestion) :
    Restored q.toJson QuestionKind.written.text Schema.writtenQuestion q := by
  obtain ⟨id, question, points, placeholder, answers, streaming⟩ := q
  have h : Describes
      (WrittenQuestion.toJson ⟨id, question, points, placeholder, answers, streaming⟩)
      [.type, .id, .question, .points, .placeholder, .correctAnswers, .streaming]
      [some (.str QuestionKind.written.text), some (.str id), some (.str question),
        some (.int points), placeholder.map .str, answers.map .ofTexts, streaming.map .bool] :=
    ⟨rfl, rfl, by decide⟩
  have htext : ∀ t : Text, (Json.toText (.str t)).Gives t := fun _ => rfl
  have hpoints : (Json.toInt (.int points)).Gives points := rfl
  exact ⟨_, h.object, h.type, h.type.fixedType.map
    |>.seq ((h.finds (by simp)).required (htext id))
    |>.seq ((h.finds (by simp)).required (htext question))
    |>.seq ((h.finds (by simp)).withDefault hpoints)
    |>.seq (h.finds (by simp)).optionalText |>.seq (h.finds (by simp)).optionalTexts
    |>.seq (h.finds (by simp)).optionalFlag⟩

theorem gives_question (q : Question) : (Schema.question q.toJson).Gives q := by
  cases q with
  | choice q =>
    obtain ⟨ms, hjson, htype, hread⟩ := restored_choiceQuestion q
    show (Schema.question q.toJson).Gives (.choice q)
    rw [hjson]
    exact gives_tagged htype (by rw [QuestionKind.ofText?_text]; rfl) hread.map
  | written q =>
    obtain ⟨ms, hjson, htype, hread⟩ := restored_writtenQuestion q
    show (Schema.question q.toJson).Gives (.written q)
    rw [hjson]
    exact gives_tagged htype (by rw [QuestionKind.ofText?_text]; rfl) hread.map

theorem restored_quiz (w : Quiz) : Restored w.toJson Keyword.quiz.text Schema.quiz w := by
  obtain ⟨id, title, questions, showScore, showProgress, passingScore⟩ := w
  have h : Describes (Quiz.toJson ⟨id, title, questions, showScore, showProgress, passingScore⟩)
      [.type, .id, .title, .questions, .showScore, .showProgress, .passingScore]
      [some (.str Keyword.quiz.text), id.map .str, some (.str title),
        some (.arr (questions.map Question.toJson)), some (.bool showScore),
        some (.bool showProgress), passingScore.map .int] := ⟨rfl, rfl, by decide⟩
  have htitle : (Json.toText (.str title)).Gives title := rfl
  have hflag : ∀ b : Bool, (Json.toBool (.bool b)).Gives b := fun _ => rfl
  exact ⟨_, h.object, h.type, h.type.fixedType.map
    |>.seq (h.finds (by simp)).optionalText |>.seq ((h.finds (by simp)).required htitle)
    |>.seq ((h.finds (by simp)).list fun q _ => gives_question q)
    |>.seq ((h.finds (by simp)).withDefault (hflag showScore))
    |>.seq ((h.finds (by simp)).withDefault (hflag showProgress))
    |>.seq (h.finds (by simp)).optionalInt⟩

/-! ## Previews without widgets -/

open Schema

theorem gives_quizPreview {p : QuizPreview} (hp : p.streaming ≠ none) :
    (Json.toObject .notAnObject quizPreview p.toJson).Gives p := by
  obtain ⟨id, title, questions, showScore, showProgress, passingScore, streaming⟩ := p
  have h : Describes
      (QuizPreview.toJson ⟨id, title, questions, showScore, showProgress, passingScore, streaming⟩)
      [.type, .id, .title, .questions, .showScore, .showProgress, .passingScore, .streaming]
      [some (.str Keyword.quiz.text), id.map .str, title.map .str,
        some (.arr (questions.map Question.toJson)), showScore.map .bool, showProgress.map .bool,
        passingScore.map .int, streaming.map .bool] := ⟨rfl, rfl, by decide⟩
  rw [h.object]
  exact h.type.fixedType.map
    |>.seq (h.finds (by simp)).optionalText |>.seq (h.finds (by simp)).optionalText
    |>.seq ((h.finds (by simp)).list fun q _ => gives_question q)
    |>.seq (h.finds (by simp)).optionalFlag |>.seq (h.finds (by simp)).optionalFlag
    |>.seq (h.finds (by simp)).optionalInt |>.seq (Field.Finds.mark (h.finds (by simp)) hp)

theorem gives_chartPreview {p : ChartPreview} (hp : p.streaming ≠ none) :
    (Json.toObject .notAnObject chartPreview p.toJson).Gives p := by
  obtain ⟨kind, id, title, height, labels, datasets, streaming⟩ := p
  have h : Describes (ChartPreview.toJson ⟨kind, id, title, height, labels, datasets, streaming⟩)
      [.type, .id, .title, .height, .labels, .datasets, .streaming]
      [some (.str (Keyword.chart kind).text), id.map .str, title.map .str, height.map .int,
        some (.ofTexts labels), some (.arr (datasets.map Dataset.toJson)), streaming.map .bool] :=
    ⟨rfl, rfl, by decide⟩
  rw [h.object]
  exact (h.type.required (gives_chartKind kind)).map
    |>.seq (h.finds (by simp)).optionalText |>.seq (h.finds (by simp)).optionalText
    |>.seq (h.finds (by simp)).optionalInt |>.seq (h.finds (by simp)).textList
    |>.seq ((h.finds (by simp)).list fun d _ => gives_dataset d)
    |>.seq (Field.Finds.mark (h.finds (by simp)) hp)

/-! ## Widgets -/

theorem Widget.toJson_ne_null (w : Widget) : w.toJson ≠ .null := by
  cases w <;> simp [Widget.toJson, TextInput.toJson, ChoiceInput.toJson, MultiSelect.toJson,
    Slider.toJson, formObject, Chart.toJson, MultipleChoice.toJson, ShortAnswer.toJson, Quiz.toJson,
    object]

section

variable [DepthGuard]

namespace Schema

theorem lookup_widgetLists (around : Nat) (key : Text) (ms : Members) :
    (widgetLists around ms).lookup key = (ms.lookup key).map (widgetList around) := by
  induction ms with
  | nil => rfl
  | cons m ms ih =>
    obtain ⟨k, v⟩ := m
    rw [widgetLists, List.lookup_cons, List.lookup_cons, ih]
    cases key == k <;> rfl

/-- The fields of a form are found among the members that have been read as lists. -/
theorem gives_formFields {around : Nat} {ms : Members} {v : Json} {fields : List Widget}
    (h : Field.fields.Finds ms (some v)) (hv : (widgetList around v).Gives fields) :
    (formFields (widgetLists around ms)).Gives fields := by
  have hfind : Field.fields.find? (widgetLists around ms) =
      (Field.fields.find? ms).map fun m => (m.1, widgetList around m.2) := by
    rw [Field.find?, Field.find?, lookup_widgetLists, lookup_widgetLists]
    cases ms.lookup Field.fields.key with
    | some v => rfl
    | none => cases ms.lookup Field.fields.name <;> rfl
  rw [formFields, hfind, h]
  exact hv.member _

/-- An object is read as the widget whose type it names. -/
theorem gives_of_restored {α : Type} {j : Json} {k : Keyword} {read : Members → Checked α} {a : α}
    {around : Nat} {wrap : α → Widget} (h : Restored j k.text read a)
    (hread : ∀ ms lists, widgetOf around ms lists k = wrap <$> read ms) :
    (widgetWithin around j).Gives (wrap a) := by
  obtain ⟨ms, rfl, htype, hgives⟩ := h
  rw [widgetWithin, taggedWidget]
  refine gives_tagged htype (by rw [Keyword.ofText?_text]; rfl) ?_
  rw [hread]
  exact hgives.map

end Schema

mutual

/-- **A widget is read back inside of as many forms as may lie around it.** -/
theorem gives_widgetWithin : ∀ (w : Widget) (around : Nat), AllFinite w.optionFloats →
    around + w.forms ≤ DepthGuard.maxForms → (widgetWithin around w.toJson).Gives w
  | .textInput w, _, _, _ => gives_of_restored (restored_textInput w) fun _ _ => rfl
  | .buttonGroup w, _, _, _ =>
      gives_of_restored (restored_choiceInput .buttonGroup w) fun _ _ => rfl
  | .select w, _, _, _ => gives_of_restored (restored_choiceInput .select w) fun _ _ => rfl
  | .selectMulti w, _, _, _ => gives_of_restored (restored_multiSelect w) fun _ _ => rfl
  | .slider w, _, _, _ => gives_of_restored (restored_slider w) fun _ _ => rfl
  | .chart _, _, hfinite, _ => gives_of_restored (restored_chart hfinite) fun _ _ => rfl
  | .multipleChoice w, _, _, _ => gives_of_restored (restored_multipleChoice w) fun _ _ => rfl
  | .shortAnswer w, _, _, _ => gives_of_restored (restored_shortAnswer w) fun _ _ => rfl
  | .quiz w, _, _, _ => gives_of_restored (restored_quiz w) fun _ _ => rfl
  | .form id submitLabel fields, around, hfinite, hforms => by
      have h : Describes (Widget.toJson (.form id submitLabel fields))
          [.type, .id, .submitLabel, .fields]
          [some (.str Keyword.form.text), id.map .str, submitLabel.map .str,
            some (.arr (Widget.listToJson fields))] := ⟨rfl, rfl, by decide⟩
      rw [Widget.forms] at hforms
      have haround : around < DepthGuard.maxForms := by omega
      -- the fields lie in one more form
      have hfields : (widgetList (around + 1) (.arr (Widget.listToJson fields))).Gives fields := by
        rw [widgetList]
        exact gives_widgetItems fields (around + 1) 0 hfinite (by omega)
      rw [h.object, widgetWithin, taggedWidget]
      refine gives_tagged h.type (by rw [Keyword.ofText?_text]; rfl) ?_
      rw [widgetOf, if_pos haround]
      exact h.type.fixedType.map
        |>.seq (h.finds (by simp)).optionalText |>.seq (h.finds (by simp)).optionalText
        |>.seq (gives_formFields (h.finds (by simp)) hfields)

theorem gives_widgetItems : ∀ (ws : List Widget) (around position : Nat),
    AllFinite (Widget.listOptionFloats ws) →
      around + Widget.listForms ws ≤ DepthGuard.maxForms →
      (widgetItems around position (Widget.listToJson ws)).Gives ws
  | [], _, _, _, _ => rfl
  | w :: ws, around, position, hfinite, hforms => by
      obtain ⟨hw, hws⟩ := allFinite_append_iff.mp hfinite
      rw [Widget.listForms] at hforms
      have hfirst := gives_widgetWithin w around hw
        (Nat.le_trans (Nat.add_le_add_left (Nat.le_max_left _ _) around) hforms)
      have hrest := gives_widgetItems ws around (position + 1) hws
        (Nat.le_trans (Nat.add_le_add_left (Nat.le_max_right _ _) around) hforms)
      exact (hfirst.under (.index position)).map.seq hrest

end

theorem gives_widget {w : Widget} (hfinite : AllFinite w.optionFloats)
    (hforms : w.forms ≤ DepthGuard.maxForms) : (Schema.widget w.toJson).Gives w :=
  gives_widgetWithin w 0 hfinite (by rw [Nat.zero_add]; exact hforms)

/-! ## Results and previews of forms -/

/-- The binary64 numbers among the options of the charts of a result. -/
def ParseResult.optionFloats (r : ParseResult) : List Binary64 :=
  (r.widget.map Widget.optionFloats).getD []

theorem gives_parseResult {r : ParseResult} (hr : r.isConsistent = true)
    (hfinite : AllFinite r.optionFloats)
    (hforms : (Described.result r).forms ≤ DepthGuard.maxForms) :
    (Json.toObject .notAnObject parseResult r.toJson).Gives r := by
  obtain ⟨success, widget, error⟩ := r
  have h : Describes (ParseResult.toJson ⟨success, widget, error⟩) [.success, .widget, .error]
      [some (.bool success), widget.map Widget.toJson, error.map .str] := ⟨rfl, rfl, by decide⟩
  have hsuccess : (Json.toBool (.bool success)).Gives success := rfl
  have hwidget : ∀ w ∈ widget, w.toJson ≠ .null ∧ (Schema.widget w.toJson).Gives w := by
    intro w hw
    obtain rfl := Option.mem_def.mp hw
    exact ⟨w.toJson_ne_null, gives_widget hfinite (Nat.le_trans (Nat.le_max_left _ _) hforms)⟩
  have hparts : (ParseResult.mk <$> Field.success.required Json.toBool _ <*>
      Field.widget.optional Schema.widget _ <*> optionalText .error _).Gives
        ⟨success, widget, error⟩ :=
    ((h.finds (by simp)).required hsuccess).map
      |>.seq ((h.finds (by simp)).optional hwidget) |>.seq (h.finds (by simp)).optionalText
  rw [h.object]
  show (parseResult _).Gives _
  rw [parseResult]
  split
  · rename_i r used hread
    rw [hread] at hparts
    obtain rfl := Option.some.inj hparts
    rw [if_pos hr]
    rfl
  · rename_i issues hread
    rw [hread] at hparts
    exact absurd hparts (by simp [Checked.Gives, Checked.value?])

theorem gives_formPreview {p : FormPreview} (hp : p.streaming ≠ none)
    (hfinite : AllFinite (Widget.listOptionFloats p.fields))
    (hforms : (Described.form p).forms ≤ DepthGuard.maxForms) :
    (Json.toObject .notAnObject (formPreview 0) p.toJson).Gives p := by
  obtain ⟨id, submitLabel, fields, streaming⟩ := p
  have h : Describes (FormPreview.toJson ⟨id, submitLabel, fields, streaming⟩)
      [.type, .id, .submitLabel, .fields, .streaming]
      [some (.str Keyword.form.text), id.map .str, submitLabel.map .str,
        some (.arr (Widget.listToJson fields)), streaming.map .bool] := ⟨rfl, rfl, by decide⟩
  have hfields : (widgetList 0 (.arr (Widget.listToJson fields))).Gives fields := by
    rw [widgetList]
    exact gives_widgetItems fields 0 0 hfinite (by rw [Nat.zero_add]; exact hforms)
  rw [h.object]
  exact h.type.fixedType.map
    |>.seq (h.finds (by simp)).optionalText |>.seq (h.finds (by simp)).optionalText
    |>.seq (gives_formFields (h.finds (by simp)) hfields)
    |>.seq (Field.Finds.mark (h.finds (by simp)) hp)

/-! ## Round trip -/

/-- It can be written, and what has been written is read back as it was. -/
def ReadBack {α : Type} (a : α) (written : Except DescriptorError Json)
    (read : Json → Checked α) : Prop :=
  ∃ j, written = .ok j ∧ (read j).value? = some a

/-- It is read back, or it is refused as a whole, and that only if it is nested as deep as the
limit. -/
structure Survives {α : Type} (limit nesting : Nat) (a : α) (written : Except DescriptorError Json)
    (read : Json → Checked α) : Prop where
  readBack : nesting < limit → ReadBack a written read
  readBack_or_refused : ReadBack a written read ∨ written = .error .tooDeep

theorem survives_ofForm {limit : Nat} (h : DepthGuard.Lawful limit) {α : Type} {d : Described}
    {a : α} {form : Json} {read : Json → Checked α}
    (hread : d.forms ≤ DepthGuard.maxForms → (read form).Gives a) :
    Survives limit d.nesting a (ofForm d form) read := by
  have hwritten (hadmits : DepthGuard.admits d = true) : ReadBack a (ofForm d form) read :=
    ⟨form, if_pos hadmits, hread (h.forms_le d hadmits)⟩
  refine ⟨fun hnesting => hwritten (h.admits_of_nesting_lt d hnesting), ?_⟩
  by_cases hadmits : DepthGuard.admits d = true
  · exact Or.inl (hwritten hadmits)
  · exact Or.inr (if_neg hadmits)

/-- **What has been written is read back.** Widgets, questions, consistent results, and previews
whose mark is set are written and read back as they were, as long as the options of their charts
hold no infinity and nothing that is not a number. The only limit is that of the guard: what is
nested less deep is read back, and what the guard stops is refused and not written in part. -/
theorem survives_descriptor {limit : Nat} (h : DepthGuard.Lawful limit) :
    (∀ w : Widget, AllFinite w.optionFloats →
      Survives limit (Described.widget w).nesting w w.descriptor Schema.widget) ∧
    (∀ q : Question, ReadBack q (.ok q.toJson) Schema.question) ∧
    (∀ r : ParseResult, r.isConsistent = true → AllFinite r.optionFloats →
      Survives limit (Described.result r).nesting r r.descriptor
        (Json.toObject .notAnObject Schema.parseResult)) ∧
    (∀ p : QuizPreview, p.streaming ≠ none →
      ReadBack p (.ok p.toJson) (Json.toObject .notAnObject Schema.quizPreview)) ∧
    (∀ p : FormPreview, p.streaming ≠ none → AllFinite (Widget.listOptionFloats p.fields) →
      Survives limit (Described.form p).nesting p p.descriptor
        (Json.toObject .notAnObject (Schema.formPreview 0))) ∧
    ∀ p : ChartPreview, p.streaming ≠ none →
      ReadBack p (.ok p.toJson) (Json.toObject .notAnObject Schema.chartPreview) := by
  refine ⟨?widgets, ?questions, ?results, ?quizzes, ?forms, ?charts⟩
  case widgets =>
    exact fun w hfinite => survives_ofForm h fun hforms =>
      gives_widget hfinite (Nat.le_trans (Nat.le_max_left _ _) hforms)
  case questions => exact fun q => ⟨_, rfl, gives_question q⟩
  case results => exact fun r hr hfinite => survives_ofForm h (gives_parseResult hr hfinite)
  case quizzes => exact fun p hp => ⟨_, rfl, gives_quizPreview hp⟩
  case forms => exact fun p hp hfinite => survives_ofForm h (gives_formPreview hp hfinite)
  case charts => exact fun p hp => ⟨_, rfl, gives_chartPreview hp⟩

end

/-- A form with a chart that has `null` and a fraction among its options. -/
def formWithOptions : Widget :=
  .form (some "f".toList) none [.chart ⟨.line, none, none, none, [], [],
    some [("a".toList, .null), ("b".toList, .arr [.float ⟨false, 1022 * twoPow 52, by decide⟩])]⟩]

theorem survives_descriptor_options :
    DepthGuard.Lawful DepthGuard.deepest ∧
      (AllFinite formWithOptions.optionFloats ∧
        (Described.widget formWithOptions).nesting < DepthGuard.deepest ∧
        ReadBack formWithOptions formWithOptions.descriptor Schema.widget) ∧
      ReadBack (⟨true, some formWithOptions, none⟩ : ParseResult)
        (ParseResult.descriptor ⟨true, some formWithOptions, none⟩)
        (Json.toObject .notAnObject Schema.parseResult) ∧
      ReadBack (⟨none, none, [formWithOptions], some false⟩ : FormPreview)
        (FormPreview.descriptor ⟨none, none, [formWithOptions], some false⟩)
        (Json.toObject .notAnObject (Schema.formPreview 0)) := by
  have hfinite : AllFinite formWithOptions.optionFloats := by decide
  have hnesting : (Described.widget formWithOptions).nesting < DepthGuard.deepest := by decide
  obtain ⟨hwidgets, -, hresults, -, hforms, -⟩ := survives_descriptor DepthGuard.lawful_standard
  exact ⟨DepthGuard.lawful_standard,
    ⟨hfinite, hnesting, (hwidgets _ hfinite).readBack hnesting⟩,
    (hresults ⟨true, some formWithOptions, none⟩ rfl hfinite).readBack (by decide),
    (hforms _ (by decide) (by decide)).readBack (by decide)⟩

/-! ## Options that are nested too deep -/

/-- Arrays inside each other, with `null` in the innermost. -/
def Json.nested : Nat → Json
  | 0 => .null
  | n + 1 => .arr [nested n]

theorem Json.height_nested (n : Nat) : (nested n).height = n + 1 := by
  induction n with
  | zero => rfl
  | succ n ih =>
    rw [nested, height, itemsHeight, ih, itemsHeight]
    rfl

theorem Json.floats_nested (n : Nat) : (nested n).floats = [] := by
  induction n with
  | zero => rfl
  | succ n ih =>
    rw [nested, floats, itemsFloats, ih]
    rfl

/-- A chart with nothing but one option, which is nested `n + 1` deep. -/
def chartWithOption (n : Nat) : Widget :=
  .chart ⟨.line, none, none, none, [], [], some [("k".toList, Json.nested n)]⟩

theorem optionFloats_chartWithOption (n : Nat) : (chartWithOption n).optionFloats = [] := by
  show (Json.nested n).floats ++ [] = []
  rw [Json.floats_nested]
  rfl

theorem nesting_chartWithOption (n : Nat) : (chartWithOption n).nesting = n + 1 := by
  show Nat.max (Json.nested n).height 0 = n + 1
  rw [Json.height_nested]
  rfl

/-- **Not every widget can be written**: the options of a chart may be nested too deep. -/
theorem not_readBack_nested_options :
    AllFinite (chartWithOption 255).optionFloats ∧
      (chartWithOption 255).descriptor = .error .tooDeep ∧
      ¬ ReadBack (chartWithOption 255) (chartWithOption 255).descriptor Schema.widget := by
  have hrefused : (chartWithOption 255).descriptor = .error .tooDeep := by
    apply DepthGuard.descriptor_of_deep
    rw [nesting_chartWithOption]
    decide
  refine ⟨?_, hrefused, ?_⟩
  · rw [optionFloats_chartWithOption]
    decide
  · rintro ⟨j, hwritten, -⟩
    rw [hrefused] at hwritten
    exact absurd hwritten (by simp)

end Widgetry
