import Widgetry.Proofs.BlockGrammar
import Widgetry.Proofs.WrittenTables

/-!
# Charts that are written and read back

A chart has two written forms, and it is read back from both (`parseBlock_chart`). With an id on the
first line, all lines below it are the table, so the header of the table may have colons. With the
bare keyword on the first line the settings follow, in any order: what has been read of the chart
depends on the lines that have been read and not on their order (`readChartHeader_settings`). The
table then begins at its header, if there is no colon in the corner: the text before the first colon
has a comma in it and is no key (`readChartSetting?_header`).
-/

namespace Widgetry

open Text Outcome

/-! ## Keys -/

namespace Text

theorem mem_lowerFrom {c : Char} (hlower : lowerChar c = c) (hsigma : c ≠ 'Σ') (hdot : c ≠ 'İ')
    {t done : Text} {cased : Bool} (h : c ∈ done ∨ c ∈ t) : c ∈ lowerFrom done cased t := by
  induction t generalizing done cased with
  | nil => simpa [lowerFrom] using h
  | cons d t ih =>
    rw [lowerFrom]
    apply ih
    rcases h with h | h
    · exact Or.inl (List.mem_append_right _ h)
    · rcases List.mem_cons.mp h with rfl | h
      · refine Or.inl (List.mem_append_left _ ?_)
        simp [hsigma, hdot, hlower]
      · exact Or.inr h

/-- A comma stays when the text is put in lower case. -/
theorem comma_mem_lower {t : Text} (h : ',' ∈ t) : ',' ∈ lower t :=
  mem_lowerFrom (by decide +kernel) (by decide) (by decide) (Or.inr h)

end Text

namespace Grammar

theorem ChartKey.ofText?_of_comma {key : Text} (h : ',' ∈ key) : ofText? key = none := by
  rw [ofText?, if_neg, if_neg, if_neg]
  all_goals
    rintro rfl
    exact absurd h (by decide)

/-- A line with a comma before its first colon is no chart setting. -/
theorem readChartSetting?_of_comma {before : Text} (hcolon : ':' ∉ before) (after : Text) :
    readChartSetting? (before ++ ',' :: after) = none := by
  have hfront : ':' ∉ before ++ [','] := by simpa using hcolon
  have hcut := cutFirst?_append hfront after
  rw [List.append_assoc, List.singleton_append] at hcut
  rw [readChartSetting?, readSetting?, hcut]
  cases cutFirst? ':' after with
  | none => rfl
  | some x =>
    have hcomma : ',' ∈ lower (trim (before ++ [','] ++ x.1)) :=
      comma_mem_lower ((mem_trim_iff (by decide)).mpr (by simp))
    simp only [Option.map_some, Option.bind_some, ChartKey.ofText?_of_comma hcomma,
      Option.map_none]

/-! ## The loop over the settings -/

theorem readChartHeader_of_setting {h h' : ChartHeader} {table rest : List Text}
    {line value : Text} {key : ChartKey} (hline : readChartSetting? (trim line) = some (key, value))
    (hset : h.set key value = .ok h') :
    readChartHeader h table (line :: rest) = readChartHeader h' rest rest := by
  have hnil : trim line ≠ [] := by
    intro hnil
    rw [hnil] at hline
    exact absurd hline (by simp [readChartSetting?, readSetting?, cutFirst?])
  simp [readChartHeader, hline, hset]

theorem readChartHeader_of_table {h : ChartHeader} {table rest : List Text} {line : Text}
    (hink : trim line ≠ []) (hline : readChartSetting? (trim line) = none) :
    readChartHeader h table (line :: rest) = .ok (h, line :: rest) := by
  simp [readChartHeader, hline]

end Grammar

namespace Writer

open Grammar

/-! ## Settings -/

/-- The settings of the chart can be read back. -/
structure WritableSettings (c : Chart) : Prop where
  texts : ∀ t ∈ (Widget.chart c).scalars, Trimmed t ∧ '\n' ∉ t
  height : ∀ n ∈ c.height, (Text.ofNat n.natAbs).length ≤ maxIntegerDigits

/-- What the lines say about the chart, as far as they are settings of it. -/
def stated (c : Chart) (ls : List Text) : ChartHeader where
  id := c.id.filter fun t => setting "id" t ∈ ls
  title := c.title.filter fun t => setting "title" t ∈ ls
  height := c.height.filter fun n => setting "height" (Text.ofInt n) ∈ ls

theorem stated_nil (c : Chart) : stated c [] = ⟨none, none, none⟩ := by
  simp [stated]

theorem mem_chartSettings {c : Chart} {l : Text} :
    l ∈ chartSettings c ↔
      (∃ t, c.id = some t ∧ l = setting "id" t) ∨ (∃ t, c.title = some t ∧ l = setting "title" t) ∨
        ∃ n, c.height = some n ∧ l = setting "height" (Text.ofInt n) := by
  simp [chartSettings, eq_comm]

theorem filter_of_forall {α : Type} {p : α → Bool} {part : Option α}
    (h : ∀ a ∈ part, p a = true) : part.filter p = part := by
  cases part with
  | none => rfl
  | some a => exact Option.filter_some_pos (h a rfl)

/-- Lines among which are all the settings of the chart say all about it. -/
theorem stated_of_subset {c : Chart} {ls : List Text} (h : chartSettings c ⊆ ls) :
    stated c ls = ⟨c.id, c.title, c.height⟩ := by
  have hid : ∀ t ∈ c.id, setting "id" t ∈ ls :=
    fun t ht => h (mem_chartSettings.mpr (Or.inl ⟨t, ht, rfl⟩))
  have htitle : ∀ t ∈ c.title, setting "title" t ∈ ls :=
    fun t ht => h (mem_chartSettings.mpr (Or.inr (Or.inl ⟨t, ht, rfl⟩)))
  have hheight : ∀ n ∈ c.height, setting "height" (Text.ofInt n) ∈ ls :=
    fun n hn => h (mem_chartSettings.mpr (Or.inr (Or.inr ⟨n, hn, rfl⟩)))
  rw [stated, filter_of_forall (by simpa using hid), filter_of_forall (by simpa using htitle),
    filter_of_forall (by simpa using hheight)]

/-- A line that is not written from a part does not state it. -/
theorem filter_mem_cons_of_ne {α : Type} {write : α → Text} {l : Text} (h : ∀ a, write a ≠ l)
    (part : Option α) (ls : List Text) :
    part.filter (fun a => write a ∈ l :: ls) = part.filter fun a => write a ∈ ls := by
  cases part with
  | none => rfl
  | some a => simp [Option.filter_some, h a]

theorem filter_mem_cons_self {α : Type} (write : α → Text) (a : α) (ls : List Text) :
    (some a).filter (fun b => write b ∈ write a :: ls) = some a :=
  Option.filter_some_pos (by simp)

theorem readChartSetting?_setting {name : String} {key : ChartKey}
    (hname : Scalar name.toList ∧ ':' ∉ name.toList)
    (hkey : ChartKey.ofText? (lower name.toList) = some key) {value : Text}
    (hvalue : Trimmed value) :
    readChartSetting? (trim (setting name value)) = some (key, value) := by
  rw [readChartSetting?, readSetting?_setting hname hvalue, Option.bind_some]
  dsimp only
  rw [hkey, Option.map_some]

/-- **Reading one setting** adds it to what has been read. -/
theorem readChartHeader_setting {c : Chart} (h : WritableSettings c) {l : Text}
    (hl : l ∈ chartSettings c) (read table rest : List Text) :
    readChartHeader (stated c read) table (l :: rest) =
      readChartHeader (stated c (l :: read)) rest rest := by
  rcases mem_chartSettings.mp hl with ⟨t, ht, rfl⟩ | ⟨t, ht, rfl⟩ | ⟨n, hn, rfl⟩
  · have htrimmed := (h.texts t (by simp [Widget.scalars, ht])).1
    have hline : readChartSetting? (trim (setting "id" t)) = some (.id, t) :=
      readChartSetting?_setting (by decide) (by decide +kernel) htrimmed
    apply readChartHeader_of_setting hline
    rw [stated, stated, ht, filter_mem_cons_self, filter_mem_cons_of_ne (by simp [setting]),
      filter_mem_cons_of_ne (by simp [setting])]
    rfl
  · have htrimmed := (h.texts t (by simp [Widget.scalars, ht])).1
    have hline : readChartSetting? (trim (setting "title" t)) = some (.title, t) :=
      readChartSetting?_setting (by decide) (by decide +kernel) htrimmed
    apply readChartHeader_of_setting hline
    rw [stated, stated, ht, filter_mem_cons_self, filter_mem_cons_of_ne (by simp [setting]),
      filter_mem_cons_of_ne (by simp [setting])]
    rfl
  · have hline : readChartSetting? (trim (setting "height" (Text.ofInt n))) =
        some (.height, Text.ofInt n) :=
      readChartSetting?_setting (by decide) (by decide +kernel) (trimmed_ofInt n)
    apply readChartHeader_of_setting hline
    rw [ChartHeader.set, readInteger_ofInt (h.height n hn), stated, stated, hn,
      filter_mem_cons_self fun n => setting "height" (Text.ofInt n),
      filter_mem_cons_of_ne (by simp [setting]), filter_mem_cons_of_ne (by simp [setting])]
    rfl

/-- **Reading the settings**, in any order, says all that they say. The line below them, which is no
setting, begins the table. -/
theorem readChartHeader_settings {c : Chart} (h : WritableSettings c) {settings : List Text}
    (hsettings : settings ⊆ chartSettings c) {line : Text} (hink : trim line ≠ [])
    (hline : readChartSetting? (trim line) = none) (read table rest : List Text) :
    readChartHeader (stated c read) table (settings ++ line :: rest) =
      .ok (stated c (settings.reverse ++ read), line :: rest) := by
  induction settings generalizing read table with
  | nil => exact readChartHeader_of_table hink hline
  | cons l settings ih =>
    have hl : l ∈ chartSettings c := hsettings List.mem_cons_self
    have hrest : settings ⊆ chartSettings c := fun x hx => hsettings (List.mem_cons_of_mem l hx)
    rw [List.cons_append, readChartHeader_setting h hl, ih hrest, List.reverse_cons,
      List.append_assoc, List.singleton_append]

/-- The header of a table is no setting, whatever the names, if there is no colon in the corner. -/
theorem WritableTable.readChartSetting?_header {corner : Text} {c : Chart}
    (h : WritableTable corner c) (hcolon : ':' ∉ corner) :
    readChartSetting? (trim (tableRow (corner :: c.datasets.map Dataset.label))) = none := by
  rw [trim_eq_self h.scalar_header.trimmed]
  obtain ⟨d, others, hdatasets⟩ := List.exists_cons_of_ne_nil h.nonempty
  rw [hdatasets, List.map_cons, tableRow, List.intercalate_cons_cons, List.append_assoc,
    List.singleton_append]
  exact readChartSetting?_of_comma hcolon _

/-! ## Charts -/

/-- The first line of a chart. -/
theorem lineReadAs_chart {c : Chart} (h : ∀ t ∈ (Widget.chart c).scalars, OneLine t) :
    LineReadAs (line (.chart c)) ((Keyword.chart c.kind).text :: [c.id, c.title].filterMap id) := by
  have hid : ∀ t ∈ c.id, OneLine t :=
    fun t ht => h t (by simp [Widget.scalars, Option.mem_def.mp ht])
  have htitle : ∀ t ∈ c.title, OneLine t :=
    fun t ht => h t (by simp [Widget.scalars, Option.mem_def.mp ht])
  apply lineReadAs_spaced (lineReadAs_keyword _)
  exact .cons (rel_lineReadAs_quoted hid) (.cons (rel_lineReadAs_quoted htitle) .nil)

/-- A block with the table of the chart is read as the chart, if the lines above the table are read
as its id, title and height. -/
theorem parseBlock_of_chartHead {corner : Text} {c : Chart} (htable : WritableTable corner c)
    (hoptions : c.options = none) {first : Text} {tokens : List Text} (settings : List Text)
    (hfirst : LineReadAs first ((Keyword.chart c.kind).text :: tokens))
    (hsettings : ∀ l ∈ settings, '\n' ∉ l)
    (hhead : ∀ source, lines source = (first, settings ++ table corner c) →
      ChartHead source ⟨c.id, c.title, c.height⟩ (table corner c)) :
    parseBlock (unlines (first :: settings ++ table corner c)) = ⟨true, some (.chart c), none⟩ := by
  have hne : table corner c ≠ [] := by simp [table]
  obtain ⟨⟨_, hparse⟩, hwritten⟩ :=
    parse_unlines hfirst hsettings htable.scalar_of_mem_table hne
  have hread : readChart c.kind (unlines (first :: (settings ++ table corner c))) = .ok c := by
    refine readChart_eq_ok_iff.mpr ⟨?_, _, _, _, hhead _ hwritten, htable.readTable_table, ?_⟩
    · rw [hwritten]
      simpa using fun _ => hne
    · rw [← hoptions]
  apply Streaming.parseBlock_eq
  refine hparse.trans ?_
  exact map_eq_ok_iff.mpr ⟨c, hread, rfl⟩

/-- The first line has a place for all that is set of the chart beside its table. -/
structure WritableHeader (c : Chart) : Prop where
  id : c.id.isSome = true
  texts : ∀ t ∈ (Widget.chart c).scalars, OneLine t
  height : c.height = none

/-- **A written chart is read back**, whatever stands in the corner of its table. It is read back
from the form with id and title on the first line, which has no place for a height; and from the form
with id, title and height in settings, whatever their order, if the corner has no colon. -/
theorem parseBlock_chart {corner : Text} {c : Chart} (htable : WritableTable corner c)
    (hoptions : c.options = none) :
    (WritableHeader c → parseBlock (Writer.chart corner c) = ⟨true, some (.chart c), none⟩) ∧
      (WritableSettings c → ':' ∉ corner → ∀ settings, settings.Perm (chartSettings c) →
        parseBlock (chartWithSettings corner c settings) = ⟨true, some (.chart c), none⟩) := by
  constructor
  · intro hheader
    obtain ⟨name, hname⟩ := Option.isSome_iff_exists.mp hheader.id
    have hfirst := lineReadAs_chart hheader.texts
    refine parseBlock_of_chartHead htable hoptions [] hfirst (by simp) ?_
    intro source hsource
    refine Or.inl ⟨name, c.title.toList, ?_, ?_, by rw [hsource]; rfl⟩
    · rw [hsource, hfirst.tokens, hname]
      cases c.title <;> rfl
    · rw [hname, hheader.height]
      cases c.title <;> rfl
  · intro hsettings hcorner settings hperm
    have hword := lineReadAs_keyword (.chart c.kind)
    have hlines : ∀ l ∈ settings, '\n' ∉ l := by
      intro l hl
      rcases mem_chartSettings.mp (hperm.subset hl) with ⟨t, ht, rfl⟩ | ⟨t, ht, rfl⟩ | ⟨n, -, rfl⟩
      · exact not_mem_setting (by decide) (hsettings.texts t (by simp [Widget.scalars, ht])).2
      · exact not_mem_setting (by decide) (hsettings.texts t (by simp [Widget.scalars, ht])).2
      · exact not_mem_setting (by decide) (not_mem_ofInt (by decide) (by decide) n)
    refine parseBlock_of_chartHead htable hoptions settings hword hlines ?_
    intro source hsource
    refine Or.inr ⟨by rw [hsource, hword.tokens]; rfl, ?_⟩
    have hink : trim (tableRow (corner :: c.datasets.map Dataset.label)) ≠ [] := by
      rw [trim_eq_self htable.scalar_header.trimmed]
      exact htable.scalar_header.ne_nil
    rw [hsource, ← stated_nil c, table,
      readChartHeader_settings hsettings hperm.subset hink
        (htable.readChartSetting?_header hcorner)]
    rw [List.append_nil, stated_of_subset fun l hl => List.mem_reverse.mpr (hperm.symm.subset hl)]

/-- A chart with colons in the header of its table and an empty label, and a chart with its settings
in another order, one of which is empty, and with a name that looks like a setting. -/
theorem parseBlock_chart_two_forms :
    let c : Chart := ⟨.bar, some "c 1".toList, none, none, ["Q1".toList, []],
      [⟨"a: b".toList, [.int 10, .int (-20)]⟩, ⟨[], [.int 0, .int (2 ^ 53)]⟩], none⟩
    let d : Chart := ⟨.line, some [], some "T: 1".toList, some 300, ["\"x\"".toList],
      [⟨"id: y".toList, [.int 5]⟩], none⟩
    let settings := [setting "height" "300".toList, setting "id" [],
      setting "title" "T: 1".toList]
    (Writer.chart "x:y".toList c =
          "chart-bar \"c 1\"\nx:y,a: b,\nQ1,10,0\n,-20,9007199254740992".toList ∧
        parseBlock (Writer.chart "x:y".toList c) = ⟨true, some (.chart c), none⟩) ∧
      chartWithSettings [] d settings =
          "chart-line\nheight: 300\nid: \ntitle: T: 1\n,id: y\n\"x\",5".toList ∧
        parseBlock (chartWithSettings [] d settings) = ⟨true, some (.chart d), none⟩ := by
  intro c d settings
  have hc : WritableTable "x:y".toList c :=
    ⟨by decide, by decide, by decide, by simp [c], by decide, by decide⟩
  have hd : WritableTable [] d :=
    ⟨by decide, by decide, by decide, by simp [d], by decide, by decide⟩
  have hheader : WritableHeader c := ⟨rfl, by decide, rfl⟩
  have hsettings : WritableSettings d := ⟨by decide, by decide⟩
  have hperm : settings.Perm (chartSettings d) := by decide
  exact ⟨⟨by decide +kernel, (parseBlock_chart hc rfl).1 hheader⟩, by decide +kernel,
    (parseBlock_chart hd rfl).2 hsettings (by simp) settings hperm⟩

end Writer

end Widgetry
