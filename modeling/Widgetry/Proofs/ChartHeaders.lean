import Widgetry.Proofs.BlockGrammar
import Widgetry.Proofs.Lines
import Widgetry.Proofs.QuizSettings
import Widgetry.Proofs.Tables
import Widgetry.Streaming.Preview

/-!
# The header of a chart, read twice

The grammar reads the id and the title of a chart from its first line or, if that is the bare
keyword, from the chart settings below it; the first line that is no such setting begins the table.
The preview looks for the table in another way: it takes every line with a colon for a setting until
a line has a comma and no colon. So it reads on where the table begins with such lines, also below a
first line that has an id, and what it finds there replaces what the grammar has read
(`showsHeader_iff`). It shows the header of the chart if the first line of the table has no colon.
-/

namespace Widgetry

open Text Outcome Grammar

namespace Grammar

/-! ## The loop over the settings -/

/-- One line of the loop: it is skipped, begins the table, or is a setting. -/
theorem readChartHeader_cons (h : ChartHeader) (table : List Text) (line : Text)
    (rest : List Text) :
    (trim line = [] ∧
        readChartHeader h table (line :: rest) = readChartHeader h table rest) ∨
      readChartHeader h table (line :: rest) = .ok (h, line :: rest) ∨
      ∃ key value, readChartSetting? (trim line) = some (key, value) ∧
        ((∃ h', h.set key value = .ok h' ∧
            readChartHeader h table (line :: rest) = readChartHeader h' rest rest) ∨
          ∃ e, readChartHeader h table (line :: rest) = .error e) := by
  by_cases hnil : trim line = []
  · exact Or.inl ⟨hnil, by simp [readChartHeader, hnil]⟩
  · cases hsetting : readChartSetting? (trim line) with
    | none => exact Or.inr (Or.inl (by simp [readChartHeader, hsetting]))
    | some setting =>
      obtain ⟨key, value⟩ := setting
      refine Or.inr (Or.inr ⟨key, value, rfl, ?_⟩)
      cases hset : h.set key value with
      | ok h' => exact Or.inl ⟨h', rfl, by simp [readChartHeader, hsetting, hset]⟩
      | error e => exact Or.inr ⟨e, by simp [readChartHeader, hsetting, hset]⟩

/-- What stands above a table, and where the table begins, is said by the block. -/
theorem chartHead_unique {source : Text} {header header' : ChartHeader} {table table' : List Text}
    (h : ChartHead source header table) (h' : ChartHead source header' table') :
    header = header' ∧ table = table' := by
  rcases h with ⟨id, rest, hfirst, rfl, rfl⟩ | ⟨hfirst, hread⟩
  · rcases h' with ⟨id', rest', hfirst', rfl, rfl⟩ | ⟨hfirst', -⟩
    · rw [hfirst] at hfirst'
      cases hfirst'
      exact ⟨rfl, rfl⟩
    · rw [hfirst] at hfirst'
      exact absurd hfirst' (by simp)
  · rcases h' with ⟨id', rest', hfirst', -, -⟩ | ⟨-, hread'⟩
    · rw [hfirst] at hfirst'
      exact absurd hfirst' (by simp)
    · rw [hread] at hread'
      cases hread'
      exact ⟨rfl, rfl⟩

/-- The header of a table has at least two cells, and a comma between them. -/
theorem comma_of_readTable {first : Text} {rest : List Text} {table : Table}
    (h : readTable (first :: rest) = .ok table) : ',' ∈ first := by
  obtain ⟨header, rest', names, rows, hls, rfl, hne, -, -⟩ := readTable_eq_ok_iff.mp h
  cases hls
  by_contra hcomma
  have hwhole : cut (· == ',') (trim first) = (trim first, []) :=
    cut_of_not_mem (beq_false_of_not_mem fun hmem => hcomma (mem_of_mem_trim hmem))
  exact hne (by simp [cells, hwhole])

end Grammar

namespace Streaming

/-! ## What the preview takes for settings -/

/-- A line that ends the settings for the preview: it has a comma and no colon. -/
def endsPreview (line : Text) : Bool := line.contains ',' && !line.contains ':'

/-- The value that a line states for a key of the chart. -/
def statedValue? (key : ChartKey) (line : Text) : Option Text :=
  (readChartSetting? (trim line)).bind fun setting =>
    if setting.1 = key then some setting.2 else none

/-- The last value that the lines state for a key, as far as the preview reads them. -/
def lastValue? (key : ChartKey) (ls : List Text) : Option Text :=
  ((ls.takeWhile (!endsPreview ·)).filterMap (statedValue? key)).getLast?

theorem lastValue?_cons_of_ends {key : ChartKey} {line : Text} (h : endsPreview line = true)
    (ls : List Text) : lastValue? key (line :: ls) = none := by
  simp [lastValue?, h]

theorem lastValue?_cons {key : ChartKey} {line : Text} (h : endsPreview line = false)
    (ls : List Text) :
    lastValue? key (line :: ls) = (lastValue? key ls <|> statedValue? key line) := by
  rw [lastValue?, List.takeWhile_cons_of_pos (by simp [h]), getLast?_filterMap_cons]
  rfl

theorem statedValue?_of_readSetting {line word value : Text}
    (h : readSetting? (trim line) = some (word, value)) (key : ChartKey) :
    statedValue? key line = if ChartKey.ofText? word = some key then some value else none := by
  rw [statedValue?, readChartSetting?, h, Option.bind_some]
  dsimp only
  cases ChartKey.ofText? word with
  | none => rfl
  | some k => simp

theorem statedValue?_of_not_mem {line : Text} (h : ':' ∉ line) (key : ChartKey) :
    statedValue? key line = none := by
  rw [statedValue?, readChartSetting?, readSetting?_trim_eq_none_iff.mpr h]
  rfl

/-- **What the preview reads**: for each key the last value that is stated, or else what there was
before. -/
theorem previewChartHeader_eq (id title : Option Text) (ls : List Text) :
    previewChartHeader id title ls = (lastValue? .id ls <|> id, lastValue? .title ls <|> title) := by
  induction ls generalizing id title with
  | nil => rfl
  | cons line ls ih =>
    rw [previewChartHeader]
    cases hsetting : readSetting? (trim line) with
    | none =>
      have hcolon : ':' ∉ line := readSetting?_trim_eq_none_iff.mp hsetting
      by_cases hcomma : ',' ∈ line
      · have hends : endsPreview line = true := by simp [endsPreview, hcomma, hcolon]
        simp [hcomma, lastValue?_cons_of_ends hends]
      · have hends : endsPreview line = false := by simp [endsPreview, hcomma]
        simp [hcomma, lastValue?_cons hends, statedValue?_of_not_mem hcolon, ih]
    | some setting =>
      obtain ⟨word, value⟩ := setting
      have hcolon : ':' ∈ line := by
        by_contra hmem
        rw [readSetting?_trim_eq_none_iff.mpr hmem] at hsetting
        exact absurd hsetting (by simp)
      have hends : endsPreview line = false := by simp [endsPreview, hcolon]
      rw [lastValue?_cons hends, lastValue?_cons hends, statedValue?_of_readSetting hsetting,
        statedValue?_of_readSetting hsetting]
      cases hkey : ChartKey.ofText? word with
      | none => simp [hkey, ih]
      | some key => cases key <;> simp [hkey, ih]

/-! ## The settings above the table -/

/-- What the preview shows where the grammar has read a header: the id, or what stands for a missing
one, and the title. -/
def shownHeader (h : ChartHeader) : Option Text × Option Text :=
  (some (h.id.getD pendingId), h.title)

/-- The preview reads on from a header. -/
def previewFrom (h : ChartHeader) (ls : List Text) : Option Text × Option Text :=
  previewChartHeader (shownHeader h).1 (shownHeader h).2 ls

/-- A line without ink states nothing. -/
theorem previewFrom_of_blank {line : Text} (hblank : trim line = []) (h : ChartHeader)
    (ls : List Text) : previewFrom h (line :: ls) = previewFrom h ls := by
  have hcomma : ',' ∉ line := by
    rw [← mem_trim_iff (by decide), hblank]
    simp
  rw [previewFrom, previewChartHeader, hblank]
  simp [readSetting?, cutFirst?, hcomma, previewFrom]

/-- A chart setting is taken as the grammar takes it. -/
theorem previewFrom_of_set {h h' : ChartHeader} {key : ChartKey} {line value : Text}
    (hline : readChartSetting? (trim line) = some (key, value)) (hset : h.set key value = .ok h')
    (ls : List Text) : previewFrom h (line :: ls) = previewFrom h' ls := by
  obtain ⟨⟨word, value'⟩, hsetting, hkey⟩ := Option.bind_eq_some_iff.mp hline
  obtain ⟨key', hword, hpair⟩ := Option.map_eq_some_iff.mp hkey
  cases hpair
  rw [previewFrom, previewChartHeader, hsetting]
  dsimp only
  rw [hword]
  cases key with
  | id =>
    cases hset
    rfl
  | title =>
    cases hset
    rfl
  | height =>
    obtain ⟨height, -, rfl⟩ := map_eq_ok_iff.mp hset
    rfl

theorem previewFrom_append_of_blank {blanks : List Text} (hblanks : ∀ line ∈ blanks, trim line = [])
    (h : ChartHeader) (ls : List Text) : previewFrom h (blanks ++ ls) = previewFrom h ls := by
  induction blanks with
  | nil => rfl
  | cons line blanks ih =>
    rw [List.cons_append, previewFrom_of_blank (hblanks line List.mem_cons_self)]
    exact ih fun l hl => hblanks l (List.mem_cons_of_mem line hl)

/-- **Above the table the preview reads what the grammar reads.** The lines without ink that the
grammar has passed by are its table if nothing else follows. -/
theorem previewFrom_of_readChartHeader {h h' : ChartHeader} {blanks ls table : List Text}
    (hblanks : ∀ line ∈ blanks, trim line = [])
    (hread : readChartHeader h (blanks ++ ls) ls = .ok (h', table)) :
    previewFrom h (blanks ++ ls) = previewFrom h' table := by
  induction ls generalizing h blanks with
  | nil =>
    cases hread
    rfl
  | cons line rest ih =>
    rcases readChartHeader_cons h (blanks ++ line :: rest) line rest with
      ⟨hnil, hstep⟩ | hstep | ⟨key, value, hline, ⟨h₁, hset, hstep⟩ | ⟨e, hstep⟩⟩
    · have hpassed : ∀ l ∈ blanks ++ [line], trim l = [] := by
        intro l hl
        rcases List.mem_append.mp hl with hl | hl
        · exact hblanks l hl
        · rw [List.mem_singleton.mp hl, hnil]
      rw [hstep, List.append_cons] at hread
      rw [List.append_cons]
      exact ih hpassed hread
    · rw [hstep] at hread
      cases hread
      exact previewFrom_append_of_blank hblanks _ _
    · have hnone : ∀ l ∈ ([] : List Text), trim l = [] := by simp
      rw [hstep] at hread
      rw [previewFrom_append_of_blank hblanks, previewFrom_of_set hline hset]
      exact ih hnone hread
    · rw [hstep] at hread
      exact absurd hread (by simp)

/-! ## The preview of a chart -/

/-- The preview continues the header of the chart over the lines of its table. -/
theorem previewChart_eq {kind : ChartKind} {source : Text} {header : ChartHeader}
    {table : List Text} (h : ChartHead source header table) :
    previewChart kind source = ⟨kind, (previewFrom header table).1, (previewFrom header table).2,
      none, [], [], some true⟩ := by
  rcases h with ⟨id, rest, hfirst, rfl, rfl⟩ | ⟨hfirst, hread⟩
  · simp only [previewChart, hfirst]
    rfl
  · have hnone : ∀ l ∈ ([] : List Text), trim l = [] := by simp
    have hsame : previewFrom ⟨none, none, none⟩ (lines source).2 = previewFrom header table :=
      previewFrom_of_readChartHeader hnone hread
    simp only [previewChart, hfirst]
    rw [← hsame]
    rfl

/-- The preview shows the header of the chart: its title, and its id or what stands for one. -/
def ShowsHeader (r : StreamingResult) (c : Chart) : Prop :=
  ∃ p, r.widget = some (.chart p) ∧ p.title = c.title ∧ p.id = some (c.id.getD pendingId)

theorem orElse_eq_iff {α : Type} {newer older : Option α} :
    (newer <|> older) = older ↔ ∀ a ∈ newer, older = some a := by
  cases newer <;> simp [eq_comm]

theorem getD_eq_iff {α : Type} {newer : Option α} {older : α} :
    newer.getD older = older ↔ ∀ a ∈ newer, older = a := by
  cases newer <;> simp [eq_comm]

theorem showsHeader_unfinished_iff {typeName : Text} {p : ChartPreview} {pending : Pending}
    {c : Chart} : ShowsHeader (unfinished typeName (.chart p) pending) c ↔
      p.title = c.title ∧ p.id = some (c.id.getD pendingId) := by
  constructor
  · rintro ⟨p', hp, h⟩
    cases hp
    exact h
  · exact fun h => ⟨p, rfl, h⟩

/-- **Exactly when a preview shows the header of the chart.** It shows the last title and the last id
that the first lines of the table state, those before a line with a comma and no colon, or else what
the grammar has read. So it shows the header exactly if such a title is the title of the chart, and
such an id the id that is shown for it; and it does if the first line of the table has no colon. -/
theorem showsHeader_iff {kind : ChartKind} {source : Text} {c : Chart} {header : ChartHeader}
    {table : List Text} (h : readChart kind source = .ok c) (hhead : ChartHead source header table)
    (pending : Pending) :
    ∃ r, preview (Keyword.chart kind).text source pending = .ok r ∧
      (∃ p, r.widget = some (.chart p) ∧ p.title = (lastValue? .title table <|> c.title) ∧
        p.id = some ((lastValue? .id table).getD (c.id.getD pendingId))) ∧
      (ShowsHeader r c ↔
        (∀ title ∈ lastValue? .title table, c.title = some title) ∧
          ∀ id ∈ lastValue? .id table, c.id.getD pendingId = id) ∧
      ((∀ line ∈ table.head?, ':' ∉ line) → ShowsHeader r c) := by
  obtain ⟨-, header', table', t, hhead', htable, rfl⟩ := readChart_eq_ok_iff.mp h
  obtain ⟨rfl, rfl⟩ := chartHead_unique hhead hhead'
  have hshown : previewChart kind source = ⟨kind,
      some ((lastValue? .id table).getD (header.id.getD pendingId)),
      (lastValue? .title table <|> header.title), none, [], [], some true⟩ := by
    rw [previewChart_eq hhead, previewFrom, previewChartHeader_eq, shownHeader]
    simp
  have hpreview : preview (Keyword.chart kind).text source pending =
      .ok (unfinished (Keyword.chart kind).text (.chart (previewChart kind source))
        { pending with awaitingData := true }) := by
    simp only [preview, Keyword.ofText?_text]
  rw [hshown] at hpreview
  refine ⟨_, hpreview, ⟨_, rfl, rfl, rfl⟩, ?_, fun hcolon => ?_⟩
  · rw [showsHeader_unfinished_iff, orElse_eq_iff, Option.some_inj, getD_eq_iff]
  · -- the first line of the table has a comma, so without a colon the preview ends there
    obtain ⟨first, rest, -, -, rfl, -⟩ := readTable_eq_ok_iff.mp htable
    have hends : endsPreview first = true := by
      simp [endsPreview, comma_of_readTable htable, hcolon first rfl]
    rw [showsHeader_unfinished_iff, lastValue?_cons_of_ends hends, lastValue?_cons_of_ends hends]
    exact ⟨rfl, rfl⟩

/-- A chart with settings, a blank line among them, and a row that looks like a setting. -/
theorem showsHeader_settings :
    let t := "chart-bar\ntitle: Visits\n\nid: v\nDay,Count\nid: x,1".toList
    ∃ c r, readChart .bar t = .ok c ∧ c.id = some "v".toList ∧ c.title = some "Visits".toList ∧
      ChartHead t ⟨c.id, c.title, none⟩ ["Day,Count".toList, "id: x,1".toList] ∧
      preview (Keyword.chart .bar).text t .unstated = .ok r ∧ ShowsHeader r c := by
  intro t
  obtain ⟨c, hc, hid, htitle⟩ : ∃ c, readChart .bar t = .ok c ∧ c.id = some "v".toList ∧
      c.title = some "Visits".toList := ⟨_, rfl, rfl, rfl⟩
  have hhead : ChartHead t ⟨c.id, c.title, none⟩ ["Day,Count".toList, "id: x,1".toList] := by
    rw [hid, htitle]
    exact Or.inr ⟨by decide, by decide +kernel⟩
  obtain ⟨r, hr, -, -, hshows⟩ := showsHeader_iff hc hhead .unstated
  exact ⟨c, r, hc, hid, htitle, hhead, hr, hshows (by decide)⟩

/-- **A preview need not show the header of the chart.** The first chart has its id on the first
line, but the header of its table looks like a setting. The settings of the second one end at a line
with another key, and a row below it looks like a title. -/
theorem not_showsHeader_colon :
    (let t := "chart-line sales Revenue\nid: x, y\nJan, 1".toList
      ∃ c r p, readChart .line t = .ok c ∧ preview (Keyword.chart .line).text t .unstated = .ok r ∧
        c.id = some "sales".toList ∧ r.widget = some (.chart p) ∧ p.id = some "x, y".toList ∧
        ¬ ShowsHeader r c) ∧
      let t := "chart-line\ntitle: Revenue\nWeek: a,b\ntitle: x,1".toList
      ∃ c r p, readChart .line t = .ok c ∧ preview (Keyword.chart .line).text t .unstated = .ok r ∧
        c.title = some "Revenue".toList ∧ r.widget = some (.chart p) ∧
        p.title = some "x,1".toList ∧ ¬ ShowsHeader r c := by
  constructor
  · refine ⟨_, _, _, rfl, rfl, rfl, rfl, rfl, ?_⟩
    rintro ⟨p, hp, -, hid⟩
    cases hp
    exact absurd hid (by decide)
  · refine ⟨_, _, _, rfl, rfl, rfl, rfl, rfl, ?_⟩
    rintro ⟨p, hp, htitle, -⟩
    cases hp
    exact absurd htitle (by decide)

end Streaming

end Widgetry
