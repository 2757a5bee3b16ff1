import TemplateWorkbench.Proofs.Text.Lines
import TemplateWorkbench.Template.Report

/-!
# The line that a report quotes

A fault tells its line as the lexer counts lines, at LF, CR and CRLF.  The report looks the line up among
pieces that are also cut at the vertical controls and at the separators of later standards, so a line that
holds one of these is quoted only up to it, and the lines behind it are miscounted.

```text
lines before it   the line       what is quoted
whole             whole          the line
whole             cut somewhere  the front of the line
cut somewhere     any            some piece
```

* `Text.splitLines_unify` : the pieces do not depend on how lines end
* `Text.splitLines_getElem?` : up to the first line that is cut, pieces are the fronts of lines
* `quotesTruly_iff` : a report quotes the right line exactly if that line is whole
* `reports_quote_truly` : every line of a source is quoted rightly exactly if no line is cut
-/

namespace TemplateWorkbench.Text

/-! ### Lines -/

/-- The lines of a text that are cut at line feeds; an empty piece behind the last line feed is no line. -/
def feedLines (text : List Char) : List (List Char) :=
  let pieces := text.splitOn '\n'
  if pieces.getLast? = some [] then pieces.dropLast else pieces

/-- What stands before the first line feed is the first line. -/
theorem feedLines_append {line : List Char} (hline : '\n' ∉ line) (rest : List Char) :
    feedLines (line ++ '\n' :: rest) = line :: feedLines rest := by
  have hpieces : rest.splitOn '\n' ≠ [] := List.splitOn_ne_nil _ _
  simp only [feedLines, List.splitOn_append_cons_self_of_not_mem hline,
    List.getLast?_cons_of_ne_nil hpieces, List.dropLast_cons_of_ne_nil hpieces]
  split <;> rfl

/-- A text without a line feed is one line, if it is not empty. -/
theorem feedLines_eq_singleton {line : List Char} (hline : '\n' ∉ line) (hne : line ≠ []) :
    feedLines line = [line] := by
  unfold feedLines
  rw [List.splitOn_eq_singleton hline]
  simp [hne]

theorem feedLines_nil : feedLines [] = [] := rfl

/-! ### Pieces -/

/-- A line that holds nothing at which lines that are quoted are cut. -/
def IsWhole (line : List Char) : Prop := ∀ c ∈ line, isLineBoundary c = false

/-- The part of a line before the first place at which it is cut. -/
def front (line : List Char) : List Char := line.takeWhile fun c => !isLineBoundary c

theorem front_eq_self_iff {line : List Char} : front line = line ↔ IsWhole line := by
  simp [front, IsWhole, List.takeWhile_eq_self_iff]

theorem splitLinesFrom_cons {c : Char} (hcr : c ≠ '\r') (line rest : List Char) :
    splitLinesFrom line (c :: rest) =
      if isLineBoundary c then line.reverse :: splitLinesFrom [] rest
      else splitLinesFrom (c :: line) rest := by
  rw [splitLinesFrom]
  exact fun _ h _ => hcr h

/-- A text is cut into the same pieces whatever its lines end with. -/
theorem splitLinesFrom_unify (line text : List Char) :
    splitLinesFrom line (unify text) = splitLinesFrom line text := by
  fun_induction splitLinesFrom line text with
  | case1 line hempty => simp [unify, splitLinesFrom, hempty]
  | case2 line hopen => simp [unify, splitLinesFrom, hopen]
  -- A carriage return with a line feed behind it is one boundary, and becomes one.
  | case3 line rest ih =>
      rw [unify, splitLinesFrom_cons (by decide), if_pos (by decide), ih]
  -- A carriage return that stands alone is unified, and any other boundary stays.
  | case4 line c rest hnext hboundary ih =>
      by_cases hcr : c = '\r'
      · subst hcr
        have hunify : unify ('\r' :: rest) = '\n' :: unify rest := by
          rw [unify]
          exact fun more hmore => hnext more rfl hmore
        rw [hunify, splitLinesFrom_cons (by decide), if_pos (by decide), ih]
      · have hunify : unify (c :: rest) = c :: unify rest := by
          rw [unify]
          · exact fun _ h _ => hcr h
          · exact hcr
        rw [hunify, splitLinesFrom_cons hcr, if_pos hboundary, ih]
  | case5 line c rest hnext hboundary ih =>
      have hcr : c ≠ '\r' := by
        rintro rfl
        exact hboundary (by decide)
      have hunify : unify (c :: rest) = c :: unify rest := by
        rw [unify]
        · exact fun _ h _ => hcr h
        · exact hcr
      rw [hunify, splitLinesFrom_cons hcr, if_neg hboundary, ih]

theorem splitLines_unify (text : List Char) : splitLines (unify text) = splitLines text :=
  splitLinesFrom_unify [] text

/-- A whole line is passed. -/
theorem splitLinesFrom_append {line : List Char} (hwhole : IsWhole line) (opened rest : List Char) :
    splitLinesFrom opened (line ++ rest) = splitLinesFrom (line.reverse ++ opened) rest := by
  induction line generalizing opened with
  | nil => rfl
  | cons c line ih =>
      obtain ⟨hc, hline⟩ := List.forall_mem_cons.mp hwhole
      have hcr : c ≠ '\r' := by
        rintro rfl
        exact absurd hc (by decide)
      rw [List.cons_append, splitLinesFrom_cons hcr, hc, if_neg (by decide), ih hline]
      simp

/-- A whole line that a line feed ends is a piece. -/
theorem splitLines_append {line : List Char} (hwhole : IsWhole line) (rest : List Char) :
    splitLines (line ++ '\n' :: rest) = line :: splitLines rest := by
  rw [splitLines, splitLinesFrom_append hwhole, splitLinesFrom_cons (by decide), if_pos (by decide)]
  simp [splitLines]

/-- A whole line that nothing follows is the last piece. -/
theorem splitLines_eq_singleton {line : List Char} (hwhole : IsWhole line) (hne : line ≠ []) :
    splitLines line = [line] := by
  have hline := splitLinesFrom_append hwhole [] []
  rw [List.append_nil, List.append_nil] at hline
  rw [splitLines, hline, splitLinesFrom]
  simp [hne]

/-- The first piece of a text is the front of the text. -/
theorem splitLines_getElem?_zero {text : List Char} (hcr : '\r' ∉ text) (hne : text ≠ []) :
    (splitLines text)[0]? = some (front text) := by
  have hwhole : IsWhole (front text) := fun c hc => by
    simpa using List.mem_takeWhile_imp hc
  have htext : front text ++ text.dropWhile (fun c => !isLineBoundary c) = text :=
    List.takeWhile_append_dropWhile
  have hcut := splitLinesFrom_append hwhole [] (text.dropWhile fun c => !isLineBoundary c)
  rw [htext] at hcut
  cases hrest : text.dropWhile fun c => !isLineBoundary c with
  | nil =>
      rw [hrest, List.append_nil] at htext
      rw [htext] at hwhole ⊢
      rw [splitLines_eq_singleton hwhole hne]
      rfl
  | cons c rest =>
      have hhead := List.head?_dropWhile_not (fun c => !isLineBoundary c) text
      rw [hrest] at hhead
      have hboundary : isLineBoundary c = true := by simpa using hhead
      have hc : c ≠ '\r' := by
        rintro rfl
        exact hcr ((List.dropWhile_sublist _).subset (hrest ▸ List.mem_cons_self))
      rw [splitLines, hcut, hrest, splitLinesFrom_cons hc, if_pos hboundary]
      simp

theorem front_append (line rest : List Char) : front (line ++ '\n' :: rest) = front line := by
  induction line with
  | nil => rfl
  | cons c line ih => simp only [List.cons_append, front, List.takeWhile_cons] at ih ⊢; rw [ih]

/-- Up to the first line that is cut, and for this line too, every piece is the front of its line. -/
theorem splitLines_getElem? {text : List Char} (hcr : '\r' ∉ text) {number : Nat}
    (hearlier : ∀ line ∈ (feedLines text).take number, IsWhole line) :
    (splitLines text)[number]? = ((feedLines text)[number]?).map front := by
  rcases eq_or_ne text [] with rfl | hne
  · rfl
  -- A line that is whole is cut off, and the numbers of those behind it go down by one.
  induction number generalizing text with
  | zero =>
      rw [splitLines_getElem?_zero hcr hne]
      rcases exists_first_line text with hline | ⟨line, rest, hline, rfl⟩
      · rw [feedLines_eq_singleton hline hne]
        rfl
      · rw [feedLines_append hline, front_append]
        rfl
  | succ number ih =>
      rcases exists_first_line text with hline | ⟨line, rest, hline, rfl⟩
      · rw [feedLines_eq_singleton hline hne] at hearlier ⊢
        rw [splitLines_eq_singleton (hearlier text (by simp)) hne]
        rfl
      · rw [feedLines_append hline, List.take_succ_cons, List.forall_mem_cons] at hearlier
        rw [feedLines_append hline, splitLines_append hearlier.1, List.getElem?_cons_succ,
          List.getElem?_cons_succ]
        have hrest : '\r' ∉ rest := fun hmem => hcr (by simp [hmem])
        rcases eq_or_ne rest [] with rfl | hmore
        · rfl
        · exact ih hrest hearlier.2 hmore

/-! ### Characters of lines -/

/-- The characters of lines are those of the text, less the line feeds. -/
theorem exists_mem_feedLines_iff {c : Char} (text : List Char) :
    (∃ line ∈ feedLines text, c ∈ line) ↔ c ∈ text ∧ c ≠ '\n' := by
  induction text using induction_on_lines with
  | single line hline =>
      have hfeed : c ∈ line → c ≠ '\n' := by
        rintro hc rfl
        exact hline hc
      rcases eq_or_ne line [] with rfl | hne
      · simp [feedLines_nil]
      · rw [feedLines_eq_singleton hline hne]
        simpa using hfeed
  | more line rest hline ih =>
      have hfeed : c ∈ line → c ≠ '\n' := by
        rintro hc rfl
        exact hline hc
      simp only [feedLines_append hline, List.mem_cons, or_and_right, exists_or, exists_eq_left, ih,
        List.mem_append]
      tauto

/-- No character but a line end comes or goes where line ends are unified. -/
theorem mem_unify_iff {c : Char} (hlf : c ≠ '\n') (hcr : c ≠ '\r') (text : List Char) :
    c ∈ unify text ↔ c ∈ text := by
  fun_induction unify text with
  | case1 rest ih => simp [hlf, hcr, ih]
  | case2 rest _ ih => simp [hlf, hcr, ih]
  | case3 d rest _ _ ih => simp [ih]
  | case4 => rfl

/-- The lines of a text are whole if nothing but line ends cuts the text. -/
theorem isWhole_feedLines_iff (text : List Char) :
    (∀ line ∈ feedLines (normalize text), IsWhole line) ↔
      ∀ c ∈ text, isLineBoundary c = true → c = '\n' ∨ c = '\r' := by
  constructor
  · intro hwhole c hc hboundary
    by_contra hend
    rw [not_or] at hend
    have hunified : c ∈ normalize text := by
      rw [← unify_eq_normalize]
      exact (mem_unify_iff hend.1 hend.2 text).mpr hc
    obtain ⟨line, hline, hmem⟩ := (exists_mem_feedLines_iff _).mpr ⟨hunified, hend.1⟩
    exact absurd (hwhole line hline c hmem) (by simp [hboundary])
  · intro hplain line hline c hc
    obtain ⟨hunified, hlf⟩ := (exists_mem_feedLines_iff _).mp ⟨line, hline, hc⟩
    have hcr : c ≠ '\r' := by
      rintro rfl
      exact cr_notMem_normalize text hunified
    have hmem : c ∈ text := by
      rw [← unify_eq_normalize] at hunified
      exact (mem_unify_iff hlf hcr text).mp hunified
    by_contra hboundary
    exact (hplain c hmem (by simpa using hboundary)).elim hlf hcr

end TemplateWorkbench.Text

namespace TemplateWorkbench.Template

open Text

variable {source : String} {line : Int}

/-! ### Quotations -/

/-- The lines of a source as the lexer counts them. -/
def sourceLines (source : String) : List (List Char) := feedLines (normalize source.toList)

/-- The line of a source that has a number, if there is one. -/
def reportedLine? (source : String) (line : Int) : Option (List Char) :=
  if line ≤ 0 then none else (sourceLines source)[line.toNat - 1]?

/-- What a report adds to quote a text as a line. -/
def quotation (line : Int) (text : Option String) : String :=
  text.elim "" fun text => s!"\n\n{lineLabel line} > {text}"

/-- All reports about a line of a source are the reports without a source and the line, if there is such a
line. -/
structure QuotesTruly (source : String) (line : Int) : Prop where
  diagnostic : ∀ (diagnostic : Diagnostic) (name : Option String), diagnostic.line = some line →
    diagnostic.report name (some source) =
      diagnostic.report name none ++ quotation line ((reportedLine? source line).map String.ofList)
  fault : ∀ (fault : Fault) (name : Option String), fault.line.map Int.ofNat = some line →
    fault.report name (some source) =
      fault.report name none ++ quotation line ((reportedLine? source line).map String.ofList)

theorem quotation_some (line : Int) (text : String) :
    quotation line (some text) = "\n\n" ++ (lineLabel line ++ (" > " ++ text)) := by
  simp only [quotation, Option.elim_some, String.append_assoc]
  rfl

theorem quotation_inj {text other : Option String} :
    quotation line text = quotation line other ↔ text = other := by
  have hnone : quotation line none = "" := rfl
  cases text <;> cases other <;> simp [hnone, quotation_some]

/-- A report is its first line and the quotation. -/
theorem reportText_eq (kind wording name source : String) (line : Int) :
    reportText kind wording name (some line) (some source) =
      reportText kind wording name (some line) none ++ quotation line (quotedLine? source line) := by
  rcases eq_or_ne line 0 with rfl | hne
  · exact (String.append_empty).symm
  · have hsome : (some line).filter (· != 0) = some line := by simp [hne]
    simp only [reportText, hsome, Option.bind_some, Option.bind_none]
    cases quotedLine? source line with
    | none => exact (String.append_empty).symm
    | some text =>
        change _ ++ "\n\n" ++ lineLabel line ++ " > " ++ text = _ ++ quotation line (some text)
        rw [quotation_some, String.append_assoc, String.append_assoc, String.append_assoc]
        rfl

/-- A report quotes the line truly exactly if the piece that it quotes is the line. -/
theorem quotesTruly_iff_eq :
    QuotesTruly source line ↔ quotedLine? source line = (reportedLine? source line).map String.ofList := by
  constructor
  · intro htrue
    have hreport := htrue.diagnostic ⟨"", none, some line, none⟩ none rfl
    simp only [Diagnostic.report, reportText_eq] at hreport
    exact quotation_inj.mp (String.append_right_inj _ |>.mp hreport)
  · intro hsame
    constructor
    · intro diagnostic name hline
      simp only [Diagnostic.report, hline, reportText_eq, hsame]
    · intro fault name hline
      simp only [Fault.report, hline, reportText_eq, hsame]

/-- Up to the first line that is cut, a report quotes the front of the line. -/
theorem quotedLine?_eq (hearlier : ∀ earlier ∈ (sourceLines source).take (line.toNat - 1), IsWhole earlier) :
    quotedLine? source line = (reportedLine? source line).map fun text => String.ofList (front text) := by
  unfold quotedLine? reportedLine?
  split
  · rfl
  · have hpieces := splitLines_getElem? (cr_notMem_normalize source.toList) hearlier
    rw [← unify_eq_normalize, splitLines_unify, unify_eq_normalize] at hpieces
    rw [hpieces, sourceLines, Option.map_map]
    rfl

/-- Behind whole lines a line is quoted truly exactly if it is whole. -/
theorem quotesTruly_iff
    (hearlier : ∀ earlier ∈ (sourceLines source).take (line.toNat - 1), IsWhole earlier) :
    QuotesTruly source line ↔ ∀ reported ∈ reportedLine? source line, IsWhole reported := by
  rw [quotesTruly_iff_eq, quotedLine?_eq hearlier]
  cases reportedLine? source line with
  | none => simp
  | some reported => simp [String.ofList_inj, front_eq_self_iff]

/-- If every line is quoted truly, every line is whole. -/
theorem isWhole_of_quotesTruly (htrue : ∀ line, QuotesTruly source line) :
    ∀ reported ∈ sourceLines source, IsWhole reported := by
  -- The lines are whole one after another, since a line is judged behind whole lines.
  have hfirst (count : Nat) : ∀ reported ∈ (sourceLines source).take count, IsWhole reported := by
    induction count with
    | zero => simp
    | succ count ih =>
        intro reported hmem
        rw [List.take_add_one, List.mem_append] at hmem
        rcases hmem with hmem | hmem
        · exact ih reported hmem
        · have hline : reportedLine? source (count + 1 : Nat) = (sourceLines source)[count]? := by
            rw [reportedLine?, if_neg (by omega)]
            rfl
          have hiff : QuotesTruly source (count + 1 : Nat) ↔
              ∀ reported ∈ reportedLine? source (count + 1 : Nat), IsWhole reported := quotesTruly_iff ih
          have hwhole := hiff.mp (htrue _)
          rw [hline] at hwhole
          exact hwhole reported (by simpa using hmem)
  intro reported hmem
  exact hfirst (sourceLines source).length reported (by simpa using hmem)

/-- Reports quote the line that they report as long as no line is cut: behind whole lines a line is quoted
truly exactly if it is whole, and all lines are exactly if nothing cuts the source but LF, CR and CRLF.  A
number that no line has is quoted nothing for. -/
theorem reports_quote_truly (source : String) :
    (∀ line, (∀ earlier ∈ (sourceLines source).take (line.toNat - 1), IsWhole earlier) →
      (QuotesTruly source line ↔ ∀ reported ∈ reportedLine? source line, IsWhole reported)) ∧
    ((∀ line, QuotesTruly source line) ↔
      ∀ c ∈ source.toList, isLineBoundary c = true → c = '\n' ∨ c = '\r') := by
  refine ⟨fun line hearlier => quotesTruly_iff hearlier, ?_⟩
  rw [← isWhole_feedLines_iff]
  constructor
  · exact isWhole_of_quotesTruly
  · intro hwhole line
    have hearlier : ∀ earlier ∈ (sourceLines source).take (line.toNat - 1), IsWhole earlier :=
      fun earlier hmem => hwhole earlier (List.mem_of_mem_take hmem)
    refine (quotesTruly_iff hearlier).mpr fun reported hreported => ?_
    unfold reportedLine? at hreported
    split at hreported
    · cases hreported
    · exact hwhole reported (List.mem_of_getElem? hreported)

/-- Behind a line with a form feed the second line is not quoted, but what the form feed cut off the first. -/
theorem report_formFeed :
    (⟨"TemplateSyntaxError", some "bad", some 2, some "t.txt"⟩ : Diagnostic).report none
        (some "a\x0cb\nc") = "TemplateSyntaxError: bad (in t.txt:2)\n\n   2 > b" ∧
      reportedLine? "a\x0cb\nc" 2 = some ['c'] := by
  decide +kernel

end TemplateWorkbench.Template
