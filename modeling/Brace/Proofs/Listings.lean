import Brace.CommandLine.Source
import Brace.Proofs.Writings

namespace Brace

/-!
# Listings tell their tokens

A row and a record both tell the token and the line number that they show: numbers end where their
digits do, names of kinds consist of letters, and content stands between quotes.  No row and no
record holds a line feed, so a listing with one of them a line tells all its tokens.
-/

namespace Kind

theorem ofName?_name
    (kind : Kind) :
    ofName? kind.name = some kind := by
  cases kind <;> rfl

theorem name_injective : Function.Injective name := by
  intro first second same
  have kinds := ofName?_name first
  rw [same, ofName?_name] at kinds
  exact (Option.some.inj kinds).symm

theorem isAlpha_of_mem_name
    (kind : Kind) :
    ∀ c ∈ kind.name.toList, c.isAlpha = true := by
  have letters : kind.name.toList.all Char.isAlpha = true := by
    cases kind <;> decide
  exact List.all_eq_true.mp letters

/-- A name ends where its letters do. -/
theorem name_append_inj
    {first second : Kind}
    {rest others : List Char}
    (stops : rest.head?.any Char.isAlpha = false)
    (otherStops : others.head?.any Char.isAlpha = false)
    (same : first.name.toList ++ rest = second.name.toList ++ others) :
    first = second ∧ rest = others := by
  obtain ⟨names, rests⟩ :=
    Text.append_inj_of_class first.isAlpha_of_mem_name second.isAlpha_of_mem_name stops otherStops
      same
  exact ⟨name_injective (String.toList_injective names), rests⟩

theorem lineFeed_not_mem_name
    (kind : Kind) :
    '\n' ∉ kind.name.toList := by
  intro inside
  exact absurd (kind.isAlpha_of_mem_name '\n' inside) (by decide)

end Kind

namespace Token

theorem eq_of_parts
    {first second : Token}
    (kinds : first.kind = second.kind)
    (starts : first.span.start = second.span.start)
    (stops : first.span.stop = second.span.stop)
    (contents : first.content = second.content) :
    first = second := by
  obtain ⟨kind, ⟨start, stop⟩, content⟩ := first
  obtain ⟨otherKind, ⟨otherStart, otherStop⟩, otherContent⟩ := second
  simp_all

/-! ## Rows -/

/-- What stands in a row after the name of the kind. -/
def quotedContent (hidden : Char → Bool) : Option String → List Char
  | some content => ' ' :: ' ' :: (Text.Quoted.textHiding hidden content).toList
  | none => []

theorem toList_rowHiding
    (hidden : Char → Bool)
    (token : Token)
    (line : Nat) :
    (token.rowHiding hidden line).toList =
      (toString line).toList ++ ':' ::
        ((toString token.span.start).toList ++ '.' :: '.' ::
          ((toString token.span.stop).toList ++ ' ' :: ' ' ::
            (token.kind.name.toList ++ quotedContent hidden token.content))) := by
  cases contents : token.content <;> simp [rowHiding, quotedContent, contents]

theorem quotedContent_injective
    (hidden : Char → Bool) :
    Function.Injective (quotedContent hidden) := by
  intro first second same
  cases first with
  | none =>
      cases second with
      | none => rfl
      | some content => cases same
  | some content =>
      cases second with
      | none => cases same
      | some other =>
          simp only [quotedContent, List.cons.injEq, true_and] at same
          have contents :=
            Text.Quoted.selfDelimiting_textHiding hidden content other [] [] (by simpa using same)
          rw [contents]

theorem not_isAlpha_head_quotedContent
    (hidden : Char → Bool)
    (content : Option String) :
    (quotedContent hidden content).head?.any Char.isAlpha = false := by
  cases content <;> rfl

/-- A row tells its token and its line. -/
theorem rowHiding_inj
    {hidden : Char → Bool}
    {first second : Token}
    {line otherLine : Nat}
    (same : first.rowHiding hidden line = second.rowHiding hidden otherLine) :
    line = otherLine ∧ first = second := by
  have written := congrArg String.toList same
  rw [toList_rowHiding, toList_rowHiding] at written
  obtain ⟨lines, written⟩ := Text.toString_append_inj rfl rfl written
  obtain ⟨starts, written⟩ := Text.toString_append_inj rfl rfl (List.cons.inj written).2
  obtain ⟨stops, written⟩ :=
    Text.toString_append_inj rfl rfl (List.cons.inj (List.cons.inj written).2).2
  obtain ⟨kinds, contents⟩ :=
    Kind.name_append_inj (not_isAlpha_head_quotedContent hidden _)
      (not_isAlpha_head_quotedContent hidden _) (List.cons.inj (List.cons.inj written).2).2
  exact ⟨lines, eq_of_parts kinds starts stops (quotedContent_injective hidden contents)⟩

theorem lineFeed_not_mem_rowHiding
    (hidden : Char → Bool)
    (token : Token)
    (line : Nat) :
    '\n' ∉ (token.rowHiding hidden line).toList := by
  have content : '\n' ∉ quotedContent hidden token.content := by
    cases token.content with
    | none => simp [quotedContent]
    | some content =>
        simpa [quotedContent] using Text.Quoted.lineFeed_not_mem_textHiding hidden content
  have numbers := Text.lineFeed_not_mem_toString
  rw [toList_rowHiding]
  simp only [List.mem_append, List.mem_cons, numbers, token.kind.lineFeed_not_mem_name, content]
  decide

/-! ## Records -/

/-- What stands in a record after the stop. -/
def recordedContent : Option String → List Char
  | some content =>
      ',' :: ((Text.Json.string "content").toList ++ ':' ::
        ((Text.Json.string content).toList ++ ['\x7d']))
  | none => ['\x7d']

theorem toList_record
    (token : Token)
    (line : Nat) :
    (token.record line).toList =
      '\x7b' :: ((Text.Json.string "line").toList ++ ':' ::
        ((toString line).toList ++ ',' ::
          ((Text.Json.string "kind").toList ++ ':' ::
            ((Text.Json.string token.kind.name).toList ++ ',' ::
              ((Text.Json.string "start").toList ++ ':' ::
                ((toString token.span.start).toList ++ ',' ::
                  ((Text.Json.string "end").toList ++ ':' ::
                    ((toString token.span.stop).toList ++
                      recordedContent token.content)))))))) := by
  cases contents : token.content <;>
    simp [record, contentMember, recordedContent, Text.Json.object, Text.Json.number, contents]

theorem recordedContent_injective : Function.Injective recordedContent := by
  intro first second same
  cases first with
  | none =>
      cases second with
      | none => rfl
      | some content => cases same
  | some content =>
      cases second with
      | none => cases same
      | some other =>
          have after := List.append_cancel_left (List.cons.inj same).2
          rw [(Text.Json.selfDelimiting_string.append_inj (List.cons.inj after).2).1]

theorem not_isDigit_head_recordedContent
    (content : Option String) :
    (recordedContent content).head?.any Char.isDigit = false := by
  cases content <;> rfl

/-- A record tells its token and its line. -/
theorem record_inj
    {first second : Token}
    {line otherLine : Nat}
    (same : first.record line = second.record otherLine) :
    line = otherLine ∧ first = second := by
  have written := congrArg String.toList same
  rw [toList_record, toList_record] at written
  -- Names of members are the same on both sides; each value ends where it tells itself.
  have written := List.append_cancel_left (List.cons.inj written).2
  obtain ⟨lines, written⟩ := Text.toString_append_inj rfl rfl (List.cons.inj written).2
  have written := List.append_cancel_left (List.cons.inj written).2
  obtain ⟨kinds, written⟩ :=
    Text.Json.selfDelimiting_string.append_inj (List.cons.inj written).2
  have written := List.append_cancel_left (List.cons.inj written).2
  obtain ⟨starts, written⟩ := Text.toString_append_inj rfl rfl (List.cons.inj written).2
  have written := List.append_cancel_left (List.cons.inj written).2
  obtain ⟨stops, contents⟩ :=
    Text.toString_append_inj (not_isDigit_head_recordedContent _)
      (not_isDigit_head_recordedContent _) (List.cons.inj written).2
  exact
    ⟨lines,
      eq_of_parts (Kind.name_injective kinds) starts stops (recordedContent_injective contents)⟩

theorem lineFeed_not_mem_record
    (token : Token)
    (line : Nat) :
    '\n' ∉ (token.record line).toList := by
  have texts := Text.Json.lineFeed_not_mem_string
  have content : '\n' ∉ recordedContent token.content := by
    cases token.content with
    | none => simp [recordedContent]
    | some content => simp [recordedContent, texts]
  have numbers := Text.lineFeed_not_mem_toString
  rw [toList_record]
  simp only [List.mem_append, List.mem_cons, numbers, texts, content]
  decide

/-! ## Listings -/

theorem lineFeed_not_mem_listedHiding
    (hidden : Char → Bool)
    (token : Token)
    (line : Nat)
    (form : Form) :
    '\n' ∉ (token.listedHiding hidden line form).toList := by
  cases form with
  | text => exact token.lineFeed_not_mem_rowHiding hidden line
  | json => exact token.lineFeed_not_mem_record line

theorem listedHiding_inj
    {hidden : Char → Bool}
    {form : Form}
    {first second : Token}
    {line otherLine : Nat}
    (same : first.listedHiding hidden line form = second.listedHiding hidden otherLine form) :
    line = otherLine ∧ first = second := by
  cases form with
  | text => exact rowHiding_inj same
  | json => exact record_inj same

/-- Numbered tokens, one a line. -/
def printedHiding (hidden : Char → Bool) (form : Form) (entries : List (Nat × Token)) : String :=
  String.join (entries.map fun entry => entry.2.listedHiding hidden entry.1 form ++ "\n")

/-- A listing tells its entries, the first of which ends at the first line feed. -/
theorem printedHiding_injective
    (hidden : Char → Bool)
    (form : Form) :
    Function.Injective (printedHiding hidden form) := by
  intro first second same
  have written := congrArg String.toList same
  simp only [printedHiding, String.toList_join, List.flatMap_map, String.toList_append] at written
  clear same
  induction first generalizing second with
  | nil =>
      cases second with
      | nil => rfl
      | cons entry second => simp at written
  | cons entry first inductionHypothesis =>
      cases second with
      | nil => simp at written
      | cons otherEntry second =>
          have inside :
              ∀ entry : Nat × Token, ∀ c ∈ (entry.2.listedHiding hidden entry.1 form).toList,
                (c != '\n') = true := by
            rintro entry c member
            rw [bne_iff_ne]
            rintro rfl
            exact entry.2.lineFeed_not_mem_listedHiding hidden entry.1 form member
          rw [List.flatMap_cons, List.flatMap_cons, List.append_assoc, List.append_assoc] at written
          obtain ⟨listed, rests⟩ :=
            Text.append_inj_of_class (inside entry) (inside otherEntry) rfl rfl written
          obtain ⟨lines, tokens⟩ := listedHiding_inj (String.toList_injective listed)
          rw [Prod.ext lines tokens, inductionHypothesis (List.append_cancel_left rests)]

open CommandLine in
/-- What the program writes of numbered lines is the listing of their tokens, line by line. -/
theorem outputText_listing
    (settings : Settings)
    (lines : List (Nat × List Token)) :
    Emission.outputText (lines.flatMap fun line => Source.listing settings line.1 line.2) =
      printedHiding Text.Quoted.isHidden settings.form
        (lines.flatMap fun line => line.2.map fun token => (line.1, token)) := by
  simp [Emission.outputText, Source.listing, printedHiding, List.filterMap_flatMap,
    List.map_flatMap, List.filterMap_map, Function.comp_def, Emission.output?, listed]

open CommandLine in
/--
Listings are unambiguous in both forms, whichever characters rows hide: what is printed of a token
has no line feed and tells the token with its line, and a listing with one token a line, as the
program writes it, tells all of its tokens with their lines.
-/
theorem listed_unambiguous
    (hidden : Char → Bool)
    (form : Form) :
    (∀ (token : Token) (line : Nat), '\n' ∉ (token.listedHiding hidden line form).toList) ∧
      (∀ (token other : Token) (line otherLine : Nat),
        token.listedHiding hidden line form = other.listedHiding hidden otherLine form →
          line = otherLine ∧ token = other) ∧
      (∀ entries others : List (Nat × Token),
        printedHiding hidden form entries = printedHiding hidden form others →
          entries = others) ∧
      ∀ (settings : Settings) (lines : List (Nat × List Token)),
        Emission.outputText (lines.flatMap fun line => Source.listing settings line.1 line.2) =
          printedHiding Text.Quoted.isHidden settings.form
            (lines.flatMap fun line => line.2.map fun token => (line.1, token)) :=
  ⟨fun token line => token.lineFeed_not_mem_listedHiding hidden line form,
    fun _ _ _ _ same => listedHiding_inj same,
    fun _ _ same => printedHiding_injective hidden form same,
    outputText_listing⟩

/-- Content that reads like the end of one row and the start of another is not taken for it. -/
theorem listed_unambiguous_quoted :
    (∀ entries,
        printedHiding Text.Quoted.isHidden .text entries =
            "1:0..15  Word  \"a\\\"\\n1:2..4  If\"\n" →
          entries = [(1, ⟨.word, ⟨0, 15⟩, some "a\"\n1:2..4  If"⟩)]) ∧
      printedHiding Text.Quoted.isHidden .text
          [(1, ⟨.word, ⟨0, 15⟩, some "a\"\n1:2..4  If"⟩)] =
        "1:0..15  Word  \"a\\\"\\n1:2..4  If\"\n" := by
  have printed :
      printedHiding Text.Quoted.isHidden .text
          [(1, ⟨.word, ⟨0, 15⟩, some "a\"\n1:2..4  If"⟩)] =
        "1:0..15  Word  \"a\\\"\\n1:2..4  If\"\n" := by
    decide +kernel
  exact
    ⟨fun entries same =>
      (listed_unambiguous Text.Quoted.isHidden .text).2.2.1 _ _ (same.trans printed.symm),
      printed⟩

end Token

end Brace
