import Mathlib.Data.List.DropRight
import Runbook.Check.ControlFlow
import Runbook.Proofs.CacheHistory
import Runbook.Proofs.CommandLines
import Runbook.Proofs.ModuleNames
import Runbook.Proofs.YamlMarks

/-!
# The text of frontmatter

The frontmatter of a document is a YAML text between two lines of three dashes. The YAML text ends
with a line feed, and in front of the second mark it is trimmed. That is meant to take the line feed
away and nothing else, but trimming takes all blanks, and YAML counts only some of them: a text that
ends with a no-break space is written plain, and as the last value it loses that space.

So the data is kept just if its YAML text does not end with a blank (`Yaml.entriesEndBlank`). All
other styles end with a quote, a digit, a letter or a bracket.
-/

namespace Runbook

namespace Text

/-- The lines of a text start lines of each text that goes on from it. -/
theorem exists_isPrefix_of_mem_splitLines {x line : List Char} (h : line ∈ splitLines x)
    (y : List Char) : ∃ longer ∈ splitLines (x ++ y), line <+: longer := by
  obtain ⟨lines, last, first, rest, hx, -, hxy⟩ := exists_splitLines_append x y
  rw [hx, List.mem_append, List.mem_singleton] at h
  rw [hxy]
  rcases h with h | rfl
  · exact ⟨line, List.mem_append_left _ h, List.prefix_rfl⟩
  · exact ⟨line ++ first, List.mem_append_right _ List.mem_cons_self, List.prefix_append _ _⟩

end Text

/-! ## How YAML text ends -/

namespace Yaml

/-- The text ends with a character that is blank or not, as given. -/
def EndsIn (blank : Bool) (text : List Char) : Prop :=
  ∃ front c, text = front ++ [c] ∧ Text.isBlank c = blank

theorem EndsIn.append {blank : Bool} {text : List Char} (h : EndsIn blank text)
    (front : List Char) : EndsIn blank (front ++ text) := by
  obtain ⟨middle, c, rfl, hc⟩ := h
  exact ⟨front ++ middle, c, (List.append_assoc _ _ _).symm, hc⟩

private theorem endsIn_concat (front : List Char) (c : Char) :
    EndsIn (Text.isBlank c) (front ++ [c]) := ⟨front, c, rfl, rfl⟩

private theorem endsIn_of_number {text : List Char} (hne : text ≠ [])
    (h : text.all isNumberChar = true) :
    EndsIn false text := by
  obtain ⟨front, c, rfl⟩ := List.eq_nil_or_concat' text |>.resolve_left hne
  rw [List.all_append, Bool.and_eq_true] at h
  exact ⟨front, c, rfl, isBlank_of_isNumberChar (by simpa using h.2)⟩

private theorem ne_nil_of_isBlankText {text : String} (h : Text.isBlankText text = false) :
    text.toList ≠ [] := by
  intro hnil
  rw [Text.isBlankText, hnil] at h
  exact absurd h (by decide)

private theorem endsIn_repr (n : Int) : EndsIn false (toString n).toList :=
  endsIn_of_number (ne_nil_of_isBlankText (isBlankText_repr n)) (all_isNumberChar_repr n)

private theorem floatText_ne_nil (x : Binary64) : (floatText x).toList ≠ [] := by
  have hdigits := ne_nil_of_isBlankText x.isBlankText_literal
  unfold floatText
  split
  · decide
  · split <;> decide
  · dsimp only
    split
    · rwa [String.toList_ofList]
    · obtain ⟨c, rest, hrest⟩ := List.exists_cons_of_ne_nil hdigits
      rw [String.toList_ofList, hrest, List.flatMap_cons]
      split <;> exact List.cons_ne_nil _ _

private theorem endsIn_floatText (x : Binary64) : EndsIn false (floatText x).toList :=
  endsIn_of_number (floatText_ne_nil x) (all_isNumberChar_floatText x)

mutual
/-- The YAML text of the data ends with a blank: the last value in it is a text that is written
plain and ends with one. -/
def Data.endsBlank : Data → Bool
  | .text s => styleOf s == .plain && s.toList.getLast?.any Text.isBlank
  | .list items => itemsEndBlank items
  | .map entries => entriesEndBlank entries
  | _ => false

/-- The last item ends with a blank. -/
def itemsEndBlank : List Data → Bool
  | [] => false
  | item :: rest => if rest.isEmpty then item.endsBlank else itemsEndBlank rest

/-- The last value of a mapping ends with a blank. -/
def entriesEndBlank : List (String × Data) → Bool
  | [] => false
  | (_, value) :: rest => if rest.isEmpty then value.endsBlank else entriesEndBlank rest
end

/-- Folding keeps the last character, which is no space. -/
theorem endsIn_foldPlain (indent : Nat) {blank : Bool} {text : List Char} (h : EndsIn blank text)
    (hspace : text.getLast?.any isSpace = false) (column : Nat) (afterSpace : Bool) :
    EndsIn blank (foldPlain indent column afterSpace text) := by
  induction text generalizing column afterSpace with
  | nil =>
    obtain ⟨front, c, htext, -⟩ := h
    exact absurd htext (by simp)
  | cons c rest ih =>
    cases rest with
    | nil =>
      have hc : (c == ' ') = false := hspace
      rw [foldPlain, hc]
      exact h
    | cons d rest =>
      have hrest : EndsIn blank (d :: rest) := by
        obtain ⟨front, last, htext, hlast⟩ := h
        cases front with
        | nil => exact absurd (congrArg List.length htext) (by simp)
        | cons e front => exact ⟨front, last, (List.cons.inj htext).2, hlast⟩
      have hlast : (d :: rest).getLast?.any isSpace = false := by
        rwa [List.getLast?_cons_cons] at hspace
      rw [foldPlain]
      split
      · exact (ih hrest hlast _ _).append _
      · exact (ih hrest hlast _ _).append [c]

private theorem endsIn_scalarText (indent column : Nat) (text : String) :
    EndsIn (Data.text text).endsBlank (scalarText true indent column text).toList := by
  rw [Data.endsBlank]
  cases hstyle : styleOf text with
  | plain =>
    have hquotes := needsQuotes_of_plain hstyle
    have hspace : text.toList.getLast?.any isSpace = false := by
      rw [needsQuotes, Bool.or_eq_false_iff] at hquotes
      exact hquotes.2
    rw [scalarText_of_plain hstyle, if_pos rfl, String.toList_ofList]
    refine endsIn_foldPlain indent ?_ hspace _ _
    rcases List.eq_nil_or_concat' text.toList with hnil | ⟨front, c, htext⟩
    · -- The empty text is not plain: it would read as nothing.
      have hempty : text = "" := String.toList_injective hnil
      subst hempty
      exact absurd hstyle (by decide)
    · rw [htext, List.getLast?_concat]
      exact endsIn_concat front c
  | single =>
    rw [scalarText_of_single hstyle, String.toList_append]
    exact EndsIn.append ⟨[], '\'', rfl, rfl⟩ _
  | double =>
    rw [scalarText_of_double hstyle, String.toList_append]
    exact EndsIn.append ⟨[], '"', rfl, rfl⟩ _

private theorem endsIn_of_lineText? {indent column : Nat} {data : Data} {text : String}
    (h : lineText? indent column data = some text) : EndsIn data.endsBlank text.toList := by
  rw [lineText?.eq_def] at h
  split at h <;> cases h
  case h_1 => exact ⟨"nul".toList, 'l', rfl, rfl⟩
  case h_2 b =>
    cases b
    · exact ⟨"fals".toList, 'e', rfl, rfl⟩
    · exact ⟨"tru".toList, 'e', rfl, rfl⟩
  case h_3 n => exact endsIn_repr n
  case h_4 x => exact endsIn_floatText x
  case h_5 s => exact endsIn_scalarText _ _ s
  case h_6 => exact ⟨['['], ']', rfl, rfl⟩
  case h_7 => exact ⟨['\x7b'], '\x7d', rfl, rfl⟩

mutual
theorem endsIn_afterIndicator (indent : Nat) (data : Data) :
    EndsIn data.endsBlank (afterIndicator indent data).toList := by
  cases hline : lineText? indent (indent + 2) data with
  | some text =>
    rw [afterIndicator_of_lineText? hline, String.toList_append]
    exact (endsIn_of_lineText? hline).append _
  | none =>
    match data, hline with
    | .list (item :: rest), _ =>
      rw [afterIndicator, String.toList_append, Data.endsBlank]
      exact (endsIn_itemTexts _ (item :: rest) (List.cons_ne_nil _ _)).append _
    | .map (entry :: rest), _ =>
      rw [afterIndicator, String.toList_append, Data.endsBlank]
      exact (endsIn_entryTexts _ (entry :: rest) (List.cons_ne_nil _ _)).append _

theorem endsIn_afterKey (indent column : Nat) (data : Data) :
    EndsIn data.endsBlank (afterKey indent column data).toList := by
  cases hline : lineText? indent (column + 1) data with
  | some text =>
    rw [afterKey_of_lineText? hline, String.toList_append]
    exact (endsIn_of_lineText? hline).append _
  | none =>
    match data, hline with
    | .list (item :: rest), _ =>
      rw [afterKey, String.toList_append, Data.endsBlank]
      exact (endsIn_itemTexts _ (item :: rest) (List.cons_ne_nil _ _)).append _
    | .map (entry :: rest), _ =>
      rw [afterKey, String.toList_append, Data.endsBlank]
      exact (endsIn_entryTexts _ (entry :: rest) (List.cons_ne_nil _ _)).append _

theorem endsIn_itemTexts (indent : Nat) (items : List Data) (h : items ≠ []) :
    EndsIn (itemsEndBlank items) (stack indent (itemTexts indent items)).toList := by
  match items with
  | [item] =>
    have hitem := endsIn_afterIndicator indent item
    rw [itemTexts, itemTexts, toList_stack_singleton, String.toList_append]
    exact hitem.append _
  | item :: next :: rest =>
    have hrest := endsIn_itemTexts indent (next :: rest) (List.cons_ne_nil _ _)
    rw [itemTexts] at hrest ⊢
    rw [itemTexts, toList_stack_cons]
    exact ((hrest.append _).append ['\n']).append _

theorem endsIn_entryTexts (indent : Nat) (entries : List (String × Data)) (h : entries ≠ []) :
    EndsIn (entriesEndBlank entries) (stack indent (entryTexts indent entries)).toList := by
  match entries with
  | [(key, value)] =>
    have hindicator := endsIn_afterIndicator indent value
    have hkey := endsIn_afterKey indent (keyEnd indent key) value
    rw [entryTexts, entryTexts, toList_stack_singleton, String.toList_append]
    refine EndsIn.append ?_ _
    split
    · exact hkey
    · exact hindicator
  | (key, value) :: (nextKey, next) :: rest =>
    have hrest := endsIn_entryTexts indent ((nextKey, next) :: rest) (List.cons_ne_nil _ _)
    rw [entryTexts] at hrest ⊢
    rw [entryTexts, toList_stack_cons]
    exact ((hrest.append _).append ['\n']).append _
end

/-- Trimming the YAML text takes the line feed at its end and the blanks in front of it. -/
theorem exists_write_eq_trimEnd {entries : List (String × Data)} (h : entries ≠ []) :
    ∃ blanks, write entries = Text.trimEnd (write entries) ++ blanks ++ "\n" ∧
      Text.isBlankText blanks = true ∧ (blanks = "" ↔ entriesEndBlank entries = false) := by
  obtain ⟨front, c, htext, hc⟩ := endsIn_entryTexts 0 entries h
  have htrim : Text.trimEnd (write entries) =
      String.ofList (Text.trimTrailing Text.isBlank (front ++ [c])) := by
    rw [Text.trimEnd, write, String.toList_append, htext]
    exact congrArg String.ofList (List.rdropWhile_concat_pos _ _ _ rfl)
  have hsplit : Text.trimTrailing Text.isBlank (front ++ [c]) ++
      (front ++ [c]).rtakeWhile Text.isBlank = front ++ [c] := List.rdropWhile_append_rtakeWhile
  refine ⟨String.ofList ((front ++ [c]).rtakeWhile Text.isBlank), ?_, ?_, ?_⟩
  · rw [htrim, write, ← String.ofList_append, hsplit, ← htext, String.ofList_toList]
  · rw [Text.isBlankText, String.toList_ofList, List.all_eq_true]
    exact fun d hd ↦ List.mem_rtakeWhile_imp hd
  · rw [← hc, String.ofList_eq_empty_iff]
    cases hblank : Text.isBlank c with
    | false => exact iff_of_true (List.rtakeWhile_concat_neg _ _ _ (by simp [hblank])) rfl
    | true =>
      rw [List.rtakeWhile_concat_pos _ _ _ hblank]
      exact iff_of_false (List.append_ne_nil_of_right_ne_nil _ (List.cons_ne_nil _ _)) (by decide)

/-- No line of the trimmed YAML text is a mark. -/
theorem mark_notMem_trimEnd_write {entries : List (String × Data)} (h : entries ≠ []) :
    List.replicate 3 '-' ∉ Text.splitLines (Text.trimEnd (write entries)).toList := by
  intro hmark
  obtain ⟨blanks, hwrite, -⟩ := exists_write_eq_trimEnd h
  -- The trimmed text starts the text in front of the line feed, and so do their lines.
  have htext : (stack 0 (entryTexts 0 entries)).toList =
      (Text.trimEnd (write entries)).toList ++ blanks.toList := by
    have hlist := congrArg String.toList hwrite
    rw [write, String.toList_append, String.toList_append, String.toList_append] at hlist
    exact List.append_cancel_right hlist
  obtain ⟨line, hline, hstarts⟩ := Text.exists_isPrefix_of_mem_splitLines hmark blanks.toList
  rw [← htext] at hline
  exact not_isPrefix_of_mem_stack h hline hstarts

end Yaml

/-! ## Resolving staged values -/

namespace Datum

mutual
/-- The data with the expression of each staged value in its place. A member of an enumeration has
no YAML text, neither as a value nor as a key. -/
def plain? (tool : String) : Datum → Option Yaml.Data
  | .null => some .null
  | .bool b => some (.bool b)
  | .int n => some (.int n)
  | .float x => some (.float x)
  | .text s => some (.text s)
  | .staged value => some (.text (value.resolve tool .raw))
  | .member _ => none
  | .list items => (plainItems? tool items).map .list
  | .tuple items => (plainItems? tool items).map .list
  | .map entries => (plainMap? tool entries).map .map

/-- The items with the expressions of their staged values. -/
def plainItems? (tool : String) : List Datum → Option (List Yaml.Data)
  | [] => some []
  | item :: rest => do
    let first ← plain? tool item
    let others ← plainItems? tool rest
    return first :: others

/-- The entries of a mapping with the expressions of their staged values. -/
def plainMap? (tool : String) : List (DatumKey × Datum) → Option (List (String × Yaml.Data))
  | [] => some []
  | (.text name, item) :: rest => do
    let first ← plain? tool item
    let others ← plainMap? tool rest
    return (name, first) :: others
  | (.member _, _) :: _ => none
end

/-- The named data with the expressions of its staged values. -/
def plainEntries? (tool : String) : Frontmatter → Option (List (String × Yaml.Data))
  | [] => some []
  | (name, item) :: rest => do
    let first ← plain? tool item
    let others ← plainEntries? tool rest
    return (name, first) :: others

private theorem plainEntries?_ne_nil {tool : String} {data : Frontmatter}
    {entries : List (String × Yaml.Data)} (hne : data ≠ [])
    (h : plainEntries? tool data = some entries) : entries ≠ [] := by
  obtain ⟨⟨name, item⟩, rest, rfl⟩ := List.exists_cons_of_ne_nil hne
  rw [plainEntries?] at h
  obtain ⟨first, -, h⟩ := Option.bind_eq_some_iff.mp h
  obtain ⟨others, -, h⟩ := Option.bind_eq_some_iff.mp h
  cases h
  exact List.cons_ne_nil _ _

/-- A resolution that gives a value. The plain data is that value, where it can be written. -/
def Resolves {α : Type} (tool : String) (resolution : Emission α) (writable : Bool)
    (plain : Option α) : Prop :=
  ∃ data, resolution.eval tool = .ok data ∧ plain = if writable then some data else none

theorem Resolves.done {α : Type} (tool : String) (data : α) :
    Resolves tool (.done data) true (some data) :=
  ⟨data, rfl, rfl⟩

theorem Resolves.map {α β : Type} {tool : String} {resolution : Emission α} {writable : Bool}
    {plain : Option α} (h : Resolves tool resolution writable plain) (f : α → β) :
    Resolves tool (resolution >>= fun data ↦ pure (f data)) writable (plain.map f) := by
  obtain ⟨data, heval, rfl⟩ := h
  refine ⟨f data, ?_, ?_⟩
  · rw [Emission.eval_bind, heval]
    rfl
  · cases writable <;> rfl

theorem Resolves.cons {α β : Type} {tool : String} {first : Emission α} {others : Emission (List β)}
    {writable rest : Bool} {plain : Option α} {plainRest : Option (List β)}
    (h : Resolves tool first writable plain) (hrest : Resolves tool others rest plainRest)
    (f : α → β) :
    Resolves tool (do
        let item ← first
        let items ← others
        return f item :: items)
      (writable && rest)
      (do
        let item ← plain
        let items ← plainRest
        return f item :: items) := by
  obtain ⟨data, heval, rfl⟩ := h
  obtain ⟨items, hitems, rfl⟩ := hrest
  refine ⟨f data :: items, ?_, ?_⟩
  · rw [Emission.eval_bind, heval]
    change (others >>= fun items ↦ pure (f data :: items)).eval tool = _
    rw [Emission.eval_bind, hitems]
    rfl
  · cases writable <;> cases rest <;> rfl

mutual
theorem resolves_resolve (tool : String) (datum : Datum) :
    Resolves tool datum.resolve datum.isWritable (datum.plain? tool) := by
  match datum with
  | .null | .bool _ | .int _ | .float _ | .text _ =>
    rw [resolve, plain?]
    exact ⟨_, rfl, by simp only [isWritable, if_true]⟩
  | .staged value =>
    rw [resolve, plain?]
    exact ⟨.text (value.resolve tool .raw), rfl, by simp only [isWritable, if_true]⟩
  | .member _ =>
    rw [resolve, isWritable, plain?]
    exact ⟨_, rfl, rfl⟩
  | .list items | .tuple items =>
    rw [resolve, isWritable, plain?]
    exact (resolves_resolveItems tool items).map _
  | .map entries =>
    rw [resolve, isWritable, plain?]
    exact (resolves_resolveEntries tool entries).map _

theorem resolves_resolveItems (tool : String) (items : List Datum) :
    Resolves tool (resolveItems items) (areWritable items) (plainItems? tool items) := by
  match items with
  | [] =>
    rw [resolveItems, areWritable, plainItems?]
    exact .done tool []
  | item :: rest =>
    rw [resolveItems, areWritable, plainItems?]
    exact (resolves_resolve tool item).cons (resolves_resolveItems tool rest) id

theorem resolves_resolveEntries (tool : String) (entries : List (DatumKey × Datum)) :
    Resolves tool (resolveEntries entries) (hasWritable entries) (plainMap? tool entries) := by
  match entries with
  | [] =>
    rw [resolveEntries, hasWritable, plainMap?]
    exact .done tool []
  | (.text name, item) :: rest =>
    rw [resolveEntries, hasWritable, plainMap?]
    exact (resolves_resolve tool item).cons (resolves_resolveEntries tool rest) (Prod.mk name)
  | (.member m, item) :: rest =>
    rw [resolveEntries, hasWritable, plainMap?]
    obtain ⟨data, heval, -⟩ := (resolves_resolve tool item).cons
      (resolves_resolveEntries tool rest) (Prod.mk (DatumKey.member m).name)
    exact ⟨data, heval, rfl⟩
end

private theorem resolves_frontmatter (tool : String) (data : Frontmatter) :
    Resolves tool data.resolve data.isWritable (plainEntries? tool data) := by
  induction data with
  | nil => exact .done tool []
  | cons entry rest ih => exact (resolves_resolve tool entry.2).cons ih (Prod.mk entry.1)

end Datum

/-! ## Reading frontmatter -/

namespace Markdown

/-- The line in front of the frontmatter and behind it. -/
def dashes : List Char := List.replicate 3 '-'

/-- The text between a mark on the first line and the next mark. -/
def frontmatterText? (text : String) : Option String :=
  match Text.splitLines text.toList with
  | [] => none
  | first :: rest =>
    if first = dashes ∧ dashes ∈ rest then
      some (String.ofList (Text.joinChars ['\n'] (rest.takeWhile (· != dashes))))
    else none

private theorem frontmatterText?_eq_some {body : String} (h : dashes ∉ Text.splitLines body.toList)
    (rest : String) :
    frontmatterText? ("---\n" ++ body ++ "\n---" ++ "\n" ++ rest) = some body := by
  have htext : ("---\n" ++ body ++ "\n---" ++ "\n" ++ rest).toList =
      dashes ++ '\n' :: (body.toList ++ '\n' :: (dashes ++ '\n' :: rest.toList)) := by
    simp [dashes]
  have hdashes : Text.splitLines dashes = [dashes] := rfl
  have htake : (Text.splitLines body.toList ++ dashes :: Text.splitLines rest.toList).takeWhile
      (· != dashes) = Text.splitLines body.toList := by
    rw [List.takeWhile_append_of_pos, List.takeWhile_cons_of_neg (by simp), List.append_nil]
    intro line hline
    rw [bne_iff_ne]
    rintro rfl
    exact h hline
  rw [frontmatterText?, htext, Text.splitLines_append_feed, Text.splitLines_append_feed,
    Text.splitLines_append_feed, hdashes, List.singleton_append, List.singleton_append]
  dsimp only
  rw [if_pos ⟨rfl, List.mem_append_right _ List.mem_cons_self⟩, htake, Text.joinChars_splitLines,
    String.ofList_toList]

/-- Closing a text keeps its first part, if that does not end with a line feed, and its end. -/
theorem exists_closeText_eq {part : String} {front : List Char} {c : Char}
    (hpart : part.toList = front ++ [c]) (hc : c ≠ '\n') (parts : List String) :
    ∃ rest, closeText (Text.join "\n\n" (part :: parts)) = part ++ "\n" ++ rest := by
  obtain ⟨tail, htail, hstart⟩ : ∃ tail,
      (Text.join "\n\n" (part :: parts)).toList = front ++ c :: tail ∧
        (tail = [] ∨ ∃ more, tail = '\n' :: more) := by
    cases parts with
    | nil => exact ⟨[], by rw [Text.join_singleton, hpart], .inl rfl⟩
    | cons next parts =>
      refine ⟨'\n' :: '\n' :: (Text.join "\n\n" (next :: parts)).toList, ?_, .inr ⟨_, rfl⟩⟩
      simp [Text.join, Text.joinChars, hpart]
  have htrim : Text.trimEndLineFeeds (Text.join "\n\n" (part :: parts)) =
      part ++ String.ofList (Text.trimTrailing (· == '\n') tail) := by
    rw [Text.trimEndLineFeeds, htail, Text.trimTrailing_append (by simpa using hc),
      ← String.toList_inj, String.toList_ofList, String.toList_append, hpart, String.toList_ofList,
      List.append_assoc, List.singleton_append]
  have hfull : (part ++ String.ofList (Text.trimTrailing (· == '\n') tail)).isEmpty = false := by
    simp [← String.toList_inj, hpart]
  have hrest : ∃ more, Text.trimTrailing (· == '\n') tail ++ ['\n'] = '\n' :: more := by
    have hkept : Text.trimTrailing (· == '\n') tail <+: tail := List.rdropWhile_prefix _ _
    rcases hstart with rfl | ⟨more, rfl⟩
    · exact ⟨[], rfl⟩
    · rcases List.prefix_cons_iff.mp hkept with hnil | ⟨kept, hcons, -⟩
      · exact ⟨[], by rw [hnil]; rfl⟩
      · exact ⟨kept ++ ['\n'], by rw [hcons]; rfl⟩
  obtain ⟨more, hmore⟩ := hrest
  refine ⟨String.ofList more, ?_⟩
  rw [closeText, htrim, hfull, if_neg Bool.false_ne_true, ← String.toList_inj]
  simp only [String.toList_append, String.toList_ofList, List.append_assoc]
  exact congrArg (part.toList ++ ·) hmore

private theorem eval_emitFrontmatter (tool : String) (data : Frontmatter) :
    (emitFrontmatter data).eval tool = (Datum.plainEntries? tool data).elim (.error .unwritable)
      fun entries ↦ .ok ("---\n" ++ Text.trimEnd (Yaml.write entries) ++ "\n---") := by
  obtain ⟨entries, heval, hplain⟩ := Datum.resolves_frontmatter tool data
  rw [emitFrontmatter, Emission.eval_bind, heval, hplain]
  cases data.isWritable <;> rfl

private theorem eval_frontmatterParts (tool : String) {data : Frontmatter} (h : data ≠ []) :
    (frontmatterParts (some data)).eval tool =
      ((emitFrontmatter data).eval tool).map fun part ↦ [part] := by
  obtain ⟨entry, rest, rfl⟩ := List.exists_cons_of_ne_nil h
  exact Emission.eval_bind _ _ _

end Markdown

namespace Document

open Markdown

variable {tool : String} {config : Config} {document : Document} {data : Frontmatter}

private theorem eval_emit_of_plainEntries?_none (hdata : document.frontmatter = some data)
    (hne : data ≠ []) (h : Datum.plainEntries? tool data = none) :
    (document.emit config).eval tool = .error .unwritable := by
  rw [emit, Emission.eval_bind, hdata, eval_frontmatterParts tool hne, eval_emitFrontmatter, h]
  rfl

private theorem exists_emit_eq_closeText {part text : String}
    (hpart : (frontmatterParts document.frontmatter).eval tool = .ok [part])
    (htext : (document.emit config).eval tool = .ok text) :
    ∃ parts, text = closeText (Text.join "\n\n" (part :: parts)) := by
  rw [emit, Emission.eval_bind, hpart] at htext
  obtain ⟨pieces, -, hclose⟩ := exists_of_eval_bind htext
  exact ⟨_, (Except.ok.inj hclose).symm⟩

private theorem exists_emit_eq (hdata : document.frontmatter = some data) (hne : data ≠ [])
    {entries : List (String × Yaml.Data)} (h : Datum.plainEntries? tool data = some entries)
    {text : String} (htext : (document.emit config).eval tool = .ok text) :
    ∃ rest, text = "---\n" ++ Text.trimEnd (Yaml.write entries) ++ "\n---" ++ "\n" ++ rest := by
  generalize hbody : Text.trimEnd (Yaml.write entries) = body
  have hpart : (frontmatterParts document.frontmatter).eval tool =
      .ok ["---\n" ++ body ++ "\n---"] := by
    rw [hdata, eval_frontmatterParts tool hne, eval_emitFrontmatter, h, ← hbody]
    rfl
  obtain ⟨parts, hparts⟩ := exists_emit_eq_closeText hpart htext
  have hend : ("---\n" ++ body ++ "\n---").toList =
      (dashes ++ '\n' :: (body.toList ++ ['\n', '-', '-'])) ++ ['-'] := by
    simp [dashes]
  rw [hparts]
  exact exists_closeText_eq hend (by decide) parts

/-- **Frontmatter keeps its data, unless the last value ends with a blank.** Frontmatter with a
member of an enumeration has no YAML text, and the document is not written. All other frontmatter is
written between its marks, and a reader finds it there. What stands between the marks is the YAML
text of the data, with the expressions of its staged values, less the line feed at the end and the
blanks in front of it. There are such blanks just if the last value is a text that is written plain
and ends with one. -/
theorem frontmatterText?_emit (emitter : Emitter) (document : Document) (data : Frontmatter)
    (hne : data ≠ []) (hdata : document.frontmatter = some data) :
    (Datum.plainEntries? emitter.config.queryTool data = none →
      (emitter.emit document).1 = .error .unwritable) ∧
    ∀ entries, Datum.plainEntries? emitter.config.queryTool data = some entries →
      ∃ body blanks,
        (emitFrontmatter data).eval emitter.config.queryTool = .ok ("---\n" ++ body ++ "\n---") ∧
        Yaml.write entries = body ++ blanks ++ "\n" ∧ Text.isBlankText blanks = true ∧
        (body ++ "\n" = Yaml.write entries ↔ Yaml.entriesEndBlank entries = false) ∧
        ∀ text, (emitter.emit document).1 = .ok text →
          (∃ rest, text = "---\n" ++ body ++ "\n---" ++ "\n" ++ rest) ∧
          frontmatterText? text = some body := by
  rw [emitter.emit_fst]
  refine ⟨eval_emit_of_plainEntries?_none hdata hne, fun entries hentries ↦ ?_⟩
  have hfull : entries ≠ [] := Datum.plainEntries?_ne_nil hne hentries
  obtain ⟨blanks, hwrite, hblank, hnone⟩ := Yaml.exists_write_eq_trimEnd hfull
  refine ⟨Text.trimEnd (Yaml.write entries), blanks, ?_, hwrite, hblank, ?_, fun text htext ↦ ?_⟩
  · rw [eval_emitFrontmatter, hentries]
    rfl
  · rw [← hnone]
    constructor
    · intro hkept
      have hlist := congrArg String.toList (hkept.trans hwrite)
      simpa [String.toList_append] using hlist
    · rintro rfl
      rw [String.append_empty] at hwrite
      exact hwrite.symm
  · obtain ⟨rest, rfl⟩ := exists_emit_eq hdata hne hentries htext
    exact ⟨⟨rest, rfl⟩, frontmatterText?_eq_some (Yaml.mark_notMem_trimEnd_write hfull) rest⟩

/-- The last value is a quoted blank; the blank that a plain text in front of it ends with stays. -/
theorem frontmatterText?_emit_quoted :
    let data : Frontmatter :=
      [("a", .list [.text "x\u00a0", .staged ⟨"CTX", [.key "k"]⟩]), ("b", .text " ")]
    let document : Document := { frontmatter := some data }
    let entries : List (String × Yaml.Data) :=
      [("a", .list [.text "x\u00a0", .text "$(echo \"$CTX\" | jq -r '.k')"]), ("b", .text " ")]
    data ≠ [] ∧ Datum.plainEntries? "jq" data = some entries ∧
      Yaml.entriesEndBlank entries = false ∧
      ∃ text body, (({} : Emitter).emit document).1 = .ok text ∧
        frontmatterText? text = some body ∧ body ++ "\n" = Yaml.write entries := by
  intro data document entries
  have hne : data ≠ [] := List.cons_ne_nil _ _
  have hentries : Datum.plainEntries? "jq" data = some entries := rfl
  have hends : Yaml.entriesEndBlank entries = false := by decide +kernel
  obtain ⟨body, blanks, -, -, -, hkept, hread⟩ :=
    (frontmatterText?_emit {} document data hne rfl).2 entries hentries
  obtain ⟨text, htext⟩ : ∃ text, (({} : Emitter).emit document).1 = .ok text := ⟨_, rfl⟩
  exact ⟨hne, hentries, hends, text, body, htext, (hread text htext).2, hkept.mpr hends⟩

/-- A no-break space at the end of the last value is lost, though nothing is wrong with the
document. -/
theorem frontmatterText?_no_break_space :
    let data : Frontmatter := [("a", .text "x\u00a0")]
    let document : Document := { frontmatter := some data }
    let entries : List (String × Yaml.Data) := [("a", .text "x\u00a0")]
    document.validate = .ok () ∧ Datum.plainEntries? "jq" data = some entries ∧
      Yaml.write entries = "a: x\u00a0\n" ∧
      (({} : Emitter).emit document).1.toOption = some "---\na: x\n---\n" ∧
      frontmatterText? "---\na: x\n---\n" = some "a: x" := by
  intro data document entries
  exact ⟨rfl, rfl, by decide +kernel, by decide +kernel, by decide +kernel⟩

end Document

end Runbook
