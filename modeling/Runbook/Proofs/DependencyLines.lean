import Mathlib.Data.List.Infix
import Runbook.Proofs.CommandLines
import Runbook.Proofs.LoweredCalls
import Runbook.Proofs.ModuleContents
import Runbook.Proofs.Quoting

/-!
# Names that dependency lines bind

A staged function brings along a line for each name that it uses from its own module. The registry
keeps only the text of these lines, and finds out by `boundName` which name a line binds: it looks
for the last ` as `, or for the last space, or for the first equals sign.

The name is found again whatever the text of a constant holds and whatever an imported object is
called, because only what stands before the first equals sign or behind the last ` as ` counts. The
search can go wrong in one place, which is an import without ` as `: the mark is looked for in the
whole line, and there the name of a module stands between two spaces. So the name is lost exactly if
an object comes, under its own name, from a module that is called `as`.
-/

namespace Runbook

/-! ## Searching for words -/

namespace Text

section Words

variable {pattern text : List Char}

private theorem isSome_splitFirst?_iff :
    (splitFirst? pattern text).isSome = true ↔ pattern <:+: text := by
  induction text with
  | nil =>
    rw [splitFirst?, Option.isSome_map, List.infix_nil, ← List.prefix_nil, ← not_iff_not,
      ← stripStart?_eq_none_iff, Bool.not_eq_true, Option.isSome_eq_false_iff,
      Option.isNone_iff_eq_none]
  | cons c text ih =>
    rw [splitFirst?, List.infix_cons_iff]
    cases hstart : stripStart? pattern (c :: text) with
    | some rest =>
      exact iff_of_true rfl (.inl ⟨rest, (eq_append_of_stripStart? hstart).symm⟩)
    | none => rw [or_iff_right (stripStart?_eq_none_iff.mp hstart), ← ih, Option.isSome_map]

private theorem splitLast?_eq_none_iff : splitLast? pattern text = none ↔ ¬pattern <:+: text := by
  induction text with
  | nil =>
    rw [splitLast?, Option.map_eq_none_iff, stripStart?_eq_none_iff, List.prefix_nil,
      List.infix_nil]
  | cons c text ih =>
    rw [splitLast?, List.infix_cons_iff, not_or, ← ih, ← stripStart?_eq_none_iff]
    cases splitLast? pattern text with
    | some pieces => simp
    | none => simp

/-- An occurrence is the last one if no other begins inside it or behind it. -/
theorem splitLast?_append_self {p : Char} {rest after : List Char}
    (h : ¬p :: rest <:+: rest ++ after) (before : List Char) :
    splitLast? (p :: rest) (before ++ (p :: rest ++ after)) = some (before, after) := by
  induction before with
  | nil =>
    rw [List.nil_append, List.cons_append, splitLast?, splitLast?_eq_none_iff.mpr h,
      ← List.cons_append, stripStart?_append]
    rfl
  | cons c before ih => rw [List.cons_append, splitLast?, ih]

variable {d : Char} {word other rest : List Char}

private theorem not_isInfix_of_notMem (h : d ∉ text) : ¬d :: rest <:+: text := fun hheld ↦
  h (hheld.subset List.mem_cons_self)

/-- A pattern that starts with a delimiter is found behind a word, or further on. -/
theorem isInfix_word_iff (h : d ∉ word) :
    d :: pattern <:+: word ++ d :: rest ↔ pattern <+: rest ∨ d :: pattern <:+: rest := by
  induction word with
  | nil => rw [List.nil_append, List.infix_cons_iff, List.prefix_cons_inj]
  | cons c word ih =>
    rw [List.mem_cons, not_or] at h
    rw [List.cons_append, List.infix_cons_iff, ih h.2, List.cons_prefix_cons]
    exact or_iff_right fun hstart ↦ h.1 hstart.1

/-- A word up to a delimiter is found where that word stands. -/
theorem isPrefix_word_iff (hword : d ∉ word) (hother : d ∉ other) :
    word ++ [d] <+: other ++ d :: rest ↔ word = other := by
  have hplain {letters : List Char} (h : d ∉ letters) : letters.all (· != d) = true := by
    rw [List.all_eq_true]
    intro c hc
    exact bne_iff_ne.mpr fun heq ↦ h (heq ▸ hc)
  have hstop (more : List Char) : (d :: more).head?.any (· != d) = false := by simp
  constructor
  · rintro ⟨more, h⟩
    rw [List.append_assoc, List.singleton_append] at h
    exact (append_inj_of_all (hplain hword) (hplain hother) (hstop _) (hstop _) h).1
  · rintro rfl
    exact ⟨rest, by rw [List.append_assoc, List.singleton_append]⟩

end Words

/-! ## Identifiers -/

/-- Identifiers with dots between them. -/
def isDotted (name : String) : Bool := (name.toList.splitOn '.').all spellsIdentifier

private theorem mem_splitOn {c : Char} {text : List Char} (h : c ∈ text) (d : Char) :
    c = d ∨ ∃ part ∈ text.splitOn d, c ∈ part := by
  induction text with
  | nil => exact absurd h List.not_mem_nil
  | cons first rest ih =>
    rw [List.splitOn, List.splitOnP_cons_eq_if_modifyHead]
    split
    · next hfirst =>
      rcases List.mem_cons.mp h with rfl | hrest
      · exact .inl (eq_of_beq hfirst)
      · obtain hd | ⟨part, hpart, hc⟩ := ih hrest
        · exact .inl hd
        · exact .inr ⟨part, List.mem_cons_of_mem _ hpart, hc⟩
    · obtain ⟨word, words, hwords⟩ :=
        List.exists_cons_of_ne_nil (List.splitOnP_ne_nil (· == d) rest)
      rw [List.splitOn, hwords] at ih
      rw [hwords, List.modifyHead_cons]
      rcases List.mem_cons.mp h with rfl | hrest
      · exact .inr ⟨_, List.mem_cons_self, List.mem_cons_self⟩
      · obtain hd | ⟨part, hpart, hc⟩ := ih hrest
        · exact .inl hd
        · rcases List.mem_cons.mp hpart with rfl | hpart
          · exact .inr ⟨_, List.mem_cons_self, List.mem_cons_of_mem _ hc⟩
          · exact .inr ⟨part, List.mem_cons_of_mem _ hpart, hc⟩

private theorem space_notMem_of_isDotted {name : String} (h : isDotted name = true) :
    ' ' ∉ name.toList := by
  intro hmem
  obtain hdot | ⟨part, hpart, hspace⟩ := mem_splitOn hmem '.'
  · exact absurd hdot (by decide)
  · have hidentifier : isIdentifier (String.ofList part) = true := by
      rw [isIdentifier, String.toList_ofList]
      exact List.all_eq_true.mp h part hpart
    refine notMem_of_isIdentifier hidentifier (c := ' ') (by decide) (by decide) ?_
    rwa [String.toList_ofList]

/-- The ranges of two tables have no code point in common. -/
def areApart (table other : List (Nat × Nat)) : Bool :=
  table.all fun range ↦ other.all fun next ↦ range.2 < next.1 || next.2 < range.1

private theorem not_inRanges_of_areApart {table other : List (Nat × Nat)}
    (h : areApart table other = true) {c : Char} (hc : inRanges table c = true) :
    inRanges other c = false := by
  obtain ⟨range, hrange, hlow, hhigh⟩ := (inRanges_iff table c).mp hc
  rw [Bool.eq_false_iff, ne_eq, inRanges_iff]
  rintro ⟨next, hnext, hnextLow, hnextHigh⟩
  have hapart := List.all_eq_true.mp (List.all_eq_true.mp h range hrange) next hnext
  rw [Bool.or_eq_true, decide_eq_true_eq, decide_eq_true_eq] at hapart
  omega

/-- A class of characters with an ASCII rule and a table has no blanks if neither has one. -/
theorem not_isBlank_of_class (rule : Char → Bool) (table : List (Nat × Nat))
    (hrule : (List.range 0x80).all (fun n ↦ !(rule (.ofNat n) && isBlank (.ofNat n))) = true)
    (htable : areApart table blankRanges = true) {c : Char}
    (h : (if isAscii c then rule c else inRanges table c) = true) : isBlank c = false := by
  by_cases hascii : isAscii c = true
  · rw [if_pos hascii] at h
    have hc := List.all_eq_true.mp hrule c.toNat (List.mem_range.mpr (of_decide_eq_true hascii))
    rw [Char.ofNat_toNat, h, Bool.true_and, Bool.not_eq_true'] at hc
    exact hc
  · rw [if_neg hascii] at h
    rw [isBlank, if_neg hascii]
    exact not_inRanges_of_areApart htable h

private theorem not_isBlank_of_isIdentifier {name : String} (h : isIdentifier name = true) :
    ∀ c ∈ name.toList, isBlank c = false := by
  rw [isIdentifier] at h
  cases hname : name.toList with
  | nil => exact List.forall_mem_nil _
  | cons first rest =>
    rw [hname, spellsIdentifier, Bool.and_eq_true, List.all_eq_true] at h
    refine List.forall_mem_cons.mpr ⟨?_, fun c hc ↦ ?_⟩
    · exact not_isBlank_of_class (fun c ↦ c.isAlpha || c == '_') identifierStartRanges
        (by decide +kernel) (by decide +kernel) h.1
    · exact not_isBlank_of_class (fun c ↦ c.isAlphanum || c == '_') identifierRestRanges
        (by decide +kernel) (by decide +kernel) (h.2 c hc)

private theorem isIdentifier_ne_nil {name : String} (h : isIdentifier name = true) :
    name.toList ≠ [] := by
  intro hname
  rw [isIdentifier, hname] at h
  cases h

/-- Trimming an identifier with a space behind it removes that space. -/
theorem trim_append_space {name : String} (h : isIdentifier name = true) :
    trim (name ++ " ") = name := by
  have hsolid := not_isBlank_of_isIdentifier h
  obtain ⟨first, rest, hfirst⟩ := List.exists_cons_of_ne_nil (isIdentifier_ne_nil h)
  obtain ⟨front, last, hlast⟩ :=
    (List.eq_nil_or_concat name.toList).resolve_left (isIdentifier_ne_nil h)
  have hleading : trimLeading isBlank (name.toList ++ [' ']) = name.toList ++ [' '] := by
    have hblank : isBlank first = false := hsolid first (by rw [hfirst]; exact List.mem_cons_self)
    rw [hfirst, List.cons_append, trimLeading, List.dropWhile_cons_of_neg (by simp [hblank])]
  have hblank : isBlank last = false := hsolid last (by rw [hlast]; simp)
  rw [trim, String.toList_append]
  change String.ofList (trimTrailing isBlank (trimLeading isBlank (name.toList ++ [' ']))) = name
  rw [hleading, hlast, List.concat_eq_append, List.append_assoc, List.singleton_append,
    trimTrailing_append hblank]
  change String.ofList (front ++ [last]) = name
  rw [← List.concat_eq_append, ← hlast, String.ofList_toList]

end Text

/-! ## Lines and the names in them -/

section BoundName

variable {front line name : String}

private theorem isFunctionName_iff :
    isFunctionName name = true ↔ Text.isIdentifier name = true ∧ name ∉ keywords := by
  rw [isFunctionName, Bool.and_eq_true, Bool.not_eq_true', ← Bool.not_eq_true,
    List.contains_iff_mem]

private theorem Text.beforeFirst_of_notMem (h : '.' ∉ line.toList) :
    Text.beforeFirst "." line = line := by
  have hnone : Text.splitFirst? ".".toList line.toList = none := by
    rw [← Option.not_isSome_iff_eq_none, Text.isSome_splitFirst?_iff]
    exact Text.not_isInfix_of_notMem h
  rw [Text.beforeFirst, hnone]

private theorem Text.beforeFirst_dot (h : Text.isIdentifier name = true) :
    Text.beforeFirst "." name = name :=
  beforeFirst_of_notMem (notMem_of_isIdentifier h (by decide) (by decide))

private theorem Text.afterLast_eq {mark : String} (before : List Char) {rest : List Char} {p : Char}
    (hmark : mark.toList = p :: rest) (hline : line.toList = before ++ (p :: rest ++ name.toList))
    (h : ¬p :: rest <:+: rest ++ name.toList) : Text.afterLast mark line = name := by
  rw [Text.afterLast, hline, hmark, Text.splitLast?_append_self h]
  exact String.ofList_toList

/-- The mark of a renaming is two words long, so it does not begin in front of the last word. -/
theorem not_isInfix_mark {word : List Char} (hword : ' ' ∉ word) (hname : ' ' ∉ name.toList) :
    ¬" as ".toList <:+: word ++ ' ' :: name.toList := by
  change ¬ ' ' :: "as ".toList <:+: _
  rw [Text.isInfix_word_iff hword]
  rintro (hstart | hheld)
  · exact hname (hstart.subset (by decide))
  · exact Text.not_isInfix_of_notMem hname hheld

/-- The name that an import binds is the first part of its last word, or of all that is behind its
last mark. -/
theorem boundName_of_isImportLine (h : isImportLine line = true) :
    boundName line = Text.beforeFirst "." (if " as ".toList <:+: line.toList then
      Text.afterLast " as " line else Text.afterLast " " line) := by
  rw [isImportLine] at h
  rw [boundName, if_pos h]
  exact congrArg (Text.beforeFirst ".") (if_congr Text.isSome_splitFirst?_iff rfl rfl)

/-- A name behind the last mark of an import is the one that it binds. -/
theorem boundName_renamed (hline : isImportLine (front ++ " as " ++ name) = true)
    (hname : Text.isIdentifier name = true) : boundName (front ++ " as " ++ name) = name := by
  have hspace : ' ' ∉ name.toList := Text.notMem_of_isIdentifier hname (by decide) (by decide)
  have hlist : (front ++ " as " ++ name).toList =
      front.toList ++ (" as ".toList ++ name.toList) := by
    rw [String.toList_append, String.toList_append, List.append_assoc]
  have hmarked : " as ".toList <:+: (front ++ " as " ++ name).toList := by
    rw [hlist]
    exact ⟨front.toList, name.toList, List.append_assoc ..⟩
  have hafter : Text.afterLast " as " (front ++ " as " ++ name) = name :=
    Text.afterLast_eq _ rfl hlist (not_isInfix_mark (by decide : ' ' ∉ "as".toList) hspace)
  rw [boundName_of_isImportLine hline, if_pos hmarked, hafter, Text.beforeFirst_dot hname]

/-- The last word of an import without a mark is the name that it binds. -/
theorem boundName_unmarked (before : List Char) (hfront : front.toList = before ++ [' '])
    (hline : isImportLine (front ++ name) = true)
    (hunmarked : ¬" as ".toList <:+: (front ++ name).toList)
    (hname : Text.isIdentifier name = true) : boundName (front ++ name) = name := by
  have hspace : ' ' ∉ name.toList := Text.notMem_of_isIdentifier hname (by decide) (by decide)
  have hlist : (front ++ name).toList = before ++ ([' '] ++ name.toList) := by
    rw [String.toList_append, hfront, List.append_assoc]
  have hafter : Text.afterLast " " (front ++ name) = name :=
    Text.afterLast_eq _ rfl hlist (Text.not_isInfix_of_notMem hspace)
  rw [boundName_of_isImportLine hline, if_neg hunmarked, hafter, Text.beforeFirst_dot hname]

/-- Only a module called `as` puts a mark into an import of a name from a module. -/
theorem isInfix_mark_iff {origin : String} (horigin : ' ' ∉ origin.toList)
    (hname : ' ' ∉ name.toList) :
    " as ".toList <:+: ("from " ++ origin ++ " import " ++ name).toList ↔ origin = "as" := by
  have hlist : ("from " ++ origin ++ " import " ++ name).toList = "from".toList ++
      ' ' :: (origin.toList ++ ' ' :: ("import".toList ++ ' ' :: name.toList)) := by
    simp only [String.toList_append, List.append_assoc]
    rfl
  have hend := not_isInfix_mark (by decide : ' ' ∉ "import".toList) hname
  rw [hlist]
  change ' ' :: "as ".toList <:+: _ ↔ _
  rw [Text.isInfix_word_iff (by decide), Text.isInfix_word_iff horigin]
  change "as".toList ++ [' '] <+: _ ∨ "as".toList ++ [' '] <+: _ ∨ _ ↔ _
  rw [Text.isPrefix_word_iff (by decide) horigin, Text.isPrefix_word_iff (by decide) (by decide),
    or_iff_right (by decide : ¬"as".toList = "import".toList)]
  exact (or_iff_left hend).trans (String.toList_inj.trans eq_comm)

/-- The name of a constant stands before the first equals sign of its line. -/
theorem boundName_constant (hname : isFunctionName name = true) (text : String) :
    boundName (name ++ " = " ++ text) = name := by
  obtain ⟨hidentifier, hkeyword⟩ := isFunctionName_iff.mp hname
  have hspace : ' ' ∉ name.toList :=
    Text.notMem_of_isIdentifier hidentifier (by decide) (by decide)
  have hequals : '=' ∉ (name ++ " ").toList := by
    rw [String.toList_append, List.mem_append, not_or]
    exact ⟨Text.notMem_of_isIdentifier hidentifier (by decide) (by decide), by decide⟩
  have hlist : (name ++ " = " ++ text).toList =
      (name ++ " ").toList ++ '=' :: (' ' :: text.toList) := by
    simp only [String.toList_append, List.append_assoc]
    rfl
  -- The first word of the line is the name, which is not a keyword.
  have hfirst (word : String) (hword : ' ' ∉ word.toList) (hmem : word ∈ keywords) :
      ¬Text.startsWith (word ++ " ") (name ++ " = " ++ text) = true := by
    rw [Text.startsWith_iff]
    rintro ⟨rest, hrest⟩
    have hstart : word.toList ++ [' '] <+: name.toList ++ ' ' :: ("= " ++ text).toList := by
      refine ⟨rest.toList, ?_⟩
      have hsame := congrArg String.toList hrest
      simp only [String.toList_append, List.append_assoc] at hsame ⊢
      exact hsame.symm
    rw [Text.isPrefix_word_iff hword hspace, String.toList_inj] at hstart
    exact hkeyword (hstart ▸ hmem)
  have hline : ¬(Text.startsWith "import " (name ++ " = " ++ text) ||
      Text.startsWith "from " (name ++ " = " ++ text)) = true := by
    rw [Bool.or_eq_true, not_or]
    exact ⟨hfirst "import" (by decide) (by decide), hfirst "from" (by decide) (by decide)⟩
  have hbefore : Text.beforeFirst "=" (name ++ " = " ++ text) = name ++ " " := by
    have hsplit : Text.splitFirst? "=".toList (name ++ " = " ++ text).toList =
        some ((name ++ " ").toList, ' ' :: text.toList) := by
      rw [hlist]
      exact Text.splitFirst?_of_notMem hequals _
    rw [Text.beforeFirst, hsplit]
    exact String.ofList_toList
  rw [boundName, if_neg hline, hbefore, Text.trim_append_space hidentifier]

end BoundName

/-! ## The line for a global -/

def Dependency.text : Dependency → String
  | .importLine text => text
  | .constantLine text => text

/-- The lines that make a name stand for a global. -/
inductive Global.Line (name : String) : Global → String → Prop
  /-- A module under its own name. -/
  | whole : Line name (.module name) ("import " ++ name)
  /-- A module under another name. -/
  | wholeAs {real : String} (h : real ≠ name) :
    Line name (.module real) ("import " ++ real ++ " as " ++ name)
  /-- A literal. -/
  | constant (held : Value) : Line name (.value held) (name ++ " = " ++ held.literal)
  /-- An object of a module under its own name. -/
  | named (origin : String) :
    Line name (.object (some origin) (some name)) ("from " ++ origin ++ " import " ++ name)
  /-- An object of a module under another name. -/
  | namedAs (origin : String) {real : String} (h : real ≠ name) :
    Line name (.object (some origin) (some real))
      ("from " ++ origin ++ " import " ++ real ++ " as " ++ name)

/-- The global is a staged function, which is called by name and needs no line. -/
def Global.isHandle : Global → Bool
  | .staged => true
  | _ => false

namespace Global

variable {owner name line : String} {home : Option String} {found : Global}

private theorem Line.not_isHandle (h : found.Line name line) : found.isHandle = false := by
  cases h <;> rfl

/-- Where a global can be moved, it needs one line, unless it is a staged function. -/
theorem of_dependency {dependency : Option Dependency}
    (h : found.dependency owner home name = .ok dependency) :
    found = .staged ∧ dependency = none ∨
      ∃ made, dependency = some made ∧ found.Line name made.text := by
  cases found with
  | module real =>
    refine .inr ⟨_, (Except.ok.inj h).symm, ?_⟩
    rw [Dependency.text]
    split
    · next hreal =>
      rw [hreal, String.append_empty]
      exact .whole
    · next hreal =>
      rw [← String.append_assoc]
      exact .wholeAs hreal
  | value held =>
    rw [Global.dependency] at h
    split at h
    · exact .inr ⟨_, (Except.ok.inj h).symm, .constant held⟩
    · cases h
  | staged => exact .inl ⟨rfl, (Except.ok.inj h).symm⟩
  | object origin real =>
    cases origin with
    | none => cases h
    | some origin =>
      cases real with
      | none => cases h
      | some real =>
        rw [Global.dependency] at h
        split at h
        · cases h
        · refine .inr ⟨_, (Except.ok.inj h).symm, ?_⟩
          rw [Dependency.text]
          split
          · next hreal =>
            rw [hreal, String.append_empty]
            exact .named origin
          · next hreal =>
            rw [← String.append_assoc]
            exact .namedAs origin hreal

/-- The module that a global names, if it does, is named by identifiers with dots. -/
def hasDottedModule : Global → Bool
  | .module real => Text.isDotted real
  | .object (some origin) _ => Text.isDotted origin
  | _ => true

/-- An object that comes, under its own name, from a module that is called `as`. -/
def isMisread (name : String) : Global → Bool
  | .object (some origin) (some real) => origin == "as" && real == name
  | _ => false

/-- **The name in a line is found again,** whatever else the line holds, unless the name of the
module is taken for the mark of a renaming. -/
theorem Line.boundName_eq (h : found.Line name line) (hname : isFunctionName name = true)
    (hplain : found.hasDottedModule = true) (hread : found.isMisread name = false) :
    boundName line = name := by
  have hidentifier := (isFunctionName_iff.mp hname).1
  have hspace : ' ' ∉ name.toList :=
    Text.notMem_of_isIdentifier hidentifier (by decide) (by decide)
  have himport (rest : String) : isImportLine ("import " ++ rest) = true := by
    rw [isImportLine, Text.startsWith_append, Bool.true_or]
  have hfrom (rest : String) : isImportLine ("from " ++ rest) = true := by
    rw [isImportLine, Text.startsWith_append, Bool.or_true]
  cases h with
  | whole =>
    refine boundName_unmarked "import".toList rfl (himport name) ?_ hidentifier
    rw [String.toList_append]
    exact not_isInfix_mark (by decide : ' ' ∉ "import".toList) hspace
  | wholeAs hreal =>
    refine boundName_renamed ?_ hidentifier
    rw [String.append_assoc, String.append_assoc]
    exact himport _
  | constant held => exact boundName_constant hname held.literal
  | named origin =>
    have horigin : origin ≠ "as" := by
      rintro rfl
      simp [isMisread] at hread
    refine boundName_unmarked ("from " ++ origin ++ " import").toList ?_ ?_ ?_ hidentifier
    · simp only [String.toList_append, List.append_assoc]
      rfl
    · rw [String.append_assoc, String.append_assoc]
      exact hfrom _
    · rw [isInfix_mark_iff (Text.space_notMem_of_isDotted hplain) hspace]
      exact horigin
  | namedAs origin hreal =>
    refine boundName_renamed ?_ hidentifier
    rw [String.append_assoc, String.append_assoc, String.append_assoc, String.append_assoc]
    exact hfrom _

end Global

/-- A module called `as` is taken for the mark of a renaming. -/
theorem boundName_from_as {name : String} (hname : Text.isIdentifier name = true) :
    boundName ("from " ++ "as" ++ " import " ++ name) = "import " ++ name := by
  have hspace : ' ' ∉ name.toList := Text.notMem_of_isIdentifier hname (by decide) (by decide)
  have hdot : '.' ∉ ("import " ++ name).toList := by
    rw [String.toList_append, List.mem_append, not_or]
    exact ⟨by decide, Text.notMem_of_isIdentifier hname (by decide) (by decide)⟩
  have hline : isImportLine ("from " ++ "as" ++ " import " ++ name) = true := by
    rw [String.append_assoc, String.append_assoc, isImportLine, Text.startsWith_append,
      Bool.or_true]
  have hlast : ¬" as ".toList <:+: "as ".toList ++ ("import " ++ name).toList := by
    change ¬ ' ' :: "as ".toList <:+: "as".toList ++ ' ' :: ("import " ++ name).toList
    rw [Text.isInfix_word_iff (by decide), String.toList_append]
    rintro (hstart | hheld)
    · exact absurd (List.head_eq_of_cons_eq hstart.choose_spec) (by decide)
    · exact not_isInfix_mark (by decide : ' ' ∉ "import".toList) hspace hheld
  have hafter : Text.afterLast " as " ("from " ++ "as" ++ " import " ++ name) =
      "import " ++ name := by
    refine Text.afterLast_eq "from".toList rfl ?_ hlast
    simp only [String.toList_append, List.append_assoc]
    rfl
  rw [boundName_of_isImportLine hline, if_pos ((isInfix_mark_iff (by decide) hspace).mpr rfl),
    hafter, Text.beforeFirst_of_notMem hdot]

/-- The name that is found in the line for a global. -/
theorem Global.Line.boundName_of_isMisread {name line : String} {found : Global}
    (h : found.Line name line) (hname : isFunctionName name = true)
    (hread : found.isMisread name = true) : boundName line = "import " ++ name := by
  cases h with
  | named origin =>
    obtain rfl : origin = "as" := by simpa [Global.isMisread] using hread
    exact boundName_from_as (isFunctionName_iff.mp hname).1
  | namedAs origin hreal => simp [Global.isMisread, hreal] at hread
  | _ => cases hread

private theorem import_ne_name {name other : String} (hname : isFunctionName name = true) :
    "import " ++ other ≠ name := by
  rintro rfl
  have hidentifier := (isFunctionName_iff.mp hname).1
  refine Text.notMem_of_isIdentifier hidentifier (c := ' ') (by decide) (by decide) ?_
  rw [String.toList_append]
  exact List.mem_append_left _ (by decide)

/-! ## The lines of a body -/

/-- A line is needed for a name that the module has, unless it is a staged function. -/
def Code.needsLine (code : Code) (name : String) : Bool :=
  (code.globals.lookup name).any fun found ↦ !found.isHandle

private theorem Code.needsLine_iff {code : Code} {name : String} :
    code.needsLine name = true ↔
      ∃ found, code.globals.lookup name = some found ∧ found.isHandle = false := by
  rw [needsLine, Option.any_eq_true]
  simp only [Bool.not_eq_true']

namespace Dependencies

private theorem perm_lines_add (dependency : Dependency) (others : Dependencies) :
    (others.add (some dependency)).lines.Perm (dependency.text :: others.lines) := by
  cases dependency with
  | importLine text => exact .refl _
  | constantLine text => exact List.perm_middle

end Dependencies

/-- Each name that needs a line gets one, in turn. -/
theorem Code.lines_of_dependenciesOf {owner : String} {code : Code} {names : List String}
    {needed : Dependencies} (h : code.dependenciesOf owner names = .ok needed) :
    ∃ lines, needed.lines.Perm lines ∧
      List.Forall₂ (fun name line ↦ ∃ found, code.globals.lookup name = some found ∧
        found.Line name line) (names.filter code.needsLine) lines := by
  induction names generalizing needed with
  | nil =>
    rw [← Except.ok.inj h]
    exact ⟨[], .refl _, .nil⟩
  | cons name rest ih =>
    rw [dependenciesOf] at h
    split at h
    · next hnone =>
      have hleft : ¬code.needsLine name = true := by
        rw [needsLine, hnone]
        exact Bool.false_ne_true
      obtain ⟨lines, hperm, hlines⟩ := ih h
      rw [List.filter_cons_of_neg hleft]
      exact ⟨lines, hperm, hlines⟩
    · next found hfound =>
      obtain ⟨dependency, hdependency, h⟩ := bind_eq_ok_iff.mp h
      obtain ⟨others, hothers, h⟩ := bind_eq_ok_iff.mp h
      obtain ⟨lines, hperm, hlines⟩ := ih hothers
      rw [← Except.ok.inj h]
      rcases Global.of_dependency hdependency with ⟨rfl, rfl⟩ | ⟨made, rfl, hline⟩
      · have hleft : ¬code.needsLine name = true := by
          rw [needsLine, hfound]
          exact Bool.false_ne_true
        rw [List.filter_cons_of_neg hleft]
        exact ⟨lines, hperm, hlines⟩
      · have hkept : code.needsLine name = true :=
          needsLine_iff.mpr ⟨found, hfound, hline.not_isHandle⟩
        rw [List.filter_cons_of_pos hkept]
        exact ⟨made.text :: lines, (Dependencies.perm_lines_add made others).trans (hperm.cons _),
          .cons ⟨found, hfound, hline⟩ hlines⟩

namespace Body

def code? : Body → Option Code
  | .callable routine => routine.code
  | .other _ => none

/-- The names that a body uses, each once. -/
def references (body : Body) : List String := body.code?.elim [] Code.references

/-- What a name stands for in the module of the body. -/
def global? (body : Body) (name : String) : Option Global :=
  body.code?.bind fun code ↦ code.globals.lookup name

/-- The names that need a line: those that a body uses and that its module has, except for staged
functions. -/
def needs (body : Body) : List String :=
  body.code?.elim [] fun code ↦ code.references.filter code.needsLine

/-- Names are identifiers but no keywords, and modules are named by identifiers with dots. -/
structure IsPlainlyNamed (body : Body) : Prop where
  names : ∀ name ∈ body.references, isFunctionName name = true
  modules : ∀ name ∈ body.references, ∀ found ∈ body.global? name, found.hasDottedModule = true

variable {body : Body} {owner name : String} {needed : Dependencies}

private theorem mem_needs_iff : name ∈ body.needs ↔ name ∈ body.references ∧
    ∃ found, body.global? name = some found ∧ found.isHandle = false := by
  rw [needs, references, global?]
  cases body.code? with
  | none => simp
  | some code =>
    rw [Option.elim_some, Option.elim_some, Option.bind_some, List.mem_filter, Code.needsLine_iff]

private theorem nodup_needs (body : Body) : body.needs.Nodup := by
  rw [needs]
  cases body.code? with
  | none => exact List.nodup_nil
  | some code => exact (Text.nodup_sort (Text.nodup_distinct _)).filter _

/-- A body without code needs nothing, and one with code needs the lines of its names. -/
theorem dependencies_eq (body : Body) (owner : String) :
    body.dependencies owner =
      body.code?.elim (.ok {}) fun code ↦ code.dependenciesOf owner code.references := by
  cases body with
  | other typeName => rfl
  | callable routine =>
    rw [dependencies, code?]
    cases routine.code <;> rfl

private theorem lines_of_dependencies (h : body.dependencies owner = .ok needed) :
    ∃ lines, needed.lines.Perm lines ∧
      List.Forall₂ (fun name line ↦ ∃ found, body.global? name = some found ∧
        found.Line name line) body.needs lines := by
  rw [dependencies_eq] at h
  cases hcode : body.code? with
  | none =>
    have hneeds : body.needs = [] := by rw [needs, hcode, Option.elim_none]
    rw [hcode, Option.elim_none] at h
    rw [hneeds, ← Except.ok.inj h]
    exact ⟨[], .refl _, .nil⟩
  | some code =>
    have hneeds : body.needs = code.references.filter code.needsLine := by
      rw [needs, hcode, Option.elim_some]
    have hglobal (name : String) : body.global? name = code.globals.lookup name := by
      rw [global?, hcode, Option.bind_some]
    rw [hcode, Option.elim_some] at h
    simp only [hneeds, hglobal]
    exact Code.lines_of_dependenciesOf h

/-- The line makes the name stand for what it stands for in the module of the body, and the name is
found again in the line unless the line is misread. -/
def ReadsLine (body : Body) (name line : String) : Prop :=
  ∃ found, body.global? name = some found ∧ found.Line name line ∧
    (boundName line = name ↔ found.isMisread name = false)

private theorem forall₂_readsLine (hplain : body.IsPlainlyNamed)
    (h : body.dependencies owner = .ok needed) :
    ∃ lines, needed.lines.Perm lines ∧ List.Forall₂ body.ReadsLine body.needs lines := by
  obtain ⟨lines, hperm, hlines⟩ := lines_of_dependencies h
  refine ⟨lines, hperm, ((List.forall₂_and_left _ _).mpr ⟨fun _ hname ↦ hname, hlines⟩).imp ?_⟩
  rintro name line ⟨hname, found, hfound, hline⟩
  obtain ⟨hused, -⟩ := mem_needs_iff.mp hname
  refine ⟨found, hfound, hline, fun hbound ↦ ?_, fun hread ↦ ?_⟩
  · rw [Bool.eq_false_iff]
    intro hmisread
    rw [hline.boundName_of_isMisread (hplain.names name hused) hmisread] at hbound
    exact import_ne_name (hplain.names name hused) hbound
  · exact hline.boundName_eq (hplain.names name hused) (hplain.modules name hused found hfound)
      hread

private theorem perm_boundName_iff (hplain : body.IsPlainlyNamed)
    (h : body.dependencies owner = .ok needed) :
    (needed.lines.map boundName).Perm body.needs ↔
      ∀ name ∈ body.needs, ∀ found ∈ body.global? name, found.isMisread name = false := by
  obtain ⟨lines, hperm, hlines⟩ := forall₂_readsLine hplain h
  have hnames (name : String) (hname : name ∈ body.needs) : isFunctionName name = true :=
    hplain.names name (mem_needs_iff.mp hname).1
  constructor
  · -- A name that is not found again leaves a text that is no name at all.
    intro hbound name hname found hfound
    rw [Bool.eq_false_iff]
    intro hmisread
    obtain ⟨line, hline, other, hother, hmade, -⟩ := exists_mem_of_forall₂ hlines hname
    obtain rfl : found = other := Option.some.inj (hfound.symm.trans hother)
    have hmem : boundName line ∈ needed.lines.map boundName :=
      List.mem_map_of_mem (hperm.mem_iff.mpr hline)
    rw [hmade.boundName_of_isMisread (hnames name hname) hmisread] at hmem
    exact import_ne_name (hnames _ (hbound.mem_iff.mp hmem)) rfl
  · intro hread
    have hsame : List.Forall₂ (· = ·) body.needs (lines.map boundName) := by
      rw [List.forall₂_map_right_iff]
      refine ((List.forall₂_and_left _ _).mpr ⟨fun _ hname ↦ hname, hlines⟩).imp ?_
      rintro name line ⟨hname, found, hfound, -, hiff⟩
      exact (hiff.mpr (hread name hname found hfound)).symm
    rw [List.forall₂_eq_eq_eq] at hsame
    rw [hsame]
    exact hperm.map boundName

/-- **The name that a line binds can be read off the line.** Let the names that a body uses be
identifiers but no keywords, and its modules be named by identifiers with dots. If the lines of the
body can be made, there is exactly one line for each name that the module of the body has and that
is no staged function, and there are no others. The name is found again in its line, whatever the
text of a constant holds, except exactly in `from as import name`.

So the names that the lines bind are those that need a line, each once, exactly if no object comes
under its own name from a module that is called `as`. -/
theorem boundName_lines_iff (hplain : body.IsPlainlyNamed)
    (h : body.dependencies owner = .ok needed) :
    body.needs.Nodup ∧
      (∀ name, name ∈ body.needs ↔ name ∈ body.references ∧
        ∃ found, body.global? name = some found ∧ found.isHandle = false) ∧
      (∃ lines, needed.lines.Perm lines ∧ List.Forall₂ body.ReadsLine body.needs lines) ∧
      ((needed.lines.map boundName).Perm body.needs ↔
        ∀ name ∈ body.needs, ∀ found ∈ body.global? name, found.isMisread name = false) :=
  ⟨nodup_needs body, fun _ ↦ mem_needs_iff, forall₂_readsLine hplain h,
    perm_boundName_iff hplain h⟩

/-- All kinds of lines, a literal that holds the marks of the others, a renamed object of a module
called `as`, a staged function, and a name that the module does not have. -/
theorem boundName_lines_iff_marks :
    let code : Code :=
      { names := .node ["json", "core", "TEXT"] [.node ["load", "dump", "helper", "len"] []]
        globals := [("json", .module "json"), ("core", .module "numpy.core"),
          ("TEXT", .value (.text "a as b = import c")),
          ("load", .object (some "tools.io") (some "load")),
          ("dump", .object (some "as") (some "write")), ("helper", .staged)]
        home := some "app" }
    let body : Body := .callable
      { name := some "f", parameters := [], source := .definition [], code := some code }
    ∃ needed, body.IsPlainlyNamed ∧ body.dependencies "f" = .ok needed ∧
      needed.lines = ["import numpy.core as core", "from as import write as dump", "import json",
        "from tools.io import load", "TEXT = 'a as b = import c'"] ∧
      (needed.lines.map boundName).Perm body.needs := by
  intro code body
  have hplain : body.IsPlainlyNamed := ⟨by decide +kernel, by decide +kernel⟩
  have hdependencies : ∃ needed, body.dependencies "f" = .ok needed ∧ needed.lines =
      ["import numpy.core as core", "from as import write as dump", "import json",
        "from tools.io import load", "TEXT = 'a as b = import c'"] :=
    ⟨_, rfl, by decide +kernel⟩
  obtain ⟨needed, hneeded, hlines⟩ := hdependencies
  refine ⟨needed, hplain, hneeded, hlines, ?_⟩
  exact (boundName_lines_iff hplain hneeded).2.2.2.mpr (by decide +kernel)

/-- An object of a module called `as` under its own name: no name can be read off its line. -/
theorem boundName_object_of_as :
    let code : Code :=
      { names := .node ["load"] []
        globals := [("load", .object (some "as") (some "load"))]
        home := some "app" }
    let body : Body := .callable
      { name := some "f", parameters := [], source := .definition [], code := some code }
    ∃ needed, body.IsPlainlyNamed ∧ body.dependencies "f" = .ok needed ∧ body.needs = ["load"] ∧
      needed.lines = ["from as import load"] ∧ needed.lines.map boundName = ["import load"] := by
  intro code body
  exact ⟨_, ⟨by decide +kernel, by decide +kernel⟩, rfl, by decide +kernel, by decide +kernel,
    by decide +kernel⟩

end Body

end Runbook
