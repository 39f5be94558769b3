import Mathlib.Data.List.Nodup
import Runbook.Proofs.Caching
import Runbook.Proofs.Skeleton
import Runbook.Proofs.Spelling

/-!
# Splicing staged leaves into JSON

The JSON text of data with staged leaves has a skeleton, which depends on the data alone: whatever
stands at the leaves, its text stands in the gaps (`exists_isSkeleton`). With markers at the leaves
this is the text that the first pass writes; the pieces of the skeleton are unmarked, so the second
pass cuts it into just these pieces (`eval_spliceShell`). Together: the word of the shell is made of
the quoted pieces with the expressions of the leaves between them.
-/

namespace Runbook

namespace Value

/-! ## JSON data with staged leaves -/

mutual
/-- Data that JSON can hold, with staged values for data that is not there yet: scalars, sequences,
and mappings with different texts as keys. No text holds the NUL character. -/
def IsJson : Value → Prop
  | .null | .bool _ | .int _ | .float _ | .staged _ => True
  | .text s => '\x00' ∉ s.toList
  | .member m => '\x00' ∉ m.text.toList
  | .list items => AreJson items
  | .tuple items => AreJson items
  | .mapping entries => (entries.map Prod.fst).Nodup ∧ HasJson entries
  | _ => False

/-- All items are JSON data. -/
def AreJson : List Value → Prop
  | [] => True
  | item :: rest => IsJson item ∧ AreJson rest

/-- All keys are texts without NUL, and all values are JSON data. -/
def HasJson : List (Value × Value) → Prop
  | [] => True
  | (key, value) :: rest =>
    (∃ name : String, key = .text name ∧ '\x00' ∉ name.toList) ∧ IsJson value ∧ HasJson rest
end

mutual
/-- The value with other values in place of its staged leaves, which are numbered from `index`
on. -/
def fill (leaf : Nat → Value) (index : Nat) : Value → Value
  | .staged _ => leaf index
  | .list items => .list (fillItems leaf index items)
  | .tuple items => .tuple (fillItems leaf index items)
  | .mapping entries => .mapping (fillEntries leaf index entries)
  | value => value

/-- The items of a sequence with other values in place of their staged leaves. -/
def fillItems (leaf : Nat → Value) (index : Nat) : List Value → List Value
  | [] => []
  | item :: rest =>
    fill leaf index item :: fillItems leaf (index + item.stagedLeaves.length) rest

/-- The entries of a mapping with other values in place of their staged leaves. -/
def fillEntries (leaf : Nat → Value) (index : Nat) : List (Value × Value) → List (Value × Value)
  | [] => []
  | (key, value) :: rest =>
    (key, fill leaf index value) ::
      fillEntries leaf (index + value.stagedLeaves.length) rest
end

end Value

/-! ## The skeleton of JSON text -/

namespace Markdown

theorem unmarked_of_all {text : List Char} (h : text.all (fun c ↦ c != '"' && c != '\\') = true) :
    Unmarked text := by
  induction text with
  | nil => exact .nil
  | cons c rest ih =>
    rw [List.all_cons, Bool.and_eq_true, Bool.and_eq_true, bne_iff_ne, bne_iff_ne] at h
    exact .plain h.1.1 h.1.2 (ih h.2)

theorem unmarked_number {text : List Char} (h : text.all isNumberChar = true) :
    Unmarked text := by
  refine unmarked_of_all (List.all_eq_true.mpr fun c hc ↦ ?_)
  have hnumber := List.all_eq_true.mp h c hc
  rw [Bool.and_eq_true, bne_iff_ne, bne_iff_ne]
  constructor <;>
    · rintro rfl
      exact absurd hnumber (by decide)

private theorem unmarked_jsonString {s : String} (h : '\x00' ∉ s.toList) :
    Unmarked (Text.jsonString s).toList := by
  rw [← List.append_nil (Text.jsonString s).toList, ← PathKey.json_ofText]
  refine .string ?_ .nil
  simpa [PathKey.ofText] using h

variable (style : JsonStyle)

/-- What a style writes between items holds neither quotes nor escapes. -/
structure IsPlain (style : JsonStyle) : Prop where
  itemEnd : Unmarked style.itemEnd.toList
  keyEnd : Unmarked style.keyEnd.toList

private theorem unmarked_lineBreak (depth : Nat) : Unmarked (style.lineBreak depth).toList := by
  apply unmarked_of_all
  rw [JsonStyle.lineBreak]
  split
  · rfl
  · simp [Text.spaces]

/-- The texts of the values that fill the gaps. -/
def Spells (leaf : Nat → Value) (text : Nat → List Char) : Prop :=
  ∀ index depth, (leaf index).jsonAt? style depth = some (String.ofList (text index))

/-- Parts between brackets. -/
def enclose (depth : Nat) (opening closing : String) (parts : List Skeleton) : Skeleton :=
  if parts.isEmpty then .ofText (opening ++ closing)
  else
    .ofText (opening ++ style.lineBreak (depth + 1)) ++
      (.join (style.itemEnd ++ style.lineBreak (depth + 1)) parts ++
        .ofText (style.lineBreak depth ++ closing))

private theorem weave_enclose (text : Nat → List Char) (index depth : Nat)
    (opening closing : String) (parts : List Skeleton) :
    style.enclose depth opening closing ((Skeleton.weaveEach text index parts).map String.ofList) =
      String.ofList ((enclose style depth opening closing parts).weave text index) := by
  rw [← String.toList_inj, String.toList_ofList, JsonStyle.enclose, enclose]
  cases parts with
  | nil => simp [Skeleton.weaveEach]
  | cons part rest =>
    have htexts : ((Skeleton.weaveEach text index (part :: rest)).map String.ofList).map
        String.toList = Skeleton.weaveEach text index (part :: rest) := by
      rw [List.map_map]
      exact List.map_id'' (fun _ ↦ String.toList_ofList) _
    rw [if_neg (by simp [Skeleton.weaveEach]), if_neg (by simp), Skeleton.weave_append,
      Skeleton.weave_append, Skeleton.weave_join]
    simp [Text.join, htexts]

private theorem gaps_enclose (depth : Nat) (opening closing : String) (parts : List Skeleton) :
    (enclose style depth opening closing parts).gaps = Skeleton.gapsOf parts := by
  rw [enclose]
  cases parts with
  | nil => rfl
  | cons part rest => simp [Skeleton.gaps_join]

private theorem unmarked_enclose (hstyle : IsPlain style) (depth : Nat) {opening closing : String}
    (hopening : Unmarked opening.toList) (hclosing : Unmarked closing.toList)
    {parts : List Skeleton} (h : ∀ part ∈ parts, part.All Unmarked) :
    (enclose style depth opening closing parts).All Unmarked := by
  have happend : ∀ x y, Unmarked x → Unmarked y → Unmarked (x ++ y) := fun _ _ ↦ .append
  have htext : ∀ s t : String, Unmarked s.toList → Unmarked t.toList →
      Unmarked (s ++ t).toList := by
    intro s t hs ht
    rw [String.toList_append]
    exact hs.append ht
  have hbreak := unmarked_lineBreak style
  rw [enclose]
  split
  · exact .ofText (htext _ _ hopening hclosing)
  · have hjoined := Skeleton.All.join happend .nil (htext _ _ hstyle.itemEnd (hbreak (depth + 1))) h
    exact (Skeleton.All.ofText (htext _ _ hopening (hbreak _))).append happend
      (hjoined.append happend (.ofText (htext _ _ (hbreak _) hclosing)))

/-- The skeleton of what is written for data: its pieces hold no marker, it has a gap for each
staged leaf, and whatever fills the leaves, its text stands in the gaps. -/
structure IsSkeleton (count : Nat) (write : (Nat → Value) → Nat → Option String)
    (skeleton : Skeleton) : Prop where
  unmarked : skeleton.All Unmarked
  gaps : skeleton.gaps = count
  weave : ∀ leaf text index, Spells style leaf text →
    write leaf index = some (String.ofList (skeleton.weave text index))

/-- The skeletons of what is written for each of several data. -/
structure AreSkeletons (count : Nat) (write : (Nat → Value) → Nat → Option (List String))
    (parts : List Skeleton) : Prop where
  unmarked : ∀ part ∈ parts, part.All Unmarked
  gaps : Skeleton.gapsOf parts = count
  weave : ∀ leaf text index, Spells style leaf text →
    write leaf index = some ((Skeleton.weaveEach text index parts).map String.ofList)

variable {style} {count : Nat}

theorem IsSkeleton.literal {write : (Nat → Value) → Nat → Option String} {text : String}
    (hwrite : ∀ leaf index, write leaf index = some text) (h : Unmarked text.toList) :
    IsSkeleton style 0 write (.ofText text) where
  unmarked := .ofText h
  gaps := rfl
  weave leaf texts index _ := by rw [hwrite, Skeleton.weave_ofText, String.ofList_toList]

theorem IsSkeleton.prepend {write : (Nat → Value) → Nat → Option String} {skeleton : Skeleton}
    (h : IsSkeleton style count write skeleton) {front : String} (hfront : Unmarked front.toList) :
    IsSkeleton style count (fun leaf index ↦ (write leaf index).map (front ++ ·))
      (.ofText front ++ skeleton) where
  unmarked := (Skeleton.All.ofText hfront).append (fun _ _ ↦ .append) h.unmarked
  gaps := by rw [Skeleton.gaps_append, Skeleton.gaps_ofText, Nat.zero_add, h.gaps]
  weave leaf text index hleaf := by
    rw [h.weave leaf text index hleaf, Skeleton.weave_append]
    simp

theorem AreSkeletons.nil {write : (Nat → Value) → Nat → Option (List String)}
    (hwrite : ∀ leaf index, write leaf index = some []) : AreSkeletons style 0 write [] where
  unmarked := List.forall_mem_nil _
  gaps := rfl
  weave leaf _ index _ := hwrite leaf index

theorem AreSkeletons.cons {write : (Nat → Value) → Nat → Option String} {skeleton : Skeleton}
    (h : IsSkeleton style count write skeleton) {others : Nat}
    {writeRest : (Nat → Value) → Nat → Option (List String)} {parts : List Skeleton}
    (hrest : AreSkeletons style others writeRest parts) :
    AreSkeletons style (count + others)
      (fun leaf index ↦ do
        let first ← write leaf index
        let rest ← writeRest leaf (index + count)
        return first :: rest)
      (skeleton :: parts) where
  unmarked := List.forall_mem_cons.mpr ⟨h.unmarked, hrest.unmarked⟩
  gaps := by rw [Skeleton.gapsOf, h.gaps, hrest.gaps]
  weave leaf text index hleaf := by
    rw [h.weave leaf text index hleaf, hrest.weave leaf text _ hleaf, Skeleton.weaveEach, h.gaps]
    rfl

theorem AreSkeletons.enclose (hstyle : IsPlain style)
    {write : (Nat → Value) → Nat → Option (List String)} {parts : List Skeleton}
    (h : AreSkeletons style count write parts) (depth : Nat) {opening closing : String}
    (hopening : Unmarked opening.toList) (hclosing : Unmarked closing.toList) :
    IsSkeleton style count
      (fun leaf index ↦ (write leaf index).map (style.enclose depth opening closing))
      (enclose style depth opening closing parts) where
  unmarked := unmarked_enclose style hstyle depth hopening hclosing h.unmarked
  gaps := (gaps_enclose style depth opening closing parts).trans h.gaps
  weave leaf text index hleaf := by
    rw [h.weave leaf text index hleaf, Option.map_some, weave_enclose]

-- One statement for each of the three writers. Numbers of leaves run on from item to item just as
-- the gaps of the skeletons do.
mutual
theorem exists_isSkeleton (hstyle : IsPlain style) (depth : Nat) (value : Value)
    (h : value.IsJson) :
    ∃ skeleton, IsSkeleton style value.stagedLeaves.length
      (fun leaf index ↦ (value.fill leaf index).jsonAt? style depth) skeleton := by
  match value with
  | .null => exact ⟨_, .literal (fun _ _ ↦ rfl) (unmarked_of_all (by decide))⟩
  | .bool b =>
    refine ⟨_, .literal (fun _ _ ↦ rfl) (unmarked_of_all ?_)⟩
    cases b <;> decide
  | .int n => exact ⟨_, .literal (fun _ _ ↦ rfl) (unmarked_number (all_isNumberChar_repr n))⟩
  | .float x =>
    exact ⟨_, .literal (fun _ _ ↦ rfl) (unmarked_number x.all_isNumberChar_json)⟩
  | .text s | .member ⟨_, _, s⟩ =>
    rw [Value.IsJson] at h
    exact ⟨_, .literal (fun _ _ ↦ rfl) (unmarked_jsonString h)⟩
  | .staged v =>
    refine ⟨⟨[], [[]]⟩, ?_, rfl, fun leaf text index hleaf ↦ ?_⟩
    · exact List.forall_mem_cons.mpr ⟨.nil, List.forall_mem_singleton.mpr .nil⟩
    · simpa [Skeleton.weave, Skeleton.weaveRest, Value.fill] using hleaf index depth
  | .list items | .tuple items =>
    rw [Value.IsJson] at h
    obtain ⟨parts, hparts⟩ := exists_areSkeletons_items hstyle (depth + 1) items h
    exact ⟨_, hparts.enclose hstyle depth (unmarked_of_all (by decide))
      (unmarked_of_all (by decide))⟩
  | .mapping entries =>
    rw [Value.IsJson] at h
    obtain ⟨parts, hparts⟩ := exists_areSkeletons_entries hstyle (depth + 1) entries h.2
    exact ⟨_, hparts.enclose hstyle depth (unmarked_of_all (by decide))
      (unmarked_of_all (by decide))⟩
  | .condition _ | .element .. | .choice _ | .criterion _ | .route _ | .handle _ | .foreign _ =>
    exact absurd h (by simp [Value.IsJson])

theorem exists_areSkeletons_items (hstyle : IsPlain style) (depth : Nat) (items : List Value)
    (h : Value.AreJson items) :
    ∃ parts, AreSkeletons style (Value.itemsStagedLeaves items).length
      (fun leaf index ↦ Value.jsonItems? style depth (Value.fillItems leaf index items)) parts := by
  match items with
  | [] => exact ⟨[], .nil fun _ _ ↦ rfl⟩
  | item :: rest =>
    rw [Value.AreJson] at h
    obtain ⟨first, hfirst⟩ := exists_isSkeleton hstyle depth item h.1
    obtain ⟨parts, hparts⟩ := exists_areSkeletons_items hstyle depth rest h.2
    refine ⟨first :: parts, ?_⟩
    rw [Value.itemsStagedLeaves, List.length_append]
    exact .cons hfirst hparts

theorem exists_areSkeletons_entries (hstyle : IsPlain style) (depth : Nat)
    (entries : List (Value × Value)) (h : Value.HasJson entries) :
    ∃ parts, AreSkeletons style (Value.entriesStagedLeaves entries).length
      (fun leaf index ↦ Value.jsonEntries? style depth (Value.fillEntries leaf index entries))
      parts := by
  match entries with
  | [] => exact ⟨[], .nil fun _ _ ↦ rfl⟩
  | (key, value) :: rest =>
    rw [Value.HasJson] at h
    obtain ⟨⟨name, rfl, hname⟩, hvalue, hrest⟩ := h
    obtain ⟨first, hfirst⟩ := exists_isSkeleton hstyle depth value hvalue
    obtain ⟨parts, hparts⟩ := exists_areSkeletons_entries hstyle depth rest hrest
    have hfront : Unmarked (Text.jsonString name ++ style.keyEnd).toList := by
      rw [String.toList_append]
      exact (unmarked_jsonString hname).append hstyle.keyEnd
    refine ⟨(.ofText (Text.jsonString name ++ style.keyEnd) ++ first) :: parts, ?_⟩
    rw [Value.entriesStagedLeaves, List.length_append]
    simpa [Value.fillEntries, Value.jsonEntries?, Value.jsonKey?, Option.bind_map,
      Function.comp_def] using
      AreSkeletons.cons (hfirst.prepend hfront) hparts
end

theorem isPlain_compact : IsPlain .compact where
  itemEnd := unmarked_of_all (by decide)
  keyEnd := unmarked_of_all (by decide)

private theorem enclose_compact (depth depth' : Nat) :
    JsonStyle.compact.enclose depth = JsonStyle.compact.enclose depth' := rfl

mutual
/-- Compact text is the same at each depth. -/
theorem jsonAt?_compact (depth depth' : Nat) (value : Value) :
    value.jsonAt? .compact depth = value.jsonAt? .compact depth' := by
  cases value with
  | mapping entries =>
    rw [Value.jsonAt?, Value.jsonAt?, jsonEntries?_compact _ (depth' + 1),
      enclose_compact depth depth']
  | list items | tuple items =>
    rw [Value.jsonAt?, Value.jsonAt?, jsonItems?_compact _ (depth' + 1),
      enclose_compact depth depth']
  | _ => rfl

theorem jsonItems?_compact (depth depth' : Nat) (items : List Value) :
    Value.jsonItems? .compact depth items = Value.jsonItems? .compact depth' items := by
  match items with
  | [] => rfl
  | item :: rest =>
    rw [Value.jsonItems?, Value.jsonItems?, jsonAt?_compact depth depth' item,
      jsonItems?_compact depth depth' rest]

theorem jsonEntries?_compact (depth depth' : Nat) (entries : List (Value × Value)) :
    Value.jsonEntries? .compact depth entries = Value.jsonEntries? .compact depth' entries := by
  match entries with
  | [] => rfl
  | (key, value) :: rest =>
    rw [Value.jsonEntries?, Value.jsonEntries?, jsonAt?_compact depth depth' value,
      jsonEntries?_compact depth depth' rest]
end

private theorem spells_compact {leaf : Nat → Value} {text : Nat → String}
    (h : ∀ index, (leaf index).json? .compact = some (text index)) :
    Spells .compact leaf fun index ↦ (text index).toList := by
  intro index depth
  rw [jsonAt?_compact depth 0, String.ofList_toList, ← h index, Value.json?]

/-! ## Markers in place of the leaves -/

mutual
/-- The leaves that get markers are the staged leaves. -/
theorem mark_snd (start : Nat) (value : Value) : (mark start value).2 = value.stagedLeaves := by
  cases value with
  | mapping entries => exact markEntries_snd start entries
  | list items | tuple items => exact markItems_snd start items
  | _ => rfl

theorem markItems_snd (start : Nat) (items : List Value) :
    (markItems start items).2 = Value.itemsStagedLeaves items := by
  match items with
  | [] => rfl
  | item :: rest => rw [markItems, Value.itemsStagedLeaves, mark_snd, markItems_snd]

theorem markEntries_snd (start : Nat) (entries : List (Value × Value)) :
    (markEntries start entries).2 = Value.entriesStagedLeaves entries := by
  match entries with
  | [] => rfl
  | (key, value) :: rest =>
    rw [markEntries, Value.entriesStagedLeaves, mark_snd, markEntries_snd]
end

private theorem markEntries_names (start : Nat) {entries : List (Value × Value)}
    (h : Value.HasJson entries) :
    ((markEntries start entries).1.map fun entry ↦ Value.text entry.1) =
      entries.map Prod.fst := by
  induction entries generalizing start with
  | nil => rfl
  | cons entry rest ih =>
    obtain ⟨key, value⟩ := entry
    rw [Value.HasJson] at h
    obtain ⟨⟨name, rfl, -⟩, -, hrest⟩ := h
    rw [markEntries, List.map_cons, ih _ hrest]
    rfl

mutual
/-- Marking data is filling its leaves with the markers, as far as JSON can tell. -/
theorem jsonAt?_mark (style : JsonStyle) (depth start : Nat) (value : Value) (h : value.IsJson) :
    (mark start value).1.jsonAt? style depth =
      (value.fill (fun index ↦ .text (marker index)) start).jsonAt? style depth := by
  cases value with
  | mapping entries =>
    rw [Value.IsJson] at h
    have hnames : ((markEntries start entries).1.map Prod.fst).Nodup := by
      refine List.Nodup.of_map Value.text ?_
      rw [List.map_map]
      exact (markEntries_names start h.2).symm ▸ h.1
    rw [mark, textDict, setNames_of_nodup hnames, Value.fill, Value.jsonAt?, Value.jsonAt?,
      jsonEntries?_mark style _ start entries h.2]
  | list items | tuple items =>
    rw [mark, Value.fill, Value.jsonAt?, Value.jsonAt?, jsonItems?_mark style _ start items h]
  | _ => rfl

theorem jsonItems?_mark (style : JsonStyle) (depth start : Nat) (items : List Value)
    (h : Value.AreJson items) :
    Value.jsonItems? style depth (markItems start items).1 =
      Value.jsonItems? style depth
        (Value.fillItems (fun index ↦ .text (marker index)) start items) := by
  match items with
  | [] => rfl
  | item :: rest =>
    rw [Value.AreJson] at h
    rw [markItems, Value.fillItems, Value.jsonItems?, Value.jsonItems?, mark_snd,
      jsonAt?_mark style depth start item h.1, jsonItems?_mark style depth _ rest h.2]

theorem jsonEntries?_mark (style : JsonStyle) (depth start : Nat) (entries : List (Value × Value))
    (h : Value.HasJson entries) :
    Value.jsonEntries? style depth
        ((markEntries start entries).1.map fun entry ↦ (.text entry.1, entry.2)) =
      Value.jsonEntries? style depth
        (Value.fillEntries (fun index ↦ .text (marker index)) start entries) := by
  match entries with
  | [] => rfl
  | (key, value) :: rest =>
    rw [Value.HasJson] at h
    obtain ⟨⟨name, rfl, -⟩, hvalue, hrest⟩ := h
    rw [markEntries, Value.fillEntries, List.map_cons, Value.jsonEntries?, Value.jsonEntries?,
      mark_snd, jsonAt?_mark style depth start value hvalue,
      jsonEntries?_mark style depth _ rest hrest]
    rfl
end

/-! ## Cutting at the markers -/

/-- Pieces of a text with leaves between them. -/
def woven (piece : String) : List String → List String → String
  | leaf :: leaves, next :: pieces => piece ++ leaf ++ woven next leaves pieces
  | _, _ => piece

theorem ofList_weave (text : Nat → List Char) (index : Nat) (first : List Char)
    (rest : List (List Char)) :
    String.ofList (Skeleton.weave text index ⟨first, rest⟩) =
      woven (String.ofList first)
        ((List.range' index rest.length).map fun index ↦ String.ofList (text index))
        (rest.map String.ofList) := by
  induction rest generalizing index first with
  | nil => simp [Skeleton.weave, Skeleton.weaveRest, woven]
  | cons piece rest ih =>
    have hrest := ih (index + 1) piece
    simp only [Skeleton.weave] at hrest
    simp [Skeleton.weave, Skeleton.weaveRest, woven, List.range'_succ, ← hrest,
      String.append_assoc]

/-- The markers are met in the order of their numbers, one behind each piece. -/
theorem eval_spliceShell (tool : String) (index : Nat) (first : List Char)
    (rest : List (List Char)) (leaves : List Staged) (hlength : rest.length = leaves.length)
    (h : Skeleton.All Unmarked ⟨first, rest⟩) :
    (spliceShell index
        (Skeleton.weave (fun index ↦ (jsonMarker index).toList) index ⟨first, rest⟩)
        leaves).eval tool =
      .ok (woven (shellQuoteBody (String.ofList first))
        (leaves.map fun leaf ↦ "'\"" ++ leaf.resolve tool .json ++ "\"'")
        (rest.map fun piece ↦ shellQuoteBody (String.ofList piece))) := by
  induction leaves generalizing index first rest with
  | nil =>
    obtain rfl := List.eq_nil_of_length_eq_zero hlength
    simp [spliceShell, Skeleton.weave, Skeleton.weaveRest, woven, Emission.eval]
  | cons leaf leaves ih =>
    obtain ⟨piece, rest, rfl⟩ := List.exists_cons_of_length_eq_add_one hlength
    obtain ⟨hfirst, hrest⟩ := List.forall_mem_cons.mp h
    have hcut : cutMarker index
        (Skeleton.weave (fun index ↦ (jsonMarker index).toList) index ⟨first, piece :: rest⟩) =
        (first, Skeleton.weave (fun index ↦ (jsonMarker index).toList) (index + 1)
          ⟨piece, rest⟩) := by
      rw [cutMarker, Skeleton.weave, Skeleton.weaveRest, List.append_assoc,
        hfirst.splitFirst?_append]
      rfl
    have hothers := ih (index + 1) piece rest (Nat.succ.inj hlength) hrest
    simp [spliceShell, hcut, hothers, Emission.json, Emission.eval, Except.bind, woven,
      Lookup.resolve, String.append_assoc]

/-- **Staged leaves are spliced into JSON without touching anything else.** For JSON data there are
pieces of text, one more than staged leaves, such that the word of the shell is made of the quoted
pieces with the expressions of the leaves between them, and the compact JSON text of the data is
made of the same pieces with the leaves' texts between them, whatever data stands at the leaves. No
piece holds a marker. -/
theorem run_shellJson_eq_woven (value : Value) (h : value.IsJson) :
    ∃ (piece : String) (pieces : List String),
      pieces.length = value.stagedLeaves.length ∧
      (∀ tool (cache : Cache), cache.Sound tool →
        ((shellJson value).run tool cache).1 =
          .ok ("'" ++ woven (shellQuoteBody piece)
            (value.stagedLeaves.map fun leaf ↦ "'\"" ++ leaf.resolve tool .json ++ "\"'")
            (pieces.map shellQuoteBody) ++ "'")) ∧
      (∀ (leaf : Nat → Value) (text : Nat → String),
        (∀ index, (leaf index).json? .compact = some (text index)) →
        (value.fill leaf 0).json? .compact =
          some (woven piece ((List.range value.stagedLeaves.length).map text) pieces)) ∧
      ∀ part ∈ piece :: pieces, ∀ index, ¬(jsonMarker index).toList <:+: part.toList := by
  obtain ⟨⟨first, rest⟩, hskeleton⟩ := exists_isSkeleton isPlain_compact 0 value h
  have hlength : rest.length = value.stagedLeaves.length := hskeleton.gaps
  refine ⟨String.ofList first, rest.map String.ofList, by simpa using hlength, ?_, ?_, ?_⟩
  · intro tool cache hcache
    have hjson : (mark 0 value).1.json? .compact = some (String.ofList
        (Skeleton.weave (fun index ↦ (jsonMarker index).toList) 0 ⟨first, rest⟩)) := by
      rw [Value.json?, jsonAt?_mark _ _ _ _ h]
      exact hskeleton.weave _ _ 0 fun index _ ↦ by
        rw [Value.jsonAt?, String.ofList_toList, jsonMarker]
    have hsplice := eval_spliceShell tool 0 first rest value.stagedLeaves hlength
      hskeleton.unmarked
    rw [((shellJson value).run_of_sound hcache).1]
    simp [shellJson, markedJson, hjson, mark_snd, hsplice, Emission.eval, Except.bind,
      Function.comp_def]
  · intro leaf text hleaf
    have htext := hskeleton.weave leaf _ 0 (spells_compact hleaf)
    rw [Value.json?, htext, ofList_weave, hlength, List.range_eq_range']
    simp only [String.ofList_toList]
  · rw [← List.map_cons]
    simp only [List.forall_mem_map, String.toList_ofList]
    exact fun part hpart index ↦ (hskeleton.unmarked part hpart).no_jsonMarker index

/-- Two leaves at different depths, among texts with quotes, a backslash and the escape of NUL. -/
theorem run_shellJson_eq_woven_nested :
    let v : Staged := ⟨"A", []⟩
    let w : Staged := ⟨"B", [.key "it's"]⟩
    let value : Value := .mapping [(.text "it's", .list [.text "\"\\u00000\\u0000\"", .staged v]),
      (.text "\\", .tuple [.int (-3), .mapping [(.text "", .staged w)], .null])]
    value.IsJson ∧ ∃ (piece : String) (pieces : List String), pieces.length = 2 ∧
      ((shellJson value).run "jq" {}).1 =
        .ok ("'" ++ woven (shellQuoteBody piece)
          ["'\"" ++ v.resolve "jq" .json ++ "\"'", "'\"" ++ w.resolve "jq" .json ++ "\"'"]
          (pieces.map shellQuoteBody) ++ "'") ∧
      (value.fill (fun _ ↦ .null) 0).json? .compact =
        some (woven piece ["null", "null"] pieces) := by
  intro v w value
  have h : value.IsJson := by simp [value, Value.IsJson, Value.AreJson, Value.HasJson]
  obtain ⟨piece, pieces, hlength, hrun, hjson, -⟩ := run_shellJson_eq_woven value h
  exact ⟨h, piece, pieces, hlength, hrun "jq" {} (Cache.sound_empty _),
    hjson (fun _ ↦ .null) (fun _ ↦ "null") fun _ ↦ rfl⟩

end Markdown

end Runbook
